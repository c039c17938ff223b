/-!
# TOML strings

A string is basic, with escapes, or literal, without; each also in a form over
several lines between three quotes, where a line end right after the opening
quotes does not count.  `encode` picks the first form that shows the text
without escapes, and escapes only what no form can show.  `decode?` reads any
form.
-/

namespace SearchClient.Toml.Text

def isControl (c : Char) : Bool := c.toNat < 0x20 || c.toNat = 0x7F

/-- A character that may stand for itself on one line. -/
def isPlain (c : Char) : Bool := c = '\t' || !isControl c

/-! ## Reading -/

def hexValue? (c : Char) : Option Nat :=
  if '0' ≤ c ∧ c ≤ '9' then some (c.toNat - 0x30)
  else if 'a' ≤ c ∧ c ≤ 'f' then some (c.toNat - 0x61 + 10)
  else if 'A' ≤ c ∧ c ≤ 'F' then some (c.toNat - 0x41 + 10)
  else none

/-- The character whose code point the digits spell. -/
def codePoint? (digits : List Char) : Option Char :=
  match digits.foldlM (fun acc c => (hexValue? c).map (16 * acc + ·)) 0 with
  | some n => if n.isValidChar then some (.ofNat n) else none
  | none => none

def escaped? (c : Char) : Option Char :=
  match c with
  | 'b' => some '\x08'
  | 't' => some '\t'
  | 'n' => some '\n'
  | 'f' => some '\x0c'
  | 'r' => some '\r'
  | '"' => some '"'
  | '\\' => some '\\'
  | _ => none

/-- A character put before what a reader finds. -/
def cons? (c : Option Char) (found : Option (List Char × List Char)) :
    Option (List Char × List Char) :=
  match c, found with
  | some c, some (text, rest) => some (c :: text, rest)
  | _, _ => none

/-- A basic string after its opening quote, and the text after it. -/
def readBasic : List Char → Option (List Char × List Char)
  | [] => none
  | '"' :: rest => some ([], rest)
  | '\\' :: 'u' :: a :: b :: c :: d :: rest => cons? (codePoint? [a, b, c, d]) (readBasic rest)
  | '\\' :: 'U' :: a :: b :: c :: d :: e :: f :: g :: h :: rest =>
    cons? (codePoint? [a, b, c, d, e, f, g, h]) (readBasic rest)
  | '\\' :: c :: rest => cons? (escaped? c) (readBasic rest)
  | c :: rest => if c ≠ '\\' && isPlain c then cons? (some c) (readBasic rest) else none

def readLiteral : List Char → Option (List Char × List Char)
  | [] => none
  | '\'' :: rest => some ([], rest)
  | c :: rest => if isPlain c then cons? (some c) (readLiteral rest) else none

/-- Up to two quotes before the closing three belong to the string. -/
def closeMultiline (quote : Char) (rest : List Char) : List Char × List Char :=
  match rest with
  | a :: b :: more =>
    if a = quote && b = quote then ([quote, quote], more)
    else if a = quote then ([quote], b :: more)
    else ([], rest)
  | [a] => if a = quote then ([quote], []) else ([], rest)
  | [] => ([], [])

def isBlank (c : Char) : Bool := c = ' ' || c = '\t'

def startsLine : List Char → Bool
  | '\n' :: _ => true
  | '\r' :: '\n' :: _ => true
  | _ => false

/-- A basic string over several lines.  A backslash at the end of a line drops
the blanks and line ends that follow it, which is when `dropping` is set. -/
def readMultilineBasic (dropping : Bool) : List Char → Option (List Char × List Char)
  | [] => none
  | '"' :: '"' :: '"' :: rest => some (closeMultiline '"' rest)
  | '\r' :: '\n' :: rest =>
    if dropping then readMultilineBasic true rest
    else cons? (some '\n') (readMultilineBasic false rest)
  | '\\' :: 'u' :: a :: b :: c :: d :: rest =>
    cons? (codePoint? [a, b, c, d]) (readMultilineBasic false rest)
  | '\\' :: 'U' :: a :: b :: c :: d :: e :: f :: g :: h :: rest =>
    cons? (codePoint? [a, b, c, d, e, f, g, h]) (readMultilineBasic false rest)
  | '\\' :: c :: rest =>
    if startsLine ((c :: rest).dropWhile isBlank) then readMultilineBasic true (c :: rest)
    else cons? (escaped? c) (readMultilineBasic false rest)
  | c :: rest =>
    if dropping && (isBlank c || c = '\n') then readMultilineBasic true rest
    else if c ≠ '\\' && (c = '\n' || isPlain c) then
      cons? (some c) (readMultilineBasic false rest)
    else none

def readMultilineLiteral : List Char → Option (List Char × List Char)
  | [] => none
  | '\'' :: '\'' :: '\'' :: rest => some (closeMultiline '\'' rest)
  | '\r' :: '\n' :: rest => cons? (some '\n') (readMultilineLiteral rest)
  | c :: rest =>
    if c = '\n' || isPlain c then cons? (some c) (readMultilineLiteral rest) else none

/-- The line end that may follow the opening quotes. -/
def dropLineEnd : List Char → List Char
  | '\n' :: rest => rest
  | '\r' :: '\n' :: rest => rest
  | text => text

/-- A string of any form, and the text after it. -/
def read? : List Char → Option (List Char × List Char)
  | '"' :: '"' :: '"' :: rest => readMultilineBasic false (dropLineEnd rest)
  | '"' :: rest => readBasic rest
  | '\'' :: '\'' :: '\'' :: rest => readMultilineLiteral (dropLineEnd rest)
  | '\'' :: rest => readLiteral rest
  | _ => none

/-! ## Writing -/

inductive Form where
  | basic
  | literal
  | multilineBasic
  | multilineLiteral
  deriving DecidableEq

/-- The longest run of a character. -/
def longestRun (quote : Char) (run best : Nat) : List Char → Nat
  | [] => best
  | c :: rest =>
    if c = quote then longestRun quote (run + 1) (max best (run + 1)) rest
    else longestRun quote 0 best rest

def needsEscape (text : List Char) : Bool := text.any fun c => c ≠ '\n' && !isPlain c

def form (text : List Char) : Form :=
  let escape := needsEscape text
  let backslash := text.contains '\\'
  let lines := text.contains '\n'
  let double := longestRun '"' 0 0 text
  let single := longestRun '\'' 0 0 text
  if !escape && !backslash && !lines && double = 0 then .basic
  else if !escape && !lines && single = 0 then .literal
  else if !escape && !backslash && double ≤ 2 then .multilineBasic
  else if !escape && single ≤ 2 then .multilineLiteral
  else if lines then .multilineBasic
  else .basic

def hexDigit (n : Nat) : Char := if n < 10 then .ofNat (0x30 + n) else .ofNat (0x41 + (n - 10))

def escapeChar (c : Char) : List Char :=
  match c with
  | '\x08' => ['\\', 'b']
  | '\t' => ['\\', 't']
  | '\n' => ['\\', 'n']
  | '\x0c' => ['\\', 'f']
  | '\r' => ['\\', 'r']
  | '"' => ['\\', '"']
  | '\\' => ['\\', '\\']
  | c =>
    if isControl c then
      ['\\', 'u', '0', '0', hexDigit (c.toNat / 16), hexDigit (c.toNat % 16)]
    else [c]

def encodeBasic (text : List Char) : List Char := text.flatMap escapeChar

/-- As on one line, but line ends and at most two quotes in a row stand for
themselves. -/
def encodeMultilineBasic (run : Nat) : List Char → List Char
  | [] => []
  | c :: rest =>
    if c = '\n' then c :: encodeMultilineBasic 0 rest
    else if c = '"' && run < 2 then c :: encodeMultilineBasic (run + 1) rest
    else escapeChar c ++ encodeMultilineBasic 0 rest

def opening (text : List Char) : List Char := if text.contains '\n' then ['\n'] else []

def tripleDouble : List Char := ['"', '"', '"']

def tripleSingle : List Char := ['\'', '\'', '\'']

def encode (text : List Char) : List Char :=
  match form text with
  | .basic => '"' :: encodeBasic text ++ ['"']
  | .literal => '\'' :: text ++ ['\'']
  | .multilineBasic =>
    tripleDouble ++ opening text ++ encodeMultilineBasic 0 text ++ tripleDouble
  | .multilineLiteral => tripleSingle ++ opening text ++ text ++ tripleSingle

end SearchClient.Toml.Text

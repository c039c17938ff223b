import SearchClient.Json.Tree
import SearchClient.Text.Utf8

/-!
# Reading JSON text

The reader works on glyphs: characters, or `none` for bytes that are not UTF-8,
which the grammar admits inside strings only.  White space is space, tab, line
feed and carriage return.  A reader returns what it found and the text after
it.  Every call of the recursive readers takes at least one glyph from the text,
so its length bounds their number.
-/

namespace SearchClient.Json

abbrev Glyphs := List (Option Char)

def isSpace (g : Option Char) : Bool :=
  g = some ' ' || g = some '\t' || g = some '\n' || g = some '\r'

def skipSpace (text : Glyphs) : Glyphs := text.dropWhile isSpace

def expect (word : List Char) (text : Glyphs) : Option Glyphs :=
  match word, text with
  | [], text => some text
  | c :: word, some d :: text => if c = d then expect word text else none
  | _, _ => none

/-! ## Strings -/

def hexValue? (c : Char) : Option Nat :=
  if '0' ≤ c ∧ c ≤ '9' then some (c.toNat - 0x30)
  else if 'a' ≤ c ∧ c ≤ 'f' then some (c.toNat - 0x61 + 10)
  else if 'A' ≤ c ∧ c ≤ 'F' then some (c.toNat - 0x41 + 10)
  else none

def readUnit (a b c d : Char) : Option Nat := do
  pure (((← hexValue? a) * 16 + (← hexValue? b)) * 256 + (← hexValue? c) * 16 + (← hexValue? d))

def escaped? (c : Char) : Option Char :=
  match c with
  | '"' => some '"'
  | '\\' => some '\\'
  | '/' => some '/'
  | 'b' => some '\x08'
  | 'f' => some '\x0c'
  | 'n' => some '\n'
  | 'r' => some '\r'
  | 't' => some '\t'
  | _ => none

/-- The rest of a string after its opening quote. -/
def readString : Glyphs → Option (List Piece × Glyphs)
  | [] => none
  | some '"' :: rest => some ([], rest)
  | some '\\' :: some 'u' :: some a :: some b :: some c :: some d :: rest => do
    let n ← readUnit a b c d
    let (pieces, rest) ← readString rest
    pure (.unit n :: pieces, rest)
  | some '\\' :: some c :: rest => do
    let e ← escaped? c
    let (pieces, rest) ← readString rest
    pure (.glyph (some e) :: pieces, rest)
  | some '\\' :: _ => none
  | g :: rest =>
    if g.any (·.toNat < 0x20) then none
    else do
      let (pieces, rest) ← readString rest
      pure (.glyph g :: pieces, rest)

/-! ## Numbers -/

/-- The digits at the start of the text, and the rest. -/
def readDigits : Glyphs → List Char × Glyphs
  | some c :: rest =>
    if c.isDigit then
      let (digits, rest) := readDigits rest
      (c :: digits, rest)
    else ([], some c :: rest)
  | text => ([], text)

/-- No digit may follow a leading zero. -/
def readWhole (text : Glyphs) : Option (List Char × Glyphs) :=
  match readDigits text with
  | ([], _) => none
  | ('0' :: _ :: _, _) => none
  | (digits, rest) => some (digits, rest)

def readFraction : Glyphs → Option (List Char × Glyphs)
  | some '.' :: rest =>
    match readDigits rest with
    | ([], _) => none
    | (digits, rest) => some (digits, rest)
  | text => some ([], text)

def readSign : Glyphs → Bool × Glyphs
  | some '-' :: rest => (true, rest)
  | some '+' :: rest => (false, rest)
  | text => (false, text)

def readExponent : Glyphs → Option (Option Int × Glyphs)
  | some 'e' :: rest | some 'E' :: rest =>
    let (negative, rest) := readSign rest
    match readDigits rest with
    | ([], _) => none
    | (digits, rest) =>
      let value := Nat.ofDigitChars 10 digits 0
      some (some (if negative then -value else value), rest)
  | text => some (none, text)

def readNumeral (negative : Bool) (text : Glyphs) : Option (Numeral × Glyphs) := do
  let (whole, text) ← readWhole text
  let (fraction, text) ← readFraction text
  let (exponent, text) ← readExponent text
  pure (⟨negative, whole, fraction, exponent⟩, text)

/-! ## Values -/

mutual

def readTree : Nat → Glyphs → Option (Tree × Glyphs)
  | 0, _ => none
  | fuel + 1, text =>
    match skipSpace text with
    | some 'n' :: rest => (expect ['u', 'l', 'l'] rest).map (.null, ·)
    | some 't' :: rest => (expect ['r', 'u', 'e'] rest).map (.bool true, ·)
    | some 'f' :: rest => (expect ['a', 'l', 's', 'e'] rest).map (.bool false, ·)
    | some '"' :: rest => (readString rest).map fun (pieces, rest) => (.string pieces, rest)
    | some '-' :: rest => (readNumeral true rest).map fun (n, rest) => (.number n, rest)
    | some '[' :: rest =>
      match skipSpace rest with
      | some ']' :: rest => some (.array [], rest)
      | rest => readItems fuel [] rest
    | some '{' :: rest =>
      match skipSpace rest with
      | some '}' :: rest => some (.object [], rest)
      | rest => readFields fuel [] rest
    | rest => (readNumeral false rest).map fun (n, rest) => (.number n, rest)

/-- Items up to the closing bracket; those read before are held in reverse. -/
def readItems : Nat → List Tree → Glyphs → Option (Tree × Glyphs)
  | 0, _, _ => none
  | fuel + 1, items, text =>
    match readTree fuel text with
    | none => none
    | some (item, text) =>
      match skipSpace text with
      | some ',' :: rest => readItems fuel (item :: items) rest
      | some ']' :: rest => some (.array (item :: items).reverse, rest)
      | _ => none

/-- Entries up to the closing brace; those read before are held in reverse. -/
def readFields : Nat → List (List Piece × Tree) → Glyphs → Option (Tree × Glyphs)
  | 0, _, _ => none
  | fuel + 1, fields, text =>
    match skipSpace text with
    | some '"' :: rest =>
      match readString rest with
      | none => none
      | some (key, rest) =>
        match skipSpace rest with
        | some ':' :: rest =>
          match readTree fuel rest with
          | none => none
          | some (value, rest) =>
            match skipSpace rest with
            | some ',' :: rest => readFields fuel ((key, value) :: fields) rest
            | some '}' :: rest => some (.object ((key, value) :: fields).reverse, rest)
            | _ => none
        | _ => none
    | _ => none

end

/-- One value with nothing but white space around it. -/
def Tree.ofGlyphs? (text : Glyphs) : Option Tree :=
  match readTree (text.length + 1) text with
  | some (tree, rest) => if (skipSpace rest).isEmpty then some tree else none
  | none => none

def Tree.ofBytes? (bytes : List UInt8) : Option Tree := Tree.ofGlyphs? (Utf8.glyphs bytes)

/-- How many arrays and objects a document may have inside each other. -/
def maxDepth : Nat := 127

def ofBytes? (bytes : List UInt8) : Option Json :=
  (Tree.ofBytes? bytes).bind (Tree.toJson? maxDepth)

end SearchClient.Json

import SearchClient.Number.Binary64
import SearchClient.Toml.Text

/-!
# TOML numbers and dates

Integers have 64 bits and are decimal with a sign, or hexadecimal, octal or
binary without one; an underscore may stand between two digits.  A float has a
fraction or an exponent and is no larger than the largest double.  Dates and
times are those that a calendar and a clock can show.
-/

namespace SearchClient.Toml

def digitBelow? (base : Nat) (c : Char) : Option Nat := (Text.hexValue? c).filter (· < base)

/-- More digits after one: the number that `acc` and they make, how many they
are, and the rest. -/
def readMoreDigits (base acc count : Nat) : List Char → Option (Nat × Nat × List Char)
  | [] => some (acc, count, [])
  | '_' :: d :: rest =>
    match digitBelow? base d with
    | some n => readMoreDigits base (base * acc + n) (count + 1) rest
    | none => none
  | c :: rest =>
    match digitBelow? base c with
    | some n => readMoreDigits base (base * acc + n) (count + 1) rest
    | none => some (acc, count, c :: rest)

def readDigits (base acc : Nat) : List Char → Option (Nat × Nat × List Char)
  | [] => none
  | c :: rest =>
    match digitBelow? base c with
    | some n => readMoreDigits base (base * acc + n) 1 rest
    | none => none

inductive Numeral where
  | int (value : Int)
  | float (value : Binary64)
  deriving DecidableEq

def inRange (value : Int) : Bool := -0x8000000000000000 ≤ value && value < 0x8000000000000000

def readSign : List Char → Bool × List Char
  | '-' :: rest => (true, rest)
  | '+' :: rest => (false, rest)
  | text => (false, text)

def readBased (base : Nat) (text : List Char) : Option (Numeral × List Char) := do
  let (value, _, rest) ← readDigits base 0 text
  if inRange value then some (.int value, rest) else none

/-- A decimal integer part: a single zero, or digits without one in front. -/
def readWhole (text : List Char) : Option (Nat × List Char) :=
  match text with
  | '0' :: rest => some (0, rest)
  | text => (readDigits 10 0 text).map fun (value, _, rest) => (value, rest)

def readExponent (text : List Char) : Option (Option Int × List Char) :=
  match text with
  | 'e' :: rest | 'E' :: rest => do
    let (negative, rest) := readSign rest
    let (value, _, rest) ← readDigits 10 0 rest
    some (some (if negative then -value else value), rest)
  | text => some (none, text)

def readFraction (whole : Nat) (text : List Char) : Option (Option (Nat × Nat) × List Char) :=
  match text with
  | '.' :: rest =>
    (readDigits 10 whole rest).map fun (value, count, rest) => (some (value, count), rest)
  | text => some (none, text)

def finishDecimal (negative : Bool) (whole : Nat) (fraction : Option (Nat × Nat))
    (exponent : Option Int) : Option Numeral :=
  if fraction.isNone && exponent.isNone then
    let value : Int := if negative then -whole else whole
    if inRange value then some (.int value) else none
  else
    let (digits, places) := fraction.getD (whole, 0)
    let x := Binary64.ofDecimal negative digits (exponent.getD 0 - places)
    if x.isFinite || negative then some (.float x) else none

def readDecimal (negative : Bool) (text : List Char) : Option (Numeral × List Char) := do
  let (whole, text) ← readWhole text
  let (fraction, text) ← readFraction whole text
  let (exponent, text) ← readExponent text
  let numeral ← finishDecimal negative whole fraction exponent
  pure (numeral, text)

def notANumber (negative : Bool) : Binary64 :=
  .ofMagnitude negative (Binary64.infinityMagnitude + Binary64.fractionSize / 2)

def readNumeral (text : List Char) : Option (Numeral × List Char) :=
  match text with
  | '0' :: 'x' :: rest => readBased 16 rest
  | '0' :: 'o' :: rest => readBased 8 rest
  | '0' :: 'b' :: rest => readBased 2 rest
  | text =>
    match readSign text with
    | (negative, 'i' :: 'n' :: 'f' :: rest) => some (.float (Binary64.infinity negative), rest)
    | (negative, 'n' :: 'a' :: 'n' :: rest) => some (.float (notANumber negative), rest)
    | (negative, rest) => readDecimal negative rest

/-! ## Dates and times -/

/-- A number of exactly so many digits, within bounds. -/
def readFixed (width low high : Nat) (text : List Char) : Option (Nat × List Char) :=
  let digits := text.take width
  if digits.length = width then
    match digits.foldlM (fun acc c => (digitBelow? 10 c).map (10 * acc + ·)) 0 with
    | some n => if low ≤ n ∧ n ≤ high then some (n, text.drop width) else none
    | none => none
  else none

def expect? (c : Char) : List Char → Option (List Char)
  | d :: rest => if c = d then some rest else none
  | [] => none

def isLeapYear (year : Nat) : Bool := year % 4 = 0 && (year % 100 ≠ 0 || year % 400 = 0)

def daysInMonth (year month : Nat) : Nat :=
  if month = 2 then (if isLeapYear year then 29 else 28)
  else if [4, 6, 9, 11].contains month then 30
  else 31

/-- Each of these gives the text after what it reads. -/
def skipDate (text : List Char) : Option (List Char) := do
  let (year, text) ← readFixed 4 0 9999 text
  let text ← expect? '-' text
  let (month, text) ← readFixed 2 1 12 text
  let text ← expect? '-' text
  let (_, text) ← readFixed 2 1 (daysInMonth year month) text
  pure text

def skipFractionOfSecond (text : List Char) : List Char :=
  match text with
  | '.' :: rest => if rest.head?.any Char.isDigit then rest.dropWhile Char.isDigit else text
  | text => text

def skipTime (text : List Char) : Option (List Char) := do
  let (_, text) ← readFixed 2 0 23 text
  let text ← expect? ':' text
  let (_, text) ← readFixed 2 0 59 text
  let text ← expect? ':' text
  let (_, text) ← readFixed 2 0 60 text
  pure (skipFractionOfSecond text)

def skipOffset (text : List Char) : Option (List Char) :=
  match text with
  | 'Z' :: rest | 'z' :: rest => some rest
  | '+' :: rest | '-' :: rest => do
    let (_, rest) ← readFixed 2 0 23 rest
    let rest ← expect? ':' rest
    let (_, rest) ← readFixed 2 0 59 rest
    pure rest
  | text => some text

def skipTimeOfDate (text : List Char) : Option (List Char) :=
  match text with
  | c :: rest =>
    if c = 'T' || c = 't' || c = ' ' then
      match skipTime rest with
      | some rest => skipOffset rest
      | none => some text
    else some text
  | [] => some []

def skipDateTime (text : List Char) : Option (List Char) :=
  match skipDate text with
  | some rest => skipTimeOfDate rest
  | none => skipTime text

def readDateTime (text : List Char) : Option (String × List Char) :=
  (skipDateTime text).map fun rest =>
    (String.ofList (text.take (text.length - rest.length)), rest)

end SearchClient.Toml

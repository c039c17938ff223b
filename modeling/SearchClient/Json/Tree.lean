import SearchClient.Json.Basic

/-!
# JSON texts as written

`Tree` is what the grammar alone makes of a text: objects keep repeated keys,
numbers are numerals of any size, and strings are pieces that need not spell
valid characters.  `valueBy?` turns a tree into a value; it asks for numbers in
range, for escapes that spell characters, for text that is UTF-8, and for no
more than the given number of arrays and objects inside each other.  Which double
a numeral becomes is left to the reader at hand: `toJson?` takes the one that is
reached by a few rounded steps, which need not be the nearest.
-/

namespace SearchClient.Json

/-- The digits before the point and after it, none where there is no point, and
the exponent if there is one. -/
structure Numeral where
  negative : Bool
  whole : List Char
  fraction : List Char
  exponent : Option Int
  deriving DecidableEq

/-- A character as it stands, `none` for bytes that are none, or the number in a
`\u` escape. -/
inductive Piece where
  | glyph (c : Option Char)
  | unit (n : Nat)
  deriving DecidableEq

inductive Tree where
  | null
  | bool (value : Bool)
  | number (value : Numeral)
  | string (pieces : List Piece)
  | array (items : List Tree)
  | object (fields : List (List Piece × Tree))

/-! ## Strings and numbers -/

def isHighSurrogate (n : Nat) : Bool := 0xD800 ≤ n && n < 0xDC00

def isLowSurrogate (n : Nat) : Bool := 0xDC00 ≤ n && n < 0xE000

/-- Two units in a row spell one character when they are a high and a low
surrogate; a surrogate anywhere else spells nothing. -/
def Piece.spell? : List Piece → Option (List Char)
  | [] => some []
  | .glyph none :: _ => none
  | .glyph (some c) :: rest => (spell? rest).map (c :: ·)
  | .unit n :: rest =>
    if isHighSurrogate n then
      match rest with
      | .unit m :: rest =>
        if isLowSurrogate m then
          (spell? rest).map (Char.ofNat (0x10000 + (n - 0xD800) * 0x400 + (m - 0xDC00)) :: ·)
        else none
      | _ => none
    else if isLowSurrogate n then none
    else (spell? rest).map (Char.ofNat n :: ·)

def Piece.text? (pieces : List Piece) : Option String := (Piece.spell? pieces).map String.ofList

/-- Digits go into a significand for as long as it fits 64 bits; the digits from
the first that does not fit are left. -/
def takeDigits (significand : Nat) : List Char → Nat × List Char
  | [] => (significand, [])
  | c :: digits =>
    let next := Nat.ofDigitChars 10 [c] significand
    if next < 0x10000000000000000 then takeDigits next digits else (significand, c :: digits)

namespace Numeral

def isWhole (n : Numeral) : Bool := n.fraction.isEmpty && n.exponent.isNone

/-- A double near the numeral.  The digits that a significand of 64 bits has no
room for count as zeros before the point and not at all after it. -/
def double (n : Numeral) : Binary64 :=
  let (significand, dropped) := takeDigits 0 n.whole
  let (significand, ignored) := takeDigits significand n.fraction
  let places := n.fraction.length - ignored.length
  Binary64.inSteps n.negative significand (n.exponent.getD 0 + dropped.length - places)

/-- A whole numeral of 64 bits is an integer, except for a negative zero; any
other is the double that is made of it, if that is finite. -/
def numberBy? (double : Numeral → Binary64) (n : Numeral) : Option Number :=
  let digits := Nat.ofDigitChars 10 n.whole 0
  let value : Int := if n.negative then -digits else digits
  if h : (-0x8000000000000000 ≤ value ∧ value < 0x10000000000000000) ∧
      n.isWhole ∧ ¬(n.negative ∧ digits = 0) then
    some (.int value h.1)
  else
    let x := double n
    if h : x.isFinite = true then some (.float x h) else none

def number? (n : Numeral) : Option Number := n.numberBy? double

end Numeral

/-! ## Values -/

section

variable (double : Numeral → Binary64)

mutual

/-- The value of a tree with at most `room` levels of arrays and objects; a
repeated key keeps its first place and its last value. -/
def Tree.valueBy? (room : Nat) : Tree → Option Json
  | .null => some .null
  | .bool value => some (.bool value)
  | .number value => (value.numberBy? double).map .number
  | .string pieces => (Piece.text? pieces).map .string
  | .array items =>
    if room = 0 then none else (Tree.itemsBy? (room - 1) items).map .array
  | .object fields =>
    if room = 0 then none
    else (Tree.fieldsBy? (room - 1) fields).map fun fields => .object (Entries.ofList fields)

def Tree.itemsBy? (room : Nat) : List Tree → Option (List Json)
  | [] => some []
  | item :: items => do
    let item ← Tree.valueBy? room item
    let items ← Tree.itemsBy? room items
    pure (item :: items)

def Tree.fieldsBy? (room : Nat) : List (List Piece × Tree) → Option (List (String × Json))
  | [] => some []
  | (key, value) :: fields => do
    let key ← Piece.text? key
    let value ← Tree.valueBy? room value
    let fields ← Tree.fieldsBy? room fields
    pure ((key, value) :: fields)

end

end

def Tree.toJson? (room : Nat) (tree : Tree) : Option Json := tree.valueBy? Numeral.double room

end SearchClient.Json

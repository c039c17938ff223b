import SearchClient.Text.Utf8

/-!
# Percent encoding

An escape is `%` and two hexadecimal digits of either case and stands for one
byte.  Decoding leaves a `%` that begins no escape as it is.  Encoding works
character by character: one that a set names, or that is not ASCII, becomes the
escapes of all its UTF-8 bytes, in upper case.
-/

namespace SearchClient.Percent

def hexValue? (n : Nat) : Option Nat :=
  if 0x30 ≤ n ∧ n ≤ 0x39 then some (n - 0x30)
  else if 0x41 ≤ n ∧ n ≤ 0x46 then some (n - 0x41 + 10)
  else if 0x61 ≤ n ∧ n ≤ 0x66 then some (n - 0x61 + 10)
  else none

def hexDigit (n : Nat) : Char :=
  if n < 10 then .ofNat (0x30 + n) else .ofNat (0x41 + (n - 10))

def decode : List UInt8 → List UInt8
  | [] => []
  | 0x25 :: high :: low :: rest =>
    match hexValue? high.toNat, hexValue? low.toNat with
    | some h, some l => .ofNat (16 * h + l) :: decode rest
    | _, _ => 0x25 :: decode (high :: low :: rest)
  | b :: rest => b :: decode rest

def escape (b : UInt8) : List Char := ['%', hexDigit (b.toNat / 16), hexDigit (b.toNat % 16)]

def encodeChar (reserved : Char → Bool) (c : Char) : List Char :=
  if 0x80 ≤ c.toNat || reserved c then (Utf8.encodeChar c).flatMap escape else [c]

def encode (reserved : Char → Bool) (text : List Char) : List Char :=
  text.flatMap (encodeChar reserved)

/-- Controls, which every set contains. -/
def isControl (c : Char) : Bool := c.toNat < 0x20 || c.toNat = 0x7F

/-- Form decoding of a keyword: `+` is a space, escapes are bytes, and bytes
that are not UTF-8 are replaced. -/
def decodeForm (text : String) : String :=
  let spaced := text.toList.map fun c => if c = '+' then ' ' else c
  String.ofList (Utf8.decodeLossy (decode (Utf8.encode spaced)))

end SearchClient.Percent

/-!
# UTF-8

`encode` writes characters as bytes.  `glyphs` reads bytes as characters, with a
`none` for each maximal part that begins a well-formed sequence but cannot be
completed to one, and for each byte that begins none.  `decode?` accepts only
texts without such parts; `decodeLossy` puts U+FFFD in their place.
-/

namespace SearchClient.Utf8

def encodeChar (c : Char) : List UInt8 :=
  let n := c.toNat
  if n < 0x80 then [.ofNat n]
  else if n < 0x800 then [.ofNat (0xC0 + n / 64), .ofNat (0x80 + n % 64)]
  else if n < 0x10000 then
    [.ofNat (0xE0 + n / 4096), .ofNat (0x80 + n / 64 % 64), .ofNat (0x80 + n % 64)]
  else
    [.ofNat (0xF0 + n / 262144), .ofNat (0x80 + n / 4096 % 64), .ofNat (0x80 + n / 64 % 64),
      .ofNat (0x80 + n % 64)]

def encode (text : List Char) : List UInt8 := text.flatMap encodeChar

def isTail (b : UInt8) : Bool := b.toNat / 64 = 2

/-- The bytes that may follow a first byte: a tail, less those that would spell
a character in more bytes than it needs, a surrogate, or a number past
U+10FFFF. -/
def isSecond (lead b : UInt8) : Bool :=
  match lead.toNat with
  | 0xE0 => 0xA0 ≤ b.toNat && isTail b
  | 0xED => b.toNat < 0xA0 && isTail b
  | 0xF0 => 0x90 ≤ b.toNat && isTail b
  | 0xF4 => b.toNat < 0x90 && isTail b
  | n => 0xC2 ≤ n && n < 0xF5 && isTail b

def glyphs : List UInt8 → List (Option Char)
  | [] => []
  | a :: rest =>
    let n := a.toNat
    if n < 0x80 then some (.ofNat n) :: glyphs rest
    else match rest with
      | [] => [none]
      | b :: rest₁ =>
        if !isSecond a b then none :: glyphs (b :: rest₁)
        else if n < 0xE0 then
          some (.ofNat ((n - 0xC0) * 64 + (b.toNat - 0x80))) :: glyphs rest₁
        else match rest₁ with
          | [] => [none]
          | c :: rest₂ =>
            if !isTail c then none :: glyphs (c :: rest₂)
            else if n < 0xF0 then
              some (.ofNat ((n - 0xE0) * 4096 + (b.toNat - 0x80) * 64 + (c.toNat - 0x80))) ::
                glyphs rest₂
            else match rest₂ with
              | [] => [none]
              | d :: rest₃ =>
                if !isTail d then none :: glyphs (d :: rest₃)
                else
                  some (.ofNat ((n - 0xF0) * 262144 + (b.toNat - 0x80) * 4096 +
                    (c.toNat - 0x80) * 64 + (d.toNat - 0x80))) :: glyphs rest₃

def replacement : Char := '\uFFFD'

def decode? (bytes : List UInt8) : Option (List Char) := (glyphs bytes).mapM id

def decodeLossy (bytes : List UInt8) : List Char := (glyphs bytes).map (·.getD replacement)

end SearchClient.Utf8

import SearchClient.Text.Lowercase
import SearchClient.Text.Percent
import SearchClient.Text.Quoted
import SearchClient.Url.Error
import SearchClient.Url.Punycode

/-!
# Domain names

A domain name is brought to one ASCII form: characters are mapped to lower case,
full-width ones to their plain forms, and a label that is not ASCII is written
in Punycode after `xn--`.  A label that already has that form must be what
encoding gives for some label.

For labels of plain ASCII this is the whole rule.  In others, compatibility forms
that are not full-width and sequences that compose are taken as they stand, joiners
are always rejected, and the direction of the script is not looked at.
-/

namespace SearchClient.Domain

/-- ASCII characters that no domain name holds, escaped or not. -/
def isForbidden (c : Char) : Bool :=
  Percent.isControl c || " %#/:<>?@[\\]^|".toList.contains c

/-- Characters that are dropped, such as a soft hyphen. -/
def isIgnored (c : Char) : Bool :=
  [0xAD, 0x34F, 0x200B, 0x2060, 0x2064, 0xFEFF].contains c.toNat ||
    (0xFE00 ≤ c.toNat && c.toNat ≤ 0xFE0F)

def isFullStop (c : Char) : Bool := [0x3002, 0xFF0E, 0xFF61].contains c.toNat

def isFullWidth (c : Char) : Bool := 0xFF01 ≤ c.toNat && c.toNat ≤ 0xFF5E

/-- What a character becomes, `none` when it may not stand in a domain name. -/
def mapChar? (c : Char) : Option (List Char) :=
  if c.toNat < 0x80 then
    if isForbidden c then none else some (Text.lowerChar c)
  else if isIgnored c then some []
  else if isFullStop c then some ['.']
  else if isFullWidth c then
    let plain := Char.ofNat (c.toNat - 0xFEE0)
    if isForbidden plain then none else some (Text.lowerChar plain)
  else if Text.unprintable.contains c || c = Utf8.replacement then none
  else some (Text.lowerChar c)

def mapChars? (text : List Char) : Option (List Char) := (text.mapM mapChar?).map List.flatten

def encodedMark : List Char := ['x', 'n', '-', '-']

/-- A mapped label that maps to itself and does not begin with a mark. -/
def isStable (label : List Char) : Bool :=
  mapChars? label = some label && !(label.head?.any Text.graphemeExtending.contains)

def label? (label : List Char) : Option (List Char) :=
  if encodedMark.isPrefixOf label then
    match Punycode.decode? (label.drop 4) with
    | none => none
    | some decoded =>
      if !decoded.all Punycode.isBasic && isStable decoded && label.all Punycode.isBasic then
        some label
      else none
  else if label.all Punycode.isBasic then some label
  else if isStable label then some (encodedMark ++ Punycode.encode label)
  else none

def labels (text : List Char) : List (List Char) := text.splitOn '.'

def join (labels : List (List Char)) : List Char := ['.'].intercalate labels

/-- The ASCII form of a name given as bytes. -/
def toAscii (bytes : List UInt8) : Except UrlError (List Char) :=
  match (Utf8.decode? bytes).bind mapChars? with
  | none => .error .invalidDomainName
  | some mapped =>
    match (labels mapped).mapM label? with
    | none => .error .invalidDomainName
    | some [[]] => .error .emptyHost
    | some ascii => .ok (join ascii)

end SearchClient.Domain

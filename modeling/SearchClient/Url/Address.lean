import SearchClient.Json.Reader
import SearchClient.Url.Error

/-!
# Network addresses

IPv4 addresses are read in all forms that browsers know: one to four numbers in
decimal, octal or hexadecimal, of which the last fills the remaining bytes.  They
are written as four decimal bytes.  IPv6 addresses are eight pieces of 16 bits;
the first longest run of two or more zero pieces is written as `::`.
-/

namespace SearchClient

/-! ## IPv4 -/

namespace Ipv4

def digitValue? (base : Nat) (c : Char) : Option Nat :=
  (Json.hexValue? c).filter (· < base)

def value? (base : Nat) (digits : List Char) : Option Nat :=
  digits.foldlM (fun acc c => (digitValue? base c).map (base * acc + ·)) 0

/-- A number in one of the three bases. -/
def number? : List Char → Option Nat
  | [] => none
  | '0' :: 'x' :: digits | '0' :: 'X' :: digits => value? 16 digits
  | '0' :: d :: digits => value? 8 (d :: digits)
  | digits => value? 10 digits

def parts (text : List Char) : List (List Char) :=
  let parts := text.splitOn '.'
  if parts.getLast? = some [] then parts.dropLast else parts

/-- Whether a host is an address rather than a name: its last part is a number. -/
def endsInNumber (text : List Char) : Bool :=
  match (parts text).getLast? with
  | some last => !last.isEmpty && (last.all Char.isDigit || (number? last).isSome)
  | none => false

/-- The address of the leading bytes and of the number that fills the rest. -/
def combine? (numbers : List Nat) : Option Nat :=
  match numbers.getLast? with
  | none => none
  | some last =>
    let leading := numbers.dropLast
    let room := Nat.pow 256 (4 - leading.length)
    if numbers.length ≤ 4 ∧ (∀ n ∈ leading, n < 256) ∧ last < room then
      some (leading.foldl (fun acc n => 256 * acc + n) 0 * room + last)
    else none

def parse (text : List Char) : Except UrlError Nat :=
  match ((parts text).mapM number?).bind combine? with
  | some address => .ok address
  | none => .error .invalidIpv4

def render (address : Nat) : String :=
  ".".intercalate ([3, 2, 1, 0].map fun i => Nat.repr (address / Nat.pow 256 i % 256))

end Ipv4

/-! ## IPv6 -/

namespace Ipv6

/-- Up to four hexadecimal digits: their value, their count, and the rest. -/
def readPiece (acc count : Nat) : List Char → Nat × Nat × List Char
  | [] => (acc, count, [])
  | c :: rest =>
    match Json.hexValue? c with
    | some d => if count < 4 then readPiece (16 * acc + d) (count + 1) rest
      else (acc, count, c :: rest)
    | none => (acc, count, c :: rest)

/-- A byte in decimal, without a leading zero. -/
def byte? (digits : List Char) : Option Nat :=
  match digits with
  | [] => none
  | '0' :: _ :: _ => none
  | digits => (Ipv4.value? 10 digits).filter (· < 256)

/-- The two pieces of an IPv4 address at the end. -/
def embedded? (text : List Char) : Option (List Nat) :=
  match (text.splitOn '.').mapM byte? with
  | some [a, b, c, d] => some [256 * a + b, 256 * c + d]
  | _ => none

/-- Pieces before the `::`, if there was one, and the pieces after it or all. -/
structure Pieces where
  before : Option (List Nat)
  after : List Nat

def Pieces.add (p : Pieces) (piece : Nat) : Pieces := { p with after := p.after ++ [piece] }

def Pieces.count (p : Pieces) : Nat :=
  match p.before with
  | some before => before.length + 1 + p.after.length
  | none => p.after.length

def readPieces : Nat → Pieces → List Char → Option Pieces
  | _, p, [] => some p
  | 0, _, _ :: _ => none
  | fuel + 1, p, c :: rest =>
    if p.count = 8 then none
    else if c = ':' then
      if p.before.isSome then none
      else readPieces fuel ⟨some p.after, []⟩ rest
    else
      match readPiece 0 0 (c :: rest) with
      | (value, _, []) => some (p.add value)
      | (value, count, ':' :: rest) =>
        if rest.isEmpty ∨ count = 0 then none else readPieces fuel (p.add value) rest
      | (_, count, '.' :: _) =>
        if count = 0 ∨ 6 < p.count then none
        else (embedded? (c :: rest)).map fun pieces => { p with after := p.after ++ pieces }
      | _ => none

def complete? (p : Pieces) : Option (List Nat) :=
  match p.before with
  | some before =>
    if before.length + p.after.length < 8 then
      some (before ++ List.replicate (8 - before.length - p.after.length) 0 ++ p.after)
    else none
  | none => if p.after.length = 8 then some p.after else none

def parse (text : List Char) : Except UrlError (List Nat) :=
  let pieces :=
    match text with
    | ':' :: ':' :: rest => readPieces rest.length ⟨some [], []⟩ rest
    | ':' :: _ => none
    | [] => none
    | text => readPieces text.length ⟨none, []⟩ text
  match pieces.bind complete? with
  | some pieces => .ok pieces
  | none => .error .invalidIpv6

/-- The length of the run of zeros at the start. -/
def zeroRun (pieces : List Nat) : Nat := (pieces.takeWhile (· = 0)).length

/-- The place and length of the first longest run of zeros. -/
def longestRun (pieces : List Nat) : Nat × Nat :=
  (List.range pieces.length).foldl (fun best i =>
    let run := zeroRun (pieces.drop i)
    if best.2 < run then (i, run) else best) (0, 0)

def renderPieces (pieces : List Nat) : String :=
  ":".intercalate (pieces.map fun n => String.ofList (Nat.toDigits 16 n))

def render (pieces : List Nat) : String :=
  let (start, length) := longestRun pieces
  if length < 2 then renderPieces pieces
  else renderPieces (pieces.take start) ++ "::" ++ renderPieces (pieces.drop (start + length))

end Ipv6

end SearchClient

import SearchClient.Number.Binary64

/-!
# Shortest decimal digits

The digits of a finite double are the fewest that read back as it, and of those
the nearest to it.  Grids of one, two, ... seventeen digits are tried in turn;
the first one with a point in the rounding interval wins.  `plain` writes the
digits positionally, `numeral` in the notation of JSON documents.
-/

namespace SearchClient

namespace Binary64

/-- A positive number `digits * 10 ^ exponent`. -/
structure Decimal where
  digits : Nat
  exponent : Int
  deriving DecidableEq, Repr

/-- The least `p` with `num / den < 10 ^ p`. -/
def decimalExponent (num den : Nat) : Int :=
  if den ≤ num then decimalLength (num / den)
  else
    let p : Int := 1 - decimalLength (den / num)
    if num * Nat.pow 10 (-p).toNat < den then p else p + 1

/-- Twice the distance between `digits * 10 ^ exponent` and `num / den`, in
units of `1 / den`. -/
def twiceDistance (num den : Nat) (c : Decimal) : Nat × Nat :=
  let (n, d) := scaled c.digits 10 c.exponent
  let left := 2 * n * den
  let right := 2 * num * d
  (max left right - min left right, d)

/-- Whether a candidate rounds to `x`.  The interval reaches half a unit in the
last place on either side, a quarter below a power of two, and holds its ends
when the significand is even. -/
def readsBack (x : Binary64) (num den : Nat) (c : Decimal) : Bool :=
  let (unitNum, unitDen) := scaled 1 2 x.scale
  let (distance, d) := twiceDistance num den c
  let (n, dc) := scaled c.digits 10 c.exponent
  let below := n * den < num * dc
  let narrow := below && x.fractionField = 0 && 1 < x.exponentField
  let left := distance * unitDen * (if narrow then 2 else 1)
  let right := unitNum * den * d
  left < right || (left = right && x.significand % 2 = 0)

/-- The better of the two neighbours of `num / den` on the grid of `count`
digits, when one of them reads back. -/
def onGrid (x : Binary64) (num den : Nat) (magnitude : Int) (count : Nat) : Option Decimal :=
  let exponent := magnitude - count
  let (n, d) := inUnits num den 10 exponent
  let low : Decimal := ⟨n / d, exponent⟩
  let high : Decimal := ⟨n / d + 1, exponent⟩
  match readsBack x num den low, readsBack x num den high with
  | true, true =>
    let rest := 2 * (n % d)
    if rest < d ∨ (rest = d ∧ low.digits % 2 = 0) then some low else some high
  | true, false => some low
  | false, true => some high
  | false, false => none

/-- The shortest digits of a finite nonzero double, its sign left aside. -/
def shortest (x : Binary64) : Decimal :=
  let (num, den) := x.ratio
  let magnitude := decimalExponent num den
  let found := (List.range 17).findSome? fun i => onGrid x num den magnitude (i + 1)
  found.getD ⟨x.significand, 0⟩

/-! ## Notation -/

def zeros (n : Nat) : List Char := List.replicate n '0'

def withoutZerosAtEnd (digits : List Char) : List Char :=
  (digits.reverse.dropWhile (· = '0')).reverse

/-- The significant digits, with no zero at the end, and the place of the point
before the first of them, as in `0.ddd * 10 ^ point`. -/
structure Placed where
  digits : List Char
  point : Int

def placed (x : Binary64) : Placed :=
  if x.significand = 0 then ⟨['0'], 1⟩
  else
    let d := x.shortest
    let all := Nat.toDigits 10 d.digits
    ⟨withoutZerosAtEnd all, all.length + d.exponent⟩

def sign (x : Binary64) : List Char := if x.isNegative then ['-'] else []

/-- Digits before the point and digits after it. -/
def positional (p : Placed) : List Char × List Char :=
  if p.point ≤ 0 then (['0'], zeros (-p.point).toNat ++ p.digits)
  else
    let whole := p.point.toNat
    (p.digits.take whole ++ zeros (whole - p.digits.length), p.digits.drop whole)

/-- Positional notation, a whole number without a point; infinities and NaN by
their names. -/
def plain (x : Binary64) : String :=
  if x.isFinite then
    let (whole, fraction) := positional x.placed
    String.ofList (x.sign ++ whole ++ if fraction.isEmpty then [] else '.' :: fraction)
  else if x.fractionField = 0 then String.ofList (x.sign ++ ['i', 'n', 'f'])
  else "NaN"

/-- Positional from `1e-5` up to but not including `1e16`, with at least one
digit after the point; outside that, one digit before the point and a signed
exponent. -/
def numeral (x : Binary64) : String :=
  let p := x.placed
  if -5 < p.point ∧ p.point ≤ 16 then
    let (whole, fraction) := positional p
    String.ofList (x.sign ++ whole ++ '.' :: if fraction.isEmpty then ['0'] else fraction)
  else
    let exponent := p.point - 1
    let fraction := p.digits.drop 1
    String.ofList (x.sign ++ p.digits.take 1 ++
      (if fraction.isEmpty then [] else '.' :: fraction) ++
      'e' :: (if exponent < 0 then '-' else '+') :: Nat.toDigits 10 exponent.natAbs)

end Binary64

end SearchClient

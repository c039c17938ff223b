/-!
# Binary64 numbers

A double is held by its 64 bits.  A finite one denotes the rational
`± significand * 2 ^ scale`, and every operation here is exact arithmetic on
natural numbers: no machine float takes part.  `ofRatio` rounds a positive
quotient to the nearest double, a tie going to the even significand.
-/

namespace SearchClient

structure Binary64 where
  bits : UInt64
  deriving DecidableEq, Repr

namespace Binary64

def fractionSize : Nat := 0x10000000000000

def signSize : Nat := 0x8000000000000000

def isNegative (x : Binary64) : Bool := signSize ≤ x.bits.toNat

def exponentField (x : Binary64) : Nat := x.bits.toNat / fractionSize % 2048

def fractionField (x : Binary64) : Nat := x.bits.toNat % fractionSize

/-- Neither an infinity nor a NaN. -/
def isFinite (x : Binary64) : Bool := x.exponentField < 2047

def significand (x : Binary64) : Nat :=
  if x.exponentField = 0 then x.fractionField else fractionSize + x.fractionField

def scale (x : Binary64) : Int :=
  if x.exponentField = 0 then -1074 else (x.exponentField : Int) - 1075

/-- `n * base ^ exponent` as a fraction. -/
def scaled (n : Nat) (base : Nat) (exponent : Int) : Nat × Nat :=
  if 0 ≤ exponent then (n * Nat.pow base exponent.toNat, 1)
  else (n, Nat.pow base (-exponent).toNat)

/-- What a finite double denotes, its sign left aside. -/
def ratio (x : Binary64) : Nat × Nat := scaled x.significand 2 x.scale

/-! ## Rounding -/

def infinityMagnitude : Nat := 2047 * fractionSize

/-- A sign and the 63 bits below it. -/
def ofMagnitude (negative : Bool) (magnitude : Nat) : Binary64 :=
  ⟨UInt64.ofNat (if negative then signSize + magnitude else magnitude)⟩

/-- The quotient rounded to the nearest integer, a tie to the even one. -/
def roundHalfEven (num den : Nat) : Nat :=
  let quotient := num / den
  let twice := 2 * (num % den)
  if den < twice ∨ (den = twice ∧ quotient % 2 = 1) then quotient + 1 else quotient

/-- `num / den` in units of `base ^ exponent`, as a fraction again. -/
def inUnits (num den base : Nat) (exponent : Int) : Nat × Nat :=
  if 0 ≤ exponent then (num, den * Nat.pow base exponent.toNat)
  else (num * Nat.pow base (-exponent).toNat, den)

/-- The exponent of the unit in the last place of `num / den`. -/
def unitExponent (num den : Nat) : Int :=
  let guess := max ((num.log2 : Int) - den.log2 - 53) (-1074)
  let (n, d) := inUnits num den 2 guess
  if n / d < 2 * fractionSize then guess else guess + 1

/-- The double nearest to `num / den`; past the largest one, infinity.  The
unit's exponent and the rounded count of units add up to the bit pattern, also
where rounding carries into the next exponent. -/
def ofRatio (negative : Bool) (num den : Nat) : Binary64 :=
  if num = 0 then ofMagnitude negative 0
  else
    let exponent := unitExponent num den
    let (n, d) := inUnits num den 2 exponent
    let magnitude := (exponent + 1074).toNat * fractionSize + roundHalfEven n d
    ofMagnitude negative (min magnitude infinityMagnitude)

def ofInt (i : Int) : Binary64 := ofRatio (i < 0) i.natAbs 1

instance : Inhabited Binary64 := ⟨ofInt 0⟩

def infinity (negative : Bool) : Binary64 := ofMagnitude negative infinityMagnitude

/-! ## Arithmetic

Of finite doubles that are not negative. -/

def product (x y : Binary64) : Binary64 :=
  ofRatio false (x.ratio.1 * y.ratio.1) (x.ratio.2 * y.ratio.2)

def quotient (x y : Binary64) : Binary64 :=
  ofRatio false (x.ratio.1 * y.ratio.2) (x.ratio.2 * y.ratio.1)

/-! ## Decimal numerals -/

def decimalLength (n : Nat) : Nat := (Nat.toDigits 10 n).length

/-- The double nearest to `± digits * 10 ^ exponent`.  Exponents far outside the
range are settled before any power of ten is computed. -/
def ofDecimal (negative : Bool) (digits : Nat) (exponent : Int) : Binary64 :=
  let magnitude := (decimalLength digits : Int) + exponent
  if digits = 0 ∨ magnitude < -400 then ofMagnitude negative 0
  else if 400 < magnitude then infinity negative
  else if 0 ≤ exponent then ofRatio negative (digits * Nat.pow 10 exponent.toNat) 1
  else ofRatio negative digits (Nat.pow 10 (-exponent).toNat)

/-- The double nearest to a power of ten. -/
def powerOfTen (k : Nat) : Binary64 := ofRatio false (Nat.pow 10 k) 1

/-- `x * 10 ^ exponent`, rounded after each step: there are powers of ten up to
308, and a smaller number takes several of them. -/
def timesPower (x : Binary64) (exponent : Int) : Binary64 :=
  if x.significand = 0 then x
  else if 308 < exponent then infinity false
  else if 0 ≤ exponent then x.product (powerOfTen exponent.toNat)
  else if -308 ≤ exponent then x.quotient (powerOfTen (-exponent).toNat)
  else timesPower (x.quotient (powerOfTen 308)) (exponent + 308)
termination_by (-exponent).toNat
decreasing_by omega

/-- Near `± significand * 10 ^ exponent`, by steps that each round. -/
def inSteps (negative : Bool) (significand : Nat) (exponent : Int) : Binary64 :=
  ofMagnitude negative (timesPower (ofInt significand) exponent).bits.toNat

end Binary64

end SearchClient

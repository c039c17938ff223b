import Mathlib.Algebra.Order.Field.Power
import Mathlib.Algebra.Order.Field.Rat
import Mathlib.Tactic.FieldSimp
import Mathlib.Tactic.Linarith
import Mathlib.Tactic.Positivity
import Mathlib.Tactic.Ring
import SearchClient.Number.Binary64

/-!
# What rounds to a double

The numbers that round to a double are those within half of the gap to its
neighbour on their side, with the ends when its significand is even.  `ofRatio`
and `ofDecimal` turn each of them into that double.
-/

namespace SearchClient.Binary64

/-! ## The fields of a double -/

variable {x : Binary64}

theorem fractionSize_eq : (fractionSize : ℚ) = 2 ^ (52 : ℤ) := by
  norm_num [fractionSize]

theorem significand_lt (x : Binary64) : x.significand < 2 * fractionSize := by
  have hlt : x.fractionField < fractionSize := Nat.mod_lt _ (by decide)
  unfold significand
  split <;> omega

theorem neg_1074_le_scale (x : Binary64) : -1074 ≤ x.scale := by
  unfold scale
  split <;> omega

/-- Only subnormal doubles have a significand of fewer bits. -/
theorem fractionSize_le_significand (h : -1074 < x.scale) :
    fractionSize ≤ x.significand := by
  unfold significand scale at *
  split at h
  · omega
  · next hnormal =>
    rw [if_neg hnormal]
    omega

theorem scale_le (h : x.isFinite = true) : x.scale ≤ 971 := by
  have hexponent : x.exponentField < 2047 := by simpa [isFinite] using h
  unfold scale
  split <;> omega

/-- A power of two with doubles of half the gap below it. -/
def IsBinadeStart (x : Binary64) : Prop := x.fractionField = 0 ∧ 1 < x.exponentField

instance : DecidablePred IsBinadeStart := fun x =>
  inferInstanceAs (Decidable (x.fractionField = 0 ∧ 1 < x.exponentField))

theorem isBinadeStart_iff :
    x.IsBinadeStart ↔ x.significand = fractionSize ∧ -1074 < x.scale := by
  have hlt : x.fractionField < fractionSize := Nat.mod_lt _ (by decide)
  unfold IsBinadeStart significand scale
  split <;> omega

/-- The bits below the sign, from the parts. -/
theorem bits_mod_signSize (x : Binary64) :
    (x.scale + 1074).toNat * fractionSize + x.significand = x.bits.toNat % signSize := by
  unfold scale significand
  by_cases h : x.exponentField = 0
  · rw [if_pos h, if_pos h]
    simp only [exponentField, fractionField, fractionSize, signSize] at *
    omega
  · rw [if_neg h, if_neg h]
    simp only [exponentField, fractionField, fractionSize, signSize] at *
    omega

theorem ofMagnitude_bits (x : Binary64) :
    ofMagnitude x.isNegative (x.bits.toNat % signSize) = x := by
  have hlt := x.bits.toNat_lt
  have hnat : (if x.isNegative then signSize + x.bits.toNat % signSize
      else x.bits.toNat % signSize) = x.bits.toNat := by
    by_cases h : signSize ≤ x.bits.toNat
    · rw [if_pos (by simpa [isNegative] using h)]
      simp only [signSize] at *
      omega
    · rw [if_neg (by simpa [isNegative] using h)]
      simp only [signSize] at *
      omega
  rw [ofMagnitude, hnat, UInt64.ofNat_toNat]

theorem bits_lt_infinityMagnitude (h : x.isFinite = true) :
    x.bits.toNat % signSize < infinityMagnitude := by
  have hexponent : x.exponentField < 2047 := by simpa [isFinite] using h
  simp only [exponentField, signSize, infinityMagnitude, fractionSize] at *
  omega

/-! ## Units -/

variable {num den : Nat} {e : ℤ}

theorem cast_scaled (n base : Nat) (hbase : 0 < base) (e : ℤ) :
    0 < (scaled n base e).2 ∧
      ((scaled n base e).1 : ℚ) / (scaled n base e).2 = n * (base : ℚ) ^ e := by
  have hne : (base : ℚ) ≠ 0 := by exact_mod_cast hbase.ne'
  unfold scaled
  split
  · next h =>
    obtain ⟨k, rfl⟩ := Int.eq_ofNat_of_zero_le h
    exact ⟨Nat.one_pos, by simp⟩
  · next h =>
    obtain ⟨k, rfl⟩ : ∃ k : Nat, e = -k := ⟨(-e).toNat, by omega⟩
    refine ⟨by simpa using Nat.pow_pos hbase, ?_⟩
    simp [zpow_neg, div_eq_mul_inv]

theorem cast_inUnits (num : Nat) (hden : 0 < den) {base : Nat} (hbase : 0 < base)
    (e : ℤ) : 0 < (inUnits num den base e).2 ∧
      ((inUnits num den base e).1 : ℚ) / (inUnits num den base e).2 =
        num / den / (base : ℚ) ^ e := by
  unfold inUnits
  split
  · next h =>
    obtain ⟨k, rfl⟩ := Int.eq_ofNat_of_zero_le h
    exact ⟨Nat.mul_pos hden (Nat.pow_pos hbase), by simp [div_div]⟩
  · next h =>
    obtain ⟨k, rfl⟩ : ∃ k : Nat, e = -k := ⟨(-e).toNat, by omega⟩
    exact ⟨hden, by simp [zpow_neg, mul_div_right_comm]⟩

/-- `num` lies `t` above or below a multiple of `den`. -/
theorem roundHalfEven_of_above {m t : Nat} (hnum : num = den * m + t)
    (hden : 0 < den) (h : 2 * t < den ∨ 2 * t = den ∧ m % 2 = 0) :
    roundHalfEven num den = m := by
  obtain ⟨hdiv, hmod⟩ := (Nat.div_mod_unique hden).2
    ⟨(Nat.add_comm t _).trans hnum.symm, show t < den by omega⟩
  simp only [roundHalfEven, hdiv, hmod]
  split <;> omega

theorem roundHalfEven_of_below {m t : Nat} (hnum : num + t = den * m)
    (ht : 0 < t) (h : 2 * t < den ∨ 2 * t = den ∧ m % 2 = 0) :
    roundHalfEven num den = m := by
  obtain ⟨k, rfl⟩ : ∃ k, m = k + 1 := Nat.exists_eq_succ_of_ne_zero fun hm => by
    simp [hm] at hnum
    omega
  rw [Nat.mul_succ] at hnum
  obtain ⟨hdiv, hmod⟩ := (Nat.div_mod_unique (show 0 < den by omega)).2
    ⟨show den - t + den * k = num by omega, show den - t < den by omega⟩
  simp only [roundHalfEven, hdiv, hmod]
  split <;> omega

/-- The integer within half a unit, at exactly half the even one. -/
theorem roundHalfEven_eq {m : Nat} (hden : 0 < den)
    (h : 2 * |(num : ℚ) / den - m| < 1 ∨
      2 * |(num : ℚ) / den - m| = 1 ∧ m % 2 = 0) :
    roundHalfEven num den = m := by
  have hpos : (0 : ℚ) < den := by exact_mod_cast hden
  have hdist : |(num : ℚ) / den - m| = |(num : ℚ) - den * m| / den := by
    rw [← abs_of_pos hpos, ← abs_div, abs_of_pos hpos, sub_div,
      mul_div_cancel_left₀ _ hpos.ne']
  rw [hdist, ← mul_div_assoc, div_lt_one hpos, div_eq_one_iff_eq hpos.ne'] at h
  rcases le_or_gt (den * m) num with hle | hlt
  · obtain ⟨t, rfl⟩ := Nat.exists_eq_add_of_le hle
    refine roundHalfEven_of_above rfl hden ?_
    simpa only [Nat.cast_add, Nat.cast_mul, add_sub_cancel_left, Nat.abs_cast,
      ← Nat.cast_ofNat (R := ℚ), ← Nat.cast_mul, Nat.cast_lt, Nat.cast_inj] using h
  · obtain ⟨t, ht⟩ := Nat.exists_eq_add_of_le hlt.le
    refine roundHalfEven_of_below ht.symm (by omega) ?_
    have hcast : (den * m : ℚ) = num + t := by exact_mod_cast ht
    simpa only [hcast, sub_add_cancel_left, abs_neg, Nat.abs_cast,
      ← Nat.cast_ofNat (R := ℚ), ← Nat.cast_mul, Nat.cast_lt, Nat.cast_inj] using h

/-! ## The unit in the last place -/

theorem two_zpow_pos (e : ℤ) : (0 : ℚ) < 2 ^ e := zpow_pos two_pos e

theorem fractionSize_mul_zpow (e : ℤ) : (fractionSize : ℚ) * 2 ^ e = 2 ^ (52 + e) := by
  rw [fractionSize_eq, zpow_add₀ two_ne_zero]

theorem two_fractionSize_mul_zpow (e : ℤ) :
    2 * (fractionSize : ℚ) * 2 ^ e = 2 ^ (53 + e) := by
  rw [mul_assoc, fractionSize_mul_zpow, ← zpow_one_add₀ two_ne_zero]
  congr 1
  ring

theorem div_log2_bounds (hnum : 0 < num) (hden : 0 < den) :
    (2 : ℚ) ^ ((num.log2 : ℤ) - den.log2 - 1) < num / den ∧
      (num : ℚ) / den < 2 ^ ((num.log2 : ℤ) - den.log2 + 1) := by
  have hpos : (0 : ℚ) < den := by exact_mod_cast hden
  have hnumLow : (2 : ℚ) ^ (num.log2 : ℤ) ≤ num := by
    exact_mod_cast Nat.log2_self_le hnum.ne'
  have hnumHigh : (num : ℚ) < 2 ^ ((num.log2 : ℤ) + 1) := by
    exact_mod_cast Nat.lt_log2_self (n := num)
  have hdenLow : (2 : ℚ) ^ (den.log2 : ℤ) ≤ den := by
    exact_mod_cast Nat.log2_self_le hden.ne'
  have hdenHigh : (den : ℚ) < 2 ^ ((den.log2 : ℤ) + 1) := by
    exact_mod_cast Nat.lt_log2_self (n := den)
  constructor
  · rw [lt_div_iff₀ hpos]
    calc (2 : ℚ) ^ ((num.log2 : ℤ) - den.log2 - 1) * den
        < 2 ^ ((num.log2 : ℤ) - den.log2 - 1) * 2 ^ ((den.log2 : ℤ) + 1) :=
          mul_lt_mul_of_pos_left hdenHigh (two_zpow_pos _)
      _ = 2 ^ (num.log2 : ℤ) := by
          rw [← zpow_add₀ two_ne_zero]
          congr 1
          ring
      _ ≤ num := hnumLow
  · rw [div_lt_iff₀ hpos]
    calc (num : ℚ) < 2 ^ ((num.log2 : ℤ) + 1) := hnumHigh
      _ = 2 ^ ((num.log2 : ℤ) - den.log2 + 1) * 2 ^ (den.log2 : ℤ) := by
          rw [← zpow_add₀ two_ne_zero]
          congr 1
          ring
      _ ≤ 2 ^ ((num.log2 : ℤ) - den.log2 + 1) * den :=
          mul_le_mul_of_nonneg_left hdenLow (two_zpow_pos _).le

/-- The exponent whose units number from `2 ^ 52` up to `2 ^ 53`, or the least
one with fewer units. -/
theorem unitExponent_eq (hnum : 0 < num) (hden : 0 < den) (hleast : -1074 ≤ e)
    (hlow : -1074 < e → (fractionSize : ℚ) * 2 ^ e ≤ num / den)
    (hhigh : (num : ℚ) / den < 2 * fractionSize * 2 ^ e) :
    unitExponent num den = e := by
  obtain ⟨hlogLow, hlogHigh⟩ := div_log2_bounds hnum hden
  rw [two_fractionSize_mul_zpow] at hhigh
  rw [fractionSize_mul_zpow] at hlow
  have hlt {a b : ℤ} (h : (2 : ℚ) ^ a < 2 ^ b) : a < b :=
    (zpow_lt_zpow_iff_right₀ one_lt_two).1 h
  -- the guess is the exponent or one less
  have hguess := hlt (hlogLow.trans hhigh)
  have hbelow : -1074 < e → 52 + e < (num.log2 : ℤ) - den.log2 + 1 := fun h =>
    hlt ((hlow h).trans_lt hlogHigh)
  unfold unitExponent
  generalize hg : max ((num.log2 : ℤ) - den.log2 - 53) (-1074) = guess
  obtain ⟨hpos, hunits⟩ := cast_inUnits num hden two_pos guess
  rw [Nat.cast_ofNat] at hunits
  have hfits : (inUnits num den 2 guess).1 / (inUnits num den 2 guess).2 <
      2 * fractionSize ↔ (num : ℚ) / den < 2 ^ (53 + guess) := by
    rw [← two_fractionSize_mul_zpow, ← div_lt_iff₀ (two_zpow_pos guess), ← hunits,
      div_lt_iff₀ (by exact_mod_cast hpos), Nat.div_lt_iff_lt_mul hpos]
    exact_mod_cast Iff.rfl
  simp only [hfits]
  split
  · next h =>
    have : -1074 < e → 52 + e < 53 + guess := fun hlarge =>
      hlt ((hlow hlarge).trans_lt h)
    omega
  · next h =>
    have := hlt ((not_lt.1 h).trans_lt hhigh)
    omega

/-! ## Rounding intervals -/

variable {q : ℚ}

/-- What a finite double denotes, its sign left aside. -/
def absValue (x : Binary64) : ℚ := x.significand * 2 ^ x.scale

/-- How far the next double is on the side of `q`. -/
def gap (x : Binary64) (q : ℚ) : ℚ :=
  if q < x.absValue ∧ x.IsBinadeStart then 2 ^ (x.scale - 1) else 2 ^ x.scale

/-- `q` is nearer to the double than to any other; a tie goes to the even one. -/
def RoundsTo (q : ℚ) (x : Binary64) : Prop :=
  2 * |q - x.absValue| < x.gap q ∨
    2 * |q - x.absValue| = x.gap q ∧ x.significand % 2 = 0

theorem RoundsTo.le (h : RoundsTo q x) : 2 * |q - x.absValue| ≤ x.gap q :=
  h.elim le_of_lt fun h => h.1.le

theorem gap_le (x : Binary64) (q : ℚ) : x.gap q ≤ 2 ^ x.scale := by
  unfold gap
  split
  · exact zpow_le_zpow_right₀ one_le_two (by omega)
  · exact le_rfl

/-- In units of `2 ^ e` the distance to `m` units is that many times smaller. -/
theorem two_mul_abs_div_sub (q : ℚ) (m : Nat) (e : ℤ) :
    2 * |q / 2 ^ e - m| = 2 * |q - m * 2 ^ e| / 2 ^ e := by
  have hpos := two_zpow_pos e
  rw [mul_div_assoc, ← abs_of_pos hpos, ← abs_div, abs_of_pos hpos, sub_div,
    mul_div_cancel_right₀ _ hpos.ne']

/-- A quotient that is `m` units up to rounding, for the exponent that it has. -/
theorem ofRatio_of_units {m : Nat} (hnum : 0 < num) (hden : 0 < den)
    (hunit : unitExponent num den = e)
    (hround : 2 * |(num : ℚ) / den - m * 2 ^ e| < 2 ^ e ∨
      2 * |(num : ℚ) / den - m * 2 ^ e| = 2 ^ e ∧ m % 2 = 0)
    (hfinite : x.isFinite = true)
    (hbits : (e + 1074).toNat * fractionSize + m = x.bits.toNat % signSize) :
    ofRatio x.isNegative num den = x := by
  obtain ⟨hpos, hunits⟩ := cast_inUnits num hden two_pos e
  rw [Nat.cast_ofNat] at hunits
  have hrounded : roundHalfEven (inUnits num den 2 e).1 (inUnits num den 2 e).2 = m := by
    apply roundHalfEven_eq hpos
    rwa [hunits, two_mul_abs_div_sub, div_lt_one (two_zpow_pos e),
      div_eq_one_iff_eq (two_zpow_pos e).ne']
  simp only [ofRatio, if_neg hnum.ne', hunit, hrounded, hbits]
  rw [Nat.min_eq_left (bits_lt_infinityMagnitude hfinite).le, ofMagnitude_bits]

theorem RoundsTo.pos (h : RoundsTo q x) (hne : x.significand ≠ 0) : 0 < q := by
  have hle := h.le.trans (x.gap_le q)
  have hpos := two_zpow_pos x.scale
  have hone : (1 : ℚ) * 2 ^ x.scale ≤ x.absValue :=
    mul_le_mul_of_nonneg_right (by exact_mod_cast Nat.one_le_iff_ne_zero.2 hne) hpos.le
  have := neg_abs_le (q - x.absValue)
  linarith

theorem RoundsTo.bounds (h : RoundsTo q x) :
    x.absValue - x.gap q / 2 ≤ q ∧ q ≤ x.absValue + x.gap q / 2 := by
  have hle := h.le
  have hlow := neg_abs_le (q - x.absValue)
  have hhigh := le_abs_self (q - x.absValue)
  constructor <;> linarith

/-- Below a power of two the doubles have units of half the size. -/
theorem ofRatio_eq_below (hfinite : x.isFinite = true) (hnum : 0 < num)
    (hden : 0 < den) (hlt : (num : ℚ) / den < x.absValue)
    (hstart : x.IsBinadeStart) (h : RoundsTo (num / den) x) :
    ofRatio x.isNegative num den = x := by
  obtain ⟨hsize, hlarge⟩ := isBinadeStart_iff.1 hstart
  have hunit := two_zpow_pos (x.scale - 1)
  have hone : (1 : ℚ) ≤ fractionSize := by norm_num [fractionSize]
  have hgap : x.gap (num / den) = 2 ^ (x.scale - 1) := if_pos ⟨hlt, hstart⟩
  have hvalue : x.absValue = (2 * fractionSize : Nat) * 2 ^ (x.scale - 1) := by
    rw [absValue, hsize, zpow_sub_one₀ two_ne_zero]
    push_cast
    ring
  have hlow := h.bounds.1
  rw [hgap, hvalue] at hlow
  rw [hvalue] at hlt
  rw [RoundsTo, hgap, hvalue] at h
  push_cast at hlow hlt
  refine ofRatio_of_units hnum hden
    (unitExponent_eq hnum hden (by omega) (fun _ => ?_) hlt)
    (h.imp_right fun h => ⟨h.1, rfl⟩) hfinite ?_
  · nlinarith
  · have hplace : (x.scale + 1074).toNat = (x.scale - 1 + 1074).toNat + 1 := by omega
    rw [← x.bits_mod_signSize, hsize, hplace, Nat.add_mul]
    omega

/-- On the grid of the double itself. -/
theorem ofRatio_eq_onGrid (hfinite : x.isFinite = true) (hnum : 0 < num)
    (hden : 0 < den)
    (hside : ¬((num : ℚ) / den < x.absValue ∧ x.IsBinadeStart))
    (h : RoundsTo (num / den) x) : ofRatio x.isNegative num den = x := by
  have hunit := two_zpow_pos x.scale
  have hgap : x.gap (num / den) = 2 ^ x.scale := if_neg hside
  obtain ⟨hlow, hhigh⟩ := h.bounds
  rw [RoundsTo, hgap] at h
  rw [hgap] at hlow hhigh
  refine ofRatio_of_units hnum hden
    (unitExponent_eq hnum hden x.neg_1074_le_scale (fun hlarge => ?_) ?_)
    h hfinite x.bits_mod_signSize
  · rcases le_or_gt x.absValue (num / den) with habove | hbelow
    · exact (mul_le_mul_of_nonneg_right
        (by exact_mod_cast fractionSize_le_significand hlarge) hunit.le).trans habove
    · have hmore : (fractionSize : ℚ) + 1 ≤ x.significand := by
        have hne : x.significand ≠ fractionSize := fun heq =>
          hside ⟨hbelow, isBinadeStart_iff.2 ⟨heq, hlarge⟩⟩
        have := fractionSize_le_significand hlarge
        exact_mod_cast (show fractionSize + 1 ≤ x.significand by omega)
      rw [absValue] at hlow
      nlinarith
  · have hlt : (x.significand : ℚ) + 1 ≤ 2 * fractionSize := by
      exact_mod_cast x.significand_lt
    rw [absValue] at hhigh
    nlinarith

/-- A quotient in the rounding interval of a double rounds to it. -/
theorem ofRatio_eq (hfinite : x.isFinite = true) (hne : x.significand ≠ 0)
    (hden : 0 < den) (h : RoundsTo (num / den) x) :
    ofRatio x.isNegative num den = x := by
  have hnum : 0 < num := by
    have hpos := h.pos hne
    rw [div_pos_iff_of_pos_right (by exact_mod_cast hden)] at hpos
    exact_mod_cast hpos
  by_cases hside : (num : ℚ) / den < x.absValue ∧ x.IsBinadeStart
  · exact ofRatio_eq_below hfinite hnum hden hside.1 hside.2 h
  · exact ofRatio_eq_onGrid hfinite hnum hden hside h

/-! ## Decimal numerals -/

theorem decimalLength_bounds {n : Nat} (hn : 0 < n) :
    (10 : ℚ) ^ ((decimalLength n : ℤ) - 1) ≤ n ∧
      (n : ℚ) < 10 ^ (decimalLength n : ℤ) := by
  have hpos : 0 < decimalLength n := Nat.length_toDigits_pos
  constructor
  · obtain ⟨k, hk⟩ : ∃ k, decimalLength n = k + 1 :=
      Nat.exists_eq_succ_of_ne_zero hpos.ne'
    have hle : 10 ^ k ≤ n := by
      rcases Nat.eq_zero_or_pos k with rfl | hkpos
      · exact hn
      · by_contra hlt
        have := (Nat.length_toDigits_le_iff (by decide) hkpos).2 (not_le.1 hlt)
        rw [decimalLength] at hk
        omega
    rw [hk]
    push_cast
    rw [add_sub_cancel_right, zpow_natCast]
    exact_mod_cast hle
  · rw [zpow_natCast]
    exact_mod_cast (Nat.length_toDigits_le_iff (by decide) hpos).1 le_rfl

theorem two_zpow_lt_ten_zpow : (2 : ℚ) ^ (1075 : ℤ) < 10 ^ (400 : ℤ) :=
  calc (2 : ℚ) ^ (1075 : ℤ) ≤ 2 ^ (3 * 400 : ℤ) :=
        zpow_le_zpow_right₀ one_le_two (by decide)
    _ = ((2 : ℚ) ^ (3 : ℤ)) ^ (400 : ℤ) := zpow_mul ..
    _ < 10 ^ (400 : ℤ) :=
        zpow_lt_zpow_left₀ (by decide) (by positivity) (by norm_num)

/-- What rounds to a finite double other than zero is not far out of range. -/
theorem RoundsTo.in_range (h : RoundsTo q x) (hfinite : x.isFinite = true)
    (hne : x.significand ≠ 0) : (10 : ℚ) ^ (-400 : ℤ) < q ∧ q < 10 ^ (400 : ℤ) := by
  obtain ⟨hlow, hhigh⟩ := h.bounds
  have hgap := x.gap_le q
  have hpos := two_zpow_pos x.scale
  rw [absValue] at hlow hhigh
  constructor
  · have hone : (1 : ℚ) ≤ x.significand := by
      exact_mod_cast Nat.one_le_iff_ne_zero.2 hne
    calc (10 : ℚ) ^ (-400 : ℤ) < 2 ^ (-1075 : ℤ) := by
          rw [zpow_neg, zpow_neg]
          exact inv_strictAnti₀ (two_zpow_pos _) two_zpow_lt_ten_zpow
      _ ≤ 2 ^ (x.scale - 1) :=
          zpow_le_zpow_right₀ one_le_two (by have := x.neg_1074_le_scale; omega)
      _ = 2 ^ x.scale / 2 := zpow_sub_one₀ two_ne_zero _
      _ ≤ q := by nlinarith
  · have hlt : (x.significand : ℚ) + 1 ≤ 2 * fractionSize := by
      exact_mod_cast x.significand_lt
    calc q < 2 * fractionSize * 2 ^ x.scale := by nlinarith
      _ = 2 ^ (53 + x.scale) := two_fractionSize_mul_zpow _
      _ ≤ 2 ^ (1075 : ℤ) :=
          zpow_le_zpow_right₀ one_le_two (by have := scale_le hfinite; omega)
      _ < 10 ^ (400 : ℤ) := two_zpow_lt_ten_zpow

/-- Decimal digits in the rounding interval of a double are read as it. -/
theorem ofDecimal_eq {digits : Nat} {exponent : ℤ} (hfinite : x.isFinite = true)
    (hne : x.significand ≠ 0) (h : RoundsTo (digits * 10 ^ exponent) x) :
    ofDecimal x.isNegative digits exponent = x := by
  have hdigits : digits ≠ 0 := fun hzero => by
    have := h.pos hne
    simp [hzero] at this
  obtain ⟨hlow, hhigh⟩ := h.in_range hfinite hne
  obtain ⟨hlengthLow, hlengthHigh⟩ := decimalLength_bounds (Nat.pos_of_ne_zero hdigits)
  have hten := zpow_pos (show (0 : ℚ) < 10 by norm_num) exponent
  have hlt {a b : ℤ} (h : (10 : ℚ) ^ a < 10 ^ b) : a < b :=
    (zpow_lt_zpow_iff_right₀ (by norm_num)).1 h
  have hleast : -400 < (decimalLength digits : ℤ) + exponent := by
    apply hlt (hlow.trans _)
    rw [zpow_add₀ (by norm_num)]
    exact mul_lt_mul_of_pos_right hlengthHigh hten
  have hmost : (decimalLength digits : ℤ) - 1 + exponent < 400 := by
    apply hlt (lt_of_le_of_lt _ hhigh)
    rw [zpow_add₀ (by norm_num)]
    exact mul_le_mul_of_nonneg_right hlengthLow hten.le
  obtain ⟨hden, hvalue⟩ := cast_scaled digits 10 (by decide) exponent
  have hratio : ofDecimal x.isNegative digits exponent =
      ofRatio x.isNegative (scaled digits 10 exponent).1
        (scaled digits 10 exponent).2 := by
    simp only [ofDecimal, scaled]
    rw [if_neg (by omega), if_neg (by omega)]
    split <;> rfl
  rw [hratio]
  apply ofRatio_eq hfinite hne hden
  rw [hvalue]
  exact_mod_cast h

end SearchClient.Binary64

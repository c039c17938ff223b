import Mathlib.Data.List.TakeWhile
import Mathlib.Data.Nat.Cast.Order.Field
import SearchClient.Number.Shortest
import SearchClient.Proofs.Number.Rounding
import SearchClient.Proofs.Text.Digits

/-!
# Shortest digits read back

A candidate is accepted exactly when it rounds to the double.  A grid of
seventeen digits is finer than the rounding interval of any double, so one of the
grids has a point that is accepted, and the digits found denote a number that
rounds to the double.
-/

namespace SearchClient.Binary64

variable {x : Binary64} {num den : Nat} {c : Decimal}

namespace Decimal

def value (c : Decimal) : ℚ := c.digits * 10 ^ c.exponent

end Decimal

theorem ratio_eq (x : Binary64) :
    0 < x.ratio.2 ∧ (x.ratio.1 : ℚ) / x.ratio.2 = x.absValue := by
  obtain ⟨hpos, hvalue⟩ := cast_scaled x.significand 2 (by decide) x.scale
  exact ⟨hpos, by rw [ratio, hvalue, absValue]; norm_cast⟩

/-! ## Candidates -/

theorem cast_max_sub_min (a b : Nat) :
    ((max a b - min a b : Nat) : ℚ) = |(a : ℚ) - b| := by
  rcases le_total a b with h | h
  · rw [max_eq_right h, min_eq_left h, Nat.cast_sub h, abs_sub_comm,
      abs_of_nonneg (sub_nonneg.2 (by exact_mod_cast h))]
  · rw [max_eq_left h, min_eq_right h, Nat.cast_sub h,
      abs_of_nonneg (sub_nonneg.2 (by exact_mod_cast h))]

theorem value_lt_iff {n d : Nat} (num : Nat) (hd : 0 < d) (hden : 0 < den) :
    (n : ℚ) / d < num / den ↔ n * den < num * d := by
  rw [div_lt_div_iff₀ (by exact_mod_cast hd) (by exact_mod_cast hden)]
  exact_mod_cast Iff.rfl

theorem cast_twiceDistance (num : Nat) (hden : 0 < den) (c : Decimal) :
    0 < (twiceDistance num den c).2 ∧
      ((twiceDistance num den c).1 : ℚ) =
        2 * |c.value - num / den| * ((twiceDistance num den c).2 * den) := by
  obtain ⟨hpos, hvalue⟩ := cast_scaled c.digits 10 (by decide) c.exponent
  have hd : (0 : ℚ) < (scaled c.digits 10 c.exponent).2 := by exact_mod_cast hpos
  have hn : (0 : ℚ) < den := by exact_mod_cast hden
  have hcandidate : c.value =
      (scaled c.digits 10 c.exponent).1 / (scaled c.digits 10 c.exponent).2 := by
    rw [hvalue, Decimal.value]
    norm_cast
  refine ⟨hpos, ?_⟩
  simp only [twiceDistance]
  rw [cast_max_sub_min, hcandidate]
  calc _ = |2 * ((scaled c.digits 10 c.exponent).1 / (scaled c.digits 10 c.exponent).2 -
          (num : ℚ) / den) * ((scaled c.digits 10 c.exponent).2 * den)| := by
        congr 1
        push_cast
        field_simp
    _ = _ := by rw [abs_mul, abs_mul, abs_of_pos two_pos, abs_of_pos (mul_pos hd hn)]

/-- Below a power of two the gap is half a unit. -/
theorem gap_mul_eq {q : ℚ} {k : Nat}
    (hk : (if q < x.absValue ∧ x.IsBinadeStart then 2 else 1) = k) :
    0 < (k : ℚ) ∧ x.gap q * k = 2 ^ x.scale := by
  rw [← hk, gap]
  split
  · refine ⟨by norm_num, ?_⟩
    rw [zpow_sub_one₀ two_ne_zero, Nat.cast_ofNat, inv_mul_cancel_right₀ two_ne_zero]
  · simp

/-- The test compares the distance with the gap, both without denominators. -/
theorem readsBack_iff (hden : 0 < den) (hvalue : (num : ℚ) / den = x.absValue) :
    readsBack x num den c = true ↔ RoundsTo c.value x := by
  obtain ⟨hunit, hscale⟩ := cast_scaled 1 2 (by decide) x.scale
  obtain ⟨hd, hdistance⟩ := cast_twiceDistance num hden c
  obtain ⟨hdc, hcandidate⟩ := cast_scaled c.digits 10 (by decide) c.exponent
  have hbelow := value_lt_iff (n := (scaled c.digits 10 c.exponent).1) num hdc hden
  rw [hcandidate, hvalue, Nat.cast_ofNat, ← Decimal.value] at hbelow
  rw [hvalue] at hdistance
  simp only [readsBack]
  have hnarrow : (decide ((scaled c.digits 10 c.exponent).1 * den <
      num * (scaled c.digits 10 c.exponent).2) && decide (x.fractionField = 0) &&
      decide (1 < x.exponentField)) = true ↔ c.value < x.absValue ∧ x.IsBinadeStart := by
    simp only [hbelow, IsBinadeStart, Bool.and_eq_true, decide_eq_true_eq, and_assoc]
  -- the test takes twice the distance where the gap is half a unit
  simp only [hnarrow]
  generalize hk : (if c.value < x.absValue ∧ x.IsBinadeStart then 2 else 1) = k
  have hgap := gap_mul_eq hk
  generalize (twiceDistance num den c).1 = distance at hdistance ⊢
  generalize (twiceDistance num den c).2 = d at hd hdistance ⊢
  generalize scaled 1 2 x.scale = unit at hunit hscale ⊢
  have hcommon : (0 : ℚ) < unit.2 * (d * den) := by
    exact_mod_cast Nat.mul_pos hunit (Nat.mul_pos hd hden)
  have hleft : ((distance * unit.2 * k : Nat) : ℚ) =
      2 * |c.value - x.absValue| * k * (unit.2 * (d * den)) := by
    push_cast
    rw [hdistance]
    ring
  have hright : ((unit.1 * den * d : Nat) : ℚ) =
      x.gap c.value * k * (unit.2 * (d * den)) := by
    have hne : (unit.2 : ℚ) ≠ 0 := by exact_mod_cast hunit.ne'
    rw [div_eq_iff hne] at hscale
    push_cast
    rw [hscale, hgap.2]
    push_cast
    ring
  have hlt : distance * unit.2 * k < unit.1 * den * d ↔
      2 * |c.value - x.absValue| < x.gap c.value := by
    rw [← Nat.cast_lt (α := ℚ), hleft, hright, mul_lt_mul_iff_of_pos_right hcommon,
      mul_lt_mul_iff_of_pos_right hgap.1]
  have heq : distance * unit.2 * k = unit.1 * den * d ↔
      2 * |c.value - x.absValue| = x.gap c.value := by
    rw [← Nat.cast_inj (R := ℚ), hleft, hright, mul_left_inj' hcommon.ne',
      mul_left_inj' hgap.1.ne']
  simp only [hlt, heq, RoundsTo, Bool.or_eq_true, Bool.and_eq_true, decide_eq_true_eq]

/-! ## Grids -/

variable {magnitude : ℤ} {count : Nat}

theorem readsBack_of_onGrid (h : onGrid x num den magnitude count = some c) :
    readsBack x num den c = true := by
  unfold onGrid at h
  simp only at h
  split at h
  · next hlow hhigh =>
    split at h
    · exact Option.some.inj h ▸ hlow
    · exact Option.some.inj h ▸ hhigh
  · next hlow _ => exact Option.some.inj h ▸ hlow
  · next _ hhigh => exact Option.some.inj h ▸ hhigh
  · contradiction

/-- The point of a grid below a number, and how far the number lies above it. -/
theorem exists_gridPoint (num : Nat) (hden : 0 < den) (e : ℤ) :
    ∃ n : Nat, n = (inUnits num den 10 e).1 / (inUnits num den 10 e).2 ∧
      (n : ℚ) * 10 ^ e ≤ num / den ∧ (num : ℚ) / den < (n + 1) * 10 ^ e := by
  obtain ⟨hpos, hunits⟩ := cast_inUnits num hden (show 0 < 10 by decide) e
  have hten : (0 : ℚ) < 10 ^ e := zpow_pos (by norm_num) e
  have hd : (0 : ℚ) < (inUnits num den 10 e).2 := by exact_mod_cast hpos
  rw [Nat.cast_ofNat] at hunits
  refine ⟨_, rfl, ?_, ?_⟩
  · rw [← le_div_iff₀ hten, ← hunits, le_div_iff₀ hd]
    exact_mod_cast Nat.div_mul_le_self _ _
  · rw [← div_lt_iff₀ hten, ← hunits, div_lt_iff₀ hd]
    exact_mod_cast (Nat.div_lt_iff_lt_mul hpos).1 (Nat.lt_succ_self _)

theorem half_le_gap (x : Binary64) (q : ℚ) : 2 ^ x.scale / 2 ≤ x.gap q := by
  have hpos := two_zpow_pos x.scale
  unfold gap
  split
  · exact (zpow_sub_one₀ two_ne_zero _).ge
  · linarith

/-- Of two neighbours on a fine grid one rounds to the double between them. -/
theorem roundsTo_or {low high : ℚ} (hlow : low ≤ x.absValue)
    (hhigh : x.absValue < high)
    (hfine : high - low < 3 / 4 * 2 ^ x.scale ∨
      high - low < 2 ^ x.scale ∧ ¬x.IsBinadeStart) :
    RoundsTo low x ∨ RoundsTo high x := by
  by_contra hnot
  obtain ⟨hnotLow, hnotHigh⟩ := not_or.1 hnot
  have hfarLow := not_lt.1 (not_or.1 hnotLow).1
  have hfarHigh := not_lt.1 (not_or.1 hnotHigh).1
  rw [abs_sub_comm, abs_of_nonneg (sub_nonneg.2 hlow)] at hfarLow
  rw [abs_of_pos (sub_pos.2 hhigh), gap, if_neg fun h => hhigh.not_gt h.1] at hfarHigh
  rcases hfine with hfine | ⟨hfine, hstart⟩
  · have := x.half_le_gap low
    linarith
  · rw [gap, if_neg fun h => hstart h.2] at hfarLow
    linarith

/-- A grid finer than the rounding interval has a point that is accepted. -/
theorem isSome_onGrid (hden : 0 < den) (hvalue : (num : ℚ) / den = x.absValue)
    (hfine : (10 : ℚ) ^ (magnitude - count) < 3 / 4 * 2 ^ x.scale ∨
      (10 : ℚ) ^ (magnitude - count) < 2 ^ x.scale ∧ ¬x.IsBinadeStart) :
    (onGrid x num den magnitude count).isSome := by
  obtain ⟨n, hn, hlow, hhigh⟩ := exists_gridPoint num hden (magnitude - count)
  have haccepted : readsBack x num den ⟨n, magnitude - count⟩ = true ∨
      readsBack x num den ⟨n + 1, magnitude - count⟩ = true := by
    rw [hvalue] at hlow hhigh
    have hstep : ((n : ℚ) + 1) * 10 ^ (magnitude - count) - n * 10 ^ (magnitude - count) =
        10 ^ (magnitude - count) := by ring
    rw [← hstep] at hfine
    rw [readsBack_iff hden hvalue, readsBack_iff hden hvalue]
    simpa only [Decimal.value, Nat.cast_add, Nat.cast_one] using
      roundsTo_or hlow hhigh hfine
  unfold onGrid
  simp only [← hn]
  cases hreadLow : readsBack x num den ⟨n, magnitude - count⟩ <;>
    cases hreadHigh : readsBack x num den ⟨n + 1, magnitude - count⟩
  · simp [hreadLow, hreadHigh] at haccepted
  · rfl
  · rfl
  · simp only
    split <;> rfl

/-! ## Seventeen digits -/

theorem ten_zpow_neg_le_div (hden : 0 < den) {k : Nat} (h : den ≤ num * 10 ^ k) :
    (10 : ℚ) ^ (-(k : ℤ)) ≤ num / den := by
  rw [le_div_iff₀ (by exact_mod_cast hden), zpow_neg, zpow_natCast,
    inv_mul_le_iff₀ (by positivity), mul_comm]
  exact_mod_cast h

/-- The first digit does not lie below the position that is computed for it. -/
theorem ten_zpow_decimalExponent_le (hnum : 0 < num) (hden : 0 < den) :
    (10 : ℚ) ^ (decimalExponent num den - 1) ≤ num / den := by
  unfold decimalExponent
  split
  · next hle =>
    exact (decimalLength_bounds (Nat.div_pos hle hden)).1.trans Nat.cast_div_le
  · next hlt =>
    have hlength : 0 < decimalLength (den / num) := Nat.length_toDigits_pos
    have hshort : den < 10 ^ decimalLength (den / num) * num :=
      (Nat.div_lt_iff_lt_mul hnum).1
        ((Nat.length_toDigits_le_iff (by decide) hlength).1 le_rfl)
    generalize decimalLength (den / num) = length at hlength hshort
    simp only
    split
    · rw [show (1 : ℤ) - length - 1 = -length by ring]
      exact ten_zpow_neg_le_div hden (by rw [Nat.mul_comm]; exact hshort.le)
    · next hfits =>
      rw [show (1 : ℤ) - length + 1 - 1 = -((-(1 - (length : ℤ))).toNat : ℤ) by omega]
      exact ten_zpow_neg_le_div hden (Nat.le_of_not_lt hfits)

/-- A grid of seventeen digits is fine enough for every double. -/
theorem ten_zpow_lt (hne : x.significand ≠ 0) :
    (10 : ℚ) ^ (decimalExponent x.ratio.1 x.ratio.2 - (17 : Nat)) <
        3 / 4 * 2 ^ x.scale ∨
      (10 : ℚ) ^ (decimalExponent x.ratio.1 x.ratio.2 - (17 : Nat)) < 2 ^ x.scale ∧
        ¬x.IsBinadeStart := by
  obtain ⟨hden, hvalue⟩ := x.ratio_eq
  have hunit := two_zpow_pos x.scale
  have hnum : 0 < x.ratio.1 := by
    have hpos : 0 < x.absValue :=
      mul_pos (by exact_mod_cast Nat.pos_of_ne_zero hne) hunit
    rw [← hvalue, div_pos_iff_of_pos_right (by exact_mod_cast hden)] at hpos
    exact_mod_cast hpos
  have hstep : (10 : ℚ) ^ (decimalExponent x.ratio.1 x.ratio.2 - (17 : Nat)) *
      10 ^ (16 : ℤ) ≤ x.significand * 2 ^ x.scale := by
    rw [← zpow_add₀ (by norm_num), ← absValue, ← hvalue]
    refine le_trans (le_of_eq ?_) (ten_zpow_decimalExponent_le hnum hden)
    congr 1
    omega
  generalize (10 : ℚ) ^ (decimalExponent x.ratio.1 x.ratio.2 - (17 : Nat)) = step
    at hstep ⊢
  norm_num at hstep
  by_cases hstart : x.IsBinadeStart
  · left
    rw [(isBinadeStart_iff.1 hstart).1] at hstep
    norm_num [fractionSize] at hstep
    linarith
  · right
    have hlt : (x.significand : ℚ) + 1 ≤ 2 * fractionSize := by
      exact_mod_cast x.significand_lt
    norm_num [fractionSize] at hlt
    exact ⟨by nlinarith, hstart⟩

/-- The digits found for a double denote a number that rounds to it. -/
theorem shortest_roundsTo (hne : x.significand ≠ 0) : RoundsTo x.shortest.value x := by
  obtain ⟨hden, hvalue⟩ := x.ratio_eq
  have hfound : ((List.range 17).findSome? fun i => onGrid x x.ratio.1 x.ratio.2
      (decimalExponent x.ratio.1 x.ratio.2) (i + 1)).isSome :=
    List.findSome?_isSome_iff.2
      ⟨16, by decide, isSome_onGrid hden hvalue (ten_zpow_lt hne)⟩
  obtain ⟨c, hc⟩ := Option.isSome_iff_exists.1 hfound
  obtain ⟨i, -, hi⟩ := List.exists_of_findSome?_eq_some hc
  have hshortest : x.shortest = c := by
    rw [shortest]
    simp only
    rw [hc]
    rfl
  rw [hshortest, ← readsBack_iff hden hvalue]
  exact readsBack_of_onGrid hi

/-! ## Digits and point -/

theorem exists_eq_withoutZerosAtEnd_append (digits : List Char) :
    ∃ k, digits = withoutZerosAtEnd digits ++ List.replicate k '0' := by
  have hzeros : ∀ c ∈ digits.reverse.takeWhile (· = '0'), c = '0' := fun c hc => by
    simpa using List.mem_takeWhile_imp hc
  refine ⟨(digits.reverse.takeWhile (· = '0')).length, ?_⟩
  rw [← List.reverse_inj, List.reverse_append, withoutZerosAtEnd, List.reverse_reverse,
    List.reverse_replicate, ← List.eq_replicate_of_mem hzeros,
    List.takeWhile_append_dropWhile]

theorem digits_shortest_pos (hne : x.significand ≠ 0) : 0 < x.shortest.digits := by
  have hpos := (shortest_roundsTo hne).pos hne
  rw [Decimal.value] at hpos
  exact Nat.pos_of_ne_zero fun hzero => by simp [hzero] at hpos

theorem placed_of_ne_zero (hne : x.significand ≠ 0) :
    x.placed = ⟨withoutZerosAtEnd (Nat.toDigits 10 x.shortest.digits),
      (Nat.toDigits 10 x.shortest.digits).length + x.shortest.exponent⟩ := if_neg hne

/-- Only zero has a zero in front. -/
theorem exists_digits_placed (x : Binary64) :
    ∃ d ds, x.placed.digits = d :: ds ∧ (∀ c ∈ d :: ds, c.isDigit = true) ∧
      (d = '0' → ds = [] ∧ x.placed.point = 1) := by
  by_cases hne : x.significand = 0
  · have hzero : x.placed = ⟨['0'], 1⟩ := if_pos hne
    rw [hzero]
    exact ⟨'0', [], rfl, List.all_eq_true.1 rfl, fun _ => ⟨rfl, rfl⟩⟩
  obtain ⟨d, ds, hds, hdigits, hzero⟩ := Text.exists_toDigits x.shortest.digits
  have hd : d ≠ '0' := fun h => (digits_shortest_pos hne).ne' (hzero h).1
  obtain ⟨k, hk⟩ := exists_eq_withoutZerosAtEnd_append (d :: ds)
  rw [placed_of_ne_zero hne, hds]
  cases hkept : withoutZerosAtEnd (d :: ds) with
  | nil =>
      rw [hkept, List.nil_append] at hk
      exact absurd (List.eq_of_mem_replicate (hk ▸ List.mem_cons_self)) hd
  | cons first kept =>
      rw [hkept, List.cons_append] at hk
      obtain ⟨rfl, rfl⟩ := List.cons.inj hk
      refine ⟨d, kept, rfl, fun c hc => hdigits c ?_, fun h => absurd h hd⟩
      rw [← List.cons_append]
      exact List.mem_append_left _ hc

/-- Zeros after the digits move the point. -/
theorem cast_mul_ten_pow (n k : Nat) (e : ℤ) :
    ((n * 10 ^ k : Nat) : ℚ) * 10 ^ e = n * 10 ^ (k + e) := by
  rw [zpow_add₀ (by norm_num), zpow_natCast]
  push_cast
  ring

/-- The digits with the point where it belongs are the digits found. -/
theorem value_placed (hne : x.significand ≠ 0) :
    (Nat.ofDigitChars 10 x.placed.digits 0 : ℚ) *
      10 ^ (x.placed.point - x.placed.digits.length) = x.shortest.value := by
  obtain ⟨k, hk⟩ := exists_eq_withoutZerosAtEnd_append
    (Nat.toDigits 10 x.shortest.digits)
  have hvalue : 10 ^ k * Nat.ofDigitChars 10
      (withoutZerosAtEnd (Nat.toDigits 10 x.shortest.digits)) 0 = x.shortest.digits := by
    rw [← Nat.ofDigitChars_replicate_zero, ← Nat.ofDigitChars_append, ← hk]
    exact Nat.ofDigitChars_ten_toDigits
  have hlength := congrArg List.length hk
  rw [List.length_append, List.length_replicate] at hlength
  rw [placed_of_ne_zero hne, Decimal.value, hlength]
  generalize withoutZerosAtEnd (Nat.toDigits 10 x.shortest.digits) = kept at hvalue ⊢
  rw [← hvalue, Nat.mul_comm, cast_mul_ten_pow]
  congr 2
  push_cast
  ring

theorem eq_ofMagnitude_zero (h : x.significand = 0) : x = ofMagnitude x.isNegative 0 := by
  have hbits := x.bits_mod_signSize
  have hscale : x.scale = -1074 := by
    by_contra hne
    have hle := fractionSize_le_significand
      (lt_of_le_of_ne x.neg_1074_le_scale (Ne.symm hne))
    rw [h] at hle
    exact absurd hle (by decide)
  rw [h, hscale] at hbits
  conv_lhs => rw [← ofMagnitude_bits x, ← hbits]
  rfl

/-- Any spelling of the digits of a double is read as the double. -/
theorem ofDecimal_placed (hfinite : x.isFinite = true) {digits : Nat} {exponent : ℤ}
    (h : (digits : ℚ) * 10 ^ exponent = Nat.ofDigitChars 10 x.placed.digits 0 *
      10 ^ (x.placed.point - x.placed.digits.length)) :
    ofDecimal x.isNegative digits exponent = x := by
  by_cases hne : x.significand = 0
  · have hzero : x.placed = ⟨['0'], 1⟩ := if_pos hne
    have hread : Nat.ofDigitChars 10 ['0'] 0 = 0 := rfl
    have hdigits : digits = 0 := by
      have hten : (10 : ℚ) ^ exponent ≠ 0 := (zpow_pos (by norm_num) _).ne'
      simpa [hzero, hread, hten] using h
    rw [ofDecimal, if_pos (.inl hdigits), ← eq_ofMagnitude_zero hne]
  · apply ofDecimal_eq hfinite hne
    rw [h, value_placed hne]
    exact shortest_roundsTo hne

/-! ## Positional notation -/

variable {p : Placed}

theorem isDigit_of_mem_zeros {k : Nat} : ∀ c ∈ zeros k, c.isDigit = true := by
  intro c hc
  rw [List.eq_of_mem_replicate hc]
  rfl

theorem isDigit_positional (hdigits : ∀ c ∈ p.digits, c.isDigit = true) :
    (∀ c ∈ (positional p).1, c.isDigit = true) ∧
      ∀ c ∈ (positional p).2, c.isDigit = true := by
  unfold positional
  split
  · exact ⟨isDigit_of_mem_zeros (k := 1),
      List.forall_mem_append.2 ⟨isDigit_of_mem_zeros, hdigits⟩⟩
  · refine ⟨?_, fun c hc => hdigits c (List.mem_of_mem_drop hc)⟩
    exact List.forall_mem_append.2
      ⟨fun c hc => hdigits c (List.mem_of_mem_take hc), isDigit_of_mem_zeros⟩

/-- No zero stands in front of other digits. -/
theorem exists_positional {d : Char} {ds : List Char} (hplaced : p.digits = d :: ds)
    (hzero : d = '0' → ds = [] ∧ p.point = 1) :
    ∃ e es, (positional p).1 = e :: es ∧ (e = '0' → es = []) := by
  unfold positional
  split
  · exact ⟨_, _, rfl, fun _ => rfl⟩
  · next hpoint =>
    obtain ⟨k, hk⟩ : ∃ k, p.point.toNat = k + 1 :=
      Nat.exists_eq_succ_of_ne_zero (by omega)
    simp only [hplaced, hk, List.take_succ_cons, List.cons_append]
    refine ⟨_, _, rfl, fun hd => ?_⟩
    obtain ⟨rfl, hone⟩ := hzero hd
    obtain rfl : k = 0 := by omega
    rfl

/-- A fraction of one zero stands for none. -/
def shownFraction (p : Placed) : List Char :=
  if (positional p).2.isEmpty then ['0'] else (positional p).2

/-- Zeros in front of the digits, and the point before all of them. -/
theorem value_of_point_le (hne : p.digits ≠ []) (hpoint : p.point ≤ 0) :
    (Nat.ofDigitChars 10 ((positional p).1 ++ shownFraction p) 0 : ℚ) *
        10 ^ (-(shownFraction p).length : ℤ) =
      Nat.ofDigitChars 10 p.digits 0 * 10 ^ (p.point - p.digits.length) := by
  have hpositional : positional p = (['0'], zeros (-p.point).toNat ++ p.digits) :=
    if_pos hpoint
  have hshown : shownFraction p = zeros (-p.point).toNat ++ p.digits := by
    rw [shownFraction, hpositional]
    exact if_neg (by simp [hne])
  have hread : Nat.ofDigitChars 10 (['0'] ++ (zeros (-p.point).toNat ++ p.digits)) 0 =
      Nat.ofDigitChars 10 p.digits 0 := by
    rw [Nat.ofDigitChars_append, Nat.ofDigitChars_append, zeros,
      Nat.ofDigitChars_replicate_zero]
    rfl
  rw [hshown, hpositional, hread, List.length_append, zeros, List.length_replicate]
  congr 2
  omega

/-- All digits before the point, and zeros up to it. -/
theorem value_of_length_le (hpoint : 0 < p.point) (hlong : p.digits.length ≤ p.point) :
    (Nat.ofDigitChars 10 ((positional p).1 ++ shownFraction p) 0 : ℚ) *
        10 ^ (-(shownFraction p).length : ℤ) =
      Nat.ofDigitChars 10 p.digits 0 * 10 ^ (p.point - p.digits.length) := by
  have hle : p.digits.length ≤ p.point.toNat := by omega
  have hpositional : positional p =
      (p.digits ++ zeros (p.point.toNat - p.digits.length), []) := by
    rw [positional, if_neg (not_le.2 hpoint)]
    simp only [List.take_of_length_le hle, List.drop_of_length_le hle]
  have hshown : shownFraction p = zeros 1 := by
    rw [shownFraction, hpositional]
    rfl
  have hread : Nat.ofDigitChars 10
      (p.digits ++ zeros (p.point.toNat - p.digits.length) ++ zeros 1) 0 =
        Nat.ofDigitChars 10 p.digits 0 * 10 ^ (p.point.toNat - p.digits.length + 1) := by
    rw [Nat.ofDigitChars_append, Nat.ofDigitChars_append, zeros, zeros,
      Nat.ofDigitChars_replicate_zero, Nat.ofDigitChars_replicate_zero, Nat.pow_succ]
    ring
  rw [hshown, hpositional, hread, cast_mul_ten_pow, zeros, List.length_replicate]
  congr 2
  omega

/-- The point between two digits. -/
theorem value_of_lt_length (hpoint : 0 < p.point) (hshort : p.point < p.digits.length) :
    (Nat.ofDigitChars 10 ((positional p).1 ++ shownFraction p) 0 : ℚ) *
        10 ^ (-(shownFraction p).length : ℤ) =
      Nat.ofDigitChars 10 p.digits 0 * 10 ^ (p.point - p.digits.length) := by
  have hlt : p.point.toNat < p.digits.length := by omega
  have hpositional : positional p =
      (p.digits.take p.point.toNat, p.digits.drop p.point.toNat) := by
    rw [positional, if_neg (not_le.2 hpoint)]
    simp only [Nat.sub_eq_zero_of_le hlt.le, zeros, List.replicate_zero, List.append_nil]
  have hshown : shownFraction p = p.digits.drop p.point.toNat := by
    rw [shownFraction, hpositional]
    exact if_neg (by simpa using hlt)
  rw [hshown, hpositional, List.take_append_drop, List.length_drop]
  congr 2
  omega

/-- Positional notation leaves the value as it was. -/
theorem value_positional (hne : p.digits ≠ []) :
    (Nat.ofDigitChars 10 ((positional p).1 ++ shownFraction p) 0 : ℚ) *
        10 ^ (-(shownFraction p).length : ℤ) =
      Nat.ofDigitChars 10 p.digits 0 * 10 ^ (p.point - p.digits.length) := by
  rcases le_or_gt p.point 0 with hpoint | hpoint
  · exact value_of_point_le hne hpoint
  · rcases le_or_gt (p.digits.length : ℤ) p.point with hlong | hshort
    · exact value_of_length_le hpoint hlong
    · exact value_of_lt_length hpoint hshort

end SearchClient.Binary64

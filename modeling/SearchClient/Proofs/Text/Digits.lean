/-!
# Decimal digits

Numbers as the library writes them: only zero has a zero in front, and a negative
integer has its sign before the digits.
-/

namespace SearchClient

/-- Characters that a test tells apart are different. -/
theorem ne_of_test {test : Char → Bool} {c d : Char} (h : test c = true)
    (hd : test d = false) : c ≠ d := by
  rintro rfl
  rw [h] at hd
  contradiction

namespace Text

/-- Only zero has a zero in front. -/
theorem exists_toDigits (n : Nat) : ∃ d ds, Nat.toDigits 10 n = d :: ds ∧
    (∀ c ∈ d :: ds, c.isDigit = true) ∧ (d = '0' → n = 0 ∧ ds = []) := by
  have hdigits : ∀ c ∈ Nat.toDigits 10 n, c.isDigit = true := fun c =>
    Nat.isDigit_of_mem_toDigits (by decide) (by decide)
  induction n using Nat.strongRecOn with
  | ind n ih =>
      by_cases hsmall : n < 10
      · have hzero : ∀ m < 10, m.digitChar = '0' → m = 0 := by decide
        rw [Nat.toDigits_of_lt_base hsmall] at hdigits ⊢
        exact ⟨_, _, rfl, hdigits, fun h => ⟨hzero n hsmall h, rfl⟩⟩
      · have hle : 10 ≤ n := Nat.le_of_not_lt hsmall
        rw [Nat.toDigits_of_base_le (by decide) hle] at hdigits ⊢
        obtain ⟨d, ds, hds, -, hzero⟩ := ih (n / 10) (by omega) fun c hc =>
          hdigits c (List.mem_append_left _ hc)
        rw [hds] at hdigits ⊢
        refine ⟨d, _, rfl, hdigits, fun h => ?_⟩
        have hnone := (hzero h).1
        omega

/-- The decimal digits of an integer, after its sign. -/
theorem toList_toString (value : Int) :
    (toString value).toList =
      if value < 0 then '-' :: Nat.toDigits 10 value.natAbs
      else Nat.toDigits 10 value.natAbs := by
  cases value with
  | ofNat n =>
      exact Nat.toList_repr.trans (if_neg (Int.not_lt.2 (Int.natCast_nonneg n))).symm
  | negSucc n =>
      rw [if_pos (by omega)]
      exact (String.toList_append ..).trans (congrArg ('-' :: ·) Nat.toList_repr)

end Text

end SearchClient

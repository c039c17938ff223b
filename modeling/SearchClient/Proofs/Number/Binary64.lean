import SearchClient.Number.Binary64

/-!
# Finite doubles

A magnitude below that of infinity is finite.  An integer of 64 bits is far below
the largest double, so the double nearest to it is finite.
-/

namespace SearchClient.Binary64

theorem isFinite_ofMagnitude {negative : Bool} {magnitude : Nat}
    (h : magnitude < infinityMagnitude) :
    (ofMagnitude negative magnitude).isFinite = true := by
  have hexponent : (ofMagnitude negative magnitude).exponentField =
      magnitude / fractionSize := by
    have hbits : (ofMagnitude negative magnitude).bits.toNat =
        if negative then signSize + magnitude else magnitude := by
      rw [ofMagnitude, UInt64.toNat_ofNat_of_lt']
      simp only [infinityMagnitude, fractionSize] at h
      simp only [signSize, UInt64.size]
      split <;> omega
    rw [exponentField, hbits]
    simp only [infinityMagnitude, fractionSize, signSize] at h ⊢
    split <;> omega
  have hlt : magnitude / fractionSize < 2047 :=
    Nat.div_lt_of_lt_mul (by rwa [Nat.mul_comm])
  simpa [isFinite, hexponent] using hlt

theorem roundHalfEven_le (num den : Nat) : roundHalfEven num den ≤ num / den + 1 := by
  simp only [roundHalfEven]
  split <;> omega

theorem unitExponent_bounds (num : Nat) (h : num.log2 < 64) :
    (num.log2 : Int) - 53 ≤ unitExponent num 1 ∧ unitExponent num 1 ≤ 11 := by
  have hone : (1 : Nat).log2 = 0 := by decide
  simp only [unitExponent, hone]
  split <;> omega

/-- In units of its last place an integer has at most 54 bits. -/
theorem div_inUnits_lt {num : Nat} {exponent : Int}
    (h : (num.log2 : Int) - 53 ≤ exponent) :
    (inUnits num 1 2 exponent).1 / (inUnits num 1 2 exponent).2 <
      4 * fractionSize := by
  have hlog : num < 2 ^ (num.log2 + 1) := Nat.lt_log2_self
  have hbits : 4 * fractionSize = 2 ^ 54 := rfl
  rw [hbits]
  unfold inUnits
  split
  · next hexponent =>
    simp only [Nat.one_mul, Nat.pow_eq]
    apply Nat.div_lt_of_lt_mul
    rw [← Nat.pow_add]
    exact Nat.lt_of_lt_of_le hlog (Nat.pow_le_pow_right (by decide) (by omega))
  · next hexponent =>
    simp only [Nat.div_one, Nat.pow_eq]
    calc num * 2 ^ (-exponent).toNat
        < 2 ^ (num.log2 + 1) * 2 ^ (-exponent).toNat :=
          Nat.mul_lt_mul_of_pos_right hlog (Nat.two_pow_pos _)
      _ = 2 ^ (num.log2 + 1 + (-exponent).toNat) := (Nat.pow_add ..).symm
      _ ≤ 2 ^ 54 := Nat.pow_le_pow_right (by decide) (by omega)

theorem isFinite_ofInt {i : Int} (h : i.natAbs < 0x10000000000000000) :
    (ofInt i).isFinite = true := by
  unfold ofInt ofRatio
  split
  · exact isFinite_ofMagnitude (by decide)
  · next hne =>
    obtain ⟨hlow, hhigh⟩ := unitExponent_bounds i.natAbs ((Nat.log2_lt hne).2 h)
    generalize unitExponent i.natAbs 1 = exponent at hlow hhigh ⊢
    have hunits := div_inUnits_lt hlow
    have hround := roundHalfEven_le (inUnits i.natAbs 1 2 exponent).1
      (inUnits i.natAbs 1 2 exponent).2
    have hmagnitude : (exponent + 1074).toNat * fractionSize +
        roundHalfEven (inUnits i.natAbs 1 2 exponent).1
          (inUnits i.natAbs 1 2 exponent).2 < infinityMagnitude := by
      have hplaces : (exponent + 1074).toNat ≤ 1085 := by omega
      simp only [infinityMagnitude, fractionSize] at hunits ⊢
      omega
    exact isFinite_ofMagnitude (Nat.lt_of_le_of_lt (Nat.min_le_left _ _) hmagnitude)

end SearchClient.Binary64

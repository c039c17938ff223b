import SearchClient.Proofs.Except
import SearchClient.Proofs.Text.Digits
import SearchClient.Proofs.Toml.Text
import SearchClient.Toml.Number

/-!
# Integers read back

An integer of 64 bits is read back from its decimal digits, up to the end of
their line.  Digits up to a line end are neither a date nor a time.
-/

namespace SearchClient.Toml

/-! ## Digits -/

theorem digitBelow?_of_isDigit {c : Char} (h : c.isDigit = true) :
    digitBelow? 10 c = some (c.toNat - 48) := by
  simp only [Char.isDigit, Bool.and_eq_true, decide_eq_true_eq] at h
  have hvalue : Text.hexValue? c = some (c.toNat - 48) := if_pos ⟨h.1, h.2⟩
  have hlt : c.toNat - 48 < 10 := by
    have hle : c.toNat ≤ 57 := h.2
    omega
  rw [digitBelow?, hvalue, Option.filter_some, if_pos (by simpa using hlt)]

variable {ds : List Char}

theorem readMoreDigits_line (h : ∀ d ∈ ds, d.isDigit = true) (acc count : Nat)
    (rest : List Char) :
    readMoreDigits 10 acc count (ds ++ '\n' :: rest) =
      some (Nat.ofDigitChars 10 ds acc, count + ds.length, '\n' :: rest) := by
  induction ds generalizing acc count with
  | nil => simp [readMoreDigits, digitBelow?, Text.hexValue?]
  | cons d ds ih =>
      rw [List.forall_mem_cons] at h
      have hne := ne_of_test h.1 (show '_'.isDigit = false from rfl)
      rw [List.cons_append, readMoreDigits, digitBelow?_of_isDigit h.1]
      · simp only
        rw [ih h.2, Nat.ofDigitChars_cons, List.length_cons, Nat.add_right_comm]
        rfl
      · exact fun _ _ hd _ => hne hd

theorem readWhole_toDigits (n : Nat) (rest : List Char) :
    readWhole (Nat.toDigits 10 n ++ '\n' :: rest) = some (n, '\n' :: rest) := by
  obtain ⟨d, ds, hds, hdigits, hzero⟩ := SearchClient.Text.exists_toDigits n
  rw [hds, List.cons_append]
  by_cases hd : d = '0'
  · obtain ⟨rfl, rfl⟩ := hzero hd
    rw [hd]
    rfl
  · rw [List.forall_mem_cons] at hdigits
    have hvalue : Nat.ofDigitChars 10 ds (d.toNat - 48) = n := by
      have hall := @Nat.ofDigitChars_ten_toDigits n
      rwa [hds, Nat.ofDigitChars_cons, Nat.mul_zero, Nat.zero_add] at hall
    have hread : readDigits 10 0 (d :: (ds ++ '\n' :: rest)) =
        some (n, 1 + ds.length, '\n' :: rest) := by
      simp only [readDigits, digitBelow?_of_isDigit hdigits.1,
        readMoreDigits_line hdigits.2, Nat.mul_zero, Nat.zero_add, hvalue]
    unfold readWhole
    split
    · next htext => exact absurd (List.cons.inj htext).1 hd
    · rw [hread, Option.map_some]

theorem readDecimal_toDigits (negative : Bool) (n : Nat) (rest : List Char) :
    readDecimal negative (Nat.toDigits 10 n ++ '\n' :: rest) =
      (finishDecimal negative n none none).map (·, '\n' :: rest) := by
  have hfraction : readFraction n ('\n' :: rest) = some (none, '\n' :: rest) := rfl
  have hexponent : readExponent ('\n' :: rest) = some (none, '\n' :: rest) := rfl
  simp only [readDecimal, readWhole_toDigits, hfraction, hexponent, Option.bind_eq_bind,
    Option.bind_some]
  cases finishDecimal negative n none none <;> rfl

/-! ## Integers -/

theorem readSign_of_isDigit {d : Char} (h : d.isDigit = true) (text : List Char) :
    readSign (d :: text) = (false, d :: text) := by
  have hminus := ne_of_test h (show '-'.isDigit = false from rfl)
  have hplus := ne_of_test h (show '+'.isDigit = false from rfl)
  unfold readSign
  split
  · next htext => exact absurd (List.cons.inj htext).1 hminus
  · next htext => exact absurd (List.cons.inj htext).1 hplus
  · rfl

/-- Digits after a sign are a decimal number, unless a base stands in front. -/
theorem readNumeral_of_readSign {text rest : List Char} {negative : Bool} {d : Char}
    (hsign : readSign text = (negative, d :: rest)) (hd : d.isDigit = true)
    (hbase : ∀ more, text ≠ '0' :: more) :
    readNumeral text = readDecimal negative (d :: rest) := by
  have hi := ne_of_test hd (show 'i'.isDigit = false from rfl)
  have hn := ne_of_test hd (show 'n'.isDigit = false from rfl)
  unfold readNumeral
  split
  · exact absurd rfl (hbase _)
  · exact absurd rfl (hbase _)
  · exact absurd rfl (hbase _)
  · rw [hsign]
    split
    · next hword => exact absurd (List.cons.inj (Prod.mk.inj hword).2).1 hi
    · next hword => exact absurd (List.cons.inj (Prod.mk.inj hword).2).1 hn
    · next hword =>
      obtain ⟨rfl, rfl⟩ := Prod.mk.inj hword
      rfl

theorem finishDecimal_natAbs {value : Int} (h : inRange value = true) :
    finishDecimal (value < 0) value.natAbs none none = some (.int value) := by
  have hvalue : (if decide (value < 0) then -(value.natAbs : Int) else value.natAbs) = value := by
    simp only [decide_eq_true_eq]
    omega
  simp only [finishDecimal, Option.isNone_none, Bool.and_self, if_true, hvalue, h]

theorem readNumeral_toString {value : Int} (h : inRange value = true) (rest : List Char) :
    readNumeral ((toString value).toList ++ '\n' :: rest) =
      some (.int value, '\n' :: rest) := by
  obtain ⟨d, ds, hds, hdigits, hzero⟩ := SearchClient.Text.exists_toDigits value.natAbs
  have hdigit : d.isDigit = true := hdigits d List.mem_cons_self
  have hread := readDecimal_toDigits (value < 0) value.natAbs rest
  rw [finishDecimal_natAbs h, Option.map_some, hds] at hread
  rw [SearchClient.Text.toList_toString, hds]
  split
  · next hneg =>
    rw [decide_eq_true hneg] at hread
    refine (readNumeral_of_readSign rfl hdigit ?_).trans hread
    exact fun more hmore => nomatch (List.cons.inj hmore).1
  · next hpos =>
    by_cases hd : d = '0'
    · obtain ⟨hnone, rfl⟩ := hzero hd
      obtain rfl : value = 0 := by omega
      rw [hd]
      rfl
    · rw [decide_eq_false hpos] at hread
      refine (readNumeral_of_readSign (readSign_of_isDigit hdigit _) hdigit ?_).trans hread
      exact fun more hmore => hd (List.cons.inj hmore).1

/-! ## Neither dates nor times -/

/-- What is read as a number does not reach past the end of the line. -/
theorem readFixed_line {ds rest text : List Char} {width low high n : Nat}
    (h : readFixed width low high (ds ++ '\n' :: rest) = some (n, text)) :
    (∀ c ∈ ds.take width, digitBelow? 10 c ≠ none) ∧
      text = ds.drop width ++ '\n' :: rest := by
  unfold readFixed at h
  simp only at h
  split at h
  · split at h
    · next hdigits =>
      split at h
      · have hall := ne_none_of_foldlM hdigits
        have hle : width ≤ ds.length := by
          -- otherwise the line end would be among the digits
          refine Nat.le_of_not_lt fun hlt => ?_
          refine hall '\n' ?_ rfl
          rw [List.take_append, List.mem_append]
          obtain ⟨k, hk⟩ := Nat.exists_eq_add_of_lt hlt
          rw [show width - ds.length = k + 1 by omega, List.take_succ_cons]
          exact .inr List.mem_cons_self
        rw [List.take_append_of_le_length hle] at hall
        obtain ⟨-, rfl⟩ := Prod.mk.inj (Option.some.inj h)
        exact ⟨hall, List.drop_append_of_le_length hle⟩
      · contradiction
    · contradiction
  · contradiction

theorem expect?_line {c : Char} (hc : c.isDigit = false) (hline : c ≠ '\n')
    (h : ∀ d ∈ ds, d.isDigit = true) (rest : List Char) :
    expect? c (ds ++ '\n' :: rest) = none := by
  cases ds with
  | nil => exact if_neg hline
  | cons d ds => exact if_neg (Ne.symm (ne_of_test (h d List.mem_cons_self) hc))

theorem readFixed_toString {value : Int} {rest text : List Char} {width low high n : Nat}
    (hwidth : 0 < width)
    (h : readFixed width low high ((toString value).toList ++ '\n' :: rest) =
      some (n, text)) :
    ∃ ds, (∀ d ∈ ds, d.isDigit = true) ∧ text = ds ++ '\n' :: rest := by
  obtain ⟨hdigits, rfl⟩ := readFixed_line h
  refine ⟨_, fun d hd => ?_, rfl⟩
  rw [SearchClient.Text.toList_toString] at hdigits hd
  split at hdigits
  · obtain ⟨k, rfl⟩ := Nat.exists_eq_add_of_lt hwidth
    exact absurd rfl (hdigits '-' (by simp))
  · next hpos =>
    rw [if_neg hpos] at hd
    exact Nat.isDigit_of_mem_toDigits (by decide) (by decide) (List.mem_of_mem_drop hd)

/-- An integer is no beginning of a date or a time. -/
theorem readDateTime_toString (value : Int) (rest : List Char) :
    readDateTime ((toString value).toList ++ '\n' :: rest) = none := by
  have hdate : skipDate ((toString value).toList ++ '\n' :: rest) = none := by
    rw [skipDate]
    cases hread : readFixed 4 0 9999 ((toString value).toList ++ '\n' :: rest) with
    | none => rfl
    | some year =>
        obtain ⟨ds, hds, htext⟩ := readFixed_toString (by decide) hread
        have hnone := expect?_line (show '-'.isDigit = false from rfl) (by decide) hds rest
        simp [htext, hnone]
  have htime : skipTime ((toString value).toList ++ '\n' :: rest) = none := by
    rw [skipTime]
    cases hread : readFixed 2 0 23 ((toString value).toList ++ '\n' :: rest) with
    | none => rfl
    | some hour =>
        obtain ⟨ds, hds, htext⟩ := readFixed_toString (by decide) hread
        have hnone := expect?_line (show ':'.isDigit = false from rfl) (by decide) hds rest
        simp [htext, hnone]
  rw [readDateTime, skipDateTime, hdate, htime, Option.map_none]

end SearchClient.Toml

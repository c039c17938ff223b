import SearchClient.Toml.Text

/-!
# Strings read back

A string is read back from whichever form it is printed in.  Each reader takes
one printed character at a time with the rest of the text open; a form over
several lines has to tell the quotes of the text from the closing three.
-/

namespace SearchClient.Toml.Text

@[simp] theorem cons?_some (c : Char) (text rest : List Char) :
    cons? (some c) (some (text, rest)) = some (c :: text, rest) := rfl

theorem isPlain_of_not_isControl {c : Char} (h : isControl c = false) :
    isPlain c = true := by
  simp [isPlain, h]

/-! ## Escapes -/

theorem hexValue?_hexDigit : ∀ n < 16, hexValue? (hexDigit n) = some n := by
  decide

theorem codePoint?_of_isControl {c : Char} (h : isControl c = true) :
    codePoint? ['0', '0', hexDigit (c.toNat / 16), hexDigit (c.toNat % 16)] = some c := by
  have hlt : c.toNat < 0x80 := by
    simp only [isControl, Bool.or_eq_true, decide_eq_true_eq] at h
    omega
  have hvalid : Nat.isValidChar c.toNat := .inl (by omega)
  have hhigh := hexValue?_hexDigit (c.toNat / 16) (by omega)
  have hlow := hexValue?_hexDigit (c.toNat % 16) (by omega)
  have hzero : hexValue? '0' = some 0 := rfl
  have hsum : 16 * (c.toNat / 16) + c.toNat % 16 = c.toNat := Nat.div_add_mod _ _
  simp [codePoint?, hhigh, hlow, hzero, hsum, hvalid, Char.ofNat_toNat]

/-- The ways to write a character with a backslash. -/
inductive Escape (c : Char) : List Char → Prop where
  | short (d : Char) (h : escaped? d = some c) : Escape c ['\\', d]
  | code (a b : Char) (h : codePoint? ['0', '0', a, b] = some c) :
      Escape c ['\\', 'u', '0', '0', a, b]

/-- A character is escaped or stands for itself. -/
theorem escapeChar_cases (c : Char) :
    Escape c (escapeChar c) ∨
      escapeChar c = [c] ∧ c ≠ '"' ∧ c ≠ '\\' ∧ isPlain c = true := by
  unfold escapeChar
  split
  case h_8 hquote hslash =>
    split
    · next hcontrol => exact .inl (.code _ _ (codePoint?_of_isControl hcontrol))
    · next hcontrol =>
      exact .inr ⟨rfl, hquote, hslash, isPlain_of_not_isControl (by simpa using hcontrol)⟩
  all_goals exact .inl (.short _ rfl)

theorem Escape.exists_eq {c : Char} {shown : List Char} (h : Escape c shown) :
    ∃ rest, shown = '\\' :: rest := by
  cases h with
  | short d => exact ⟨_, rfl⟩
  | code a b => exact ⟨_, rfl⟩

/-- What stands for a character does not look like a quote or a line end. -/
theorem escapeChar_head (c : Char) :
    ∃ d rest, escapeChar c = d :: rest ∧ d ≠ '"' ∧ d ≠ '\n' ∧ d ≠ '\r' := by
  rcases escapeChar_cases c with hescape | ⟨hself, hquote, -, hplain⟩
  · obtain ⟨rest, hrest⟩ := hescape.exists_eq
    exact ⟨_, rest, hrest, by decide, by decide, by decide⟩
  · refine ⟨c, [], hself, hquote, ?_, ?_⟩
    · rintro rfl
      contradiction
    · rintro rfl
      contradiction

theorem ne_of_escaped? {c d : Char} (h : escaped? d = some c) : d ≠ 'u' ∧ d ≠ 'U' := by
  constructor
  · rintro rfl
    contradiction
  · rintro rfl
    contradiction

theorem not_startsLine_of_escaped? {c d : Char} (h : escaped? d = some c)
    (rest : List Char) : startsLine ((d :: rest).dropWhile isBlank) = false := by
  unfold escaped? at h
  split at h
  all_goals first | rfl | contradiction

/-! ## On one line -/

theorem readBasic_escape {c : Char} {shown : List Char} (h : Escape c shown)
    (rest : List Char) : readBasic (shown ++ rest) = cons? (some c) (readBasic rest) := by
  cases h with
  | short d h =>
      obtain ⟨hu, hU⟩ := ne_of_escaped? h
      simp [readBasic, hu, hU, h]
  | code a b h => simp [readBasic, h]

theorem readBasic_plain {c : Char} (hquote : c ≠ '"') (hslash : c ≠ '\\')
    (hplain : isPlain c = true) (rest : List Char) :
    readBasic (c :: rest) = cons? (some c) (readBasic rest) := by
  simp [readBasic, hslash, hplain]

theorem readBasic_encodeBasic (text rest : List Char) :
    readBasic (encodeBasic text ++ '"' :: rest) = some (text, rest) := by
  induction text with
  | nil => rfl
  | cons c text ih =>
      have hstep : readBasic (escapeChar c ++ (encodeBasic text ++ '"' :: rest)) =
          cons? (some c) (readBasic (encodeBasic text ++ '"' :: rest)) := by
        rcases escapeChar_cases c with hescape | ⟨hself, hquote, hslash, hplain⟩
        · exact readBasic_escape hescape _
        · rw [hself]
          exact readBasic_plain hquote hslash hplain _
      rw [encodeBasic, List.flatMap_cons, List.append_assoc]
      exact hstep.trans (by rw [ih, cons?_some])

theorem readLiteral_plain {c : Char} (hquote : c ≠ '\'') (hplain : isPlain c = true)
    (rest : List Char) : readLiteral (c :: rest) = cons? (some c) (readLiteral rest) := by
  simp [readLiteral, hplain]

theorem readLiteral_text {text : List Char}
    (h : ∀ c ∈ text, c ≠ '\'' ∧ isPlain c = true) (rest : List Char) :
    readLiteral (text ++ '\'' :: rest) = some (text, rest) := by
  induction text with
  | nil => rfl
  | cons c text ih =>
      rw [List.forall_mem_cons] at h
      rw [List.cons_append, readLiteral_plain h.1.1 h.1.2, ih h.2, cons?_some]

/-! ## Over several lines -/

theorem readMultilineBasic_escape {c : Char} {shown : List Char} (h : Escape c shown)
    (rest : List Char) :
    readMultilineBasic false (shown ++ rest) =
      cons? (some c) (readMultilineBasic false rest) := by
  cases h with
  | short d h =>
      obtain ⟨hu, hU⟩ := ne_of_escaped? h
      have hline := not_startsLine_of_escaped? h rest
      simp [readMultilineBasic, hu, hU, h, hline]
  | code a b h => simp [readMultilineBasic, h]

theorem readMultilineBasic_plain {c : Char} (hquote : c ≠ '"') (hslash : c ≠ '\\')
    (hplain : c = '\n' ∨ isPlain c = true) (rest : List Char) :
    readMultilineBasic false (c :: rest) =
      cons? (some c) (readMultilineBasic false rest) := by
  have hreturn : c ≠ '\r' := by
    rintro rfl
    simp at hplain
    contradiction
  simp [readMultilineBasic, hquote, hslash, hreturn, hplain]

/-- A quote is not the first of the closing three when no two follow it. -/
theorem readMultilineBasic_quote {rest : List Char}
    (h : ∀ more, rest ≠ '"' :: '"' :: more) :
    readMultilineBasic false ('"' :: rest) =
      cons? (some '"') (readMultilineBasic false rest) := by
  have hplain : isPlain '"' = true := rfl
  simp [readMultilineBasic, h, hplain]

theorem readMultilineLiteral_quote {rest : List Char}
    (h : ∀ more, rest ≠ '\'' :: '\'' :: more) :
    readMultilineLiteral ('\'' :: rest) =
      cons? (some '\'') (readMultilineLiteral rest) := by
  have hplain : isPlain '\'' = true := rfl
  simp [readMultilineLiteral, h, hplain]

theorem readMultilineLiteral_plain {c : Char} (hquote : c ≠ '\'')
    (hplain : c = '\n' ∨ isPlain c = true) (rest : List Char) :
    readMultilineLiteral (c :: rest) = cons? (some c) (readMultilineLiteral rest) := by
  have hreturn : c ≠ '\r' := by
    rintro rfl
    simp at hplain
    contradiction
  simp [readMultilineLiteral, hquote, hreturn, hplain]

theorem readMultilineBasic_close (rest : List Char) :
    readMultilineBasic false (tripleDouble ++ '\n' :: rest) = some ([], '\n' :: rest) := by
  cases rest <;> rfl

theorem readMultilineLiteral_close (rest : List Char) :
    readMultilineLiteral (tripleSingle ++ '\n' :: rest) = some ([], '\n' :: rest) := by
  cases rest <;> rfl

/-- Only the end of the text lets two of the closing quotes follow one of its
own. -/
theorem encodeMultilineBasic_quotes {run : Nat} {text rest more : List Char}
    (h : encodeMultilineBasic (run + 1) text ++ rest = '"' :: '"' :: more) :
    text = [] ∨ run = 0 ∧ text = ['"'] := by
  cases text with
  | nil => exact .inl rfl
  | cons c text =>
      refine .inr ?_
      rw [encodeMultilineBasic] at h
      split at h
      · next hline => simp [hline] at h
      split at h
      · next hquote =>
        simp only [Bool.and_eq_true, decide_eq_true_eq] at hquote
        obtain ⟨rfl, hrun⟩ := hquote
        obtain rfl : run = 0 := by omega
        rw [List.cons_append, List.cons.injEq] at h
        cases text with
        | nil => exact ⟨rfl, rfl⟩
        | cons d text =>
            rw [encodeMultilineBasic] at h
            split at h
            · next hline => simp [hline] at h
            · obtain ⟨first, shown, hshown, hquote, -⟩ := escapeChar_head d
              rw [if_neg (by simp), hshown] at h
              exact absurd (List.cons.inj h.2).1 hquote
      · obtain ⟨first, shown, hshown, hquote, -⟩ := escapeChar_head c
        rw [hshown] at h
        exact absurd (List.cons.inj h).1 hquote

theorem readMultilineBasic_encode (text rest : List Char) (run : Nat) :
    readMultilineBasic false
        (encodeMultilineBasic run text ++ (tripleDouble ++ '\n' :: rest)) =
      some (text, '\n' :: rest) := by
  induction text generalizing run with
  | nil => exact readMultilineBasic_close rest
  | cons c text ih =>
      rw [encodeMultilineBasic]
      split
      · next hline =>
        subst hline
        rw [List.cons_append, readMultilineBasic_plain (by decide) (by decide) (.inl rfl), ih,
          cons?_some]
      split
      · next hquote =>
        simp only [Bool.and_eq_true, decide_eq_true_eq] at hquote
        obtain ⟨rfl, -⟩ := hquote
        -- a quote that ends the text is read together with the closing three
        by_cases hend : text = [] ∨ run = 0 ∧ text = ['"']
        · rcases hend with rfl | ⟨rfl, rfl⟩ <;> rfl
        · rw [List.cons_append, readMultilineBasic_quote, ih, cons?_some]
          exact fun more hmore => hend (encodeMultilineBasic_quotes hmore)
      · rw [List.append_assoc]
        rcases escapeChar_cases c with hescape | ⟨hself, hquote, hslash, hplain⟩
        · rw [readMultilineBasic_escape hescape, ih, cons?_some]
        · rw [hself, List.singleton_append,
            readMultilineBasic_plain hquote hslash (.inr hplain), ih, cons?_some]

theorem le_longestRun (quote : Char) (run best : Nat) (text : List Char) :
    best ≤ longestRun quote run best text := by
  induction text generalizing run best with
  | nil => exact Nat.le_refl best
  | cons c text ih =>
      rw [longestRun]
      split
      · exact Nat.le_trans (Nat.le_max_left ..) (ih ..)
      · exact ih ..

theorem longestRun_quote {quote : Char} {run best bound : Nat} {text : List Char}
    (h : longestRun quote run best (quote :: text) ≤ bound) :
    longestRun quote (run + 1) (max best (run + 1)) text ≤ bound ∧ run < bound := by
  rw [longestRun, if_pos rfl] at h
  have hbest := le_longestRun quote (run + 1) (max best (run + 1)) text
  omega

theorem readMultilineLiteral_text {text : List Char} {run best : Nat}
    (hplain : ∀ c ∈ text, c = '\n' ∨ isPlain c = true)
    (hrun : longestRun '\'' run best text ≤ 2) (rest : List Char) :
    readMultilineLiteral (text ++ (tripleSingle ++ '\n' :: rest)) =
      some (text, '\n' :: rest) := by
  induction text generalizing run best with
  | nil => exact readMultilineLiteral_close rest
  | cons c text ih =>
      rw [List.forall_mem_cons] at hplain
      by_cases hquote : c = '\''
      · subst hquote
        obtain ⟨hrest, hlt⟩ := longestRun_quote hrun
        by_cases hend : text = [] ∨ text = ['\'']
        · rcases hend with rfl | rfl <;> rfl
        · rw [List.cons_append, readMultilineLiteral_quote, ih hplain.2 hrest, cons?_some]
          intro more hmore
          -- with two more quotes of its own, the text would have a run of three
          match text with
          | [] => exact hend (.inl rfl)
          | [d] => simp_all
          | d :: e :: text =>
              simp only [List.cons_append, List.cons.injEq] at hmore
              obtain ⟨rfl, rfl, -⟩ := hmore
              obtain ⟨hrest, -⟩ := longestRun_quote hrest
              obtain ⟨-, hthree⟩ := longestRun_quote hrest
              omega
      · have hnext : longestRun '\'' 0 best text ≤ 2 := by
          rwa [longestRun, if_neg hquote] at hrun
        rw [List.cons_append, readMultilineLiteral_plain hquote hplain.1,
          ih hplain.2 hnext, cons?_some]

/-! ## In any form -/

theorem not_mem_of_longestRun {quote : Char} {run best : Nat} {text : List Char}
    (h : longestRun quote run best text = 0) : quote ∉ text := by
  induction text generalizing run best with
  | nil => exact List.not_mem_nil
  | cons c text ih =>
      rw [List.mem_cons, not_or]
      by_cases hquote : c = quote
      · subst hquote
        have hlt := (longestRun_quote (Nat.le_of_eq h)).2
        omega
      · rw [longestRun, if_neg hquote] at h
        exact ⟨Ne.symm hquote, ih h⟩

theorem plain_of_needsEscape {text : List Char} (h : needsEscape text = false) :
    ∀ c ∈ text, c = '\n' ∨ isPlain c = true := by
  intro c hc
  have hnone := List.any_eq_false.1 h c hc
  by_cases hline : c = '\n'
  · exact .inl hline
  · simpa [hline] using hnone

theorem literal_of_form {text : List Char} (h : form text = .literal) :
    ∀ c ∈ text, c ≠ '\'' ∧ isPlain c = true := by
  obtain ⟨hescape, hline, hrun⟩ : needsEscape text = false ∧
      text.contains '\n' = false ∧ longestRun '\'' 0 0 text = 0 := by
    unfold form at h
    grind
  intro c hc
  have hne : c ≠ '\n' := by
    rintro rfl
    rw [List.contains_iff_mem.2 hc] at hline
    contradiction
  refine ⟨?_, (plain_of_needsEscape hescape c hc).resolve_left hne⟩
  rintro rfl
  exact not_mem_of_longestRun hrun hc

theorem multilineLiteral_of_form {text : List Char}
    (h : form text = .multilineLiteral) :
    (∀ c ∈ text, c = '\n' ∨ isPlain c = true) ∧ longestRun '\'' 0 0 text ≤ 2 := by
  obtain ⟨hescape, hrun⟩ : needsEscape text = false ∧
      longestRun '\'' 0 0 text ≤ 2 := by
    unfold form at h
    grind
  exact ⟨plain_of_needsEscape hescape, hrun⟩

theorem read?_basic {text : List Char} (h : ∀ more, text ≠ '"' :: '"' :: more) :
    read? ('"' :: text) = readBasic text := by
  simp [read?]

theorem read?_literal {text : List Char} (h : ∀ more, text ≠ '\'' :: '\'' :: more) :
    read? ('\'' :: text) = readLiteral text := by
  simp [read?]

theorem dropLineEnd_of_ne {c : Char} {text : List Char} (hline : c ≠ '\n')
    (hreturn : c ≠ '\r') : dropLineEnd (c :: text) = c :: text := by
  simp [dropLineEnd, hline, hreturn]

theorem dropLineEnd_opening {text shown : List Char}
    (h : '\n' ∉ text → dropLineEnd shown = shown) :
    dropLineEnd (opening text ++ shown) = shown := by
  rw [opening]
  split
  · rfl
  · next hline => exact h (by simpa using hline)

theorem dropLineEnd_encodeMultilineBasic {text : List Char} (h : '\n' ∉ text)
    (rest : List Char) :
    dropLineEnd (encodeMultilineBasic 0 text ++ (tripleDouble ++ rest)) =
      encodeMultilineBasic 0 text ++ (tripleDouble ++ rest) := by
  cases text with
  | nil => rfl
  | cons c text =>
      rw [List.mem_cons, not_or] at h
      rw [encodeMultilineBasic, if_neg (Ne.symm h.1)]
      split
      · next hquote =>
        simp only [Bool.and_eq_true, decide_eq_true_eq] at hquote
        obtain ⟨rfl, -⟩ := hquote
        rfl
      · obtain ⟨first, shown, hshown, -, hline, hreturn⟩ := escapeChar_head c
        rw [hshown]
        exact dropLineEnd_of_ne hline hreturn

theorem dropLineEnd_text {text : List Char} (h : '\n' ∉ text)
    (hplain : ∀ c ∈ text, c = '\n' ∨ isPlain c = true) (rest : List Char) :
    dropLineEnd (text ++ (tripleSingle ++ rest)) = text ++ (tripleSingle ++ rest) := by
  cases text with
  | nil => rfl
  | cons c text =>
      rw [List.mem_cons, not_or] at h
      rw [List.forall_mem_cons] at hplain
      refine dropLineEnd_of_ne (Ne.symm h.1) ?_
      rintro rfl
      simp at hplain
      exact nomatch hplain.1

/-- A text is read back from its printed form. -/
theorem read?_encode (text rest : List Char) :
    read? (encode text ++ '\n' :: rest) = some (text, '\n' :: rest) := by
  unfold encode
  cases hform : form text with
  | basic =>
      simp only [List.cons_append, List.append_assoc, List.nil_append]
      rw [read?_basic, readBasic_encodeBasic]
      intro more hmore
      cases text with
      | nil => simp [encodeBasic] at hmore
      | cons c text =>
          obtain ⟨first, shown, hshown, hquote, -⟩ := escapeChar_head c
          rw [encodeBasic, List.flatMap_cons, hshown] at hmore
          exact hquote (List.cons.inj hmore).1
  | literal =>
      have hplain := literal_of_form hform
      simp only [List.cons_append, List.append_assoc, List.nil_append]
      rw [read?_literal, readLiteral_text hplain]
      intro more hmore
      cases text with
      | nil => simp at hmore
      | cons c text =>
          exact (hplain c List.mem_cons_self).1 (List.cons.inj hmore).1
  | multilineBasic =>
      simp only [List.append_assoc]
      refine Eq.trans (congrArg (readMultilineBasic false) ?_)
        (readMultilineBasic_encode text rest 0)
      exact dropLineEnd_opening fun hline => dropLineEnd_encodeMultilineBasic hline _
  | multilineLiteral =>
      obtain ⟨hplain, hrun⟩ := multilineLiteral_of_form hform
      simp only [List.append_assoc]
      refine Eq.trans (congrArg readMultilineLiteral ?_)
        (readMultilineLiteral_text hplain hrun rest)
      exact dropLineEnd_opening fun hline => dropLineEnd_text hline hplain _

end SearchClient.Toml.Text

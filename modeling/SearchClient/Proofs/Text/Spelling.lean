import Mathlib.Data.List.TakeWhile
import SearchClient.Text.Blank
import SearchClient.Text.Lowercase

/-!
# Case and white space

Trimming takes the white space off both ends of a text and nothing else.  A
character beyond ASCII has a lower case beyond ASCII, but for the Kelvin sign,
whose lower case is k.  So a text of ASCII characters without a k is the lower
case of those texts only that differ from it in the case of ASCII letters.
-/

namespace SearchClient.Text

/-! ## White space -/

/-- Neither end of the text is white space. -/
structure IsTrimmed (text : List Char) : Prop where
  first : ∀ c ∈ text.head?, isBlank c = false
  last : ∀ c ∈ text.getLast?, isBlank c = false

theorem dropWhile_blanks_append {before text : List Char}
    (hbefore : ∀ c ∈ before, isBlank c = true)
    (htext : ∀ c ∈ text.head?, isBlank c = false) :
    (before ++ text).dropWhile isBlank = text := by
  rw [List.dropWhile_append_of_pos hbefore]
  cases text with
  | nil => rfl
  | cons c text => exact List.dropWhile_cons_of_neg (by simp [htext c rfl])

theorem exists_blanks_append (text : List Char) :
    ∃ before, text = before ++ text.dropWhile isBlank ∧
      ∀ c ∈ before, isBlank c = true :=
  ⟨text.takeWhile isBlank, List.takeWhile_append_dropWhile.symm,
    fun _ => List.mem_takeWhile_imp⟩

/-- What trimming leaves is the text without the white space around it. -/
theorem trimChars_eq_iff {text word : List Char} (h : IsTrimmed word) :
    trimChars text = word ↔
      ∃ before after, text = before ++ word ++ after ∧
        ∀ c ∈ before ++ after, isBlank c = true := by
  constructor
  · rintro rfl
    obtain ⟨before, htext, hbefore⟩ := exists_blanks_append text
    obtain ⟨after, hrest, hafter⟩ :=
      exists_blanks_append (text.dropWhile isBlank).reverse
    refine ⟨before, after.reverse, ?_, ?_⟩
    · have hsplit := congrArg List.reverse hrest
      rw [List.reverse_reverse, List.reverse_append] at hsplit
      rw [List.append_assoc, trimChars, ← hsplit, ← htext]
    · simpa [or_imp, forall_and] using ⟨hbefore, hafter⟩
  · rintro ⟨before, after, rfl, hblank⟩
    rw [List.forall_mem_append] at hblank
    have hlast : ∀ c ∈ word.reverse.head?, isBlank c = false := by
      simpa using h.last
    rw [trimChars, List.append_assoc]
    cases word with
    | nil =>
        have hnone : (before ++ ([] ++ after)).dropWhile isBlank = [] := by
          rw [List.dropWhile_eq_nil_iff]
          exact List.forall_mem_append.2 hblank
        rw [hnone]
        rfl
    | cons c word =>
        rw [dropWhile_blanks_append hblank.1 (by simpa using h.first),
          List.reverse_append,
          dropWhile_blanks_append (by simpa using hblank.2) hlast,
          List.reverse_reverse]

/-! ## Lower case -/

theorem toLower_of_not_upper {c : Char}
    (h : ¬(0x41 ≤ c.toNat ∧ c.toNat ≤ 0x5A)) : c.toLower = c := by
  unfold Char.toLower
  split
  · next hupper => exact absurd hupper h
  · rfl

theorem toLower_of_not_ascii {c : Char} (h : 0x80 ≤ c.toNat) : c.toLower = c :=
  toLower_of_not_upper (by omega)

theorem toLower_of_isBlank {c : Char} (h : isBlank c = true) : c.toLower = c := by
  apply toLower_of_not_upper
  simp only [isBlank, CharRanges.contains, blanks, List.any_cons, List.any_nil,
    Bool.or_eq_true, Bool.and_eq_true, decide_eq_true_eq, Bool.false_eq_true,
    or_false] at h
  omega

/-- Where the runs of the table lead: the capital letters of ASCII to the small
ones, the Kelvin sign to k, and all others to characters beyond ASCII. -/
theorem loweringRuns_leads :
    loweringRuns.all (fun (first, last, _, offset) =>
      (last : Int) ≤ 0x5A ||
        (first = 0x212A && last = 0x212A && offset = -8383) ||
        (0x80 ≤ first + offset && last + offset < 0xD800) ||
        (0xE000 ≤ first + offset && last + offset < 0x110000)) = true := by
  decide +kernel

theorem lowerCodePoint_of_not_ascii {n : Nat} (h : 0x80 ≤ n)
    (hvalid : n.isValidChar) :
    lowerCodePoint n = 0x6B ∨
      0x80 ≤ lowerCodePoint n ∧ (lowerCodePoint n).isValidChar := by
  unfold lowerCodePoint
  split
  · next first last step offset hfind =>
    have hleads := List.all_eq_true.1 loweringRuns_leads _
      (List.mem_of_find?_eq_some hfind)
    have hrange := List.find?_some hfind
    simp only [Bool.and_eq_true, Bool.or_eq_true, decide_eq_true_eq] at hleads hrange
    unfold Nat.isValidChar
    omega
  · exact .inr ⟨h, hvalid⟩

/-- Only the first run of the table is in ASCII. -/
theorem loweringRuns_eq_cons :
    ∃ others, loweringRuns = (0x41, 0x5A, 1, 32) :: others ∧
      others.all (fun run => 0x80 ≤ run.1) = true :=
  ⟨_, rfl, by decide +kernel⟩

theorem lowerCodePoint_ascii {n : Nat} (h : n < 0x80) :
    lowerCodePoint n = if 0x41 ≤ n ∧ n ≤ 0x5A then n + 32 else n := by
  obtain ⟨others, hruns, hothers⟩ := loweringRuns_eq_cons
  have hnone : others.find? (fun (first, last, step, _) =>
      first ≤ n && n ≤ last && (n - first) % step = 0) = none := by
    refine List.find?_eq_none.2 fun run hrun => ?_
    have hbeyond := List.all_eq_true.1 hothers run hrun
    simp only [decide_eq_true_eq] at hbeyond
    simp [Nat.not_le.2 (Nat.lt_of_lt_of_le h hbeyond)]
  unfold lowerCodePoint
  rw [hruns, List.find?_cons, hnone]
  by_cases hletter : 0x41 ≤ n ∧ n ≤ 0x5A
  · simp only [hletter, Nat.mod_one, decide_true, Bool.and_self, and_self, if_true]
    omega
  · have hfirst : (decide (0x41 ≤ n) && decide (n ≤ 0x5A)) = false := by
      simpa using hletter
    simp only [hfirst, Bool.false_and, if_neg hletter]

theorem lowerChar_upper : ∀ n < 0x5B, 0x41 ≤ n →
    Char.ofNat (n + 32) = (Char.ofNat n).toLower := by decide

theorem lowerChar_ascii {c : Char} (h : c.toNat < 0x80) :
    lowerChar c = [c.toLower] := by
  have hdot : c ≠ '\u0130' := by
    rintro rfl
    exact absurd h (by decide)
  rw [lowerChar, if_neg hdot, lowerCodePoint_ascii h]
  split
  · next hupper =>
    rw [lowerChar_upper c.toNat (by omega) hupper.1, Char.ofNat_toNat]
  · next hnot => rw [Char.ofNat_toNat, toLower_of_not_upper hnot]

theorem lowercaseAfter_of_ascii {c : Char} (h : c.toNat < 0x80)
    (before rest : List Char) :
    lowercaseAfter before (c :: rest) =
      c.toLower :: lowercaseAfter (c :: before) rest := by
  have hsigma : c ≠ '\u03A3' := by
    rintro rfl
    exact absurd h (by decide)
  rw [lowercaseAfter, if_neg hsigma, lowerChar_ascii h]
  rfl

/-- An ASCII character that is the lower case of ASCII characters only. -/
def IsPlainAscii (c : Char) : Prop := c.toNat < 0x80 ∧ c ≠ 'k'

theorem exists_mem_lowerChar {c : Char} (h : 0x80 ≤ c.toNat) :
    ∃ d ∈ lowerChar c, ¬IsPlainAscii d := by
  unfold lowerChar
  split
  · exact ⟨'\u0307', by simp, by simp [IsPlainAscii]⟩
  · refine ⟨_, List.mem_singleton_self _, ?_⟩
    rcases lowerCodePoint_of_not_ascii h c.valid with hk | ⟨hle, hvalid⟩
    · rw [hk]
      simp [IsPlainAscii]
    · rw [Char.ofNat, dif_pos hvalid]
      exact fun hplain => Nat.not_lt.2 hle hplain.1

theorem exists_mem_lowercaseAfter {c : Char} (h : 0x80 ≤ c.toNat)
    (before rest : List Char) :
    ∃ d ∈ lowercaseAfter before (c :: rest), ¬IsPlainAscii d := by
  rw [lowercaseAfter]
  split
  · -- a capital sigma has two lower cases, neither of them in ASCII
    refine ⟨_, List.mem_append_left _ (List.mem_singleton_self _), ?_⟩
    split <;> simp [IsPlainAscii]
  · obtain ⟨d, hmem, hd⟩ := exists_mem_lowerChar h
    exact ⟨d, List.mem_append_left _ hmem, hd⟩

/-- A plain word is the lower case of the texts that differ from it in the case
of ASCII letters, and of no others. -/
theorem lowercaseAfter_eq_iff {word : List Char} (h : ∀ c ∈ word, IsPlainAscii c)
    (before text : List Char) :
    lowercaseAfter before text = word ↔ text.map Char.toLower = word := by
  induction text generalizing before word with
  | nil => rfl
  | cons c text ih =>
      rcases Nat.lt_or_ge c.toNat 0x80 with hascii | hbeyond
      · rw [lowercaseAfter_of_ascii hascii, List.map_cons]
        cases word with
        | nil => simp
        | cons d word =>
            rw [List.cons.injEq, List.cons.injEq, ih (List.forall_mem_cons.1 h).2]
      · constructor
        · rintro rfl
          obtain ⟨d, hmem, hd⟩ := exists_mem_lowercaseAfter hbeyond before text
          exact absurd (h d hmem) hd
        · rintro rfl
          have hplain := h c.toLower (by simp)
          rw [toLower_of_not_ascii hbeyond] at hplain
          exact absurd hplain.1 (Nat.not_lt.2 hbeyond)

/-! ## Words in white space -/

theorem IsTrimmed.of_map_toLower {word : List Char}
    (h : IsTrimmed (word.map Char.toLower)) : IsTrimmed word := by
  have hblank : ∀ c : Char, isBlank c.toLower = false → isBlank c = false := by
    intro c hc
    by_contra hnot
    rw [Bool.not_eq_false] at hnot
    rw [toLower_of_isBlank hnot, hnot] at hc
    contradiction
  constructor
  · intro c hc
    exact hblank c (h.first c.toLower (by simp [Option.mem_def.1 hc]))
  · intro c hc
    exact hblank c (h.last c.toLower (by simp [Option.mem_def.1 hc]))

/-- The texts that are a plain name once they are trimmed and in lower case. -/
theorem lowercase_trim_eq_iff {text name : String}
    (hplain : ∀ c ∈ name.toList, IsPlainAscii c) (htrimmed : IsTrimmed name.toList) :
    lowercase (trim text) = name ↔
      ∃ before word after, text.toList = before ++ word ++ after ∧
        (∀ c ∈ before ++ after, isBlank c = true) ∧
        word.map Char.toLower = name.toList := by
  have hlower : lowercase (trim text) = name ↔
      (trimChars text.toList).map Char.toLower = name.toList := by
    rw [← lowercaseAfter_eq_iff hplain [], ← String.toList_inj, lowercase,
      String.toList_ofList, trim, String.toList_ofList]
  rw [hlower]
  constructor
  · intro hname
    have hword : IsTrimmed (trimChars text.toList) := .of_map_toLower (hname ▸ htrimmed)
    obtain ⟨before, after, htext, hblank⟩ := (trimChars_eq_iff hword).1 rfl
    exact ⟨before, _, after, htext, hblank, hname⟩
  · rintro ⟨before, word, after, htext, hblank, hname⟩
    have hword : IsTrimmed word := .of_map_toLower (hname ▸ htrimmed)
    rw [(trimChars_eq_iff hword).2 ⟨before, after, htext, hblank⟩, hname]

end SearchClient.Text

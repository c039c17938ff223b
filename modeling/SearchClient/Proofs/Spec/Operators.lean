import SearchClient.Proofs.Entries
import SearchClient.Proofs.Text.Spelling
import SearchClient.Spec.FilterOp

/-!
# Spellings of operators

A token is read as an operator exactly when it is a name of the operator, in any
case of its letters and with any white space around it.  Every other token is
kept as it is.  The token of an operator is read as that operator again.
-/

namespace SearchClient.FilterOp

variable {text : String} {op : FilterOp}

/-- The names of the operators, of which one has two. -/
def names : Entries FilterOp := [
  ("between", .between), ("not_between", .notBetween), (">", .greater), ("<", .less),
  ("=", .equal), ("!=", .notEqual), ("in", .oneOf), ("not in", .noneOf),
  ("not_in", .noneOf)]

def isSupported : FilterOp → Bool
  | .unsupported _ => false
  | _ => true

/-- The text is a name of the operator, up to the case of ASCII letters and white
space around it. -/
def IsSpelled (op : FilterOp) (text : String) : Prop :=
  ∃ name, (name, op) ∈ names ∧
    ∃ before word after, text.toList = before ++ word ++ after ∧
      (∀ c ∈ before ++ after, Text.isBlank c = true) ∧
      word.map Char.toLower = name.toList

/-! ## Names -/

theorem nodup_names : names.keys.Nodup := by decide

theorem isSupported_of_mem_names : ∀ entry ∈ names, entry.2.isSupported = true := by
  decide

theorem plain_of_mem_names :
    ∀ entry ∈ names, ∀ c ∈ entry.1.toList, Text.IsPlainAscii c := by
  simp [names, Text.IsPlainAscii]

theorem trimmed_of_mem_names {entry : String × FilterOp} (h : entry ∈ names) :
    Text.IsTrimmed entry.1.toList := by
  have hends : ∀ entry ∈ names,
      entry.1.toList.head?.all (fun c => !Text.isBlank c) ∧
        entry.1.toList.getLast?.all fun c => !Text.isBlank c := by decide
  obtain ⟨hfirst, hlast⟩ := hends entry h
  rw [Option.all_eq_true] at hfirst hlast
  exact ⟨fun c hc => by simpa using hfirst c hc, fun c hc => by simpa using hlast c hc⟩

theorem lower_of_mem_names : ∀ entry ∈ names,
    entry.1.toList.map Char.toLower = entry.1.toList := by decide

theorem token_mem_names (h : op.isSupported = true) : (op.token, op) ∈ names := by
  cases op with
  | unsupported token => contradiction
  | _ => simp [token, names]

theorem lowercase_trim_iff {entry : String × FilterOp} (h : entry ∈ names) :
    Text.lowercase (Text.trim text) = entry.1 ↔
      ∃ before word after, text.toList = before ++ word ++ after ∧
        (∀ c ∈ before ++ after, Text.isBlank c = true) ∧
        word.map Char.toLower = entry.1.toList :=
  Text.lowercase_trim_eq_iff (plain_of_mem_names entry h) (trimmed_of_mem_names h)

/-! ## Reading -/

/-- A token goes by its name among the operators, if it has one. -/
theorem parse_eq (text : String) :
    parse text = (names.get? (Text.lowercase (Text.trim text))).getD
      (.unsupported text) := by
  unfold parse
  split
  iterate 9 · next h => rw [h]; rfl
  · next hbetween hnot hgreater hless hequal hne hin hnone hother =>
    have hmem : Text.lowercase (Text.trim text) ∉ names.keys := by
      simp only [names, Entries.keys, List.map_cons, List.map_nil, List.mem_cons,
        List.not_mem_nil, or_false, not_or]
      exact ⟨hbetween, hnot, hgreater, hless, hequal, hne, hin, hnone, hother⟩
    rw [Entries.get?_eq_none_iff.2 hmem]
    rfl

theorem isSpelled_iff :
    op.IsSpelled text ↔ names.get? (Text.lowercase (Text.trim text)) = some op := by
  constructor
  · rintro ⟨name, hmem, hspelled⟩
    rw [(lowercase_trim_iff hmem).2 hspelled]
    exact Entries.get?_of_mem nodup_names hmem
  · intro h
    have hmem := Entries.mem_of_get? h
    exact ⟨_, hmem, (lowercase_trim_iff hmem).1 rfl⟩

theorem isSpelled_token (h : op.isSupported = true) : op.IsSpelled op.token := by
  have hmem := token_mem_names h
  exact ⟨_, hmem, [], op.token.toList, [], by simp, by simp, lower_of_mem_names _ hmem⟩

theorem IsSpelled.isSupported (h : op.IsSpelled text) : op.isSupported = true :=
  let ⟨_, hmem, _⟩ := h
  isSupported_of_mem_names _ hmem

theorem parse_eq_iff_of_isSupported (h : op.isSupported = true) :
    parse text = op ↔ op.IsSpelled text := by
  rw [isSpelled_iff, parse_eq]
  cases names.get? (Text.lowercase (Text.trim text)) with
  | some other => simp
  | none =>
      rw [Option.getD_none]
      refine iff_of_false ?_ (Option.some_ne_none op).symm
      rintro rfl
      exact Bool.false_ne_true h

theorem parse_eq_unsupported_iff {token : String} :
    parse text = .unsupported token ↔
      token = text ∧ ∀ op : FilterOp, ¬op.IsSpelled text := by
  simp only [isSpelled_iff]
  rw [parse_eq]
  cases hget : names.get? (Text.lowercase (Text.trim text)) with
  | some other =>
      have hsupported := isSupported_of_mem_names _ (Entries.mem_of_get? hget)
      rw [Option.getD_some]
      refine iff_of_false ?_ ?_
      · rintro rfl
        exact Bool.false_ne_true hsupported
      · rintro ⟨-, hnone⟩
        exact hnone other rfl
  | none => simp [eq_comm]

theorem exists_token_of_not_supported (h : op.isSupported = false) :
    ∃ token, op = .unsupported token := by
  cases op with
  | unsupported token => exact ⟨token, rfl⟩
  | _ => contradiction

/-- What is read from a token is read from its own token. -/
theorem parse_token_parse (text : String) :
    parse (parse text).token = parse text := by
  cases hsupported : (parse text).isSupported with
  | true => exact (parse_eq_iff_of_isSupported hsupported).2 (isSpelled_token hsupported)
  | false =>
      obtain ⟨token, hparse⟩ := exists_token_of_not_supported hsupported
      obtain ⟨rfl, -⟩ := parse_eq_unsupported_iff.1 hparse
      rw [hparse, FilterOp.token, hparse]

theorem IsSpelled.ascii (h : op.IsSpelled text) {c : Char} (hc : c ∈ text.toList)
    (hblank : Text.isBlank c = false) : c.toNat < 0x80 := by
  obtain ⟨name, hmem, before, word, after, htext, hblanks, hname⟩ := h
  have hword : c ∈ word := by
    by_contra hnot
    have hends : c ∈ before ++ after := by simpa [htext, hnot] using hc
    rw [hblanks c hends] at hblank
    contradiction
  by_contra hbeyond
  have hlower := Text.toLower_of_not_ascii (Nat.not_lt.1 hbeyond)
  have hletter : c ∈ name.toList := by
    rw [← hname, ← hlower]
    exact List.mem_map_of_mem hword
  exact hbeyond (plain_of_mem_names _ hmem c hletter).1

/--
A token is read as a supported operator exactly when it is one of its names, up to
the case of ASCII letters and white space around it, and all other tokens are kept
unchanged.  Apart from the white space no character beyond ASCII is accepted.
What is read from a token is read again from the token that is written for it.
-/
theorem parse_recognises_spellings (text : String) :
    (∀ op, (parse text = op ∧ op.isSupported = true) ↔ op.IsSpelled text) ∧
    (∀ token, parse text = .unsupported token ↔
      token = text ∧ ∀ op : FilterOp, ¬op.IsSpelled text) ∧
    ((parse text).isSupported = true →
      ∀ c ∈ text.toList, Text.isBlank c = false → c.toNat < 0x80) ∧
    parse (parse text).token = parse text := by
  have hspelled : ∀ op, (parse text = op ∧ op.isSupported = true) ↔ op.IsSpelled text := by
    intro op
    constructor
    · rintro ⟨hparse, hsupported⟩
      exact (parse_eq_iff_of_isSupported hsupported).1 hparse
    · intro h
      exact ⟨(parse_eq_iff_of_isSupported h.isSupported).2 h, h.isSupported⟩
  refine ⟨hspelled, fun token => parse_eq_unsupported_iff, ?_, parse_token_parse text⟩
  intro hsupported c hc hblank
  exact ((hspelled _).1 ⟨rfl, hsupported⟩).ascii hc hblank

/-- A wide space around a name does not count.  The lower case of a dotted capital
I begins with a letter of a name, but is none. -/
theorem parse_recognises_spellings_of_in :
    parse "\u3000nOT In\t" = .noneOf ∧ (parse "\u0130n").isSupported = false := by
  constructor
  · refine (((parse_recognises_spellings _).1 .noneOf).2 ⟨"not in", by simp [names], ?_⟩).1
    have hblank : Text.isBlank '\u3000' = true ∧ Text.isBlank '\t' = true := by decide
    exact ⟨['\u3000'], "nOT In".toList, ['\t'], by decide, by simpa using hblank, by decide⟩
  · by_contra hnot
    rw [Bool.not_eq_false] at hnot
    have hascii := (parse_recognises_spellings "\u0130n").2.2.1 hnot '\u0130'
      (by decide) (by decide)
    exact absurd hascii (by decide)

end SearchClient.FilterOp

import SearchClient.Proofs.Json.Printer

/-!
# Compact texts

White space may stand between the parts of a document and in its strings.  A
compact text has it in strings only, and what is printed for a value is such a
text of it.
-/

namespace SearchClient.Json

/-! ## White space -/

/-- No white space but in strings; `quoted` says whether one is open. -/
def isTight (quoted : Bool) : Glyphs → Bool
  | [] => !quoted
  | some '\\' :: _ :: rest => quoted && isTight quoted rest
  | some '"' :: rest => isTight (!quoted) rest
  | g :: rest => (quoted || !isSpace g) && isTight quoted rest

theorem isTight_cons {quoted : Bool} {c : Char} (hquote : c ≠ '"') (hbackslash : c ≠ '\\')
    (rest : Glyphs) :
    isTight quoted (some c :: rest) =
      ((quoted || !isSpace (some c)) && isTight quoted rest) := by
  rw [isTight]
  all_goals simp [hquote, hbackslash]

/-- No white space in the text, where every string is closed again. -/
def Tight (text : List Char) : Prop :=
  ∀ rest, isTight false (text.map some ++ rest) = isTight false rest

theorem Tight.append {first second : List Char} (h : Tight first) (h' : Tight second) :
    Tight (first ++ second) := by
  intro rest
  rw [List.map_append, List.append_assoc, h, h']

/-- A character that neither opens a string nor is white space. -/
def isBare (c : Char) : Bool := c != '"' && c != '\\' && !isSpace (some c)

theorem Tight.cons {c : Char} {text : List Char} (hc : isBare c = true) (h : Tight text) :
    Tight (c :: text) := by
  simp only [isBare, Bool.and_eq_true, bne_iff_ne, Bool.not_eq_true'] at hc
  obtain ⟨⟨hquote, hbackslash⟩, hspace⟩ := hc
  intro rest
  rw [List.map_cons, List.cons_append, isTight_cons hquote hbackslash, hspace, h]
  rfl

theorem tight_of_bare {text : List Char} (h : ∀ c ∈ text, isBare c = true) :
    Tight text := by
  induction text with
  | nil => exact fun _ => rfl
  | cons c text ih =>
      rw [List.forall_mem_cons] at h
      exact .cons h.1 (ih h.2)

/-! ## Strings -/

theorem hexDigit_ne : ∀ n < 16, hexDigit n ≠ '"' ∧ hexDigit n ≠ '\\' := by decide

theorem isTight_quoted {c : Char} (hquote : c ≠ '"') (hbackslash : c ≠ '\\')
    (rest : Glyphs) : isTight true (some c :: rest) = isTight true rest := by
  rw [isTight_cons hquote hbackslash, Bool.true_or, Bool.true_and]

/-- The escape of a character does not close the string. -/
theorem isTight_escapeChar (c : Char) (rest : Glyphs) :
    isTight true ((escapeChar c).map some ++ rest) = isTight true rest := by
  unfold escapeChar
  split
  case h_8 =>
    split
    · next hcontrol =>
      have hhigh := hexDigit_ne (c.toNat / 16) (by omega)
      have hlow := hexDigit_ne (c.toNat % 16) (by omega)
      simp only [List.map_cons, List.map_nil, List.cons_append, List.nil_append]
      rw [isTight, Bool.true_and, isTight_quoted (by decide) (by decide),
        isTight_quoted (by decide) (by decide), isTight_quoted hhigh.1 hhigh.2,
        isTight_quoted hlow.1 hlow.2]
    · next hquote hbackslash _ _ _ _ _ _ => exact isTight_quoted hquote hbackslash rest
  all_goals rfl

theorem isTight_flatMap (chars : List Char) (rest : Glyphs) :
    isTight true ((chars.flatMap escapeChar).map some ++ rest) = isTight true rest := by
  induction chars with
  | nil => rfl
  | cons c chars ih =>
      rw [List.flatMap_cons, List.map_append, List.append_assoc, isTight_escapeChar, ih]

theorem tight_renderString (text : String) : Tight (renderString text).toList := by
  intro rest
  simp only [toList_renderString, List.map_cons, List.map_append, List.cons_append,
    List.append_assoc]
  rw [isTight, Bool.not_false, isTight_flatMap]
  rfl

/-! ## Numbers -/

theorem isBare_of_isDigit {c : Char} (h : c.isDigit = true) : isBare c = true := by
  simp only [isBare, Bool.and_eq_true, bne_iff_ne, Bool.not_eq_true']
  exact ⟨⟨ne_of_test h rfl, ne_of_test h rfl⟩, isSpace_of_isDigit h⟩

namespace Numeral

theorem tight_exponentText (n : Numeral) : Tight n.exponentText := by
  unfold exponentText
  cases n.exponent with
  | none => exact fun _ => rfl
  | some e =>
      obtain ⟨d, ds, hds, hdigits, -⟩ := Text.exists_toDigits e.natAbs
      have hsign : isBare (if e < 0 then '-' else '+') = true := by split <;> rfl
      simp only [hds]
      exact .cons rfl (.cons hsign (tight_of_bare fun c hc =>
        isBare_of_isDigit (hdigits c hc)))

theorem tight_text {n : Numeral} (h : n.WellFormed) : Tight n.text := by
  have hsign : Tight (if n.negative then ['-'] else []) := by
    split <;> exact tight_of_bare (List.all_eq_true.1 rfl)
  have hwhole : Tight n.whole :=
    tight_of_bare fun c hc => isBare_of_isDigit (h.wholeDigits c hc)
  have hfraction : Tight n.fractionText := by
    unfold fractionText
    split
    · exact fun _ => rfl
    · exact .cons rfl (tight_of_bare fun c hc =>
        isBare_of_isDigit (h.fractionDigits c hc))
  exact hsign.append ((hwhole.append hfraction).append n.tight_exponentText)

end Numeral

theorem tight_renderNumber (x : Number) : Tight (renderNumber x).toList := by
  obtain ⟨n, hn, htext, -⟩ := exists_numeral x
  exact htext ▸ Numeral.tight_text hn

/-! ## Values -/

theorem tight_joined {texts : List String} (h : ∀ text ∈ texts, Tight text.toList) :
    Tight (joined texts) := by
  induction texts with
  | nil => exact fun _ => rfl
  | cons text texts ih =>
      rw [List.forall_mem_cons] at h
      rcases eq_or_ne texts [] with rfl | hne
      · rw [joined_singleton]
        exact h.1
      · rw [joined_cons text hne]
        exact h.1.append (.cons rfl (ih h.2))

mutual

theorem tight_render : (value : Json) → Tight value.render.toList
  | .null => by rw [render]; exact tight_of_bare (List.all_eq_true.1 rfl)
  | .bool true => by rw [render]; exact tight_of_bare (List.all_eq_true.1 rfl)
  | .bool false => by rw [render]; exact tight_of_bare (List.all_eq_true.1 rfl)
  | .number x => by rw [render]; exact tight_renderNumber x
  | .string text => by rw [render]; exact tight_renderString text
  | .array items => by
      rw [toList_render_array]
      have hitems := tight_joined (tight_renderItems items)
      exact .cons rfl (hitems.append (.cons rfl fun _ => rfl))
  | .object fields => by
      rw [toList_render_object]
      have hfields := tight_joined (tight_renderFields fields)
      exact .cons rfl (hfields.append (.cons rfl fun _ => rfl))

theorem tight_renderItems : (items : List Json) →
    ∀ text ∈ renderItems items, Tight text.toList
  | [] => fun _ h => nomatch h
  | item :: items => List.forall_mem_cons.2 ⟨tight_render item, tight_renderItems items⟩

theorem tight_renderFields : (fields : List (String × Json)) →
    ∀ text ∈ renderFields fields, Tight text.toList
  | [] => fun _ h => nomatch h
  | (key, value) :: fields => by
      refine List.forall_mem_cons.2 ⟨?_, tight_renderFields fields⟩
      rw [String.toList_append, String.toList_append]
      have hkey : Tight ((renderString key).toList ++ [':']) :=
        (tight_renderString key).append (.cons rfl fun _ => rfl)
      exact hkey.append (tight_render value)

end

/-! ## Texts of values -/

/-- Compact text of a value.  To a reader that goes as deep as the value and takes a
numeral for the double nearest to it, the text is the value; its white space is in
strings. -/
structure IsCompactText (bytes : List UInt8) (value : Json) : Prop where
  reads : ∀ room, value.depth ≤ room →
    (Tree.ofBytes? bytes).bind (Tree.valueBy? Numeral.nearest room) = some value
  tight : isTight false (Utf8.glyphs bytes) = true

theorem ofBytes?_render (value : Json) :
    ∃ tree, Tree.ofBytes? (Utf8.encode value.render.toList) = some tree ∧
      Spells tree value := by
  have hclosed : Closes [] := fun _ h => nomatch h
  obtain ⟨tree, hread, hspells⟩ :=
    readsBack value [] value.render.toList.length hclosed (by omega)
  rw [List.append_nil] at hread
  refine ⟨tree, ?_, hspells⟩
  rw [Tree.ofBytes?, Utf8.glyphs_encode, Tree.ofGlyphs?, List.length_map, hread]
  rfl

/-- What is printed for a value is compact text of it. -/
theorem isCompactText_render {value : Json} (h : value.WellFormed) :
    IsCompactText (Utf8.encode value.render.toList) value := by
  obtain ⟨tree, hread, hspells⟩ := ofBytes?_render value
  refine ⟨fun room hroom => ?_, ?_⟩
  · rw [hread, Option.bind_some, hspells room hroom, collapse_of_wellFormed value h]
  · rw [Utf8.glyphs_encode, ← List.append_nil (List.map _ _), tight_render value]
    rfl

/-- No text is a compact text of two values. -/
theorem IsCompactText.eq {bytes : List UInt8} {v w : Json} (hv : IsCompactText bytes v)
    (hw : IsCompactText bytes w) : v = w :=
  Option.some.inj ((hv.reads _ (Nat.le_max_left _ _)).symm.trans
    (hw.reads _ (Nat.le_max_right v.depth w.depth)))

/-- Different values are printed differently. -/
theorem eq_of_render_eq {v w : Json} (hv : v.WellFormed) (hw : w.WellFormed)
    (h : v.render = w.render) : v = w := by
  have hcompact := isCompactText_render hw
  rw [← h] at hcompact
  exact (isCompactText_render hv).eq hcompact

end SearchClient.Json

import Mathlib.Data.List.Forall2
import SearchClient.Proofs.Text.Percent

/-!
# Forms are read back

A form may write each character in several ways, and decoding undoes whichever
was chosen for each: a plus sign becomes a space before escapes are read, and an
escaped plus or percent sign is not looked at again.  A space ends every escape
and every sequence of bytes, so texts joined by spaces are decoded one by one.
-/

namespace SearchClient.Percent

/-- The ways in which a form may write a character. -/
inductive FormOf : Char → List Char → Prop where
  | itself {c : Char} (hsign : c ≠ '%') (hplus : c ≠ '+') : FormOf c [c]
  | plus : FormOf ' ' ['+']
  /-- The escapes of all its bytes, their digits in either case. -/
  | escapes {c : Char} {text : List Char}
      (h : text.map Char.toUpper = (Utf8.encodeChar c).flatMap escape) :
      FormOf c text

/-- Each character of the text stands there in one of its ways. -/
def IsForm (text written : String) : Prop :=
  ∃ parts, List.Forall₂ FormOf text.toList parts ∧
    written.toList = parts.flatten

def plusToSpace (c : Char) : Char := if c = '+' then ' ' else c

theorem decodeForm_eq (text : String) :
    decodeForm text = String.ofList (Utf8.decodeLossy
      (decode (Utf8.encode (text.toList.map plusToSpace)))) := rfl

/-! ## Escapes in either case -/

theorem toUpper_of_not_lower {c : Char}
    (h : ¬(0x61 ≤ c.toNat ∧ c.toNat ≤ 0x7A)) : c.toUpper = c := by
  unfold Char.toUpper
  split
  · next hc => exact absurd hc h
  · rfl

theorem toUpper_lower :
    ∀ n < 0x7B, 0x61 ≤ n → (Char.ofNat n).toUpper ≠ '%' ∧
      ∀ k < 16, (Char.ofNat n).toUpper = hexDigit k →
        hexValue? n = some k := by decide

theorem eq_sign_of_toUpper {c : Char} (h : c.toUpper = '%') : c = '%' := by
  by_cases hlower : 0x61 ≤ c.toNat ∧ c.toNat ≤ 0x7A
  · have hletter := (toUpper_lower c.toNat (by omega) hlower.1).1
    rw [Char.ofNat_toNat] at hletter
    exact absurd h hletter
  · rwa [toUpper_of_not_lower hlower] at h

theorem hexValue?_of_toUpper {c : Char} {k : Nat} (hk : k < 16)
    (h : c.toUpper = hexDigit k) :
    c.toNat < 0x80 ∧ hexValue? c.toNat = some k := by
  by_cases hlower : 0x61 ≤ c.toNat ∧ c.toNat ≤ 0x7A
  · have hdigit := (toUpper_lower c.toNat (by omega) hlower.1).2 k hk
    rw [Char.ofNat_toNat] at hdigit
    exact ⟨by omega, hdigit h⟩
  · rw [toUpper_of_not_lower hlower] at h
    have hascii := hexDigit_ascii k hk
    have hvalue := hexValue?_hexDigit k hk
    rw [← h] at hascii hvalue
    rw [Utf8.toNat_ofNat (by omega)] at hvalue
    exact ⟨hascii, hvalue⟩

theorem plusToSpace_of_hexValue? {c : Char} {k : Nat}
    (h : hexValue? c.toNat = some k) : plusToSpace c = c := by
  have hne : c ≠ '+' := by
    rintro rfl
    simp [hexValue?] at h
  exact if_neg hne

theorem decode_anyCase {b : UInt8} {text : List Char}
    (h : text.map Char.toUpper = escape b) (rest : List UInt8) :
    decode (Utf8.encode (text.map plusToSpace) ++ rest) =
      b :: decode rest := by
  have hb := b.toNat_lt
  simp only [escape, List.map_eq_cons_iff, List.map_eq_nil_iff] at h
  obtain ⟨sign, _, rfl, hsign, high, _, rfl, hhigh, low, _, rfl, hlow, rfl⟩ := h
  obtain ⟨hhighAscii, hhighValue⟩ := hexValue?_of_toUpper (by omega) hhigh
  obtain ⟨hlowAscii, hlowValue⟩ := hexValue?_of_toUpper (by omega) hlow
  have hpercent : Utf8.encodeChar (plusToSpace '%') = [0x25] := by decide
  simp only [eq_sign_of_toUpper hsign, List.map_cons, List.map_nil,
    Utf8.encode_cons, Utf8.encode_nil, hpercent,
    plusToSpace_of_hexValue? hhighValue, plusToSpace_of_hexValue? hlowValue,
    Utf8.encodeChar_ascii hhighAscii, Utf8.encodeChar_ascii hlowAscii,
    List.cons_append, List.nil_append]
  apply decode_digits
  · rw [Utf8.toNat_ofNat (by omega), hhighValue]
  · rw [Utf8.toNat_ofNat (by omega), hlowValue]

theorem decode_anyCase_flatMap {bytes : List UInt8} {text : List Char}
    (h : text.map Char.toUpper = bytes.flatMap escape) (rest : List UInt8) :
    decode (Utf8.encode (text.map plusToSpace) ++ rest) =
      bytes ++ decode rest := by
  induction bytes generalizing text with
  | nil =>
      rw [List.map_eq_nil_iff.1 h]
      rfl
  | cons b bytes ih =>
      obtain ⟨first, others, rfl, hfirst, hothers⟩ :=
        List.map_eq_append_iff.1 h
      rw [List.map_append, Utf8.encode_append, List.append_assoc,
        decode_anyCase hfirst, ih hothers, List.cons_append]

/-! ## Whole texts -/

theorem FormOf.decode {c : Char} {part : List Char} (h : FormOf c part)
    (rest : List UInt8) :
    Percent.decode (Utf8.encode (part.map plusToSpace) ++ rest) =
      Utf8.encodeChar c ++ Percent.decode rest := by
  cases h with
  | itself hsign hplus =>
      have hsame : plusToSpace c = c := if_neg hplus
      simpa [hsame] using decode_plain hsign rest
  | plus => exact decode_plain (c := ' ') (by decide) rest
  | escapes h => exact decode_anyCase_flatMap h rest

theorem decode_of_forall₂ {text : List Char} {parts : List (List Char)}
    (h : List.Forall₂ FormOf text parts) :
    decode (Utf8.encode (parts.flatten.map plusToSpace)) =
      Utf8.encode text := by
  induction h with
  | nil => rfl
  | cons hpart _ ih =>
      rw [List.flatten_cons, List.map_append, Utf8.encode_append, hpart.decode,
        ih, Utf8.encode_cons]

theorem decodeForm_of_isForm {text written : String} (h : IsForm text written) :
    decodeForm written = text := by
  obtain ⟨parts, hparts, hwritten⟩ := h
  rw [decodeForm_eq, hwritten, decode_of_forall₂ hparts,
    Utf8.decodeLossy_encode, String.ofList_toList]

/-! ## Joined texts -/

theorem encode_plusToSpace_join (first second : List Char) :
    Utf8.encode ((first ++ ' ' :: second).map plusToSpace) =
      Utf8.encode (first.map plusToSpace) ++
        0x20 :: Utf8.encode (second.map plusToSpace) := by
  have hspace : Utf8.encodeChar (plusToSpace ' ') = [0x20] := by decide
  rw [List.map_append, Utf8.encode_append, List.map_cons, Utf8.encode_cons,
    hspace, List.singleton_append]

theorem decodeForm_join (first second : String) :
    decodeForm (first ++ " " ++ second) =
      decodeForm first ++ " " ++ decodeForm second := by
  have hjoined : (first ++ " " ++ second).toList =
      first.toList ++ ' ' :: second.toList := by simp
  rw [decodeForm_eq, hjoined, encode_plusToSpace_join,
    decode_append_cons (by decide), decode_cons_of_ne (by decide),
    Utf8.decodeLossy_append_cons (by decide), ← String.toList_inj]
  simp [decodeForm_eq]

theorem decodeForm_intercalate (texts : List String) :
    decodeForm (" ".intercalate texts) =
      " ".intercalate (texts.map decodeForm) := by
  induction texts with
  | nil => rfl
  | cons first texts ih =>
      cases texts with
      | nil => simp
      | cons second texts =>
          rw [String.intercalate_cons_cons, decodeForm_join, ih]
          simp only [List.map_cons, String.intercalate_cons_cons]

end SearchClient.Percent

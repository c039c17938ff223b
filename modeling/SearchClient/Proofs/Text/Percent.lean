import SearchClient.Proofs.Text.Utf8
import SearchClient.Text.Percent

/-!
# Percent encoding is read back

Where the escape sign is itself escaped, decoding gives back the bytes of the
text, and an escaped text holds no reserved character but the escape sign.  No
escape reaches over a byte that is no hexadecimal digit.
-/

namespace SearchClient.Percent

theorem decode_cons_of_ne {b : UInt8} (h : b ≠ 0x25) (rest : List UInt8) :
    decode (b :: rest) = b :: decode rest := by
  rw [decode]
  exact fun _ _ _ => fun hescape => absurd hescape h

theorem decode_append_of_ne {bytes : List UInt8} (h : ∀ b ∈ bytes, b ≠ 0x25)
    (rest : List UInt8) : decode (bytes ++ rest) = bytes ++ decode rest := by
  induction bytes with
  | nil => rfl
  | cons b bytes ih =>
      rw [List.forall_mem_cons] at h
      rw [List.cons_append, decode_cons_of_ne h.1, ih h.2, List.cons_append]

theorem decode_plain {c : Char} (h : c ≠ '%') (rest : List UInt8) :
    decode (Utf8.encodeChar c ++ rest) = Utf8.encodeChar c ++ decode rest := by
  apply decode_append_of_ne
  rintro b hb rfl
  rcases Utf8.mem_encodeChar hb with ⟨hascii, hbyte⟩ | hhigh
  · have hnat := congrArg UInt8.toNat hbyte
    rw [Utf8.toNat_ofNat (by omega)] at hnat
    exact h (by rw [← Char.ofNat_toNat c, ← hnat]; rfl)
  · contradiction

theorem decode_sign_cons {high : UInt8} (h : hexValue? high.toNat = none)
    (rest : List UInt8) :
    decode (0x25 :: high :: rest) = 0x25 :: decode (high :: rest) := by
  cases rest with
  | nil => rfl
  | cons low rest => simp [decode, h]

theorem decode_sign_cons_cons {low : UInt8} (h : hexValue? low.toNat = none)
    (high : UInt8) (rest : List UInt8) :
    decode (0x25 :: high :: low :: rest) =
      0x25 :: decode (high :: low :: rest) := by
  simp [decode, h]

/--
A byte that is no hexadecimal digit ends whatever escape was begun before it,
so bytes can be decoded apart in front of it.
-/
theorem decode_append_cons {b : UInt8} (h : hexValue? b.toNat = none)
    (front back : List UInt8) :
    decode (front ++ b :: back) = decode front ++ decode (b :: back) := by
  fun_induction decode front with
  | case1 => rfl
  | case2 high low rest high' low' hlow hhigh ih =>
      simp [decode, hlow, hhigh, ih]
  | case3 high low rest hnone ih =>
      simp only [List.cons_append] at ih ⊢
      rw [decode, ih]
      split
      · next hhigh hlow => exact absurd hlow (hnone _ _ hhigh)
      · rfl
  | case4 a rest hnone ih =>
      by_cases hsign : a = 0x25
      · subst hsign
        match rest with
        | [] => exact decode_sign_cons h back
        | [high] =>
            simp only [List.cons_append, List.nil_append] at ih ⊢
            rw [decode_sign_cons_cons h, ih]
        | high :: low :: rest => exact absurd rfl (hnone high low rest rfl)
      · rw [List.cons_append, decode_cons_of_ne hsign, ih, List.cons_append]

theorem hexDigit_ascii :
    ∀ n : Nat, n < 16 → (hexDigit n).toNat < 0x80 := by decide

theorem hexValue?_hexDigit :
    ∀ n : Nat, n < 16 →
      hexValue? (UInt8.ofNat (hexDigit n).toNat).toNat = some n := by decide

theorem decode_digits {b high low : UInt8}
    (hhigh : hexValue? high.toNat = some (b.toNat / 16))
    (hlow : hexValue? low.toNat = some (b.toNat % 16)) (rest : List UInt8) :
    decode (0x25 :: high :: low :: rest) = b :: decode rest := by
  have hbyte : UInt8.ofNat (16 * (b.toNat / 16) + b.toNat % 16) = b := by
    rw [Nat.div_add_mod, UInt8.ofNat_toNat]
  rw [decode, hhigh, hlow]
  simp only [hbyte]

theorem decode_escape (b : UInt8) (rest : List UInt8) :
    decode (Utf8.encode (escape b) ++ rest) = b :: decode rest := by
  have hb := b.toNat_lt
  have hhigh : b.toNat / 16 < 16 := by omega
  have hlow : b.toNat % 16 < 16 := by omega
  have hsign : Utf8.encodeChar '%' = [0x25] := by decide
  simp only [escape, Utf8.encode_cons, Utf8.encode_nil, hsign,
    Utf8.encodeChar_ascii (hexDigit_ascii _ hhigh),
    Utf8.encodeChar_ascii (hexDigit_ascii _ hlow), List.cons_append,
    List.nil_append]
  exact decode_digits (hexValue?_hexDigit _ hhigh) (hexValue?_hexDigit _ hlow)
    rest

theorem decode_escapes (bytes rest : List UInt8) :
    decode (Utf8.encode (bytes.flatMap escape) ++ rest) =
      bytes ++ decode rest := by
  induction bytes with
  | nil => rfl
  | cons b bytes ih =>
      rw [List.flatMap_cons, Utf8.encode_append, List.append_assoc,
        decode_escape, ih, List.cons_append]

theorem decode_encodeChar {reserved : Char → Bool} (hsign : reserved '%' = true)
    (c : Char) (rest : List UInt8) :
    decode (Utf8.encode (encodeChar reserved c) ++ rest) =
      Utf8.encodeChar c ++ decode rest := by
  unfold encodeChar
  split
  · exact decode_escapes _ _
  · next h =>
    simp only [Bool.or_eq_true, decide_eq_true_eq, not_or, Nat.not_le] at h
    have hc : c ≠ '%' := fun hc => h.2 (hc ▸ hsign)
    rw [Utf8.encode_cons, Utf8.encode_nil, List.append_nil]
    exact decode_plain hc rest

theorem decode_encode {reserved : Char → Bool} (hsign : reserved '%' = true)
    (text : List Char) :
    decode (Utf8.encode (encode reserved text)) = Utf8.encode text := by
  induction text with
  | nil => rfl
  | cons c text ih =>
      simp only [encode, List.flatMap_cons, Utf8.encode_append,
        Utf8.encode_cons]
      rw [decode_encodeChar hsign]
      exact congrArg _ ih

theorem encodeChar_ne_nil (reserved : Char → Bool) (c : Char) :
    encodeChar reserved c ≠ [] := by
  unfold encodeChar
  split
  · obtain ⟨b, bytes, hbytes⟩ :=
      List.exists_cons_of_ne_nil (Utf8.encodeChar_ne_nil c)
    simp [hbytes, escape]
  · simp

theorem encode_eq_nil_iff {reserved : Char → Bool} {text : List Char} :
    encode reserved text = [] ↔ text = [] := by
  cases text with
  | nil => exact ⟨fun _ => rfl, fun _ => rfl⟩
  | cons c text => simp [encode, encodeChar_ne_nil]

theorem mem_escape {b : UInt8} {x : Char} (h : x ∈ escape b) :
    x = '%' ∨ ∃ n < 16, x = hexDigit n := by
  have hb := b.toNat_lt
  simp only [escape, List.mem_cons, List.not_mem_nil, or_false] at h
  rcases h with h | h | h
  · exact .inl h
  · exact .inr ⟨_, by omega, h⟩
  · exact .inr ⟨_, by omega, h⟩

theorem mem_encode {reserved : Char → Bool} {text : List Char} {x : Char}
    (h : x ∈ encode reserved text) :
    x = '%' ∨ (∃ n < 16, x = hexDigit n) ∨
      (x.toNat < 0x80 ∧ reserved x = false) := by
  obtain ⟨c, -, hc⟩ := List.mem_flatMap.1 h
  unfold encodeChar at hc
  split at hc
  · obtain ⟨b, -, hb⟩ := List.mem_flatMap.1 hc
    exact (mem_escape hb).imp_right .inl
  · next hplain =>
    simp only [Bool.or_eq_true, decide_eq_true_eq, not_or, Nat.not_le] at hplain
    rw [List.mem_singleton.1 hc]
    exact .inr (.inr ⟨hplain.1, by simpa using hplain.2⟩)

theorem not_mem_encode {reserved : Char → Bool} {x : Char}
    (hreserved : reserved x = true) (hsign : x ≠ '%')
    (hdigit : ∀ n < 16, x ≠ hexDigit n) (text : List Char) :
    x ∉ encode reserved text := by
  intro h
  rcases mem_encode h with h | ⟨n, hn, h⟩ | ⟨-, h⟩
  · exact hsign h
  · exact hdigit n hn h
  · simp [hreserved] at h

end SearchClient.Percent

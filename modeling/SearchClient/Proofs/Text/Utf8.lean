import SearchClient.Proofs.Except
import SearchClient.Text.Utf8

/-!
# UTF-8 is read back

The bytes of a character are read as that character, whatever follows them, so
the bytes of a text determine the text.  An ASCII byte is read as itself,
whatever stands before it.
-/

namespace SearchClient.Utf8

@[simp] theorem encode_nil : encode [] = [] := rfl

@[simp] theorem encode_cons (c : Char) (text : List Char) :
    encode (c :: text) = encodeChar c ++ encode text := rfl

@[simp] theorem encode_append (first second : List Char) :
    encode (first ++ second) = encode first ++ encode second := by
  simp [encode]

theorem encodeChar_ascii {c : Char} (h : c.toNat < 0x80) :
    encodeChar c = [.ofNat c.toNat] := by
  simp [encodeChar, h]

/-! ## One character -/

theorem isSecond_of_bounds {a b : UInt8} (htail : isTail b = true)
    (hlow : 0xC2 ≤ a.toNat) (hhigh : a.toNat < 0xF5)
    (hshort : a.toNat = 0xE0 → 0xA0 ≤ b.toNat)
    (hsurrogate : a.toNat = 0xED → b.toNat < 0xA0)
    (hlong : a.toNat = 0xF0 → 0x90 ≤ b.toNat)
    (hlast : a.toNat = 0xF4 → b.toNat < 0x90) : isSecond a b = true := by
  unfold isSecond
  split
  · next h => simp [hshort h, htail]
  · next h => simp [hsurrogate h, htail]
  · next h => simp [hlong h, htail]
  · next h => simp [hlast h, htail]
  · simp [hlow, hhigh, htail]

theorem isTail_ofNat {n : Nat} (h : n < 64) :
    isTail (.ofNat (0x80 + n)) = true := by
  have hdiv : (0x80 + n) % 256 / 64 = 2 := by omega
  simp [isTail, hdiv]

theorem glyphs_one {a : UInt8} (rest : List UInt8) (h : a.toNat < 0x80) :
    glyphs (a :: rest) = some (.ofNat a.toNat) :: glyphs rest := by
  rw [glyphs.eq_def]
  simp [h]

theorem glyphs_two {a b : UInt8} (rest : List UInt8) (hlow : 0x80 ≤ a.toNat)
    (hhigh : a.toNat < 0xE0) (hsecond : isSecond a b = true) :
    glyphs (a :: b :: rest) =
      some (.ofNat ((a.toNat - 0xC0) * 64 + (b.toNat - 0x80))) ::
        glyphs rest := by
  rw [glyphs.eq_def]
  simp [Nat.not_lt.2 hlow, hhigh, hsecond]

theorem glyphs_three {a b c : UInt8} (rest : List UInt8) (hlow : 0xE0 ≤ a.toNat)
    (hhigh : a.toNat < 0xF0) (hsecond : isSecond a b = true)
    (hc : isTail c = true) :
    glyphs (a :: b :: c :: rest) =
      some (.ofNat ((a.toNat - 0xE0) * 4096 + (b.toNat - 0x80) * 64 +
        (c.toNat - 0x80))) ::
        glyphs rest := by
  have hlead : ¬a.toNat < 0x80 := by omega
  rw [glyphs.eq_def]
  simp [hlead, Nat.not_lt.2 hlow, hhigh, hsecond, hc]

theorem glyphs_four {a b c d : UInt8} (rest : List UInt8)
    (hlow : 0xF0 ≤ a.toNat) (hsecond : isSecond a b = true)
    (hc : isTail c = true) (hd : isTail d = true) :
    glyphs (a :: b :: c :: d :: rest) =
      some (.ofNat ((a.toNat - 0xF0) * 262144 + (b.toNat - 0x80) * 4096 +
        (c.toNat - 0x80) * 64 + (d.toNat - 0x80))) :: glyphs rest := by
  have hlead : ¬a.toNat < 0x80 := by omega
  have hwide : ¬a.toNat < 0xE0 := by omega
  rw [glyphs.eq_def]
  simp [hlead, hwide, Nat.not_lt.2 hlow, hsecond, hc, hd]

theorem toNat_ofNat {n : Nat} (h : n < 256) : (UInt8.ofNat n).toNat = n := by
  simpa using h

theorem toNat_char_bounds (c : Char) :
    c.toNat < 0xD800 ∨ (0xDFFF < c.toNat ∧ c.toNat < 0x110000) := c.valid

theorem glyphs_encoded_two {n : Nat} (hlow : 0x80 ≤ n) (hhigh : n < 0x800)
    (rest : List UInt8) :
    glyphs (.ofNat (0xC0 + n / 64) :: .ofNat (0x80 + n % 64) :: rest) =
      some (.ofNat n) :: glyphs rest := by
  have ha := toNat_ofNat (show 0xC0 + n / 64 < 256 by omega)
  have hb := toNat_ofNat (show 0x80 + n % 64 < 256 by omega)
  have hsecond :
      isSecond (.ofNat (0xC0 + n / 64)) (.ofNat (0x80 + n % 64)) = true := by
    apply isSecond_of_bounds (isTail_ofNat (by omega)) <;> omega
  have hvalue :
      (0xC0 + n / 64 - 0xC0) * 64 + (0x80 + n % 64 - 0x80) = n := by
    omega
  rw [glyphs_two rest (by omega) (by omega) hsecond, ha, hb, hvalue]

theorem glyphs_encoded_three {n : Nat} (hlow : 0x800 ≤ n) (hhigh : n < 0x10000)
    (hvalid : n < 0xD800 ∨ 0xDFFF < n) (rest : List UInt8) :
    glyphs (.ofNat (0xE0 + n / 4096) :: .ofNat (0x80 + n / 64 % 64) ::
        .ofNat (0x80 + n % 64) :: rest) =
      some (.ofNat n) :: glyphs rest := by
  have ha := toNat_ofNat (show 0xE0 + n / 4096 < 256 by omega)
  have hb := toNat_ofNat (show 0x80 + n / 64 % 64 < 256 by omega)
  have hc := toNat_ofNat (show 0x80 + n % 64 < 256 by omega)
  have hsecond :
      isSecond (.ofNat (0xE0 + n / 4096)) (.ofNat (0x80 + n / 64 % 64)) =
        true := by
    apply isSecond_of_bounds (isTail_ofNat (by omega)) <;> omega
  have hvalue :
      (0xE0 + n / 4096 - 0xE0) * 4096 + (0x80 + n / 64 % 64 - 0x80) * 64 +
        (0x80 + n % 64 - 0x80) = n := by
    omega
  rw [glyphs_three rest (by omega) (by omega) hsecond (isTail_ofNat (by omega)),
    ha, hb, hc, hvalue]

theorem glyphs_encoded_four {n : Nat} (hlow : 0x10000 ≤ n)
    (hhigh : n < 0x110000) (rest : List UInt8) :
    glyphs (.ofNat (0xF0 + n / 262144) :: .ofNat (0x80 + n / 4096 % 64) ::
        .ofNat (0x80 + n / 64 % 64) :: .ofNat (0x80 + n % 64) :: rest) =
      some (.ofNat n) :: glyphs rest := by
  have ha := toNat_ofNat (show 0xF0 + n / 262144 < 256 by omega)
  have hb := toNat_ofNat (show 0x80 + n / 4096 % 64 < 256 by omega)
  have hc := toNat_ofNat (show 0x80 + n / 64 % 64 < 256 by omega)
  have hd := toNat_ofNat (show 0x80 + n % 64 < 256 by omega)
  have hsecond :
      isSecond (.ofNat (0xF0 + n / 262144)) (.ofNat (0x80 + n / 4096 % 64)) =
        true := by
    apply isSecond_of_bounds (isTail_ofNat (by omega)) <;> omega
  have hvalue :
      (0xF0 + n / 262144 - 0xF0) * 262144 +
        (0x80 + n / 4096 % 64 - 0x80) * 4096 +
        (0x80 + n / 64 % 64 - 0x80) * 64 + (0x80 + n % 64 - 0x80) = n := by
    omega
  rw [glyphs_four rest (by omega) hsecond (isTail_ofNat (by omega))
    (isTail_ofNat (by omega)), ha, hb, hc, hd, hvalue]

theorem glyphs_encodeChar (c : Char) (rest : List UInt8) :
    glyphs (encodeChar c ++ rest) = some c :: glyphs rest := by
  have hvalid := toNat_char_bounds c
  unfold encodeChar
  simp only
  split
  · next h =>
    have hbyte := toNat_ofNat (show c.toNat < 256 by omega)
    rw [List.singleton_append, glyphs_one rest (by omega), hbyte,
      Char.ofNat_toNat]
  · next hone =>
    split
    · next h =>
      have htwo := glyphs_encoded_two (by omega) h rest
      rwa [Char.ofNat_toNat] at htwo
    · next htwo =>
      split
      · next h =>
        have hthree := glyphs_encoded_three (by omega) h (by omega) rest
        rwa [Char.ofNat_toNat] at hthree
      · next hthree =>
        have hfour :=
          glyphs_encoded_four (n := c.toNat) (by omega) (by omega) rest
        rwa [Char.ofNat_toNat] at hfour

/-- A byte below 0x80 stands for its own character only. -/
theorem mem_encodeChar {c : Char} {b : UInt8} (h : b ∈ encodeChar c) :
    (c.toNat < 0x80 ∧ b = .ofNat c.toNat) ∨ 0x80 ≤ b.toNat := by
  have hvalid := toNat_char_bounds c
  unfold encodeChar at h
  simp only at h
  split at h
  · next hascii => exact .inl ⟨hascii, List.mem_singleton.1 h⟩
  · right
    split at h
    · simp only [List.mem_cons, List.not_mem_nil, or_false] at h
      rcases h with rfl | rfl <;> rw [toNat_ofNat (by omega)] <;> omega
    · split at h
      · simp only [List.mem_cons, List.not_mem_nil, or_false] at h
        rcases h with rfl | rfl | rfl <;> rw [toNat_ofNat (by omega)] <;> omega
      · simp only [List.mem_cons, List.not_mem_nil, or_false] at h
        rcases h with rfl | rfl | rfl | rfl <;> rw [toNat_ofNat (by omega)] <;>
          omega

theorem encodeChar_ne_nil (c : Char) : encodeChar c ≠ [] := by
  intro h
  have hread := glyphs_encodeChar c []
  simp [h, glyphs] at hread

/-! ## Boundaries -/

theorem isTail_ascii {b : UInt8} (h : b.toNat < 0x80) : isTail b = false := by
  have hdiv : b.toNat / 64 < 2 := by omega
  simp [isTail, Nat.ne_of_lt hdiv]

theorem isSecond_ascii {b : UInt8} (h : b.toNat < 0x80) (a : UInt8) :
    isSecond a b = false := by
  unfold isSecond
  split <;> simp [isTail_ascii h]

theorem glyphs_cut_one {a b : UInt8} (rest : List UInt8) (hlow : 0x80 ≤ a.toNat)
    (hsecond : isSecond a b = false) :
    glyphs (a :: b :: rest) = none :: glyphs (b :: rest) := by
  rw [glyphs.eq_def]
  simp [Nat.not_lt.2 hlow, hsecond]

theorem glyphs_cut_two {a b c : UInt8} (rest : List UInt8)
    (hlow : 0xE0 ≤ a.toNat) (hsecond : isSecond a b = true)
    (hc : isTail c = false) :
    glyphs (a :: b :: c :: rest) = none :: glyphs (c :: rest) := by
  have hlead : ¬a.toNat < 0x80 := by omega
  rw [glyphs.eq_def]
  simp [hlead, Nat.not_lt.2 hlow, hsecond, hc]

theorem glyphs_cut_three {a b c d : UInt8} (rest : List UInt8)
    (hlow : 0xF0 ≤ a.toNat) (hsecond : isSecond a b = true)
    (hc : isTail c = true) (hd : isTail d = false) :
    glyphs (a :: b :: c :: d :: rest) = none :: glyphs (d :: rest) := by
  have hlead : ¬a.toNat < 0x80 := by omega
  have hwide : ¬a.toNat < 0xE0 := by omega
  rw [glyphs.eq_def]
  simp [hlead, hwide, Nat.not_lt.2 hlow, hsecond, hc, hd]

/--
An ASCII byte ends whatever was begun before it, so bytes can be read apart in
front of it.
-/
theorem glyphs_append_cons {b : UInt8} (h : b.toNat < 0x80)
    (front back : List UInt8) :
    glyphs (front ++ b :: back) = glyphs front ++ glyphs (b :: back) := by
  have hsecond := isSecond_ascii h
  have htail := isTail_ascii h
  fun_induction glyphs front with
  | case1 => rfl
  | case2 a rest n hn ih =>
      rw [List.cons_append, glyphs_one _ hn, ih]
      rfl
  | case3 a n hn => exact glyphs_cut_one _ (Nat.not_lt.1 hn) (hsecond a)
  | case4 a n hn c rest hc ih =>
      rw [List.cons_append, List.cons_append,
        glyphs_cut_one _ (Nat.not_lt.1 hn) (by simpa using hc),
        ← List.cons_append, ih]
      rfl
  | case5 a n hn c rest hc hwide ih =>
      rw [List.cons_append, List.cons_append,
        glyphs_two _ (Nat.not_lt.1 hn) hwide (by simpa using hc), ih]
      rfl
  | case6 a n hn c hc hwide =>
      exact glyphs_cut_two _ (Nat.not_lt.1 hwide) (by simpa using hc) htail
  | case7 a n hn c hc hwide d rest hd ih =>
      rw [List.cons_append, List.cons_append, List.cons_append,
        glyphs_cut_two _ (Nat.not_lt.1 hwide) (by simpa using hc)
          (by simpa using hd), ← List.cons_append, ih]
      rfl
  | case8 a n hn c hc hwide d rest hd hlong ih =>
      rw [List.cons_append, List.cons_append, List.cons_append,
        glyphs_three _ (Nat.not_lt.1 hwide) hlong (by simpa using hc)
          (by simpa using hd), ih]
      rfl
  | case9 a n hn c hc hwide d hd hlong =>
      exact glyphs_cut_three _ (Nat.not_lt.1 hlong) (by simpa using hc)
        (by simpa using hd) htail
  | case10 a n hn c hc hwide d hd hlong e rest he ih =>
      rw [List.cons_append, List.cons_append, List.cons_append,
        List.cons_append,
        glyphs_cut_three _ (Nat.not_lt.1 hlong) (by simpa using hc)
          (by simpa using hd) (by simpa using he), ← List.cons_append, ih]
      rfl
  | case11 a n hn c hc hwide d hd hlong e rest he ih =>
      rw [List.cons_append, List.cons_append, List.cons_append,
        List.cons_append,
        glyphs_four _ (Nat.not_lt.1 hlong) (by simpa using hc)
          (by simpa using hd) (by simpa using he), ih]
      rfl

/-! ## Whole texts -/

theorem glyphs_encode_append (text : List Char) (rest : List UInt8) :
    glyphs (encode text ++ rest) = text.map some ++ glyphs rest := by
  induction text with
  | nil => rfl
  | cons c text ih =>
      rw [encode_cons, List.append_assoc, glyphs_encodeChar, ih]
      rfl

theorem glyphs_encode (text : List Char) :
    glyphs (encode text) = text.map some := by
  simpa [glyphs] using glyphs_encode_append text []

@[simp] theorem decode?_encode (text : List Char) :
    decode? (encode text) = some text := by
  rw [decode?, glyphs_encode]
  induction text with
  | nil => rfl
  | cons c text ih => simp_all

theorem glyphs_of_decode? {bytes : List UInt8} {text : List Char}
    (h : decode? bytes = some text) : glyphs bytes = text.map some := by
  rw [← List.forall₂_eq_eq_eq, List.forall₂_map_right_iff]
  exact mapM_eq_some.1 h

theorem mem_of_decode? {b : UInt8} (hascii : b.toNat < 0x80)
    {front back : List UInt8} {text : List Char}
    (h : decode? (front ++ b :: back) = some text) :
    Char.ofNat b.toNat ∈ text := by
  have hread := glyphs_of_decode? h
  rw [glyphs_append_cons hascii, glyphs_one _ hascii] at hread
  have hmem : some (Char.ofNat b.toNat) ∈ text.map some := by simp [← hread]
  simpa using hmem

theorem decodeLossy_append_cons {b : UInt8} (h : b.toNat < 0x80)
    (front back : List UInt8) :
    decodeLossy (front ++ b :: back) =
      decodeLossy front ++ .ofNat b.toNat :: decodeLossy back := by
  rw [decodeLossy, glyphs_append_cons h, glyphs_one _ h, List.map_append]
  rfl

@[simp] theorem decodeLossy_encode (text : List Char) :
    decodeLossy (encode text) = text := by
  rw [decodeLossy, glyphs_encode, List.map_map]
  exact List.map_id text

theorem encode_injective : Function.Injective encode := by
  intro first second h
  have hdecoded := congrArg decode? h
  simpa using hdecoded

end SearchClient.Utf8

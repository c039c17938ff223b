import SearchClient.Endpoint
import SearchClient.Proofs.Except
import SearchClient.Proofs.Url.Component

/-!
# The authority of a parsed URL

No sign that ends an authority stands inside the one that parsing yields: user
names are escaped, names of hosts hold neither such signs nor characters that
are mapped to them, and addresses and ports are made of digits, points, colons
and brackets.
-/

namespace SearchClient

theorem isPlain_of_toNat {c : Char}
    (h : 0x40 ≤ c.toNat ∨ (0x24 ≤ c.toNat ∧ c.toNat < 0x2F) ∨
      (0x30 ≤ c.toNat ∧ c.toNat < 0x3F)) : IsPlain c := by
  refine ⟨?_, ?_, ?_⟩ <;> rintro rfl <;> simp at h

theorem isPlain_ofNat {n : Nat} (h : 0x40 ≤ n) : IsPlain (.ofNat n) := by
  by_cases hvalid : n.isValidChar
  · rw [Char.ofNat, dif_pos hvalid]
    exact isPlain_of_toNat (.inl h)
  · rw [Char.ofNat, dif_neg hvalid]
    decide

theorem exists_of_mem_mapM {α β : Type} {f : α → Option β} {xs : List α}
    {ys : List β} (h : xs.mapM f = some ys) {y : β} (hy : y ∈ ys) :
    ∃ x ∈ xs, f x = some y := by
  induction xs generalizing ys with
  | nil => simp_all
  | cons x xs ih =>
      rw [List.mapM_cons] at h
      obtain ⟨image, himage, h⟩ := Option.bind_eq_some_iff.1 h
      obtain ⟨images, himages, h⟩ := Option.bind_eq_some_iff.1 h
      rw [← Option.some.inj h] at hy
      rcases List.mem_cons.1 hy with rfl | hy
      · exact ⟨x, List.mem_cons_self, himage⟩
      · obtain ⟨other, hmem, hother⟩ := ih himages hy
        exact ⟨other, List.mem_cons_of_mem _ hmem, hother⟩

theorem plain_intercalate {between : List Char}
    (hbetween : ∀ c ∈ between, IsPlain c) {parts : List (List Char)}
    (h : ∀ part ∈ parts, ∀ c ∈ part, IsPlain c) :
    ∀ c ∈ between.intercalate parts, IsPlain c := by
  induction parts with
  | nil => simp
  | cons part parts ih =>
      simp only [List.forall_mem_cons] at h
      cases parts with
      | nil => simpa using h.1
      | cons next parts =>
          rw [List.intercalate_cons_cons, List.forall_mem_append,
            List.forall_mem_append]
          exact ⟨⟨h.1, hbetween⟩, ih h.2⟩

/-! ## Names of hosts -/

namespace Text

theorem loweringRuns_image :
    loweringRuns.all (fun (first, _, _, offset) =>
      0x61 ≤ (first : Int) + offset) = true := by
  decide +kernel

theorem lowerCodePoint_cases (n : Nat) :
    lowerCodePoint n = n ∨ 0x61 ≤ lowerCodePoint n := by
  unfold lowerCodePoint
  split
  · next first last step offset hfind =>
    have himage := List.all_eq_true.1 loweringRuns_image _
      (List.mem_of_find?_eq_some hfind)
    have hrange := List.find?_some hfind
    simp only [Bool.and_eq_true, decide_eq_true_eq] at himage hrange
    exact .inr (by omega)
  · exact .inl rfl

theorem plain_lowerChar {c : Char} (h : IsPlain c) :
    ∀ x ∈ lowerChar c, IsPlain x := by
  unfold lowerChar
  split
  · exact forall_plain rfl
  · intro x hx
    rw [List.mem_singleton.1 hx]
    cases lowerCodePoint_cases c.toNat with
    | inl hsame => rwa [hsame, Char.ofNat_toNat]
    | inr hletter => exact isPlain_ofNat (by omega)

end Text

namespace Domain

theorem plain_of_not_forbidden {c : Char} (h : isForbidden c = false) :
    IsPlain c := by
  refine ⟨?_, ?_, ?_⟩ <;> rintro rfl <;> exact absurd h (by decide)

theorem plain_mapChar {c : Char} {image : List Char}
    (h : mapChar? c = some image) : ∀ x ∈ image, IsPlain x := by
  unfold mapChar? at h
  split at h
  · split at h
    · simp at h
    · next hforbidden =>
      rw [← Option.some.inj h]
      exact Text.plain_lowerChar
        (plain_of_not_forbidden (by simpa using hforbidden))
  · next hascii =>
    split at h
    · simp [← Option.some.inj h]
    · split at h
      · rw [← Option.some.inj h]
        exact forall_plain rfl
      · split at h
        · simp only at h
          split at h
          · simp at h
          · next hforbidden =>
            rw [← Option.some.inj h]
            exact Text.plain_lowerChar
              (plain_of_not_forbidden (by simpa using hforbidden))
        · split at h
          · simp at h
          · rw [← Option.some.inj h]
            exact Text.plain_lowerChar (isPlain_of_toNat (.inl (by omega)))

theorem plain_mapChars {text mapped : List Char}
    (h : mapChars? text = some mapped) : ∀ x ∈ mapped, IsPlain x := by
  obtain ⟨images, himages, rfl⟩ := Option.map_eq_some_iff.1 h
  intro x hx
  obtain ⟨image, himage, hx⟩ := List.mem_flatten.1 hx
  obtain ⟨c, -, hc⟩ := exists_of_mem_mapM himages himage
  exact plain_mapChar hc x hx

end Domain

namespace Punycode

theorem threshold_le (bias k : Nat) : threshold bias k ≤ 26 := by
  unfold threshold
  split <;> omega

theorem plain_digitChar : ∀ d < 36, IsPlain (digitChar d) := by decide

theorem plain_encodeNumber (bias k q : Nat) :
    ∀ c ∈ encodeNumber bias k q, IsPlain c := by
  fun_induction encodeNumber bias k q with
  | case1 k q t hlast =>
      have hle : t ≤ 26 := threshold_le bias k
      exact List.forall_mem_singleton.2 (plain_digitChar q (by omega))
  | case2 k q t hmore ih =>
      have hle : t ≤ 26 := threshold_le bias k
      have hlt : (q - t) % (36 - t) < 36 - t := Nat.mod_lt _ (by omega)
      exact List.forall_mem_cons.2 ⟨plain_digitChar _ (by omega), ih⟩

theorem plain_visit {e : Encoder} (h : ∀ c ∈ e.output, IsPlain c)
    (basic code : Nat) (x : Char) :
    ∀ c ∈ (e.visit basic code x).output, IsPlain c := by
  unfold Encoder.visit
  split
  · exact h
  · split
    · exact List.forall_mem_append.2 ⟨h, plain_encodeNumber _ _ _⟩
    · exact h

theorem plain_visits (label : List Char) (basic code : Nat) {e : Encoder}
    (h : ∀ c ∈ e.output, IsPlain c) :
    ∀ c ∈ (label.foldl (Encoder.visit basic code) e).output, IsPlain c := by
  induction label generalizing e with
  | nil => exact h
  | cons x label ih => exact ih (plain_visit h basic code x)

theorem plain_encodeCodes (label : List Char) (basic : Nat) (codes : List Nat)
    (next : Nat) {e : Encoder} (h : ∀ c ∈ e.output, IsPlain c) :
    ∀ c ∈ (encodeCodes label basic codes next e).output, IsPlain c := by
  induction codes generalizing next e with
  | nil => exact h
  | cons code codes ih => exact ih (code + 1) (plain_visits label basic code h)

theorem plain_encode {label : List Char} (h : ∀ c ∈ label, IsPlain c) :
    ∀ c ∈ encode label, IsPlain c := by
  unfold encode
  simp only [List.forall_mem_append]
  refine ⟨⟨?_, ?_⟩, plain_encodeCodes _ _ _ _ (by simp)⟩
  · intro c hc
    exact h c (List.mem_filter.1 hc).1
  · split
    · exact forall_plain rfl
    · exact forall_plain rfl

end Punycode

namespace Domain

theorem plain_labels {text : List Char} (h : ∀ c ∈ text, IsPlain c) :
    ∀ label ∈ labels text, ∀ c ∈ label, IsPlain c := by
  induction text with
  | nil => simp [labels]
  | cons x text ih =>
      simp only [List.forall_mem_cons] at h
      have hrest := ih h.2
      simp only [labels] at hrest ⊢
      rw [List.splitOn_cons_eq_if_modifyHead]
      split
      · simpa using hrest
      · obtain ⟨label, rest, hcons⟩ :=
          List.exists_cons_of_ne_nil (List.splitOn_ne_nil '.' text)
        rw [hcons] at hrest ⊢
        simpa [h.1] using hrest

theorem plain_encodedMark : ∀ c ∈ encodedMark, IsPlain c := forall_plain rfl

theorem plain_label {label ascii : List Char} (h : label? label = some ascii)
    (hplain : ∀ c ∈ label, IsPlain c) : ∀ c ∈ ascii, IsPlain c := by
  unfold label? at h
  split at h
  · split at h
    · contradiction
    · split at h
      · rwa [← Option.some.inj h]
      · contradiction
  · split at h
    · rwa [← Option.some.inj h]
    · split at h
      · rw [← Option.some.inj h]
        exact List.forall_mem_append.2
          ⟨plain_encodedMark, Punycode.plain_encode hplain⟩
      · contradiction

theorem plain_toAscii {bytes : List UInt8} {ascii : List Char}
    (h : toAscii bytes = .ok ascii) : ∀ c ∈ ascii, IsPlain c := by
  unfold toAscii at h
  split at h
  · contradiction
  · next mapped hmapped =>
    split at h
    · contradiction
    · contradiction
    · next labels _ hlabels =>
      obtain ⟨text, -, hmapped⟩ := Option.bind_eq_some_iff.1 hmapped
      rw [← Except.ok.inj h]
      apply plain_intercalate (forall_plain rfl)
      intro label hlabel
      obtain ⟨mappedLabel, hmem, hlabel⟩ := exists_of_mem_mapM hlabels hlabel
      exact plain_label hlabel
        (plain_labels (plain_mapChars hmapped) mappedLabel hmem)

end Domain

/-! ## Addresses, users and ports -/

theorem plain_toDigits {base : Nat} (hbase : 1 < base) (hle : base ≤ 16)
    (n : Nat) : ∀ c ∈ Nat.toDigits base n, IsPlain c := by
  have hdigit : ∀ d < 16, IsPlain d.digitChar := by decide
  induction n using Nat.strongRecOn with
  | ind n ih =>
      rw [Nat.toDigits_eq_if hbase]
      split
      · exact List.forall_mem_singleton.2 (hdigit n (by omega))
      · next hmore =>
        have hmod : n % base < base := Nat.mod_lt n (by omega)
        rw [List.forall_mem_append, List.forall_mem_singleton]
        exact ⟨ih _ (Nat.div_lt_self (by omega) hbase), hdigit _ (by omega)⟩

theorem Ipv4.plain_render (address : Nat) :
    ∀ c ∈ (Ipv4.render address).toList, IsPlain c := by
  rw [Ipv4.render, String.toList_intercalate]
  apply plain_intercalate (forall_plain rfl)
  intro part hpart
  obtain ⟨number, hnumber, rfl⟩ := List.mem_map.1 hpart
  obtain ⟨i, -, rfl⟩ := List.mem_map.1 hnumber
  rw [Nat.toList_repr]
  exact plain_toDigits (by decide) (by decide) _

theorem Ipv6.plain_renderPieces (pieces : List Nat) :
    ∀ c ∈ (Ipv6.renderPieces pieces).toList, IsPlain c := by
  rw [Ipv6.renderPieces, String.toList_intercalate]
  apply plain_intercalate (forall_plain rfl)
  intro part hpart
  obtain ⟨number, hnumber, rfl⟩ := List.mem_map.1 hpart
  obtain ⟨n, -, rfl⟩ := List.mem_map.1 hnumber
  rw [String.toList_ofList]
  exact plain_toDigits (by decide) (by decide) _

theorem plain_append {left right : String}
    (hleft : ∀ c ∈ left.toList, IsPlain c)
    (hright : ∀ c ∈ right.toList, IsPlain c) :
    ∀ c ∈ (left ++ right).toList, IsPlain c := by
  rw [String.toList_append]
  exact List.forall_mem_append.2 ⟨hleft, hright⟩

theorem Ipv6.plain_render (pieces : List Nat) :
    ∀ c ∈ (Ipv6.render pieces).toList, IsPlain c := by
  unfold Ipv6.render
  simp only
  split
  · exact plain_renderPieces pieces
  · apply plain_append
    · exact plain_append (plain_renderPieces _) (forall_plain rfl)
    · exact plain_renderPieces _

theorem Host.plain_parseBracketed {text : List Char} {host : Host}
    (h : Host.parseBracketed text = .ok host) :
    ∀ c ∈ host.render.toList, IsPlain c := by
  unfold Host.parseBracketed at h
  split at h
  · obtain ⟨pieces, -, rfl⟩ := Except.map_eq_ok.1 h
    apply plain_append
    · exact plain_append (forall_plain rfl) (Ipv6.plain_render pieces)
    · exact forall_plain rfl
  · contradiction

theorem Host.plain_parseSpecial {text : List Char} {host : Host}
    (h : Host.parseSpecial text = .ok host) :
    ∀ c ∈ host.render.toList, IsPlain c := by
  unfold Host.parseSpecial at h
  split at h
  · exact plain_parseBracketed h
  · obtain ⟨ascii, hascii, h⟩ := Except.bind_eq_ok.1 h
    split at h
    · obtain ⟨address, -, rfl⟩ := Except.map_eq_ok.1 h
      exact Ipv4.plain_render address
    · rw [← Except.ok.inj h]
      simpa [Host.render] using Domain.plain_toAscii hascii

namespace Url

theorem plain_userInfo (text : List Char) :
    (∀ c ∈ (userInfo text).1.toList, IsPlain c) ∧
      ∀ c ∈ (userInfo text).2.toList, IsPlain c := by
  have hencode :
      ∀ part : List Char, ∀ c ∈ Percent.encode isReservedInUserInfo part,
        IsPlain c := by
    intro part c hc
    refine ⟨?_, ?_, ?_⟩ <;> rintro rfl <;>
      exact Percent.not_mem_encode (by decide) (by decide) (by decide) _ hc
  simpa [userInfo] using ⟨hencode _, hencode _⟩

theorem plain_renderUserInfo {url : Url}
    (husername : ∀ c ∈ url.username.toList, IsPlain c)
    (hpassword : ∀ c ∈ url.password.toList, IsPlain c) :
    ∀ c ∈ url.renderUserInfo.toList, IsPlain c := by
  have hinfo :
      ∀ c ∈ (if url.password.isEmpty then "" else ":" ++ url.password).toList,
        IsPlain c := by
    split
    · exact forall_plain rfl
    · exact plain_append (forall_plain rfl) hpassword
  rw [renderUserInfo]
  by_cases hempty : (url.username ++
      if url.password.isEmpty then "" else ":" ++ url.password).isEmpty
  · rw [if_pos hempty]
    exact forall_plain rfl
  · rw [if_neg hempty]
    exact plain_append (plain_append husername hinfo) (forall_plain rfl)

theorem plain_authority {url : Url}
    (husername : ∀ c ∈ url.username.toList, IsPlain c)
    (hpassword : ∀ c ∈ url.password.toList, IsPlain c)
    (hhost : ∀ c ∈ url.host.render.toList, IsPlain c) :
    ∀ c ∈ url.authority.toList, IsPlain c := by
  have huser := plain_renderUserInfo husername hpassword
  apply plain_append (plain_append huser hhost)
  cases url.port with
  | none => simp
  | some port =>
      apply plain_append (forall_plain rfl)
      rw [Nat.toList_repr]
      exact plain_toDigits (by decide) (by decide) _

@[simp] theorem withRest_scheme (url : Url) (text : List Char) :
    (url.withRest text).scheme = url.scheme := rfl

@[simp] theorem withRest_authority (url : Url) (text : List Char) :
    (url.withRest text).authority = url.authority := rfl

theorem plain_parseSpecial {scheme : String} {text : List Char} {url : Url}
    (h : parseSpecial scheme text = .ok (some url)) :
    ∀ c ∈ url.authority.toList, IsPlain c := by
  unfold parseSpecial at h
  simp only at h
  split at h
  · contradiction
  · obtain ⟨host, hhost, h⟩ := Except.bind_eq_ok.1 h
    obtain ⟨port, -, h⟩ := Except.bind_eq_ok.1 h
    rw [← Option.some.inj (Except.ok.inj h), withRest_authority]
    exact plain_authority (plain_userInfo _).1 (plain_userInfo _).2
      (Host.plain_parseSpecial hhost)

theorem parseFile_scheme {scheme : String} {text : List Char} {url : Url}
    (h : parseFile scheme text = .ok (some url)) : url.scheme = scheme := by
  unfold parseFile at h
  simp only at h
  split at h
  · nomatch h
  · obtain ⟨host, -, h⟩ := Except.bind_eq_ok.1 h
    split at h
    · nomatch h
    · rw [← Option.some.inj (Except.ok.inj h), withRest_scheme]

theorem parseOther_scheme {scheme : String} {text : List Char} {url : Url}
    (h : parseOther scheme text = .ok (some url)) : url.scheme = scheme := by
  unfold parseOther at h
  simp only at h
  split at h
  · contradiction
  · obtain ⟨host, -, h⟩ := Except.bind_eq_ok.1 h
    split at h
    · split at h <;> nomatch h
    · obtain ⟨port, -, h⟩ := Except.bind_eq_ok.1 h
      rw [← Option.some.inj (Except.ok.inj h), withRest_scheme]

theorem plain_parse {raw : String} {url : Url} (h : parse raw = .ok (some url))
    (hscheme : url.scheme = "http" ∨ url.scheme = "https") :
    ∀ c ∈ url.authority.toList, IsPlain c := by
  unfold parse at h
  split at h
  · contradiction
  · split at h
    · split at h
      · rw [parseFile_scheme h] at hscheme
        simp at hscheme
      · nomatch h
    · nomatch h
  · next scheme rest _ =>
    split at h
    · exact plain_parseSpecial h
    · next hspecial =>
      split at h
      · rw [parseOther_scheme h] at hscheme
        rcases hscheme with rfl | rfl <;> exact absurd rfl hspecial
      · nomatch h

end Url

theorem Endpoint.plain_authority {raw : String} {host : Endpoint}
    (h : parse raw = .ok host)
    (hscheme : host.base.scheme = "http" ∨ host.base.scheme = "https") :
    ∀ c ∈ host.base.authority.toList, IsPlain c := by
  unfold parse at h
  split at h
  · next url hurl =>
    rw [← Except.ok.inj h] at hscheme ⊢
    exact Url.plain_parse hurl hscheme
  · nomatch h
  · nomatch h

end SearchClient

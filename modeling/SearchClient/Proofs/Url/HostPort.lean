import Mathlib.Data.List.TakeWhile
import SearchClient.Proofs.Url.Authority

/-!
# The parts of an authority

The user is what stands before the last at sign.  A colon begins the port unless
it stands in brackets; since neither a port nor a host without brackets holds a
colon, the port that is read is what follows the last one.
-/

namespace SearchClient

/-! ## User information -/

namespace Url

theorem takeWhile_reverse_append {text : List Char} (h : '@' ∉ text)
    (rest : List Char) :
    (text.reverse ++ rest).takeWhile (· ≠ '@') =
      text.reverse ++ rest.takeWhile (· ≠ '@') := by
  apply List.takeWhile_append_of_pos
  intro c hc
  exact decide_eq_true fun heq => h (heq ▸ List.mem_reverse.1 hc)

theorem splitUserInfo_of_not_mem {text : List Char} (h : '@' ∉ text) :
    splitUserInfo text = (none, text) := by
  have hafter := takeWhile_reverse_append h []
  rw [List.append_nil, List.takeWhile_nil, List.append_nil] at hafter
  rw [splitUserInfo, hafter, List.reverse_reverse]
  exact if_pos rfl

theorem splitUserInfo_append {after : List Char} (h : '@' ∉ after)
    (info : List Char) :
    splitUserInfo (info ++ '@' :: after) = (some info, after) := by
  have hreverse : (info ++ '@' :: after).reverse =
      after.reverse ++ '@' :: info.reverse := by simp
  have hafter : (info ++ '@' :: after).reverse.takeWhile (· ≠ '@') =
      after.reverse := by
    rw [hreverse, takeWhile_reverse_append h, List.takeWhile_cons_of_neg
      (by decide), List.append_nil]
  have hlonger : ¬after.length = (info ++ '@' :: after).length := by
    rw [List.length_append, List.length_cons]
    omega
  have hinfo : (info ++ '@' :: after).length - after.length - 1 =
      info.length := by
    rw [List.length_append, List.length_cons]
    omega
  rw [splitUserInfo, hafter, List.reverse_reverse, if_neg hlonger, hinfo,
    List.take_left]

theorem userInfo_eq_empty_iff {text : List Char} :
    userInfo text = ("", "") ↔ text = [] ∨ text = [':'] := by
  simp only [userInfo, Prod.mk.injEq, String.ofList_eq_empty_iff,
    Percent.encode_eq_nil_iff]
  cases text with
  | nil => simp
  | cons c text =>
      by_cases hc : c = ':'
      · simp [hc]
      · simp [hc]

end Url

/-! ## Ports -/

namespace Ipv4

theorem digitValue?_digitChar :
    ∀ d < 10, digitValue? 10 d.digitChar = some d := by decide

theorem value?_toDigits (n : Nat) :
    value? 10 (Nat.toDigits 10 n) = some n := by
  induction n using Nat.strongRecOn with
  | ind n ih =>
      rw [Nat.toDigits_eq_if (by decide)]
      split
      · next hsmall => simp [value?, digitValue?_digitChar n hsmall]
      · next hmore =>
        have hlast := digitValue?_digitChar (n % 10) (Nat.mod_lt n (by decide))
        have hfront := ih (n / 10) (by omega)
        rw [value?] at hfront
        rw [value?, List.foldlM_append, hfront]
        simp [hlast, Nat.div_add_mod]

theorem colon_not_mem_of_value? {text : List Char} {n : Nat}
    (h : value? 10 text = some n) : ':' ∉ text :=
  fun hcolon => ne_none_of_foldlM h ':' hcolon (by decide)

end Ipv4

namespace Url

def digits (port : UInt16) : List Char := Nat.toDigits 10 port.toNat

theorem isDigit_of_mem_digits {port : UInt16} {c : Char}
    (h : c ∈ digits port) : c.isDigit = true :=
  Nat.isDigit_of_mem_toDigits (by decide) (by decide) h

theorem not_mem_digits {c : Char} (h : c.isDigit = false) (port : UInt16) :
    c ∉ digits port := by
  intro hmem
  simp [isDigit_of_mem_digits hmem] at h

theorem digits_ne_nil (port : UInt16) : digits port ≠ [] :=
  Nat.toDigits_ne_nil

theorem parsePort_digits (port : UInt16) :
    parsePort (digits port) = .ok (some port) := by
  have hne : (digits port).isEmpty = false := by simp [digits_ne_nil]
  have hlt := port.toNat_lt
  rw [parsePort, hne, digits, Ipv4.value?_toDigits]
  simp [hlt]

theorem colon_not_mem_of_parsePort {text : List Char} {port : Option UInt16}
    (h : parsePort text = .ok port) : ':' ∉ text := by
  unfold parsePort at h
  split at h
  · next hempty => simp [List.isEmpty_iff.1 hempty]
  · split at h
    · next hvalue => exact Ipv4.colon_not_mem_of_value? hvalue
    · nomatch h

end Url

/-! ## Hosts -/

namespace Domain

theorem colon_not_mem_of_toAscii {text ascii : List Char}
    (h : toAscii (Percent.decode (Utf8.encode text)) = .ok ascii) :
    ':' ∉ text := by
  intro hcolon
  have hbyte : Utf8.encodeChar ':' = [0x3A] := by decide
  obtain ⟨front, back, rfl⟩ := List.append_of_mem hcolon
  rw [Utf8.encode_append, Utf8.encode_cons, hbyte, List.singleton_append,
    Percent.decode_append_cons (by decide),
    Percent.decode_cons_of_ne (by decide)] at h
  unfold toAscii at h
  split at h
  · nomatch h
  · next mapped hmapped =>
    obtain ⟨name, hname, hmapped⟩ := Option.bind_eq_some_iff.1 hmapped
    obtain ⟨images, himages, -⟩ := Option.map_eq_some_iff.1 hmapped
    have hmem := Utf8.mem_of_decode? (by decide) hname
    exact ne_none_of_mapM himages _ hmem (by decide)

end Domain

namespace Host

/-- A host is read from a text without colons, or up to a closing bracket. -/
theorem parseSpecial_colon {text : List Char} {host : Host}
    (h : parseSpecial text = .ok host) (hcolon : ':' ∈ text) :
    text.getLast? = some ']' := by
  unfold parseSpecial at h
  split at h
  · next rest =>
    unfold parseBracketed at h
    split at h
    · next hlast =>
      cases rest with
      | nil => simp at hlast
      | cons c rest => rwa [List.getLast?_cons_cons]
    · nomatch h
  · obtain ⟨ascii, hascii, -⟩ := Except.bind_eq_ok.1 h
    exact absurd hcolon (Domain.colon_not_mem_of_toAscii hascii)

end Host

namespace Url

theorem splitHost_of_not_mem {text : List Char} (h : ':' ∉ text)
    (inBrackets : Bool) : splitHost inBrackets text = (text, []) := by
  induction text generalizing inBrackets with
  | nil => rfl
  | cons c text ih =>
      rw [List.mem_cons, not_or] at h
      have hc : c ≠ ':' := fun heq => h.1 heq.symm
      simp [splitHost, hc, ih h.2]

/--
A colon before the one of the port ends the host, or a bracket that is not
closed takes both into the host.
-/
theorem splitHost_cases {port : List Char} (h : ':' ∉ port)
    (text : List Char) (inBrackets : Bool) :
    splitHost inBrackets (text ++ ':' :: port) = (text, ':' :: port) ∨
    (∃ name between, splitHost inBrackets (text ++ ':' :: port) =
      (name, ':' :: (between ++ ':' :: port))) ∨
    splitHost inBrackets (text ++ ':' :: port) = (text ++ ':' :: port, []) := by
  induction text generalizing inBrackets with
  | nil =>
      cases inBrackets with
      | false => exact .inl rfl
      | true =>
          have hport := splitHost_of_not_mem h true
          exact .inr (.inr (by simp [splitHost, hport]))
  | cons c text ih =>
      rw [List.cons_append, splitHost]
      split
      · next hends =>
        have hc : c = ':' := by simp_all
        exact .inr (.inl ⟨[], text, by rw [hc]⟩)
      · rcases ih ((inBrackets || c = '[') && c ≠ ']') with
          hsplit | ⟨name, between, hsplit⟩ | hsplit
        · exact .inl (by rw [hsplit])
        · exact .inr (.inl ⟨c :: name, between, by rw [hsplit]⟩)
        · exact .inr (.inr (by rw [hsplit]))

/-- Where both parts can be read, the last colon stands between them. -/
theorem splitHost_digits {text : List Char} {port : UInt16} {host : Host}
    {read : Option UInt16}
    (hhost : Host.parseSpecial (splitHost false (text ++ ':' :: digits port)).1 =
      .ok host)
    (hport : parsePort ((splitHost false (text ++ ':' :: digits port)).2.drop 1) =
      .ok read) :
    splitHost false (text ++ ':' :: digits port) =
      (text, ':' :: digits port) := by
  rcases splitHost_cases (not_mem_digits (by decide) port) text false with
    hsplit | ⟨name, between, hsplit⟩ | hsplit
  · exact hsplit
  · rw [hsplit] at hport
    exact absurd (by simp) (colon_not_mem_of_parsePort hport)
  · rw [hsplit] at hhost
    have hlast : (text ++ ':' :: digits port).getLast? = some ']' :=
      Host.parseSpecial_colon hhost (by simp)
    rw [List.append_cons,
      List.getLast?_append_of_ne_nil _ (digits_ne_nil port)] at hlast
    exact absurd (List.mem_of_getLast? hlast) (not_mem_digits (by decide) port)

end Url

end SearchClient

import SearchClient.Proofs.Url.HostPort

/-!
# URLs pasted together from a host and a port

A scheme, the text of a host and a port are written one after the other and read
back as one URL.  A text that names one host keeps the port behind it.  A sign
in the text that ends the authority leaves the port to what follows the
authority, and what stands before an at sign becomes a user.
-/

namespace SearchClient

/-! ## A port behind the authority -/

namespace UrlPath

theorem pushAll_cons {rest : Segments} (h : rest ≠ []) (path : Segments)
    (segment : List Char) :
    pushAll false path (segment :: rest) =
      pushAll false (push false path segment false) rest := by
  cases rest with
  | nil => contradiction
  | cons next rest => rfl

/-- A segment that is no dot segment stays before the empty one at the end. -/
theorem pushAll_ends {segment : List Char} (hsingle : isSingleDot segment = false)
    (hdouble : isDoubleDot segment = false) (front path : Segments) :
    ∃ start, pushAll false path (front ++ [segment, []]) =
      start ++ [segment, []] := by
  induction front generalizing path with
  | nil =>
      refine ⟨path, ?_⟩
      rw [List.nil_append, pushAll_cons (by simp), push_plain hsingle hdouble,
        pushAll, push_plain (by decide) (by decide), List.append_assoc]
      rfl
  | cons first front ih =>
      rw [List.cons_append, pushAll_cons (by simp)]
      exact ih _

end UrlPath

namespace Url

/-- The text of a host, a port and the root path, as they stand behind a scheme. -/
def pasted (text : List Char) (port : UInt16) : List Char :=
  text ++ ':' :: digits port ++ ['/']

theorem endsAuthority_iff {c : Char} :
    endsAuthority true c = true ↔ c ∈ ['/', '\\', '?', '#'] := by
  simp [endsAuthority, isSlash, or_assoc]

theorem endsAuthority_of_isDigit {c : Char} (h : c.isDigit = true) :
    endsAuthority true c = false := by
  rw [Bool.eq_false_iff, Ne, endsAuthority_iff]
  intro hmem
  simp only [List.mem_cons, List.not_mem_nil, or_false] at hmem
  rcases hmem with rfl | rfl | rfl | rfl <;> simp at h

theorem isSlash_of_isDigit {c : Char} (h : c.isDigit = true) :
    isSlash true c = false := by
  have hends := endsAuthority_of_isDigit h
  simp only [endsAuthority, Bool.or_eq_false_iff] at hends
  exact hends.1.1

/-- The segment that takes the port has a colon in it, so it is kept. -/
theorem parsePath_colon {c : Char} (hc : isSlash true c = true)
    (front : List Char) (port : UInt16) :
    ∃ start segment,
      parsePath true false (c :: pasted front port) =
        start ++ [segment, []] := by
  have hport : ∀ x ∈ ':' :: digits port, isSlash true x = false :=
    List.forall_mem_cons.2
      ⟨by decide, fun x hx => isSlash_of_isDigit (isDigit_of_mem_digits hx)⟩
  obtain ⟨before, last, hsplit⟩ := UrlPath.splitAt_append hport front
  let segment := Percent.encode UrlPath.isReserved (last ++ ':' :: digits port)
  have hcolon : ':' ∈ segment :=
    List.mem_flatMap.2 ⟨':', by simp, by decide⟩
  obtain ⟨start, hpush⟩ := UrlPath.pushAll_ends
    (UrlPath.isSingleDot_of_colon hcolon) (UrlPath.isDoubleDot_of_colon hcolon)
    (before.map (Percent.encode UrlPath.isReserved)) []
  refine ⟨start, segment, ?_⟩
  rw [← hpush, parsePath, pasted]
  simp only [List.isEmpty_cons, Bool.false_and, Bool.false_eq_true, if_false, hc,
    if_true]
  rw [UrlPath.splitAt_concat (by decide), hsplit]
  simp [segment, Percent.encode]

theorem ends_of_dropWhile {ends : Char → Bool} {text rest : List Char} {c : Char}
    (h : text.dropWhile (!ends ·) = c :: rest) : ends c = true := by
  have hhead := List.head?_dropWhile_not (!ends ·) text
  simpa [h] using hhead

theorem isSuffixMark_of_parseQuery {special : Bool} {text : List Char}
    (h : parseQuery special (text.dropWhile (!isSuffixMark ·)) =
      (none, none)) :
    ∀ c ∈ text, isSuffixMark c = false := by
  cases hrest : text.dropWhile (!isSuffixMark ·) with
  | nil => simpa using hrest
  | cons c rest =>
      have hmark := ends_of_dropWhile hrest
      rw [hrest] at h
      simp only [isSuffixMark, Bool.or_eq_true, decide_eq_true_eq] at hmark
      rcases hmark with rfl | rfl
      · simp [parseQuery] at h
      · simp [parseQuery, parseFragment] at h

/--
Without a query and a fragment, a port behind the sign that ends the authority
is part of the path.
-/
theorem withRest_ne_root {url : Url}
    (hscheme : url.scheme = "http" ∨ url.scheme = "https") {c : Char}
    (hc : endsAuthority true c = true) {front : List Char} {port : UInt16}
    {text : List Char} (htext : text = c :: pasted front port)
    (hquery : (url.withRest text).query = none)
    (hfragment : (url.withRest text).fragment = none) :
    (url.withRest text).path ≠ [[]] := by
  have hspecial : url.isSpecial = true ∧ url.isFile = false := by
    rcases hscheme with h | h <;> simp [isSpecial, isFile, h] <;> rfl
  have hmarks : ∀ x ∈ text, isSuffixMark x = false :=
    isSuffixMark_of_parseQuery (Prod.ext hquery hfragment)
  have hpath : (url.withRest text).path = parsePath true false text := by
    have hall : ∀ x ∈ text, (!isSuffixMark x) = true := by simpa using hmarks
    rw [← hspecial.1, ← hspecial.2]
    exact congrArg (parsePath _ _) (List.takeWhile_eq_self_iff.2 hall)
  have hslash : isSlash true c = true := by
    have hmark := hmarks c (by simp [htext])
    simp only [isSuffixMark, Bool.or_eq_false_iff, decide_eq_false_iff_not]
      at hmark
    simpa [endsAuthority, hmark] using hc
  obtain ⟨start, segment, hends⟩ := parsePath_colon hslash front port
  rw [hpath, htext, hends]
  intro hroot
  have hlength := congrArg List.length hroot
  simp at hlength

/-! ## Whole URLs -/

/-- Nothing but a host and a port before the path, and nothing behind it. -/
structure Addresses (url : Url) (port : UInt16) : Prop where
  port_eq : url.effectivePort? = some port
  username_eq : url.username = ""
  password_eq : url.password = ""
  query_eq : url.query = none
  fragment_eq : url.fragment = none

theorem Addresses.resource {url : Url} {port : UInt16}
    (h : url.Addresses port) (segments : List String) :
    (url.resource segments).Addresses port :=
  ⟨h.port_eq, h.username_eq, h.password_eq, h.query_eq, h.fragment_eq⟩

/-- A text that names one host; an empty user may stand before the name. -/
def Names (text name : List Char) : Prop :=
  (∀ c ∈ name, c ∉ ['/', '\\', '?', '#', '@']) ∧
    ∃ user ∈ [[], ['@'], [':', '@']], text = user ++ name

variable {scheme : String} {text name : List Char} {port : UInt16} {url : Url}

theorem parseSpecial_inv (h : parseSpecial scheme text = .ok (some url)) :
    let authority := splitUserInfo (text.takeWhile (!endsAuthority true ·))
    let parts := splitHost false authority.2
    ∃ host port, Host.parseSpecial parts.1 = .ok host ∧
      parsePort (parts.2.drop 1) = .ok port ∧
      url = withRest {
        scheme := scheme
        username := (userInfo (authority.1.getD [])).1
        password := (userInfo (authority.1.getD [])).2
        host := host
        port := port.filter fun p => defaultPort? scheme ≠ some p }
        (text.dropWhile (!endsAuthority true ·)) := by
  unfold parseSpecial at h
  simp only at h ⊢
  split at h
  · contradiction
  · obtain ⟨host, hhost, h⟩ := Except.bind_eq_ok.1 h
    obtain ⟨port, hport, h⟩ := Except.bind_eq_ok.1 h
    exact ⟨host, port, hhost, hport, (Option.some.inj (Except.ok.inj h)).symm⟩

theorem parseSpecial_scheme (h : parseSpecial scheme text = .ok (some url)) :
    url.scheme = scheme := by
  obtain ⟨_, _, -, -, rfl⟩ := parseSpecial_inv h
  rfl

/-- A text without a sign that ends the authority is an authority with its port. -/
theorem parseSpecial_plain (hscheme : scheme = "http" ∨ scheme = "https")
    (hplain : ∀ c ∈ text, endsAuthority true c = false)
    {info : Option (List Char)}
    (hinfo : splitUserInfo (text ++ ':' :: digits port) =
      (info, name ++ ':' :: digits port))
    (h : parseSpecial scheme (pasted text port) = .ok (some url)) :
    Host.parseSpecial name = .ok url.host ∧
      (url.username, url.password) = userInfo (info.getD []) ∧
      url.effectivePort? = some port ∧ url.path = [[]] ∧
      url.query = none ∧ url.fragment = none := by
  have hall : ∀ c ∈ text ++ ':' :: digits port,
      (!endsAuthority true c) = true := by
    intro c hc
    rw [Bool.not_eq_true']
    rcases List.mem_append.1 hc with hc | hc
    · exact hplain c hc
    · rcases List.mem_cons.1 hc with rfl | hc
      · decide
      · exact endsAuthority_of_isDigit (isDigit_of_mem_digits hc)
  have hauthority : (pasted text port).takeWhile (!endsAuthority true ·) =
      text ++ ':' :: digits port := by
    rw [pasted, List.takeWhile_append_of_pos hall]
    exact List.append_nil _
  have hrest : (pasted text port).dropWhile (!endsAuthority true ·) = ['/'] := by
    rw [pasted, List.dropWhile_append_of_pos hall]
    rfl
  obtain ⟨host, read, hhost, hport, hurl⟩ := parseSpecial_inv h
  rw [hauthority, hinfo] at hhost hport hurl
  have hsplit := splitHost_digits hhost hport
  rw [hsplit] at hhost hport
  rw [List.drop_one, List.tail_cons, parsePort_digits, Except.ok.injEq] at hport
  rw [hrest, ← hport] at hurl
  subst hurl
  refine ⟨hhost, rfl, ?_, ?_, ?_, ?_⟩
  · by_cases hdefault : defaultPort? scheme = some port
    · simp [effectivePort?, withRest, hdefault, Option.filter]
    · simp [effectivePort?, withRest, hdefault]
  · rcases hscheme with rfl | rfl <;> rfl
  · rfl
  · rfl

theorem pasted_ne_root (hscheme : scheme = "http" ∨ scheme = "https")
    {c : Char} (hc : c ∈ text) (hends : endsAuthority true c = true)
    (h : parseSpecial scheme (pasted text port) = .ok (some url))
    (hquery : url.query = none) (hfragment : url.fragment = none) :
    url.path ≠ [[]] := by
  cases hdrop : text.dropWhile (!endsAuthority true ·) with
  | nil =>
      have hplain := List.dropWhile_eq_nil_iff.1 hdrop c hc
      simp [hends] at hplain
  | cons first more =>
      have hrest : (pasted text port).dropWhile (!endsAuthority true ·) =
          first :: pasted more port := by
        rw [pasted, List.append_assoc, List.dropWhile_append, hdrop]
        simp [pasted]
      obtain ⟨host, read, -, -, hurl⟩ := parseSpecial_inv h
      rw [hrest] at hurl
      subst hurl
      exact withRest_ne_root hscheme (ends_of_dropWhile hdrop) rfl hquery
        hfragment

theorem exists_last_sign (h : '@' ∈ text) :
    ∃ info name, text = info ++ '@' :: name ∧ '@' ∉ name := by
  obtain ⟨front, back, happend, hfront⟩ :=
    List.eq_append_cons_of_mem (List.mem_reverse.2 h)
  refine ⟨back.reverse, front.reverse, ?_, by simpa using hfront⟩
  rw [← List.reverse_reverse text, happend]
  simp

theorem sign_not_mem_pasted (h : '@' ∉ name) (port : UInt16) :
    '@' ∉ name ++ ':' :: digits port := by
  have hport : '@' ∉ digits port := not_mem_digits (by decide) port
  simp [h, hport]

/-- The user before a name is empty. -/
theorem Names.empty_user (h : Names text name) (port : UInt16) :
    ∃ info, splitUserInfo (text ++ ':' :: digits port) =
        (info, name ++ ':' :: digits port) ∧
      userInfo (info.getD []) = ("", "") := by
  obtain ⟨hname, user, huser, rfl⟩ := h
  have hsign := sign_not_mem_pasted
    (fun hmem => hname '@' hmem (by decide)) port
  simp only [List.mem_cons, List.not_mem_nil, or_false] at huser
  rcases huser with rfl | rfl | rfl
  · exact ⟨none, splitUserInfo_of_not_mem hsign, rfl⟩
  · exact ⟨some [], splitUserInfo_append hsign [], rfl⟩
  · exact ⟨some [':'], splitUserInfo_append hsign [':'], rfl⟩

theorem Names.plain (h : Names text name) :
    ∀ c ∈ text, endsAuthority true c = false := by
  obtain ⟨hname, user, huser, rfl⟩ := h
  have husers : ∀ user ∈ [[], ['@'], [':', '@']], ∀ c ∈ user,
      endsAuthority true c = false := by simp [endsAuthority, isSlash]
  intro c hc
  cases List.mem_append.1 hc with
  | inl hc => exact husers user huser c hc
  | inr hc =>
      rw [Bool.eq_false_iff]
      intro hends
      exact hname c hc (List.mem_append_left ['@'] (endsAuthority_iff.1 hends))

/-- A host that is named has its port behind it and the root for a path. -/
theorem Names.addresses (hnames : Names text name)
    (hscheme : scheme = "http" ∨ scheme = "https")
    (h : parseSpecial scheme (pasted text port) = .ok (some url)) :
    Host.parseSpecial name = .ok url.host ∧ url.Addresses port ∧
      url.path = [[]] := by
  obtain ⟨info, hinfo, huser⟩ := hnames.empty_user port
  obtain ⟨hhost, hread, hport, hpath, hquery, hfragment⟩ :=
    parseSpecial_plain hscheme hnames.plain hinfo h
  rw [huser, Prod.mk.injEq] at hread
  exact ⟨hhost, ⟨hport, hread.1, hread.2, hquery, hfragment⟩, hpath⟩

theorem names_of_addresses (hscheme : scheme = "http" ∨ scheme = "https")
    (h : parseSpecial scheme (pasted text port) = .ok (some url))
    (haddresses : url.Addresses port) (hroot : url.path = [[]]) :
    ∃ name, Names text name := by
  have hplain : ∀ c ∈ text, endsAuthority true c = false := by
    intro c hc
    rw [Bool.eq_false_iff]
    intro hends
    exact pasted_ne_root hscheme hc hends h haddresses.query_eq
      haddresses.fragment_eq hroot
  have hfree : ∀ c ∈ text, c ≠ '@' → c ∉ ['/', '\\', '?', '#', '@'] := by
    intro c hc hsign
    have hends := mt endsAuthority_iff.2 (Bool.eq_false_iff.1 (hplain c hc))
    simpa [hsign] using hends
  by_cases hsign : '@' ∈ text
  · obtain ⟨info, name, rfl, hname⟩ := exists_last_sign hsign
    have hinfo : splitUserInfo (info ++ '@' :: name ++ ':' :: digits port) =
        (some info, name ++ ':' :: digits port) := by
      rw [List.append_assoc]
      exact splitUserInfo_append (sign_not_mem_pasted hname port) info
    obtain ⟨-, hread, -⟩ := parseSpecial_plain hscheme hplain hinfo h
    rw [haddresses.username_eq, haddresses.password_eq] at hread
    refine ⟨name, fun c hc => ?_, ?_⟩
    · exact hfree c (by simp [hc]) (fun heq => hname (heq ▸ hc))
    · rcases userInfo_eq_empty_iff.1 hread.symm with rfl | rfl
      · exact ⟨['@'], by simp, rfl⟩
      · exact ⟨[':', '@'], by simp, rfl⟩
  · refine ⟨text, fun c hc => ?_, [], by simp, rfl⟩
    exact hfree c hc (fun heq => hsign (heq ▸ hc))

/-! ## The text of a scheme and what stands behind it -/

theorem strip_of_ends {first last : Char} (hfirst : isOuterBlank first = false)
    (hlast : isOuterBlank last = false) (middle : List Char) :
    strip (first :: middle ++ [last]) =
      (first :: middle ++ [last]).filter (!UrlPath.isStripped ·) := by
  simp [strip, hfirst, hlast]

/--
The text of a host as it is read: tabs and line ends do not count, nor do
slashes before it.
-/
def writtenHost (host : String) : List Char :=
  (host.toList.filter (!UrlPath.isStripped ·)).dropWhile (isSlash true)

theorem parse_of_strip {raw : String} {rest : List Char}
    (hscheme : scheme = "http" ∨ scheme = "https")
    (hraw : strip raw.toList = scheme.toList ++ ':' :: rest) :
    parse raw = parseSpecial scheme (rest.dropWhile (isSlash true)) := by
  unfold parse
  rw [hraw]
  rcases hscheme with rfl | rfl <;> rfl

theorem filter_digits (port : UInt16) :
    (digits port).filter (!UrlPath.isStripped ·) = digits port := by
  rw [List.filter_eq_self]
  intro c hc
  rw [Bool.not_eq_true', Bool.eq_false_iff]
  intro hstripped
  simp only [UrlPath.isStripped, Bool.or_eq_true, decide_eq_true_eq]
    at hstripped
  have hdigit := isDigit_of_mem_digits hc
  rcases hstripped with (rfl | rfl) | rfl <;> simp at hdigit

theorem strip_parts (hscheme : scheme = "http" ∨ scheme = "https")
    (host : String) (port : UInt16) :
    strip (scheme ++ "://" ++ host ++ ":" ++ Nat.repr port.toNat ++ "/").toList =
      scheme.toList ++ ':' :: '/' :: '/' ::
        pasted (host.toList.filter (!UrlPath.isStripped ·)) port := by
  obtain ⟨rest, hrest, hkept⟩ : ∃ rest, scheme.toList = 'h' :: rest ∧
      scheme.toList.filter (!UrlPath.isStripped ·) = scheme.toList := by
    rcases hscheme with rfl | rfl
    · exact ⟨['t', 't', 'p'], by simp, by simp [UrlPath.isStripped]⟩
    · exact ⟨['t', 't', 'p', 's'], by simp, by simp [UrlPath.isStripped]⟩
  have htext :
      (scheme ++ "://" ++ host ++ ":" ++ Nat.repr port.toNat ++ "/").toList =
        'h' :: (rest ++ ':' :: '/' :: '/' :: host.toList ++ ':' :: digits port) ++
          ['/'] := by
    simp [hrest, digits, Nat.toList_repr]
  have hdigits := filter_digits port
  have hcolon : UrlPath.isStripped ':' = false := by decide
  have hslash : UrlPath.isStripped '/' = false := by decide
  rw [digits] at hdigits
  rw [htext, strip_of_ends (by decide) (by decide), ← htext]
  simp [hkept, hdigits, hcolon, hslash, pasted, digits, Nat.toList_repr]

theorem dropWhile_pasted (text : List Char) (port : UInt16) :
    (pasted text port).dropWhile (isSlash true) =
      pasted (text.dropWhile (isSlash true)) port := by
  rw [pasted, List.append_assoc, List.dropWhile_append]
  split
  · next hempty =>
    rw [List.isEmpty_iff.1 hempty]
    rfl
  · rw [pasted, List.append_assoc]

theorem parse_parts (hscheme : scheme = "http" ∨ scheme = "https")
    (host : String) (port : UInt16) :
    parse (scheme ++ "://" ++ host ++ ":" ++ Nat.repr port.toNat ++ "/") =
      parseSpecial scheme (pasted (writtenHost host) port) := by
  rw [parse_of_strip hscheme (strip_parts hscheme host port), writtenHost,
    ← dropWhile_pasted]
  rfl

end Url

end SearchClient

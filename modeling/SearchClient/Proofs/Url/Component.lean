import SearchClient.Proofs.Url.Segments
import SearchClient.Url.Basic

/-!
# The path component of an address

An address is read as any client reads it: the authority follows the scheme and
two slashes and reaches up to the next slash, question mark or hash; the path
reaches from there up to the query or the fragment.  For a URL whose authority
and segments hold none of the three signs, the path read off the written address
is the path that was written.
-/

namespace SearchClient

/-- Neither a slash nor a mark that begins a query or a fragment. -/
def IsPlain (c : Char) : Prop := c ≠ '/' ∧ c ≠ '?' ∧ c ≠ '#'

instance (c : Char) : Decidable (IsPlain c) :=
    inferInstanceAs (Decidable (_ ∧ _))

theorem forall_plain {text : List Char}
    (h : text.all (fun c => IsPlain c) = true) : ∀ c ∈ text, IsPlain c := by
  simpa using h

namespace Url

/-- What stands between the authority and the query or fragment. -/
def pathComponent (address : String) : List Char :=
  let rest := (address.toList.dropWhile (· ≠ ':')).drop 3
  (rest.dropWhile (fun c => IsPlain c)).takeWhile (fun c => c ≠ '?' ∧ c ≠ '#')

/-- The segments of the path component, which begins with a slash. -/
def pathSegments (address : String) : UrlPath.Segments :=
  UrlPath.splitAt (· = '/') ((pathComponent address).drop 1)

def authority (url : Url) : String :=
  url.renderUserInfo ++ url.host.render ++
    (url.port.elim "" fun port => ":" ++ Nat.repr port.toNat)

def suffix (url : Url) : String :=
  (url.query.elim "" ("?" ++ ·)) ++ (url.fragment.elim "" ("#" ++ ·))

theorem render_eq (url : Url) :
    url.render = url.scheme ++ "://" ++ url.authority ++ url.renderPath ++
      url.suffix := by
  simp [render, authority, suffix, String.append_assoc]

end Url

namespace UrlPath

section

variable {isSlash : Char → Bool}

theorem splitAt_ne_nil (text : List Char) : splitAt isSlash text ≠ [] := by
  cases text with
  | nil => simp [splitAt]
  | cons c text =>
      rw [splitAt]
      split
      · simp
      · split <;> simp

theorem splitAt_cons_of_neg {c : Char} (h : isSlash c = false)
    (text : List Char) :
    splitAt isSlash (c :: text) =
      (splitAt isSlash text).modifyHead (c :: ·) := by
  have hne : splitAt isSlash text ≠ [] := splitAt_ne_nil text
  obtain ⟨segment, rest, hcons⟩ := List.exists_cons_of_ne_nil hne
  simp [splitAt, h, hcons]

theorem splitAt_of_forall {segment : List Char}
    (h : ∀ c ∈ segment, isSlash c = false) :
    splitAt isSlash segment = [segment] := by
  induction segment with
  | nil => rfl
  | cons c segment ih =>
      rw [List.forall_mem_cons] at h
      rw [splitAt_cons_of_neg h.1, ih h.2]
      rfl

/-- A slash at the end leaves an empty segment. -/
theorem splitAt_concat {c : Char} (h : isSlash c = true) (text : List Char) :
    splitAt isSlash (text ++ [c]) = splitAt isSlash text ++ [[]] := by
  induction text with
  | nil => simp [splitAt, h]
  | cons x text ih =>
      rw [List.cons_append]
      cases hx : isSlash x with
      | true => simp [splitAt, hx, ih]
      | false =>
          have hne : splitAt isSlash text ≠ [] := splitAt_ne_nil text
          obtain ⟨segment, rest, hcons⟩ := List.exists_cons_of_ne_nil hne
          rw [splitAt_cons_of_neg hx, splitAt_cons_of_neg hx, ih, hcons]
          rfl

/-- A text without slashes ends up whole in the last segment. -/
theorem splitAt_append {tail : List Char} (h : ∀ c ∈ tail, isSlash c = false)
    (text : List Char) :
    ∃ front segment,
      splitAt isSlash (text ++ tail) = front ++ [segment ++ tail] := by
  induction text with
  | nil => exact ⟨[], [], splitAt_of_forall h⟩
  | cons x text ih =>
      obtain ⟨front, segment, hsplit⟩ := ih
      rw [List.cons_append]
      cases hx : isSlash x with
      | true => exact ⟨[] :: front, segment, by simp [splitAt, hx, hsplit]⟩
      | false =>
          rw [splitAt_cons_of_neg hx, hsplit]
          cases front with
          | nil => exact ⟨[], x :: segment, rfl⟩
          | cons first front => exact ⟨(x :: first) :: front, segment, rfl⟩

end

theorem splitAt_of_plain {segment : List Char} (h : ∀ c ∈ segment, IsPlain c) :
    splitAt (· = '/') segment = [segment] :=
  splitAt_of_forall fun c hc => decide_eq_false (h c hc).1

theorem splitAt_append_slash {segment : List Char}
    (h : ∀ c ∈ segment, IsPlain c) (rest : List Char) :
    splitAt (· = '/') (segment ++ '/' :: rest) =
      segment :: splitAt (· = '/') rest := by
  induction segment with
  | nil => simp [splitAt]
  | cons c segment ih =>
      simp only [List.forall_mem_cons] at h
      simp [splitAt, h.1.1, ih h.2]

theorem splitAt_render {path : Segments} (hsome : path ≠ [])
    (h : ∀ segment ∈ path, ∀ c ∈ segment, IsPlain c) :
    splitAt (· = '/') ((render path).drop 1) = path := by
  induction path with
  | nil => contradiction
  | cons segment path ih =>
      simp only [List.forall_mem_cons] at h
      cases path with
      | nil => simpa [render] using splitAt_of_plain h.1
      | cons next path =>
          have hrest := ih (by simp) h.2
          simp only [render, List.flatMap_cons, List.cons_append, List.drop_one,
            List.tail_cons] at *
          rw [splitAt_append_slash h.1, hrest]

theorem mem_render {path : Segments}
    (h : ∀ segment ∈ path, ∀ c ∈ segment, IsPlain c) {c : Char}
    (hc : c ∈ render path) : c ≠ '?' ∧ c ≠ '#' := by
  obtain ⟨segment, hmem, hc⟩ := List.mem_flatMap.1 hc
  rcases List.mem_cons.1 hc with rfl | hc
  · decide
  · exact (h segment hmem c hc).2

theorem plain_escaped {part : String} {c : Char} (hc : c ∈ escaped part) :
    IsPlain c := by
  refine ⟨?_, ?_, ?_⟩ <;> rintro rfl <;>
    exact Percent.not_mem_encode (by decide) (by decide) (by decide) _ hc

theorem plain_extend {path : Segments}
    (h : ∀ segment ∈ path, ∀ c ∈ segment, IsPlain c) (part : String) :
    ∀ segment ∈ extend true false path part, ∀ c ∈ segment, IsPlain c := by
  have hbare : ∀ segment ∈ bare path, ∀ c ∈ segment, IsPlain c := by
    unfold bare
    split
    · simp
    · exact h
  by_cases hskipped : part = "." ∨ part = ".."
  · simpa [extend, hskipped] using h
  · rw [not_or] at hskipped
    rw [extend_eq hskipped.1 hskipped.2, push_eq]
    split
    · rw [List.forall_mem_append, List.forall_mem_singleton]
      refine ⟨?_, by simp⟩
      intro segment hmem
      exact hbare segment (List.dropLast_subset _ hmem)
    · rw [apply_ite (fun path => ∀ segment ∈ path, ∀ c ∈ segment, IsPlain c)]
      simp only [List.forall_mem_append, List.forall_mem_singleton]
      split
      · exact ⟨hbare, by simp⟩
      · exact ⟨hbare, fun c hc => plain_escaped hc⟩

theorem extend_ne_nil {path : Segments} (h : path ≠ []) (part : String) :
    extend true false path part ≠ [] := by
  by_cases hskipped : part = "." ∨ part = ".."
  · simpa [extend, hskipped] using h
  · rw [not_or] at hskipped
    rw [extend_eq hskipped.1 hskipped.2, push_eq]
    split
    · simp
    · split <;> simp

theorem plain_foldl_extend (parts : List String) {path : Segments}
    (hsome : path ≠ []) (hplain : ∀ segment ∈ path, ∀ c ∈ segment, IsPlain c) :
    parts.foldl (extend true false) path ≠ [] ∧
      ∀ segment ∈ parts.foldl (extend true false) path, ∀ c ∈ segment,
        IsPlain c := by
  induction parts generalizing path with
  | nil => exact ⟨hsome, hplain⟩
  | cons part parts ih =>
      exact ih (extend_ne_nil hsome part) (plain_extend hplain part)

theorem resource_root (parts : List String) :
    resource true false [[]] parts ≠ [] ∧
      ∀ segment ∈ resource true false [[]] parts, ∀ c ∈ segment, IsPlain c := by
  have hroot : ([[]] : Segments) ≠ [] := by simp
  apply plain_foldl_extend parts hroot
  intro segment hmem
  simp [List.mem_singleton.1 hmem]

end UrlPath

namespace Url

theorem takeWhile_suffix (url : Url) :
    url.suffix.toList.takeWhile (fun c => c ≠ '?' ∧ c ≠ '#') = [] := by
  unfold suffix
  cases url.query with
  | some query => simp
  | none => cases url.fragment <;> simp

theorem pathSegments_render {url : Url}
    (hscheme : url.scheme = "http" ∨ url.scheme = "https")
    (hauthority : ∀ c ∈ url.authority.toList, IsPlain c)
    (hsome : url.path ≠ [])
    (hpath : ∀ segment ∈ url.path, ∀ c ∈ segment, IsPlain c) :
    pathSegments url.render = url.path := by
  have hrest : (url.render.toList.dropWhile (· ≠ ':')).drop 3 =
      url.authority.toList ++
        (UrlPath.render url.path ++ url.suffix.toList) := by
    rw [render_eq]
    rcases hscheme with h | h <;> simp [h, renderPath]
  have hslash :
      ∀ rest, (UrlPath.render url.path ++ rest).dropWhile (fun c => IsPlain c) =
        UrlPath.render url.path ++ rest := by
    obtain ⟨segment, path, hcons⟩ := List.exists_cons_of_ne_nil hsome
    intro rest
    rw [hcons]
    simp [UrlPath.render, IsPlain]
  have hpathComponent : pathComponent url.render = UrlPath.render url.path := by
    have hmarks : ∀ c ∈ UrlPath.render url.path, c ≠ '?' ∧ c ≠ '#' :=
      fun c hc => UrlPath.mem_render hpath hc
    unfold pathComponent
    simp only
    rw [hrest, List.dropWhile_append_of_pos (by simpa using hauthority), hslash,
      List.takeWhile_append_of_pos (by simpa using hmarks), takeWhile_suffix,
      List.append_nil]
  rw [pathSegments, hpathComponent, UrlPath.splitAt_render hsome hpath]

end Url

end SearchClient

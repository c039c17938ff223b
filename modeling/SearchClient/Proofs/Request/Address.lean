import SearchClient.Proofs.Url.Authority
import SearchClient.Request

/-!
# Where a request goes

The address of a request is the base of the endpoint followed by the names of
the index, of the type and of the document, and by what the operation adds.
Read off the address again, they are the names that the specification holds
exactly when each of them is one that a segment can stand for.
-/

namespace SearchClient

namespace Specification

/-- The names of the specification that an operation puts into its address. -/
def addressed (s : Specification) : Operation → List String
  | .save => [s.index.getD "", s.docType.getD ""] ++ (nonEmpty? s.id).toList
  | .search _ => [s.index.getD "", s.docType.getD ""]
  | .update | .delete | .get =>
      [s.index.getD "", s.docType.getD "", s.id.getD ""]

end Specification

def Operation.endings : Operation → List String
  | .update => ["_update"]
  | .search _ => ["_search"]
  | .save | .delete | .get => []

/-- The segments that a path reads as. -/
def Url.decodedSegments (address : String) : List (Option String) :=
  (pathSegments address).map UrlPath.decodeSegment

namespace Specification

theorem nonEmpty?_eq_some {text : Option String} {t : String} :
    nonEmpty? text = some t ↔ text = some t ∧ t ≠ "" := by
  simp [nonEmpty?, Option.filter_eq_some_iff]

theorem target?_eq_some {s : Specification} {index docType : String} :
    s.target? = some (index, docType) ↔
      nonEmpty? s.index = some index ∧ nonEmpty? s.docType = some docType := by
  cases hindex : nonEmpty? s.index <;> cases htype : nonEmpty? s.docType <;>
    simp [target?, hindex, htype]

theorem targetWithId?_eq_some {s : Specification} {index docType id : String} :
    s.targetWithId? = some (index, docType, id) ↔
      s.target? = some (index, docType) ∧ nonEmpty? s.id = some id := by
  cases htarget : s.target? <;> cases hid : nonEmpty? s.id <;>
    simp [targetWithId?, htarget, hid, Prod.ext_iff, and_assoc]

/--
What is prepared goes to the names of the specification and what the operation
adds, and none of the names is empty.
-/
theorem prepare_address {s : Specification} {host : Endpoint} {op : Operation}
    {request : PreparedRequest} (h : s.prepare host op = .ok request) :
    request.address = (host.resource (s.addressed op ++ op.endings)).render ∧
      ∀ part ∈ s.addressed op, part ≠ "" := by
  have hbare : ∀ verb missing, s.prepareBare host verb missing = .ok request →
      let parts := [s.index.getD "", s.docType.getD "", s.id.getD ""]
      request.address = (host.resource parts).render ∧
        ∀ part ∈ parts, part ≠ "" := by
    intro verb missing h
    unfold prepareBare at h
    split at h
    · contradiction
    · next index docType id htarget =>
      simp only [targetWithId?_eq_some, target?_eq_some, nonEmpty?_eq_some]
        at htarget
      simp [← Except.ok.inj h, htarget]
  cases op with
  | save =>
      simp only [prepare, prepareSave] at h
      split at h
      · contradiction
      · next index docType htarget =>
        simp only [target?_eq_some, nonEmpty?_eq_some] at htarget
        split at h
        · next id hid =>
          simp [← Except.ok.inj h, htarget, hid, addressed, Operation.endings,
            (nonEmpty?_eq_some.1 hid).2]
        · next hid =>
          simp [← Except.ok.inj h, htarget, hid, addressed, Operation.endings]
  | update =>
      simp only [prepare, prepareUpdate] at h
      split at h
      · contradiction
      · next index docType id htarget =>
        simp only [targetWithId?_eq_some, target?_eq_some, nonEmpty?_eq_some]
          at htarget
        simp [← Except.ok.inj h, htarget, addressed, Operation.endings]
  | delete => exact hbare _ _ h
  | get => exact hbare _ _ h
  | search mode =>
      simp only [prepare, prepareSearch] at h
      split at h
      · contradiction
      · next index docType htarget =>
        simp only [target?_eq_some, nonEmpty?_eq_some] at htarget
        obtain ⟨body, -, rfl⟩ := Except.map_eq_ok.1 h
        simp [htarget, addressed, Operation.endings]

end Specification

theorem Operation.addressable_endings (op : Operation) :
    ∀ part ∈ op.endings, UrlPath.IsAddressable part ∧ part ≠ "" := by
  cases op with
  | save => simp [endings]
  | delete => simp [endings]
  | get => simp [endings]
  | update =>
      simpa [endings] using (by decide : UrlPath.IsAddressable "_update")
  | search mode =>
      simpa [endings] using (by decide : UrlPath.IsAddressable "_search")

theorem Endpoint.pathSegments_resource {raw : String} {host : Endpoint}
    (hparse : parse raw = .ok host)
    (hscheme : host.base.scheme = "http" ∨ host.base.scheme = "https")
    (hroot : host.base.path = [[]]) (parts : List String) :
    Url.pathSegments (host.resource parts).render =
      UrlPath.resource true false [[]] parts := by
  have hresource :
      (host.resource parts).path = UrlPath.resource true false [[]] parts := by
    rcases hscheme with h | h <;>
      simp [resource, Url.resource, Url.isSpecial, Url.isFile, h, hroot] <;> rfl
  have hauthority := plain_authority hparse hscheme
  have hpath := UrlPath.resource_root parts
  rw [← hresource] at hpath ⊢
  exact Url.pathSegments_render hscheme hauthority hpath.1 hpath.2

variable {raw : String} {host : Endpoint}

/--
Names come back from an address below the root, with what the operation adds,
exactly when a segment can stand for each of them.
-/
theorem Endpoint.decodedSegments_resource_iff (hparse : parse raw = .ok host)
    (hscheme : host.base.scheme = "http" ∨ host.base.scheme = "https")
    (hroot : host.base.path = [[]]) {parts : List String}
    (hne : ∀ part ∈ parts, part ≠ "") (hsome : parts ≠ []) (op : Operation) :
    Url.decodedSegments (host.resource (parts ++ op.endings)).render =
        (parts ++ op.endings).map some ↔
      ∀ part ∈ parts, UrlPath.IsAddressable part := by
  have hendings := op.addressable_endings
  have hall : ∀ part ∈ parts ++ op.endings, part ≠ "" := by
    intro part hpart
    cases List.mem_append.1 hpart with
    | inl hpart => exact hne part hpart
    | inr hpart => exact (hendings part hpart).2
  rw [Url.decodedSegments, pathSegments_resource hparse hscheme hroot,
    UrlPath.decode_resource_iff hall (by simp [hsome])]
  constructor
  · intro hparts part hpart
    exact hparts part (List.mem_append_left _ hpart)
  · intro hparts part hpart
    cases List.mem_append.1 hpart with
    | inl hpart => exact hparts part hpart
    | inr hpart => exact (hendings part hpart).1

namespace Specification

theorem addressed_ne_nil (s : Specification) (op : Operation) :
    s.addressed op ≠ [] := by
  cases op <;> simp [addressed]

theorem decodedSegments_prepare_iff (hparse : Endpoint.parse raw = .ok host)
    (hscheme : host.base.scheme = "http" ∨ host.base.scheme = "https")
    (hroot : host.base.path = [[]]) {s : Specification} {op : Operation}
    {request : PreparedRequest} (h : s.prepare host op = .ok request) :
    Url.decodedSegments request.address =
        (s.addressed op ++ op.endings).map some ↔
      ∀ part ∈ s.addressed op, UrlPath.IsAddressable part := by
  obtain ⟨haddress, hne⟩ := prepare_address h
  rw [haddress]
  exact Endpoint.decodedSegments_resource_iff hparse hscheme hroot hne
    (s.addressed_ne_nil op) op

theorem resource_dot {id : String} (hdot : id = "." ∨ id = "..")
    (host : Endpoint) (parts endings : List String) :
    host.resource (parts ++ id :: endings) =
      host.resource (parts ++ endings) := by
  simp [Endpoint.resource, Url.resource, UrlPath.resource_dot hdot]

/--
A request reaches the document that its specification names exactly when no name
is a dot segment or holds a tab or a line end.  So two documents with such names
have two addresses, whatever else stands in the names; and an identifier that is
a dot segment leaves an operation on the whole type.
-/
theorem prepare_reaches_iff (hparse : Endpoint.parse raw = .ok host)
    (hscheme : host.base.scheme = "http" ∨ host.base.scheme = "https")
    (hroot : host.base.path = [[]]) :
    (∀ (s : Specification) (op : Operation) (request : PreparedRequest),
      s.prepare host op = .ok request →
        (Url.decodedSegments request.address =
            (s.addressed op ++ op.endings).map some ↔
          ∀ part ∈ s.addressed op, UrlPath.IsAddressable part)) ∧
    (∀ (s t : Specification) (op : Operation) (first second : PreparedRequest),
      s.prepare host op = .ok first → t.prepare host op = .ok second →
      (∀ part ∈ s.addressed op, UrlPath.IsAddressable part) →
      (∀ part ∈ t.addressed op, UrlPath.IsAddressable part) →
      first.address = second.address → s.addressed op = t.addressed op) ∧
    (∀ (s : Specification) (op : Operation) (request : PreparedRequest)
        (id : String),
      s.prepare host op = .ok request → op.isSearch = false →
      s.id = some id → (id = "." ∨ id = "..") →
      (∀ part ∈ [s.index.getD "", s.docType.getD ""],
        UrlPath.IsAddressable part) →
      Url.decodedSegments request.address =
        ([s.index.getD "", s.docType.getD ""] ++ op.endings).map some) := by
  refine ⟨?_, ?_, ?_⟩
  · intro s op request h
    exact decodedSegments_prepare_iff hparse hscheme hroot h
  · intro s t op first second hfirst hsecond hs ht haddress
    have hleft :=
      (decodedSegments_prepare_iff hparse hscheme hroot hfirst).2 hs
    have hright :=
      (decodedSegments_prepare_iff hparse hscheme hroot hsecond).2 ht
    rw [haddress, hright] at hleft
    have happend := List.map_injective_iff.2 (fun _ _ => Option.some.inj) hleft
    exact (List.append_cancel_right happend).symm
  · intro s op request id h hsearch hid hdot hparts
    obtain ⟨haddress, hne⟩ := prepare_address h
    have hnames :
        s.addressed op = [s.index.getD "", s.docType.getD ""] ++ [id] := by
      have hid' : nonEmpty? s.id = some id := by
        rcases hdot with rfl | rfl <;> simp [hid, nonEmpty?]
      cases op with
      | search mode => contradiction
      | save => simp [addressed, hid']
      | update => simp [addressed, hid]
      | delete => simp [addressed, hid]
      | get => simp [addressed, hid]
    rw [hnames] at haddress hne
    rw [List.append_assoc, List.singleton_append, resource_dot hdot] at haddress
    rw [haddress]
    have hfront :
        ∀ part ∈ [s.index.getD "", s.docType.getD ""], part ≠ "" :=
      fun part hpart => hne part (List.mem_append_left _ hpart)
    exact (Endpoint.decodedSegments_resource_iff hparse hscheme hroot hfront
      (by simp) op).2 hparts

theorem prepare_reaches_iff_at_local_host :
    ∃ host, Endpoint.parse "http://localhost:9200" = .ok host ∧
      (∃ request,
        ((target "a/b" "ü").withId "50%?#\\").prepare host .get = .ok request ∧
        Url.decodedSegments request.address =
          [some "a/b", some "ü", some "50%?#\\"]) ∧
      ∃ request,
        ((target "a/b" "ü").withId "..").prepare host .delete = .ok request ∧
        Url.decodedSegments request.address = [some "a/b", some "ü"] := by
  let host : Endpoint :=
    ⟨{
      scheme := "http"
      host := .name "localhost"
      port := some 9200
      path := [[]] }⟩
  have hparse : Endpoint.parse "http://localhost:9200" = .ok host := by
    decide +kernel
  obtain ⟨hreach, -, hdot⟩ := prepare_reaches_iff hparse (.inl rfl) rfl
  refine ⟨host, hparse, ⟨_, rfl, ?_⟩, ⟨_, rfl, ?_⟩⟩
  · exact (hreach ((target "a/b" "ü").withId "50%?#\\") .get _ rfl).2
      (by decide)
  · exact hdot ((target "a/b" "ü").withId "..") .delete _ ".." rfl rfl rfl
      (.inr rfl) (by decide)

end Specification

end SearchClient

import SearchClient.Exchange
import SearchClient.Proofs.Except
import SearchClient.Request

/-!
# What is prepared

The host decides on the address of a request and on nothing else.  A prepared
request carries an object, and then has a verb that sends it, or it carries
nothing at all; so what goes over the wire is the text of what was prepared.
-/

namespace SearchClient

namespace Specification

variable {s : Specification} {host : Endpoint} {operation : Operation}
  {prepared : PreparedRequest}

/-- A faulty specification is faulty for every host, and the verb and the body
are the same for all of them. -/
theorem prepare_congr_host (s : Specification) (a b : Endpoint)
    (operation : Operation) :
    (s.prepare a operation).map (fun p => (p.verb, p.body)) =
      (s.prepare b operation).map fun p => (p.verb, p.body) := by
  have hbare : ∀ verb missing,
      (s.prepareBare a verb missing).map (fun p => (p.verb, p.body)) =
        (s.prepareBare b verb missing).map fun p => (p.verb, p.body) := by
    intro verb missing
    simp only [prepareBare]
    cases s.targetWithId? with
    | none => simp only [Except.map_error]
    | some target => simp only [Except.map_ok]
  cases operation with
  | save =>
      simp only [prepare, prepareSave]
      cases s.target? with
      | none => simp only [Except.map_error]
      | some target => cases nonEmpty? s.id <;> simp only [Except.map_ok]
  | update =>
      simp only [prepare, prepareUpdate]
      cases s.targetWithId? with
      | none => simp only [Except.map_error]
      | some target => simp only [Except.map_ok]
  | delete => exact hbare .delete .deleteTargetRequired
  | get => exact hbare .get .getTargetRequired
  | search mode =>
      simp only [prepare, prepareSearch]
      cases s.target? with
      | none => simp only [Except.map_error]
      | some target =>
          cases s.searchBody mode with
          | error e => simp only [Except.map_error]
          | ok body => simp only [Except.map_ok]

theorem searchDocument_cases (body : SearchBody) :
    searchDocument body = none ∨
      ∃ fields, searchDocument body = some (.object fields) := by
  have hobject : ∃ fields, body.encode.collapse = .object fields := by
    rw [SearchBody.encode, Json.collapse]
    exact ⟨_, rfl⟩
  obtain ⟨fields, hfields⟩ := hobject
  rw [searchDocument, hfields]
  cases fields with
  | nil => exact .inl rfl
  | cons field fields => exact .inr ⟨_, rfl⟩

/-- What is prepared carries an object under a verb that sends it, or nothing. -/
theorem prepare_carries (h : s.prepare host operation = .ok prepared) :
    prepared.body = none ∨
      prepared.verb.hasBody = true ∧
        ∃ fields, prepared.body = some (.object fields) := by
  have hbare : ∀ verb missing,
      s.prepareBare host verb missing = .ok prepared → prepared.body = none := by
    intro verb missing h
    unfold prepareBare at h
    split at h
    · contradiction
    · rw [← Except.ok.inj h]
  cases operation with
  | save =>
      simp only [prepare, prepareSave] at h
      split at h
      · contradiction
      · split at h <;> rw [← Except.ok.inj h] <;> exact .inr ⟨rfl, _, rfl⟩
  | update =>
      simp only [prepare, prepareUpdate] at h
      split at h
      · contradiction
      · rw [← Except.ok.inj h]
        exact .inr ⟨rfl, _, rfl⟩
  | delete => exact .inl (hbare _ _ h)
  | get => exact .inl (hbare _ _ h)
  | search mode =>
      simp only [prepare, prepareSearch] at h
      split at h
      · contradiction
      · obtain ⟨body, -, rfl⟩ := Except.map_eq_ok.1 h
        exact (searchDocument_cases body).imp_right fun hfields => ⟨rfl, hfields⟩

/-- The body on the wire is the text of the document that was prepared. -/
theorem body_wire (h : s.prepare host operation = .ok prepared)
    (timeout : Duration) :
    (prepared.wire timeout).body =
      prepared.body.map fun document => Utf8.encode document.render.toList := by
  rcases prepare_carries h with hnone | ⟨hverb, -⟩
  · simp [PreparedRequest.wire, hnone]
  · simp [PreparedRequest.wire, hverb]

theorem body_ne_null (h : s.prepare host operation = .ok prepared) :
    prepared.body ≠ some .null := by
  rcases prepare_carries h with hnone | ⟨-, fields, hfields⟩
  · simp [hnone]
  · simp [hfields]

end Specification

end SearchClient

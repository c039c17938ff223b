import Mathlib.Data.List.Forall2
import SearchClient.Proofs.Session.Run
import SearchClient.Proofs.Spec.Target

/-!
# Ways to hand over a specification

A session that is given a mapping and one that is given the specification read
from it do the same: they send the same requests and return the same results,
but for the mapping that an error envelope repeats.
-/

namespace SearchClient

/-- The envelope without the mapping that an error repeats. -/
def Envelope.withoutParams : Envelope → Envelope
  | .error report =>
      .error
        { report with
          debugInfo := { report.debugInfo with params := .null } }
  | other => other

namespace Outcome

/-- Two outcomes that differ at most in the mapping that an error repeats. -/
structure SameButParams (a b : Outcome) : Prop where
  sent : a.sent = b.sent
  result : a.result.map (Option.map Envelope.withoutParams) =
    b.result.map (Option.map Envelope.withoutParams)

theorem SameButParams.refl (a : Outcome) : a.SameButParams a := ⟨rfl, rfl⟩

end Outcome

theorem Params.resolve_of_not_search {mapping : Json} {operation : Operation}
    (h : operation.isSearch = false) {spec : Specification}
    (hread : Specification.ofDocumentMapping mapping = .ok spec) :
    (Params.mapping mapping).resolve operation = .ok spec := by
  simp [Params.resolve, h, hread, Except.mapError]

namespace Session

/-- A specification is given, an operation selected and called. -/
def handOver (params : Params) (operation : Operation) (reply : Reply) :
    List Event :=
  [(.setParams params, reply), (.select operation, reply), (.call, reply)]

theorem sent_handOver {s : Session} {params : Params} {operation : Operation}
    (hallowed : s.Allows (.setParams params)) {host : Endpoint}
    (hhost : s.host = some host) (reply : Reply) :
    (s.turns (handOver params operation reply)).flatMap (·.outcome.sent) =
      (Session.execute
        { s with params := some params, stage := .selected operation }
        host params operation reply).sent := by
  simp only [handOver, turns_cons, turns_nil, step_setParams hallowed]
  simp [Session.step, Session.select, Session.call, hhost, done]

theorem ofAnswer_of_not_search {operation : Operation}
    (h : operation.isSearch = false) (answer : List UInt8)
    (s t : Specification) :
    Envelope.ofAnswer answer operation s =
      Envelope.ofAnswer answer operation t := by
  simp [Envelope.ofAnswer, h]

theorem resolve_mapping {entries : Entries Json} {spec : Specification}
    (h : Specification.ofMapping (.object entries) = .ok spec)
    (operation : Operation) :
    ∃ resolved,
      (Params.mapping (.object entries)).resolve operation = .ok resolved ∧
      (∀ host, resolved.prepare host operation = spec.prepare host operation) ∧
      ∀ answer, Envelope.ofAnswer answer operation resolved =
        Envelope.ofAnswer answer operation spec := by
  cases hsearch : operation.isSearch with
  | true =>
      exact ⟨spec, by simp [Params.resolve, hsearch, h, Except.mapError],
        by simp, by simp⟩
  | false =>
      obtain ⟨resolved, hresolved, hsame⟩ :=
        Specification.ofDocumentMapping_of_ofMapping h
      exact ⟨resolved, Params.resolve_of_not_search hsearch hresolved,
        fun host => hsame.prepare host hsearch,
        fun answer => ofAnswer_of_not_search hsearch answer _ _⟩

theorem request_of_resolve {params : Params} {operation : Operation}
    {spec : Specification} (h : params.resolve operation = .ok spec)
    (host : Endpoint) :
    Session.request host params operation =
      (spec.prepare host operation).map (spec, ·) := by
  rw [Session.request, h]
  cases hprepared : spec.prepare host operation with
  | error e => simp [hprepared]
  | ok prepared => simp [hprepared, pure, Except.pure]

theorem execute_mapping {s : Session} (hdebug : s.debug = false)
    {entries : Entries Json} {spec : Specification}
    (h : Specification.ofMapping (.object entries) = .ok spec) (host : Endpoint)
    (operation : Operation) (reply : Reply) :
    (s.execute host (.mapping (.object entries)) operation reply).SameButParams
      (s.execute host (.typed spec) operation reply) := by
  obtain ⟨resolved, hresolved, hprepare, hanswer⟩ := resolve_mapping h operation
  have htyped : (Params.typed spec).resolve operation = .ok spec := rfl
  unfold Session.execute
  rw [request_of_resolve hresolved, request_of_resolve htyped, hprepare]
  cases spec.prepare host operation with
  | error e => exact ⟨rfl, rfl⟩
  | ok prepared =>
      cases reply with
      | error cause => exact ⟨rfl, rfl⟩
      | ok answer => exact ⟨rfl, by simp [receive, hdebug, hanswer]⟩

theorem handOver_mapping {s : Session} (hdebug : s.debug = false)
    {entries : Entries Json} {spec : Specification}
    (h : Specification.ofMapping (.object entries) = .ok spec)
    (operation : Operation) (reply : Reply) :
    List.Forall₂ (fun a b => a.outcome.SameButParams b.outcome)
      (s.turns (handOver (.mapping (.object entries)) operation reply))
      (s.turns (handOver (.typed spec) operation reply)) := by
  by_cases hstage : s.stage = .idle ∨ s.stage = .configured
  · simp only [handOver, turns_cons, turns_nil, step_setParams hstage]
    refine .cons (.refl done) (.cons (.refl done) (.cons ?_ .nil))
    simp only [Session.step, Session.select, Session.call]
    cases s.host with
    | none => exact .refl _
    | some host => exact execute_mapping hdebug h host operation reply
  · have hrefused :
        ∀ params, s.step reply (.setParams params) = s.refuse "set_params" := by
      intro params
      simp only [Session.step, Session.setParams]
      split
      · next hidle => exact absurd (.inl hidle) hstage
      · next hconfigured => exact absurd (.inr hconfigured) hstage
      · rfl
    simp only [handOver, turns_cons, turns_nil, hrefused]
    exact .cons (.refl _) (.cons (.refl _) (.cons (.refl _) .nil))

/--
The strict and the lenient way of handing over a specification agree.  A mapping
that is read strictly is also read leniently, with the same names and the same
document; and without the debug flag a session that is given the mapping and one
that is given what was read send the same requests and return the same results,
up to the mapping in an error envelope.
-/
theorem mapping_agrees_with_typed {entries : Entries Json}
    {spec : Specification}
    (h : Specification.ofMapping (.object entries) = .ok spec) :
    (∃ target, Specification.ofDocumentMapping (.object entries) = .ok target ∧
      target.index = spec.index ∧ target.docType = spec.docType ∧
      target.id = spec.id ∧ target.document = spec.document) ∧
    ∀ (s : Session) (operation : Operation) (reply : Reply), s.debug = false →
      List.Forall₂ (fun a b => a.outcome.SameButParams b.outcome)
        (s.turns (handOver (.mapping (.object entries)) operation reply))
        (s.turns (handOver (.typed spec) operation reply)) := by
  constructor
  · obtain ⟨target, htarget, hsame⟩ :=
      Specification.ofDocumentMapping_of_ofMapping h
    have hnames := hsame.names
    simp only [Specification.names, Prod.mk.injEq] at hnames
    exact ⟨target, htarget, hnames.1, hnames.2.1, hnames.2.2, hsame.document⟩
  · intro s operation reply hdebug
    exact handOver_mapping hdebug h operation reply

theorem mapping_agrees_with_typed_on_save :
    let entries : Entries Json :=
      [("index", .string "a"), ("type", .string "b"), ("id", .ofUInt64 7),
        ("size", .ofUInt64 3), ("title", .string "x")]
    let host : Endpoint :=
      ⟨{ scheme := "http", host := .name "h", path := [[]] }⟩
    ∃ spec target request,
      Specification.ofMapping (.object entries) = .ok spec ∧
      Specification.ofDocumentMapping (.object entries) = .ok target ∧
      target.id = spec.id ∧
      ((ofHost host).turns (handOver (.typed spec) .save (.ok []))).flatMap
        (·.outcome.sent) = [request] ∧
      List.Forall₂ (fun a b => a.outcome.SameButParams b.outcome)
        ((ofHost host).turns
          (handOver (.mapping (.object entries)) .save (.ok [])))
        ((ofHost host).turns (handOver (.typed spec) .save (.ok []))) := by
  intro entries host
  have hread : Specification.ofMapping (.object entries) = .ok {
      index := some "a"
      docType := some "b"
      id := some "7"
      limit := some 3
      document := [("size", .ofUInt64 3), ("title", .string "x")] } := rfl
  obtain ⟨⟨target, htarget, -, -, hid, -⟩, hturns⟩ :=
    mapping_agrees_with_typed hread
  exact ⟨_, target, _, hread, htarget, hid, rfl,
    hturns (ofHost host) .save (.ok []) rfl⟩

end Session

end SearchClient

import SearchClient.Proofs.Session.History

/-!
# What the stage of a session tells

In every run the stage says what a session has: a host when it has left the
first stage, and a specification when it has left the second.  So an operation
is selected, and called, only with a host and a specification at hand, and the
host stays the same for as long as there is a specification.
-/

namespace SearchClient

namespace Session

variable {s next : Session} {reply : Reply} {step : Step} {outcome : Outcome}

theorem Coherent.host_isSome_iff (h : s.Coherent) :
    s.host.isSome ↔ s.stage ≠ .unconfigured := by
  rw [Option.isSome_iff_ne_none, ne_eq, h.1]

theorem Coherent.params_isSome_iff (h : s.Coherent) :
    s.params.isSome ↔
      s.stage = .configured ∨ (∃ operation, s.stage = .selected operation) ∨
        s.stage = .executed := by
  rw [Option.isSome_iff_ne_none, ne_eq, h.2]
  cases s.stage <;> simp

/-- A step that is no call succeeds exactly when it is in order. -/
theorem Move.result_ok_iff (move : Move s reply step next outcome)
    (hstep : step ≠ .call) : outcome.result = .ok none ↔ s.Allows step := by
  cases move with
  | setHost host allowed => exact iff_of_true rfl allowed
  | setParams params allowed => exact iff_of_true rfl allowed
  | setTimeout timeout => exact iff_of_true rfl trivial
  | setDebug debug => exact iff_of_true rfl trivial
  | select operation allowed => exact iff_of_true rfl allowed
  | call => exact absurd rfl hstep
  | clear => exact iff_of_true rfl trivial
  | refused step refusal => exact iff_of_false nofun refusal

theorem Coherent.allows_select_iff (h : s.Coherent) (operation : Operation) :
    s.Allows (.select operation) ↔ s.params.isSome ∧ s.stage ≠ .executed := by
  rw [h.params_isSome_iff, Allows]
  cases s.stage <;> simp

/-- Only `clear` takes a specification away, and only without one can the host be
changed. -/
theorem Coherent.keeps_host (h : s.Coherent) (hparams : s.params.isSome)
    (move : Move s reply step next outcome) (hstep : step ≠ .clear) :
    next.host = s.host ∧ next.params.isSome := by
  cases move with
  | setHost host allowed =>
      have hnone : s.params = none := h.2.2 allowed
      simp [hnone] at hparams
  | setParams params allowed => exact ⟨rfl, rfl⟩
  | clear => exact absurd rfl hstep
  | _ => exact ⟨rfl, hparams⟩

theorem Coherent.host_after (h : s.Coherent) (hparams : s.params.isSome)
    {events : List Event} (hevents : ∀ event ∈ events, event.1 ≠ .clear) :
    (s.after events).host = s.host := by
  induction events generalizing s with
  | nil => rfl
  | cons event events ih =>
      obtain ⟨step, reply⟩ := event
      obtain ⟨hstep, hevents⟩ := List.forall_mem_cons.1 hevents
      have hmove := s.move_step reply step
      obtain ⟨hhost, hnext⟩ := h.keeps_host hparams hmove hstep
      rw [after_cons, ih (h.move hmove) hnext hevents, hhost]

/--
What the stage of a session tells in every run: there is a host unless the
session is unconfigured, and a specification when it is configured, selected or
executed.  So a call of a selected operation finds both and is not refused, an
operation can be selected exactly while there is a specification that was not
called, and between an accepted specification and the next `clear` the host
stays what it was.
-/
theorem stage_tells {start : Session} (hstart : start.Initial)
    (events : List Event) :
    let s := start.after events
    (s.host.isSome ↔ s.stage ≠ .unconfigured) ∧
    (s.params.isSome ↔
      s.stage = .configured ∨ (∃ operation, s.stage = .selected operation) ∨
        s.stage = .executed) ∧
    (∀ operation, s.stage = .selected operation →
      s.host.isSome ∧ s.params.isSome ∧
      ∀ reply stage action,
        (s.step reply .call).2.result ≠ .error (.illegal stage action)) ∧
    (∀ reply operation,
      (s.step reply (.select operation)).2.result = .ok none ↔
        s.params.isSome ∧ s.stage ≠ .executed) ∧
    ∀ reply params later,
      (s.step reply (.setParams params)).2.result = .ok none →
      (∀ event ∈ later, event.1 ≠ .clear) →
        ((s.step reply (.setParams params)).1.after later).host = s.host := by
  intro s
  have hs : s.Coherent := hstart.coherent.after events
  refine ⟨hs.host_isSome_iff, hs.params_isSome_iff, ?_, ?_, ?_⟩
  · intro operation hstage
    obtain ⟨host, params, hhost, hparams⟩ := hs.of_selected hstage
    refine ⟨by simp [hhost], by simp [hparams], ?_⟩
    intro reply stage action herror
    rcases (s.move_step reply .call).error_cases hs herror with
      ⟨-, hnone⟩ | ⟨cause, -, -, hcause, -⟩
    · exact hnone operation hstage
    · cases hcause
  · intro reply operation
    have hmove := s.move_step reply (.select operation)
    rw [hmove.result_ok_iff nofun, hs.allows_select_iff]
  · intro reply params later hset hlater
    have hmove := s.move_step reply (.setParams params)
    have hnext := hs.move hmove
    have hallowed := (hmove.result_ok_iff nofun).1 hset
    rw [step_setParams hallowed] at hnext ⊢
    rw [hnext.host_after rfl hlater]

/-- A call that failed and a `clear` are behind; another host is refused until
the next one. -/
theorem stage_tells_after_failed_call :
    let host : Endpoint :=
      ⟨{ scheme := "http", host := .name "h", path := [[]] }⟩
    let other : Endpoint :=
      ⟨{ scheme := "http", host := .name "other", path := [[]] }⟩
    let params : Params :=
      .typed { index := some "a", docType := some "b", id := some "1" }
    let past : List Event :=
      [(.setParams params, .ok []), (.select .get, .ok []),
        (.call, .error (.connect "refused")), (.clear, .ok [])]
    let later : List Event :=
      [(.setHost other, .ok []), (.select .delete, .ok []), (.call, .ok []),
        (.setHost other, .ok [])]
    let s := (ofHost host).after past
    let selected :=
      (ofHost host).after [(.setParams params, .ok []), (.select .get, .ok [])]
    (ofHost host).Initial ∧ selected.stage = .selected .get ∧
      (∀ stage action,
        (selected.step (.ok []) .call).2.result ≠
          .error (.illegal stage action)) ∧
      (s.step (.ok []) (.setParams params)).2.result = .ok none ∧
      (∀ event ∈ later, event.1 ≠ .clear) ∧
      ((s.step (.ok []) (.setParams params)).1.after later).host =
        some host := by
  intro host other params past later s selected
  have hlater : ∀ event ∈ later, event.1 ≠ .clear := by simp [later]
  have hpast := stage_tells (.ofHost host) past
  have hselected := stage_tells (.ofHost host)
    [(.setParams params, .ok []), (.select .get, .ok [])]
  refine ⟨.ofHost host, rfl, ?_, rfl, hlater, ?_⟩
  · exact (hselected.2.2.1 .get rfl).2.2 (.ok [])
  · exact hpast.2.2.2.2 (.ok []) params later rfl hlater

end Session

end SearchClient

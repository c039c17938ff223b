import SearchClient.Proofs.Except
import SearchClient.Session

/-!
# Runs of a session

A run takes a session through a list of steps, each with the reply that would be
given to it.  `Move` says once what a step can do, with the conditions under
which it does so; `Coherent` is the invariant of every run.
-/

namespace SearchClient

abbrev Event := Step × Reply

structure Turn where
  step : Step
  reply : Reply
  outcome : Outcome

namespace Turn

/-- A turn is refused when its step was out of order. -/
def accepted (t : Turn) : Bool :=
  match t.outcome.result with
  | .error (.illegal _ _) => false
  | _ => true

end Turn

namespace Session

/-- The sessions that the constructors make. -/
inductive Initial : Session → Prop where
  | empty : Initial {}
  | ofHost (host : Endpoint) : Initial (ofHost host)
  | ofConfig (c : Config) (s : Session) (made : ofConfig c = .ok s) : Initial s

def after (s : Session) (events : List Event) : Session :=
  events.foldl (fun s (step, reply) => (s.step reply step).1) s

def turns (s : Session) : List Event → List Turn
  | [] => []
  | (step, reply) :: events =>
      ⟨step, reply, (s.step reply step).2⟩ :: turns (s.step reply step).1 events

@[simp] theorem after_cons (s : Session) (step : Step) (reply : Reply)
    (events : List Event) :
    s.after ((step, reply) :: events) = (s.step reply step).1.after events :=
  rfl

theorem after_append (s : Session) (first second : List Event) :
    s.after (first ++ second) = (s.after first).after second := by
  simp [after]

@[simp] theorem turns_nil (s : Session) : s.turns [] = [] := rfl

@[simp] theorem turns_cons (s : Session) (step : Step) (reply : Reply)
    (events : List Event) :
    s.turns ((step, reply) :: events) =
      ⟨step, reply, (s.step reply step).2⟩ ::
        (s.step reply step).1.turns events := rfl

theorem turns_append (s : Session) (first second : List Event) :
    s.turns (first ++ second) =
      s.turns first ++ (s.after first).turns second := by
  induction first generalizing s with
  | nil => rfl
  | cons event first ih =>
      obtain ⟨step, reply⟩ := event
      simp only [List.cons_append, turns_cons, after_cons]
      rw [ih]

theorem turns_eq_append {s : Session} {events : List Event}
    {first second : List Turn} (h : s.turns events = first ++ second) :
    ∃ before later, events = before ++ later ∧ s.turns before = first ∧
      (s.after before).turns later = second := by
  induction first generalizing s events with
  | nil => exact ⟨[], events, rfl, rfl, h⟩
  | cons turn first ih =>
      cases events with
      | nil => simp at h
      | cons event events =>
          obtain ⟨step, reply⟩ := event
          simp only [turns_cons, List.cons_append, List.cons.injEq] at h
          obtain ⟨rfl, hrest⟩ := h
          obtain ⟨before, later, rfl, hbefore, hlater⟩ := ih hrest
          refine ⟨(step, reply) :: before, later, rfl, ?_, hlater⟩
          rw [turns_cons, hbefore]

theorem turns_eq_cons {s : Session} {events : List Event} {turn : Turn}
    {rest : List Turn} (h : s.turns events = turn :: rest) :
    ∃ later, events = (turn.step, turn.reply) :: later ∧
      turn.outcome = (s.step turn.reply turn.step).2 ∧
      (s.step turn.reply turn.step).1.turns later = rest := by
  cases events with
  | nil => simp at h
  | cons event events =>
      obtain ⟨step, reply⟩ := event
      simp only [turns_cons, List.cons.injEq] at h
      obtain ⟨rfl, hrest⟩ := h
      exact ⟨events, rfl, rfl, hrest⟩

/-! ## What a step does -/

def action : Step → String
  | .setHost _ => "set_host"
  | .setParams _ => "set_params"
  | .setTimeout _ => "set_timeout"
  | .setDebug _ => "set_debug"
  | .select operation => operation.name
  | .call => "call"
  | .clear => "clear"

/-- The order that the steps of a session have to keep. -/
def Allows (s : Session) : Step → Prop
  | .setHost _ => s.stage = .unconfigured ∨ s.stage = .idle
  | .setParams _ => s.stage = .idle ∨ s.stage = .configured
  | .select _ =>
      s.stage = .configured ∨ ∃ operation, s.stage = .selected operation
  | .call =>
      (∃ operation, s.stage = .selected operation) ∧
        s.host.isSome ∧ s.params.isSome
  | .setTimeout _ => True
  | .setDebug _ => True
  | .clear => True

/-- All that a step can do to a session. -/
inductive Move (s : Session) (reply : Reply) :
    Step → Session → Outcome → Prop where
  | setHost (host : Endpoint) (h : s.Allows (.setHost host)) :
      Move s reply (.setHost host)
        { s with host := some host, stage := .idle } done
  | setParams (params : Params) (h : s.Allows (.setParams params)) :
      Move s reply (.setParams params)
        { s with params := some params, stage := .configured } done
  | setTimeout (timeout : Duration) :
      Move s reply (.setTimeout timeout) { s with timeout := timeout } done
  | setDebug (debug : Bool) :
      Move s reply (.setDebug debug) { s with debug := debug } done
  | select (operation : Operation) (h : s.Allows (.select operation)) :
      Move s reply (.select operation)
        { s with stage := .selected operation } done
  | call (operation : Operation) (host : Endpoint) (params : Params)
      (hstage : s.stage = .selected operation) (hhost : s.host = some host)
      (hparams : s.params = some params) :
      Move s reply .call { s with stage := .executed }
        (s.execute host params operation reply)
  | clear : Move s reply .clear s.clear done
  | refused (step : Step) (h : ¬s.Allows step) :
      Move s reply step s { result := .error (.illegal s.stage (action step)) }

theorem move_step (s : Session) (reply : Reply) (step : Step) :
    Move s reply step (s.step reply step).1 (s.step reply step).2 := by
  cases step with
  | setHost host =>
      change Move s reply _ (s.setHost host).1 (s.setHost host).2
      unfold Session.setHost
      split
      · next hstage => exact .setHost host (.inl hstage)
      · next hstage => exact .setHost host (.inr hstage)
      · next hfirst hsecond => exact .refused _ fun h => h.elim hfirst hsecond
  | setParams params =>
      change Move s reply _ (s.setParams params).1 (s.setParams params).2
      unfold Session.setParams
      split
      · next hstage => exact .setParams params (.inl hstage)
      · next hstage => exact .setParams params (.inr hstage)
      · next hfirst hsecond => exact .refused _ fun h => h.elim hfirst hsecond
  | setTimeout timeout => exact .setTimeout timeout
  | setDebug debug => exact .setDebug debug
  | select operation =>
      change Move s reply _ (s.select operation).1 (s.select operation).2
      unfold Session.select
      split
      · next hstage => exact .select operation (.inl hstage)
      · next previous hstage =>
        exact .select operation (.inr ⟨previous, hstage⟩)
      · next hfirst hsecond =>
        apply Move.refused
        rintro (hstage | ⟨previous, hstage⟩)
        · exact hfirst hstage
        · exact hsecond previous hstage
  | call =>
      change Move s reply _ (s.call reply).1 (s.call reply).2
      unfold Session.call
      split
      · next operation hstage =>
        split
        · next host params hhost hparams =>
          exact .call operation host params hstage hhost hparams
        · next hmissing =>
          apply Move.refused
          rintro ⟨-, hhost, hparams⟩
          obtain ⟨host, hhost⟩ := Option.isSome_iff_exists.1 hhost
          obtain ⟨params, hparams⟩ := Option.isSome_iff_exists.1 hparams
          exact hmissing host params hhost hparams
      · next hnone =>
        apply Move.refused
        rintro ⟨⟨operation, hstage⟩, -⟩
        exact hnone operation hstage
  | clear => exact .clear

theorem step_setParams {s : Session}
    (h : s.stage = .idle ∨ s.stage = .configured) (params : Params)
    (reply : Reply) :
    s.step reply (.setParams params) =
      ({ s with params := some params, stage := .configured }, done) := by
  rcases h with hstage | hstage <;>
    simp [Session.step, Session.setParams, hstage]

/-- The three ends of a call that is in order. -/
theorem execute_cases (s : Session) (host : Endpoint) (params : Params)
    (operation : Operation) (reply : Reply) :
    (∃ message, s.execute host params operation reply =
      { result := .ok (some (.ofError message ⟨params.report, .null⟩)) }) ∨
    ∃ spec prepared, spec.prepare host operation = .ok prepared ∧
      ((∃ cause, s.execute host params operation reply =
        { sent := [prepared.wire s.timeout]
          result := .error (.transport cause) }) ∨
      ∃ answer, s.execute host params operation reply =
        { sent := [prepared.wire s.timeout]
          result := .ok (some
            (receive s.debug params operation spec prepared answer)) }) := by
  unfold Session.execute
  cases hmade : Session.request host params operation with
  | error e => exact .inl ⟨e.message, rfl⟩
  | ok made =>
      obtain ⟨spec, -, hmade⟩ := Except.bind_eq_ok.1 hmade
      obtain ⟨prepared, hprepared, hmade⟩ := Except.bind_eq_ok.1 hmade
      obtain rfl := Except.ok.inj hmade
      refine .inr ⟨spec, prepared, hprepared, ?_⟩
      cases reply with
      | error cause => exact .inl ⟨cause, rfl⟩
      | ok answer => exact .inr ⟨answer, rfl⟩

/-! ## The invariant of a run -/

/--
A host is there from the first stage on, and a specification from the second
stage on.
-/
def Coherent (s : Session) : Prop :=
  (s.host = none ↔ s.stage = .unconfigured) ∧
    (s.params = none ↔ s.stage = .unconfigured ∨ s.stage = .idle)

theorem Initial.coherent {s : Session} (h : s.Initial) : s.Coherent := by
  cases h with
  | empty => simp [Coherent]
  | ofHost host => simp [Coherent, Session.ofHost]
  | ofConfig c s made =>
      obtain ⟨host, -, rfl⟩ := Except.map_eq_ok.1 made
      simp [Coherent, Session.ofHost]

theorem Coherent.move {s next : Session} {reply : Reply} {step : Step}
    {outcome : Outcome} (h : s.Coherent)
    (move : Move s reply step next outcome) : next.Coherent := by
  obtain ⟨hhost, hparams⟩ := h
  cases move with
  | setHost host allowed =>
      refine ⟨by simp, ?_⟩
      have hnone : s.params = none := hparams.2 allowed
      simp [hnone]
  | setParams params allowed =>
      refine ⟨?_, by simp⟩
      have hstage : s.stage ≠ .unconfigured := by
        rcases allowed with h | h <;> simp [h]
      simpa [hstage] using hhost
  | setTimeout timeout => exact ⟨hhost, hparams⟩
  | setDebug debug => exact ⟨hhost, hparams⟩
  | select operation allowed =>
      have hstage : s.stage ≠ .unconfigured ∧ s.stage ≠ .idle := by
        rcases allowed with h | ⟨previous, h⟩ <;> simp [h]
      exact ⟨by simpa [hstage] using hhost, by simpa [hstage] using hparams⟩
  | call operation host params hstage hsome hgiven =>
      exact ⟨by simp [hsome], by simp [hgiven]⟩
  | clear =>
      cases hsome : s.host with
      | none => simp [Coherent, Session.clear, hsome]
      | some host => simp [Coherent, Session.clear, hsome]
  | refused step refusal => exact ⟨hhost, hparams⟩

theorem Coherent.after {s : Session} (h : s.Coherent) (events : List Event) :
    (s.after events).Coherent := by
  induction events generalizing s with
  | nil => exact h
  | cons event events ih =>
      obtain ⟨step, reply⟩ := event
      exact ih (h.move (s.move_step reply step))

theorem Coherent.of_selected {s : Session} (h : s.Coherent)
    {operation : Operation} (hstage : s.stage = .selected operation) :
    ∃ host params, s.host = some host ∧ s.params = some params := by
  obtain ⟨hhost, hparams⟩ := h
  have hsome : s.host ≠ none := by
    intro hnone
    simp [hhost.1 hnone] at hstage
  have hgiven : s.params ≠ none := by
    intro hnone
    simpa [hstage] using hparams.1 hnone
  obtain ⟨host, hhost⟩ := Option.ne_none_iff_exists'.1 hsome
  obtain ⟨params, hparams⟩ := Option.ne_none_iff_exists'.1 hgiven
  exact ⟨host, params, hhost, hparams⟩

end Session

end SearchClient

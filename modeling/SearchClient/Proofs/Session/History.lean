import Mathlib.Data.List.DropRight
import SearchClient.Proofs.Session.Run

/-!
# Sessions and their histories

The history of a run is the list of the steps that were accepted.  The session
holds nothing that its history does not say: the host, the timeout, the
specification and the selected operation are those of the last accepted steps
that set them.  A request is therefore a function of the history, and a session
makes a second one only after it was cleared and given a specification again.
-/

namespace SearchClient

namespace Step

def host? : Step → Option Endpoint
  | .setHost host => some host
  | _ => none

def timeout? : Step → Option Duration
  | .setTimeout timeout => some timeout
  | _ => none

def params? : Step → Option Params
  | .setParams params => some params
  | _ => none

def operation? : Step → Option Operation
  | .select operation => some operation
  | _ => none

def isClear : Step → Bool
  | .clear => true
  | _ => false

end Step

/-- The accepted steps of a run, in their order. -/
abbrev History := List Step

namespace History

def ofTurns (turns : List Turn) : History :=
  (turns.filter Turn.accepted).map Turn.step

/-- What the last step that gives such a thing gives. -/
def last? {α : Type} (pick : Step → Option α) (h : History) : Option α :=
  h.reverse.findSome? pick

def host? (start : Session) (h : History) : Option Endpoint :=
  (h.last? Step.host?).or start.host

def timeout (start : Session) (h : History) : Duration :=
  (h.last? Step.timeout?).getD start.timeout

def sinceClear (h : History) : History := h.rtakeWhile (!·.isClear)

def params? (h : History) : Option Params := h.sinceClear.last? Step.params?

def sinceParams (h : History) : History :=
  h.sinceClear.rtakeWhile (·.params?.isNone)

def operation? (h : History) : Option Operation :=
  h.sinceParams.last? Step.operation?

theorem last?_concat {α : Type} (pick : Step → Option α) (h : History)
    (step : Step) :
    last? pick (h ++ [step]) = (pick step).or (h.last? pick) := by
  cases hpick : pick step <;> simp [last?, hpick]

@[simp] theorem host?_concat (start : Session) (h : History) (step : Step) :
    host? start (h ++ [step]) = step.host?.or (h.host? start) := by
  simp [host?, last?_concat, Option.or_assoc]

@[simp] theorem timeout_concat (start : Session) (h : History) (step : Step) :
    timeout start (h ++ [step]) = step.timeout?.getD (h.timeout start) := by
  cases hgiven : step.timeout? <;> simp [timeout, last?_concat, hgiven]

@[simp] theorem params?_concat (h : History) (step : Step) :
    params? (h ++ [step]) =
      if step.isClear then none else step.params?.or h.params? := by
  cases hclear : step.isClear with
  | true => simp [params?, sinceClear, hclear, last?]
  | false => simp [params?, sinceClear, hclear, last?_concat]

@[simp] theorem operation?_concat (h : History) (step : Step) :
    operation? (h ++ [step]) =
      if step.isClear || step.params?.isSome then none
      else step.operation?.or h.operation? := by
  cases hclear : step.isClear with
  | true => simp [operation?, sinceParams, sinceClear, hclear, last?]
  | false =>
      cases hparams : step.params? with
      | some params =>
          simp [operation?, sinceParams, sinceClear, hclear, hparams, last?]
      | none =>
          simp [operation?, sinceParams, sinceClear, hclear, hparams,
            last?_concat]

theorem ofTurns_concat (turns : List Turn) (turn : Turn) :
    ofTurns (turns ++ [turn]) =
      if turn.accepted then ofTurns turns ++ [turn.step]
      else ofTurns turns := by
  cases haccepted : turn.accepted <;> simp [ofTurns, haccepted]

/-- The request that a call makes for the operation of a history. -/
def Requests (start : Session) (h : History) (operation : Operation)
    (request : WireRequest) : Prop :=
  ∃ host params spec prepared,
    h.host? start = some host ∧ h.params? = some params ∧
    h.operation? = some operation ∧
    params.resolve operation = .ok spec ∧
    spec.prepare host operation = .ok prepared ∧
    request = prepared.wire (h.timeout start)

end History

/-! ## What a session holds -/

namespace Session

/-- A session that came from `start` by the accepted steps of a history. -/
structure Recalls (start : Session) (h : History) (s : Session) : Prop where
  host : s.host = h.host? start
  timeout : s.timeout = h.timeout start
  params : s.params = h.params?
  operation : ∀ operation,
    s.stage = .selected operation → h.operation? = some operation

theorem Initial.recalls {start : Session} (hstart : start.Initial) :
    Recalls start [] start := by
  cases hstart with
  | empty => exact ⟨rfl, rfl, rfl, by simp⟩
  | ofHost host => exact ⟨rfl, rfl, rfl, by simp [Session.ofHost]⟩
  | ofConfig c s made =>
      obtain ⟨host, -, rfl⟩ := Except.map_eq_ok.1 made
      exact ⟨rfl, rfl, rfl, by simp [Session.ofHost]⟩

theorem sent_execute_iff {s : Session} {host : Endpoint} {params : Params}
    {operation : Operation} {reply : Reply} {request : WireRequest} :
    (s.execute host params operation reply).sent = [request] ↔
      ∃ spec prepared, params.resolve operation = .ok spec ∧
        spec.prepare host operation = .ok prepared ∧
        request = prepared.wire s.timeout := by
  unfold Session.execute Session.request
  cases hspec : params.resolve operation with
  | error e => simp
  | ok spec =>
      cases hprepared : spec.prepare host operation with
      | error e => simp [hprepared]
      | ok prepared => simp [hprepared, eq_comm, pure, Except.pure]

@[simp] theorem accepted_done (step : Step) (reply : Reply) :
    Turn.accepted ⟨step, reply, done⟩ = true := rfl

theorem accepted_execute (s : Session) (host : Endpoint) (params : Params)
    (operation : Operation) (reply : Reply) :
    Turn.accepted ⟨.call, reply, s.execute host params operation reply⟩ =
      true := by
  unfold Turn.accepted Session.execute
  cases Session.request host params operation with
  | error e => rfl
  | ok made => cases reply <;> rfl

theorem Recalls.move {start s next : Session} {h : History} {reply : Reply}
    {step : Step} {outcome : Outcome} (hs : Recalls start h s)
    (move : Move s reply step next outcome) :
    Recalls start
      (if Turn.accepted ⟨step, reply, outcome⟩ then h ++ [step] else h)
      next := by
  obtain ⟨hhost, htimeout, hparams, hoperation⟩ := hs
  cases move with
  | setHost host allowed =>
      refine ⟨by simp [Step.host?], ?_, ?_, by simp⟩
      · simpa [Step.timeout?] using htimeout
      · simpa [Step.isClear, Step.params?] using hparams
  | setParams params allowed =>
      refine ⟨?_, ?_, by simp [Step.isClear, Step.params?], by simp⟩
      · simpa [Step.host?] using hhost
      · simpa [Step.timeout?] using htimeout
  | setTimeout timeout =>
      refine ⟨?_, by simp [Step.timeout?], ?_, ?_⟩
      · simpa [Step.host?] using hhost
      · simpa [Step.isClear, Step.params?] using hparams
      · simpa [Step.isClear, Step.params?, Step.operation?] using hoperation
  | setDebug debug =>
      refine ⟨?_, ?_, ?_, ?_⟩
      · simpa [Step.host?] using hhost
      · simpa [Step.timeout?] using htimeout
      · simpa [Step.isClear, Step.params?] using hparams
      · simpa [Step.isClear, Step.params?, Step.operation?] using hoperation
  | select operation allowed =>
      refine ⟨?_, ?_, ?_, by simp [Step.isClear, Step.params?, Step.operation?]⟩
      · simpa [Step.host?] using hhost
      · simpa [Step.timeout?] using htimeout
      · simpa [Step.isClear, Step.params?] using hparams
  | call operation host params hstage hsome hgiven =>
      rw [accepted_execute]
      refine ⟨?_, ?_, ?_, by simp⟩
      · simpa [Step.host?] using hhost
      · simpa [Step.timeout?] using htimeout
      · simpa [Step.isClear, Step.params?] using hparams
  | clear =>
      refine ⟨?_, ?_, by simp [Session.clear, Step.isClear], ?_⟩
      · simpa [Session.clear, Step.host?] using hhost
      · simpa [Session.clear, Step.timeout?] using htimeout
      · cases hsome : s.host <;> simp [Session.clear, hsome]
  | refused step refusal => exact ⟨hhost, htimeout, hparams, hoperation⟩

theorem Recalls.after {start : Session} (hstart : start.Initial)
    (events : List Event) :
    Recalls start (History.ofTurns (start.turns events))
      (start.after events) := by
  induction events using List.reverseRecOn with
  | nil => exact hstart.recalls
  | append_singleton events event ih =>
      obtain ⟨step, reply⟩ := event
      rw [turns_append, after_append, turns_cons, turns_nil,
        History.ofTurns_concat]
      exact ih.move (move_step _ reply step)

/-! ## What a step sends -/

theorem Move.sent_iff {s next : Session} {reply : Reply} {step : Step}
    {outcome : Outcome} {request : WireRequest}
    (move : Move s reply step next outcome) :
    outcome.sent = [request] ↔
      step = .call ∧ ∃ operation host params spec prepared,
        s.stage = .selected operation ∧ s.host = some host ∧
        s.params = some params ∧
        params.resolve operation = .ok spec ∧
        spec.prepare host operation = .ok prepared ∧
        request = prepared.wire s.timeout := by
  cases move with
  | call operation host params hstage hhost hparams =>
      simp [sent_execute_iff, hstage, hhost, hparams]
  | refused step refusal =>
      constructor
      · simp
      · rintro ⟨rfl, operation, host, params, spec, prepared, hstage, hhost,
          hparams, -⟩
        exact absurd
          ⟨⟨operation, hstage⟩, by simp [hhost], by simp [hparams]⟩ refusal
  | _ => simp [done]

theorem sent_execute_cases (s : Session) (host : Endpoint) (params : Params)
    (operation : Operation) (reply : Reply) :
    (s.execute host params operation reply).sent = [] ∨
      ∃ request, (s.execute host params operation reply).sent = [request] := by
  unfold Session.execute
  split
  · exact .inl rfl
  · exact .inr ⟨_, rfl⟩

theorem Move.of_sent {s next : Session} {reply : Reply} {step : Step}
    {outcome : Outcome} (move : Move s reply step next outcome)
    (hsent : outcome.sent ≠ []) :
    (∃ operation, s.stage = .selected operation) ∧ next.stage = .executed ∧
      ∃ request, outcome.sent = [request] := by
  cases move with
  | call operation host params hstage hhost hparams =>
      exact ⟨⟨operation, hstage⟩, rfl,
        (s.sent_execute_cases host params operation reply).resolve_left hsent⟩
  | _ => simp [done] at hsent

theorem Move.error_cases {s next : Session} {reply : Reply} {outcome : Outcome}
    {error : SessionError} (move : Move s reply .call next outcome)
    (hs : s.Coherent) (herror : outcome.result = .error error) :
    (error = .illegal s.stage "call" ∧
      ∀ operation, s.stage ≠ .selected operation) ∨
      ∃ cause request, reply = .error cause ∧ error = .transport cause ∧
        outcome.sent = [request] := by
  cases move with
  | call operation host params hstage hhost hparams =>
      right
      unfold Session.execute at herror ⊢
      cases hmade : Session.request host params operation with
      | error e => simp [hmade] at herror
      | ok made =>
          cases reply with
          | ok answer => simp [hmade] at herror
          | error cause =>
              simp only [hmade, Except.error.injEq] at herror
              exact ⟨cause, _, rfl, herror.symm, rfl⟩
  | refused step refusal =>
      simp only [Except.error.injEq] at herror
      refine .inl ⟨herror.symm, fun operation hstage => refusal ?_⟩
      obtain ⟨host, params, hhost, hparams⟩ := hs.of_selected hstage
      exact ⟨⟨operation, hstage⟩, by simp [hhost], by simp [hparams]⟩

/-- What a step sends is the request that the history gives. -/
theorem Recalls.sent_iff {start s next : Session} {h : History} {reply : Reply}
    {step : Step} {outcome : Outcome} {request : WireRequest}
    (hs : Recalls start h s) (move : Move s reply step next outcome) :
    outcome.sent = [request] ↔
      step = .call ∧ ∃ operation, s.stage = .selected operation ∧
        h.Requests start operation request := by
  rw [move.sent_iff, hs.host, hs.params, hs.timeout]
  apply and_congr_right
  intro _
  constructor
  · rintro
      ⟨operation, host, params, spec, prepared, hstage, hhost, hparams, hrest⟩
    exact ⟨operation, hstage, host, params, spec, prepared, hhost, hparams,
      hs.operation operation hstage, hrest⟩
  · rintro ⟨operation, hstage, host, params, spec, prepared, hhost, hparams, -,
      hrest⟩
    exact ⟨operation, host, params, spec, prepared, hstage, hhost, hparams,
      hrest⟩

/-! ## Between two requests -/

theorem after_or_exists_turn {P : Session → Prop} {Q : Turn → Prop}
    (hturn : ∀ s reply step, P s →
      P (s.step reply step).1 ∨ Q ⟨step, reply, (s.step reply step).2⟩)
    {s : Session} (hs : P s) (events : List Event) :
    P (s.after events) ∨ ∃ turn ∈ s.turns events, Q turn := by
  induction events generalizing s with
  | nil => exact .inl hs
  | cons event events ih =>
      obtain ⟨step, reply⟩ := event
      cases hturn s reply step hs with
      | inl hnext =>
          rcases ih hnext with hlast | ⟨turn, hmem, hshown⟩
          · exact .inl hlast
          · exact .inr ⟨turn, List.mem_cons_of_mem _ hmem, hshown⟩
      | inr hshown => exact .inr ⟨_, List.mem_cons_self, hshown⟩

theorem Move.executed_or_clear {s next : Session} {reply : Reply} {step : Step}
    {outcome : Outcome} (move : Move s reply step next outcome)
    (hs : s.stage = .executed) : next.stage = .executed ∨ step = .clear := by
  cases move with
  | setHost host allowed => simp [Allows, hs] at allowed
  | setParams params allowed => simp [Allows, hs] at allowed
  | select operation allowed => simp [Allows, hs] at allowed
  | clear => exact .inr rfl
  | call => exact .inl rfl
  | _ => exact .inl hs

/-- Nothing to send: no specification is there. -/
def IsWaiting (s : Session) : Prop := s.stage = .unconfigured ∨ s.stage = .idle

theorem isWaiting_clear (s : Session) : s.clear.IsWaiting := by
  cases hhost : s.host <;> simp [IsWaiting, Session.clear, hhost]

theorem Move.waiting_or_setParams {s next : Session} {reply : Reply}
    {step : Step} {outcome : Outcome} (move : Move s reply step next outcome)
    (hs : s.IsWaiting) :
    next.IsWaiting ∨
      (∃ params, step = .setParams params) ∧
        Turn.accepted ⟨step, reply, outcome⟩ = true := by
  cases move with
  | setHost host allowed => exact .inl (.inr rfl)
  | setParams params allowed => exact .inr ⟨⟨params, rfl⟩, rfl⟩
  | select operation allowed =>
      rcases hs with hs | hs <;> simp [Allows, hs] at allowed
  | call operation host params hstage =>
      rcases hs with hs | hs <;> simp [hs] at hstage
  | clear => exact .inl s.isWaiting_clear
  | _ => exact .inl hs

/--
From an executed call to a selected operation the way leads over a `clear`
and, after it, an accepted specification.
-/
theorem exists_clear_setParams {s : Session} {events : List Event}
    {operation : Operation} (hs : s.stage = .executed)
    (hlast : (s.after events).stage = .selected operation) :
    ∃ first clear middle given last,
      s.turns events = first ++ clear :: middle ++ given :: last ∧
      clear.step = .clear ∧
      (∃ params, given.step = .setParams params) ∧ given.accepted = true := by
  have hcleared : ∃ turn ∈ s.turns events, turn.step = .clear :=
    (after_or_exists_turn (P := fun s => s.stage = .executed)
      (fun s reply step hs => (s.move_step reply step).executed_or_clear hs)
      hs events).resolve_left (by simp [hlast])
  obtain ⟨clear, hmem, hclear⟩ := hcleared
  obtain ⟨first, rest, hturns⟩ := List.append_of_mem hmem
  obtain ⟨before, later, rfl, hbefore, hlater⟩ := turns_eq_append hturns
  obtain ⟨later, rfl, -, hrest⟩ := turns_eq_cons hlater
  rw [hclear] at hlast hrest
  rw [after_append, after_cons] at hlast
  have hwaiting : ((s.after before).step clear.reply .clear).1.IsWaiting :=
    isWaiting_clear _
  have hset :
      ∃ turn ∈ ((s.after before).step clear.reply .clear).1.turns later,
        (∃ params, turn.step = .setParams params) ∧ turn.accepted = true :=
    (after_or_exists_turn (P := IsWaiting)
      (fun s reply step hs => (s.move_step reply step).waiting_or_setParams hs)
      hwaiting later).resolve_left (by simp [IsWaiting, hlast])
  obtain ⟨given, hmem, hgiven⟩ := hset
  rw [hrest] at hmem
  obtain ⟨middle, last, rfl⟩ := List.append_of_mem hmem
  exact ⟨first, clear, middle, given, last, by simp [hturns], hclear, hgiven⟩

/--
The requests of a session are those of its history.  A step of any run sends at
most one request; it sends one exactly when it is a call while an operation is
selected, for which the specification resolves and the request can be prepared,
and then that request is made from the host, the timeout, the specification and
the operation that the history gives.  A call fails only when nothing is
selected, or with the failure that the transport reported.  Between two requests
the session was cleared and then given a specification.
-/
theorem requests_follow_history {start : Session} (hstart : start.Initial)
    (events : List Event) :
    (∀ step reply,
      let s := start.after events
      let h := History.ofTurns (start.turns events)
      let outcome := (s.step reply step).2
      (∀ operation, s.stage = .selected operation →
        h.operation? = some operation ∧
        (h.host? start).isSome ∧ h.params?.isSome) ∧
      (outcome.sent = [] ∨ ∃ request, outcome.sent = [request]) ∧
      (∀ request, outcome.sent = [request] ↔
        step = .call ∧ ∃ operation, s.stage = .selected operation ∧
          h.Requests start operation request) ∧
      (∀ error, step = .call → outcome.result = .error error →
        (error = .illegal s.stage "call" ∧
          ∀ operation, s.stage ≠ .selected operation) ∨
          ∃ cause request, reply = .error cause ∧ error = .transport cause ∧
            outcome.sent = [request])) ∧
    (∀ first earlier between later last,
      start.turns events = first ++ earlier :: (between ++ later :: last) →
      earlier.outcome.sent ≠ [] → later.outcome.sent ≠ [] →
      ∃ before clear middle given rest,
        between = before ++ clear :: middle ++ given :: rest ∧
        clear.step = .clear ∧
        (∃ params, given.step = .setParams params) ∧
        given.accepted = true) := by
  constructor
  · intro step reply
    have hmemory := Recalls.after hstart events
    have hcoherent := hstart.coherent.after events
    have hmove := move_step (start.after events) reply step
    refine ⟨fun operation hstage => ?_, ?_, fun request => ?_, ?_⟩
    · obtain ⟨host, params, hhost, hparams⟩ := hcoherent.of_selected hstage
      rw [← hmemory.host, ← hmemory.params]
      exact ⟨hmemory.operation operation hstage, by simp [hhost],
        by simp [hparams]⟩
    · by_cases hsent : ((start.after events).step reply step).2.sent = []
      · exact .inl hsent
      · exact .inr (hmove.of_sent hsent).2.2
    · exact hmemory.sent_iff hmove
    · rintro error rfl herror
      exact hmove.error_cases hcoherent herror
  · intro first earlier between later last hturns hearlier hlater
    obtain ⟨before, after, -, -, hafter⟩ := turns_eq_append hturns
    obtain ⟨after, -, houtcome, hbetween⟩ := turns_eq_cons hafter
    obtain ⟨middle, after, -, rfl, htail⟩ := turns_eq_append hbetween
    obtain ⟨-, -, hlast, -⟩ := turns_eq_cons htail
    rw [houtcome] at hearlier
    rw [hlast] at hlater
    obtain ⟨-, hexecuted, -⟩ := (move_step _ _ _).of_sent hearlier
    obtain ⟨⟨operation, hselected⟩, -, -⟩ := (move_step _ _ _).of_sent hlater
    exact exists_clear_setParams hexecuted hselected

/--
A refused specification, an executed call and a replaced selection leave no
trace in the next request.
-/
theorem requests_follow_history_after_clear :
    let host : Endpoint :=
      ⟨{ scheme := "http", host := .name "h", path := [[]] }⟩
    let first : Params :=
      .typed { index := some "a", docType := some "b", id := some "1" }
    let second : Params :=
      .typed { index := some "a", docType := some "b", id := some "2" }
    let events : List Event :=
      [(.setParams first, .ok []), (.select .save, .ok []),
        (.call, .error (.other "down")), (.setParams second, .ok []),
        (.clear, .ok []), (.setParams second, .ok []),
        (.select .delete, .ok []), (.select .get, .ok [])]
    (ofHost host).Initial ∧
      (((ofHost host).after events).step (.ok []) .call).2.sent =
        [PreparedRequest.wire
          ⟨.get, (host.resource ["a", "b", "2"]).render, none⟩
          defaultTimeout] := by
  intro host first second events
  refine ⟨.ofHost host, ?_⟩
  have hfollow := requests_follow_history (.ofHost host) events
  have hsends := (hfollow.1 .call (.ok [])).2.2.1
  have hhistory : History.ofTurns ((ofHost host).turns events) =
      [.setParams first, .select .save, .call, .clear, .setParams second,
        .select .delete, .select .get] := rfl
  rw [hhistory] at hsends
  exact (hsends _).2
    ⟨rfl, .get, rfl, host, second, _, _, rfl, rfl, rfl, rfl, rfl, rfl⟩

end Session

end SearchClient

import SearchClient.Proofs.Entries
import SearchClient.Proofs.Request.Prepared
import SearchClient.Proofs.Session.Dialogue

/-!
# Debugging a session

The debug flag changes what a caller is shown of an answer and nothing else:
neither the states that a session goes through nor what it sends, nor what
becomes of a call that got no answer.  What a debug envelope shows as the
compiled document is what the body of the request was written from.
-/

namespace SearchClient

def Step.setsDebug : Step → Bool
  | .setDebug _ => true
  | _ => false

namespace Session

/-- Sessions that differ at most in the debug flag. -/
structure SameButDebug (s t : Session) : Prop where
  host : s.host = t.host
  timeout : s.timeout = t.timeout
  params : s.params = t.params
  stage : s.stage = t.stage

theorem agree_eq_iff {s t : Session} : s.Agree Eq t ↔ s.SameButDebug t := by
  have hhost : Option.Rel Eq s.host t.host ↔ s.host = t.host := by
    cases s.host <;> cases t.host <;> simp
  constructor
  · rintro ⟨h, htimeout, hparams, hstage⟩
    exact ⟨hhost.1 h, htimeout, hparams, hstage⟩
  · rintro ⟨h, htimeout, hparams, hstage⟩
    exact ⟨hhost.2 h, htimeout, hparams, hstage⟩

end Session

namespace Turn

/-- A call that the transport answered; its envelope is no error. -/
structure Answered (turn : Turn) : Prop where
  step : turn.step = .call
  sent : turn.outcome.sent ≠ []
  reply : ∃ answer, turn.reply = .ok answer
  result : ∃ envelope,
    turn.outcome.result = .ok (some envelope) ∧ envelope.isError = false

/-- Turns that differ at most in the envelope of an answered call. -/
structure SameButAnswer (a b : Turn) : Prop where
  step : a.step = b.step
  reply : a.reply = b.reply
  sent : a.outcome.sent = b.outcome.sent
  result : a.outcome.result = b.outcome.result ∨ a.Answered ∧ b.Answered

theorem SameButAnswer.refl (a : Turn) : a.SameButAnswer a :=
  ⟨rfl, rfl, rfl, .inl rfl⟩

end Turn

/-- A debug envelope shows the document that the body of the one request was
written from, and `null` exactly when the request had no body. -/
def Outcome.ShowsDocument (outcome : Outcome) (value : Json) : Prop :=
  ∃ request document, outcome.sent = [request] ∧
    (value.field? "debugInfo").bind (·.field? "compiledDocument") =
      some document ∧
    (document = .null ↔ request.body = none) ∧
    ∀ body, request.body = some body →
      body = Utf8.encode document.render.toList

namespace Envelope

theorem isError_ofAnswer (answer : List UInt8) (operation : Operation)
    (s : Specification) : (ofAnswer answer operation s).isError = false := by
  unfold ofAnswer
  split <;> rfl

theorem ofAnswer_ne_debug (answer : List UInt8) (operation : Operation)
    (s : Specification) (value : Json) :
    ofAnswer answer operation s ≠ .debug value := by
  unfold ofAnswer
  split <;> exact nofun

theorem compiledDocument_of_ofDebug {answer : List UInt8} {info : DebugInfo}
    {value : Json} (h : ofDebug answer info = .debug value) :
    (value.field? "debugInfo").bind (·.field? "compiledDocument") =
      some info.compiledDocument := by
  obtain rfl := Envelope.debug.inj h
  have hinfo : info.encode.field? "compiledDocument" =
      some info.compiledDocument := rfl
  simpa [Json.field?, Json.object?, Entries.get?_insert] using hinfo

end Envelope

namespace Session

variable {s t : Session} {host : Endpoint} {params : Params}
  {operation : Operation} {reply : Reply}

theorem isError_receive (debug : Bool) (params : Params) (operation : Operation)
    (spec : Specification) (prepared : PreparedRequest) (answer : List UInt8) :
    (receive debug params operation spec prepared answer).isError = false := by
  unfold receive
  split
  · rfl
  · exact Envelope.isError_ofAnswer answer operation spec

/-- The debug flag is looked at when the transport has answered. -/
theorem SameButDebug.execute (h : s.SameButDebug t) (host : Endpoint)
    (params : Params) (operation : Operation) (reply : Reply) :
    Turn.SameButAnswer ⟨.call, reply, s.execute host params operation reply⟩
      ⟨.call, reply, t.execute host params operation reply⟩ := by
  unfold Session.execute
  rw [h.timeout]
  cases Session.request host params operation with
  | error e => exact .refl _
  | ok made =>
      obtain ⟨spec, prepared⟩ := made
      cases reply with
      | error cause => exact .refl _
      | ok answer =>
          refine ⟨rfl, rfl, rfl, .inr ⟨?_, ?_⟩⟩
          · exact ⟨rfl, nofun, ⟨answer, rfl⟩, _, rfl, isError_receive ..⟩
          · exact ⟨rfl, nofun, ⟨answer, rfl⟩, _, rfl, isError_receive ..⟩

theorem SameButDebug.step (h : s.SameButDebug t) (reply : Reply) (step : Step) :
    (s.step reply step).1.SameButDebug (t.step reply step).1 ∧
      Turn.SameButAnswer ⟨step, reply, (s.step reply step).2⟩
        ⟨step, reply, (t.step reply step).2⟩ := by
  have hcall : step = .call → ∀ a b params operation, a = b →
      Turn.SameButAnswer ⟨step, reply, s.execute a params operation reply⟩
        ⟨step, reply, t.execute b params operation reply⟩ := by
    rintro rfl a _ params operation rfl
    exact h.execute a params operation reply
  obtain ⟨hnext, hturn⟩ := (agree_eq_iff.2 h).step (fun _ => rfl) reply step
    (Q := fun a b => Turn.SameButAnswer ⟨step, reply, a⟩ ⟨step, reply, b⟩)
    (fun _ => .refl _) hcall
  exact ⟨agree_eq_iff.1 hnext, hturn⟩

/-! ## What a debug envelope shows -/

theorem receive_eq_debug {debug : Bool} {spec : Specification}
    {prepared : PreparedRequest} {answer : List UInt8} {value : Json}
    (h : receive debug params operation spec prepared answer = .debug value) :
    (value.field? "debugInfo").bind (·.field? "compiledDocument") =
      some (prepared.body.getD .null) := by
  unfold receive at h
  split at h
  · exact Envelope.compiledDocument_of_ofDebug h
  · exact absurd h (Envelope.ofAnswer_ne_debug answer operation spec value)

theorem receive_eq_debug_iff {debug : Bool} {spec : Specification}
    {prepared : PreparedRequest} {answer : List UInt8} :
    (∃ value,
      receive debug params operation spec prepared answer = .debug value) ↔
      debug = true := by
  unfold receive
  split
  · next h => exact iff_of_true ⟨_, rfl⟩ h
  · next h =>
    refine iff_of_false ?_ h
    rintro ⟨value, hvalue⟩
    exact Envelope.ofAnswer_ne_debug answer operation spec value hvalue

theorem Move.showsDocument {s next : Session} {step : Step} {outcome : Outcome}
    (move : Move s reply step next outcome) {value : Json}
    (h : outcome.result = .ok (some (.debug value))) :
    outcome.ShowsDocument value := by
  cases move with
  | call operation host params =>
      rcases s.execute_cases host params operation reply with
        ⟨message, hend⟩ | ⟨spec, prepared, hprepared,
          ⟨cause, hend⟩ | ⟨answer, hend⟩⟩
      · simp [hend, Envelope.ofError] at h
      · simp [hend] at h
      · rw [hend] at h ⊢
        have hvalue := Option.some.inj (Except.ok.inj h)
        -- The wire drops the body under some verbs and the debug information
        -- never does, so both have to be read off what can be prepared.
        have hbody := Specification.body_wire hprepared s.timeout
        have hnull := Specification.body_ne_null hprepared
        refine ⟨_, _, rfl, receive_eq_debug hvalue, ?_⟩
        rw [hbody]
        cases hgiven : prepared.body with
        | none => simp
        | some document =>
            have hdocument : document ≠ .null := fun h => hnull (h ▸ hgiven)
            simp [hdocument, eq_comm]
  | refused => cases h
  | _ => cases h

theorem Move.debug_iff {s next : Session} {step : Step} {outcome : Outcome}
    (move : Move s reply step next outcome)
    (h : Turn.Answered ⟨step, reply, outcome⟩) :
    (∃ value, outcome.result = .ok (some (.debug value))) ↔
      next.debug = true := by
  cases move with
  | call operation host params =>
      rcases s.execute_cases host params operation reply with
        ⟨message, hend⟩ | ⟨spec, prepared, hprepared,
          ⟨cause, hend⟩ | ⟨answer, hend⟩⟩
      · exact absurd (by rw [hend]) h.sent
      · obtain ⟨envelope, hresult, -⟩ := h.result
        simp [hend] at hresult
      · simp only [hend, Except.ok.injEq, Option.some.injEq]
        exact receive_eq_debug_iff
  | refused => exact absurd rfl h.sent
  | _ => exact absurd rfl h.sent

end Session

namespace Dialogue

/-- Dialogues that differ at most in the debug flag of the session. -/
structure SameButDebug (d e : Dialogue) : Prop where
  session : d.session.SameButDebug e.session
  replies : d.replies = e.replies

theorem SameButDebug.symm {d e : Dialogue} (h : d.SameButDebug e) :
    e.SameButDebug d :=
  ⟨⟨h.session.host.symm, h.session.timeout.symm, h.session.params.symm,
    h.session.stage.symm⟩, h.replies.symm⟩

theorem SameButDebug.round {d e : Dialogue} (h : d.SameButDebug e)
    (step : Step) :
    (d.round step).toTurn.SameButAnswer (e.round step).toTurn ∧
      (d.round step).next.SameButDebug (e.round step).next := by
  obtain ⟨hsession, hturn⟩ := h.session.step d.replies.head step
  have hsent := congrArg (fun sent => d.replies.drop sent.length) hturn.sent
  unfold Dialogue.round
  rw [← h.replies]
  exact ⟨hturn, hsession, hsent⟩

theorem SameButDebug.of_setsDebug {d e : Dialogue} (h : d.SameButDebug e)
    {step : Step} (hstep : step.setsDebug = true) :
    (d.round step).next.SameButDebug e := by
  cases step with
  | setDebug debug =>
      exact ⟨⟨h.session.host, h.session.timeout, h.session.params,
        h.session.stage⟩, h.replies⟩
  | _ => contradiction

/--
Debugging only observes.  Two runs of a dialogue whose steps are the same but
for those that set the debug flag go through the same rounds: the same requests
are sent, the same replies taken, the same sessions left but for the flag, and
the same results returned, unless both are the envelopes of a call that the
transport answered.  Such an envelope is a debug envelope exactly when the flag
is set, and what it shows as the compiled document is what the body of the
request was written from, `null` when there was no body.
-/
theorem debug_only_observes (d : Dialogue) :
    (∀ first second : List Step,
      first.filter (!·.setsDebug) = second.filter (!·.setsDebug) →
      List.Forall₂
          (fun a b => a.toTurn.SameButAnswer b.toTurn ∧
            a.next.SameButDebug b.next)
          ((d.rounds first).filter (!·.step.setsDebug))
          ((d.rounds second).filter (!·.step.setsDebug)) ∧
        (d.after first).SameButDebug (d.after second)) ∧
    ∀ steps, ∀ round ∈ d.rounds steps,
      (round.toTurn.Answered →
        ((∃ value, round.outcome.result = .ok (some (.debug value))) ↔
          round.next.session.debug = true)) ∧
      ∀ value, round.outcome.result = .ok (some (.debug value)) →
        round.outcome.ShowsDocument value := by
  constructor
  · intro first second hsame
    have hself : d.SameButDebug d := ⟨⟨rfl, rfl, rfl, rfl⟩, rfl⟩
    refine forall₂_rounds (R := SameButDebug)
      (fun d e step _ h => ⟨h.round step, (h.round step).2⟩)
      (fun d e step hstep h => ?_) (fun d e step hstep h => ?_) hself hsame
    · exact h.of_setsDebug (by simpa using hstep)
    · exact (h.symm.of_setsDebug (by simpa using hstep)).symm
  · intro steps round hround
    obtain ⟨earlier, step, rfl⟩ := mem_rounds hround
    have hmove := earlier.move_round step
    exact ⟨fun h => hmove.debug_iff h, fun value h => hmove.showsDocument h⟩

/-- The flag is set before one call and taken back before the other. -/
theorem debug_only_observes_on_save :
    let host : Endpoint :=
      ⟨{ scheme := "http", host := .name "h", path := [[]] }⟩
    let params : Params := .typed {
      index := some "a"
      docType := some "b"
      document := [("t", .string "x")] }
    let d : Dialogue := ⟨Session.ofHost host, Stream'.const (.ok [])⟩
    let first : List Step :=
      [.setDebug true, .setParams params, .select .save, .call]
    let second : List Step :=
      [.setParams params, .setDebug true, .select .save, .setDebug false, .call]
    let called :=
      (d.after [.setDebug true, .setParams params, .select .save]).round .call
    let other := (d.after [.setParams params, .setDebug true, .select .save,
      .setDebug false]).round .call
    first.filter (!·.setsDebug) = second.filter (!·.setsDebug) ∧
      List.Forall₂
        (fun a b => a.toTurn.SameButAnswer b.toTurn ∧
          a.next.SameButDebug b.next)
        ((d.rounds first).filter (!·.step.setsDebug))
        ((d.rounds second).filter (!·.step.setsDebug)) ∧
      called ∈ d.rounds first ∧ called.toTurn.Answered ∧
      (∃ value, called.outcome.result = .ok (some (.debug value)) ∧
        called.outcome.ShowsDocument value) ∧
      other.outcome.result = .ok (some (.document .null)) := by
  intro host params d first second called other
  have hcalled : called ∈ d.rounds first := by simp [first, called]
  have hanswered : called.toTurn.Answered :=
    ⟨rfl, nofun, ⟨[], rfl⟩, _, rfl, rfl⟩
  obtain ⟨hruns, hrounds⟩ := debug_only_observes d
  obtain ⟨hiff, hshows⟩ := hrounds first called hcalled
  obtain ⟨value, hvalue⟩ := (hiff hanswered).2 rfl
  exact ⟨rfl, (hruns first second rfl).1, hcalled, hanswered,
    ⟨value, hvalue, hshows value hvalue⟩, rfl⟩

end Dialogue

end SearchClient

import SearchClient.Proofs.Session.Dialogue
import SearchClient.Proofs.Session.History

/-!
# Refused steps

A refused step changes nothing, sends nothing and takes no reply, so a run goes
as if its refused steps had not been made.
-/

namespace SearchClient

namespace Session

theorem Move.of_refused {s next : Session} {reply : Reply} {step : Step}
    {outcome : Outcome} (move : Move s reply step next outcome)
    (h : Turn.accepted ⟨step, reply, outcome⟩ = false) :
    next = s ∧ outcome.sent = [] := by
  cases move with
  | refused step refusal => exact ⟨rfl, rfl⟩
  | call operation host params =>
      rw [accepted_execute] at h
      contradiction
  | _ => contradiction

end Session

theorem Turn.accepted_eq_false {turn : Turn} {stage : Stage} {action : String}
    (h : turn.outcome.result = .error (.illegal stage action)) :
    turn.accepted = false := by
  rw [accepted, h]

namespace Dialogue

/-- The steps of a run that were not refused. -/
def kept (d : Dialogue) (steps : List Step) : List Step :=
  ((d.rounds steps).filter (·.accepted)).map (·.step)

theorem next_of_refused {d : Dialogue} {step : Step}
    (h : (d.round step).accepted = false) :
    (d.round step).next = d ∧ (d.round step).outcome.sent = [] := by
  obtain ⟨hsession, hsent⟩ := (d.move_round step).of_refused h
  refine ⟨?_, hsent⟩
  have hreplies := d.replies_next step
  rw [hsent] at hreplies
  cases d
  exact congrArg₂ Dialogue.mk hsession hreplies

theorem kept_cons (d : Dialogue) (step : Step) (steps : List Step) :
    d.kept (step :: steps) =
      if (d.round step).accepted then step :: (d.round step).next.kept steps
      else (d.round step).next.kept steps := by
  cases haccepted : (d.round step).accepted <;> simp [kept, haccepted]

theorem rounds_kept (d : Dialogue) (steps : List Step) :
    d.rounds (d.kept steps) = (d.rounds steps).filter (·.accepted) ∧
      d.after (d.kept steps) = d.after steps := by
  induction steps generalizing d with
  | nil => exact ⟨rfl, rfl⟩
  | cons step steps ih =>
      obtain ⟨hrounds, hafter⟩ := ih (d.round step).next
      cases haccepted : (d.round step).accepted with
      | true => simp [kept_cons, haccepted, hrounds, hafter]
      | false =>
          rw [(next_of_refused haccepted).1] at hrounds hafter
          simp [kept_cons, haccepted, (next_of_refused haccepted).1, hrounds,
            hafter]

theorem sent_accepted (d : Dialogue) (steps : List Step) :
    ((d.rounds steps).filter (·.accepted)).flatMap (·.outcome.sent) =
      (d.rounds steps).flatMap (·.outcome.sent) := by
  induction steps generalizing d with
  | nil => rfl
  | cons step steps ih =>
      cases haccepted : (d.round step).accepted with
      | true => simp [haccepted, ih]
      | false => simp [haccepted, ih, (next_of_refused haccepted).2]

/--
Refused steps leave no trace.  A step that is answered with an illegal
transition leaves the session and the replies of its transport as they are and
sends nothing.  So a run without its refused steps has the same rounds as the
others had, each with the same result and leaving the same dialogue; it sends
the same requests in the same order, and it ends in the same dialogue.
-/
theorem refused_leave_no_trace (d : Dialogue) :
    (∀ step stage action,
      (d.round step).outcome.result = .error (.illegal stage action) →
        (d.round step).next = d ∧ (d.round step).outcome.sent = []) ∧
    ∀ steps,
      let kept := d.kept steps
      d.rounds kept = (d.rounds steps).filter (·.accepted) ∧
      (d.rounds kept).flatMap (·.outcome.sent) =
        (d.rounds steps).flatMap (·.outcome.sent) ∧
      d.after kept = d.after steps := by
  constructor
  · intro step stage action h
    exact next_of_refused (Turn.accepted_eq_false h)
  · intro steps kept
    obtain ⟨hrounds, hafter⟩ := d.rounds_kept steps
    refine ⟨hrounds, ?_, hafter⟩
    rw [hrounds, sent_accepted]

/-- The reply that failed is that of the first request, and the second request
gets the next one, with and without the steps that were refused in between. -/
theorem refused_leave_no_trace_between_calls :
    let host : Endpoint :=
      ⟨{ scheme := "http", host := .name "h", path := [[]] }⟩
    let params : Params :=
      .typed { index := some "a", docType := some "b", id := some "1" }
    let d : Dialogue :=
      ⟨Session.ofHost host, Stream'.cons (.error (.connect "refused"))
        (Stream'.const (.ok []))⟩
    let steps : List Step :=
      [.select .get, .setParams params, .setHost host, .select .get, .call,
        .call, .setParams params, .clear, .setParams params, .select .delete,
        .call]
    let kept : List Step :=
      [.setParams params, .select .get, .call, .clear, .setParams params,
        .select .delete, .call]
    let address := (host.resource ["a", "b", "1"]).render
    (d.round (.select .get)).outcome.result =
        .error (.illegal .idle "get") ∧
      (d.round (.select .get)).next = d ∧ d.kept steps = kept ∧
      (d.rounds kept).flatMap (·.outcome.sent) =
        [PreparedRequest.wire ⟨.get, address, none⟩ defaultTimeout,
          PreparedRequest.wire ⟨.delete, address, none⟩ defaultTimeout] ∧
      d.after kept = d.after steps := by
  intro host params d steps kept address
  have hkept : d.kept steps = kept := rfl
  obtain ⟨hrefused, hruns⟩ := refused_leave_no_trace d
  obtain ⟨-, -, hafter⟩ := hruns steps
  rw [hkept] at hafter
  exact ⟨rfl, (hrefused (.select .get) .idle "get" rfl).1, hkept, rfl, hafter⟩

end Dialogue

end SearchClient

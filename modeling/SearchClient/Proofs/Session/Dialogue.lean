import Mathlib.Data.List.Forall2
import Mathlib.Data.Stream.Init
import SearchClient.Proofs.Session.Run

/-!
# Sessions and the replies they get

A dialogue is a session with the replies that its transport has ready.  A step
that sends a request uses one of them up, and every other step leaves them as
they are, so that the reply to a request depends on the requests before it only.
Two runs are compared step by step: `Agree.step` says what one step keeps of the
agreement of two sessions, and `forall₂_rounds` carries it through two runs that
have the same steps but for some that are left out.
-/

namespace SearchClient

/-! ## Two sessions side by side -/

/-- The debug flag after a step. -/
def Step.debugAfter (before : Bool) : Step → Bool
  | .setDebug debug => debug
  | .clear => false
  | _ => before

namespace Session

/-- Sessions that are the same but for the debug flag, with hosts that are
related by `same`. -/
structure Agree (same : Endpoint → Endpoint → Prop) (s t : Session) : Prop where
  host : Option.Rel same s.host t.host
  timeout : s.timeout = t.timeout
  params : s.params = t.params
  stage : s.stage = t.stage

variable {same : Endpoint → Endpoint → Prop} {s t : Session}

/--
A step keeps the agreement of two sessions, and it gives both the same outcome
unless it is a call that is in order: only such a call looks at the host and at
the debug flag.
-/
theorem Agree.step (h : s.Agree same t) (hsame : ∀ host, same host host)
    (reply : Reply) (step : Step) {Q : Outcome → Outcome → Prop}
    (hQ : ∀ outcome, Q outcome outcome)
    (hcall : step = .call → ∀ a b params operation, same a b →
      Q (s.execute a params operation reply)
        (t.execute b params operation reply)) :
    (s.step reply step).1.Agree same (t.step reply step).1 ∧
      Q (s.step reply step).2 (t.step reply step).2 := by
  obtain ⟨host, timeout, debug, params, stage⟩ := s
  obtain ⟨host', _, debug', _, _⟩ := t
  obtain ⟨hhost, rfl, rfl, rfl⟩ := h
  cases step with
  | setHost host =>
      cases stage with
      | unconfigured => exact ⟨⟨.some (hsame host), rfl, rfl, rfl⟩, hQ _⟩
      | idle => exact ⟨⟨.some (hsame host), rfl, rfl, rfl⟩, hQ _⟩
      | _ => exact ⟨⟨hhost, rfl, rfl, rfl⟩, hQ _⟩
  | call =>
      cases stage with
      | selected operation =>
          cases hhost with
          | none => exact ⟨⟨.none, rfl, rfl, rfl⟩, hQ _⟩
          | some hhost =>
              cases params with
              | none => exact ⟨⟨.some hhost, rfl, rfl, rfl⟩, hQ _⟩
              | some params =>
                  exact ⟨⟨.some hhost, rfl, rfl, rfl⟩,
                    hcall rfl _ _ params operation hhost⟩
      | _ => exact ⟨⟨hhost, rfl, rfl, rfl⟩, hQ _⟩
  | clear =>
      cases hhost with
      | none => exact ⟨⟨.none, rfl, rfl, rfl⟩, hQ _⟩
      | some hhost => exact ⟨⟨.some hhost, rfl, rfl, rfl⟩, hQ _⟩
  | _ => cases stage <;> exact ⟨⟨hhost, rfl, rfl, rfl⟩, hQ _⟩

theorem Move.debug_eq {next : Session} {reply : Reply} {step : Step}
    {outcome : Outcome} (move : Move s reply step next outcome) :
    next.debug = step.debugAfter s.debug := by
  cases move with
  | refused step refusal =>
      cases step with
      | setDebug debug => exact absurd trivial refusal
      | clear => exact absurd trivial refusal
      | _ => rfl
  | _ => rfl

end Session

/-! ## Dialogues -/

/-- A session and the replies that its transport gives, one to each request. -/
structure Dialogue where
  session : Session
  replies : Stream' Reply

/-- A turn, and the dialogue that it leaves. -/
structure Round extends Turn where
  next : Dialogue

namespace Dialogue

def round (d : Dialogue) (step : Step) : Round where
  step := step
  reply := d.replies.head
  outcome := (d.session.step d.replies.head step).2
  next := {
    session := (d.session.step d.replies.head step).1
    replies := d.replies.drop (d.session.step d.replies.head step).2.sent.length }

def rounds (d : Dialogue) : List Step → List Round
  | [] => []
  | step :: steps => d.round step :: (d.round step).next.rounds steps

def after (d : Dialogue) (steps : List Step) : Dialogue :=
  steps.foldl (fun d step => (d.round step).next) d

@[simp] theorem rounds_nil (d : Dialogue) : d.rounds [] = [] := rfl

@[simp] theorem rounds_cons (d : Dialogue) (step : Step) (steps : List Step) :
    d.rounds (step :: steps) =
      d.round step :: (d.round step).next.rounds steps := rfl

@[simp] theorem after_nil (d : Dialogue) : d.after [] = d := rfl

@[simp] theorem after_cons (d : Dialogue) (step : Step) (steps : List Step) :
    d.after (step :: steps) = (d.round step).next.after steps := rfl

theorem after_append (d : Dialogue) (first second : List Step) :
    d.after (first ++ second) = (d.after first).after second := by
  simp [after]

theorem rounds_append (d : Dialogue) (first second : List Step) :
    d.rounds (first ++ second) =
      d.rounds first ++ (d.after first).rounds second := by
  induction first generalizing d with
  | nil => rfl
  | cons step first ih => simp [ih]

@[simp] theorem step_round (d : Dialogue) (step : Step) :
    (d.round step).step = step := rfl

theorem move_round (d : Dialogue) (step : Step) :
    Session.Move d.session d.replies.head step (d.round step).next.session
      (d.round step).outcome :=
  d.session.move_step d.replies.head step

theorem replies_next (d : Dialogue) (step : Step) :
    (d.round step).next.replies =
      d.replies.drop (d.round step).outcome.sent.length := rfl

theorem mem_rounds {d : Dialogue} {steps : List Step} {round : Round}
    (h : round ∈ d.rounds steps) :
    ∃ (earlier : Dialogue) (step : Step), round = earlier.round step := by
  induction steps generalizing d with
  | nil => simp at h
  | cons step steps ih =>
      rcases List.mem_cons.1 h with rfl | h
      · exact ⟨d, step, rfl⟩
      · exact ih h

/-! ## Two runs side by side -/

section TwoRuns

variable {R : Dialogue → Dialogue → Prop} {Q : Round → Round → Prop}
  {p : Step → Bool}

/-- Steps outside of `p` lead one of two related dialogues along the other. -/
theorem after_of_hidden
    (hidden : ∀ d e step, p step = false → R d e → R d (e.round step).next)
    {d e : Dialogue} (h : R d e) {steps : List Step}
    (hsteps : ∀ step ∈ steps, p step = false) :
    (e.rounds steps).filter (p ·.step) = [] ∧ R d (e.after steps) := by
  induction steps generalizing e with
  | nil => exact ⟨rfl, h⟩
  | cons step steps ih =>
      obtain ⟨hstep, hsteps⟩ := List.forall_mem_cons.1 hsteps
      obtain ⟨hrounds, hafter⟩ := ih (hidden d e step hstep h) hsteps
      exact ⟨by simp [hstep, hrounds], hafter⟩

/--
Runs that have the same steps in `p` stay related.  `R` is kept by a step that
both make and by a step outside of `p` that one of them makes alone, and `Q` is
what the rounds of a step of both have in common.
-/
theorem forall₂_rounds
    (both : ∀ d e step, p step = true → R d e →
      Q (d.round step) (e.round step) ∧
        R (d.round step).next (e.round step).next)
    (left : ∀ d e step, p step = false → R d e → R (d.round step).next e)
    (right : ∀ d e step, p step = false → R d e → R d (e.round step).next)
    {d e : Dialogue} (h : R d e) {first second : List Step}
    (hsame : first.filter p = second.filter p) :
    List.Forall₂ Q ((d.rounds first).filter (p ·.step))
        ((e.rounds second).filter (p ·.step)) ∧
      R (d.after first) (e.after second) := by
  induction first generalizing d e second with
  | nil =>
      have hnone : ∀ step ∈ second, p step = false := by
        simpa [eq_comm (a := [])] using hsame
      obtain ⟨hrounds, hafter⟩ := after_of_hidden right h hnone
      rw [hrounds]
      exact ⟨.nil, hafter⟩
  | cons step first ih =>
      cases hshown : p step with
      | false =>
          rw [List.filter_cons_of_neg (by simp [hshown])] at hsame
          obtain ⟨hrounds, hafter⟩ := ih (left d e step hshown h) hsame
          exact ⟨by simpa [hshown] using hrounds, hafter⟩
      | true =>
          -- The second run has its own hidden steps before it makes this one.
          rw [List.filter_cons_of_pos hshown] at hsame
          obtain ⟨before, second, rfl, hbefore, -, hsame⟩ :=
            List.filter_eq_cons_iff.1 hsame.symm
          obtain ⟨hnone, hrelated⟩ := after_of_hidden right h
            fun step hmem => by simpa using hbefore step hmem
          obtain ⟨hround, hnext⟩ := both _ _ step hshown hrelated
          obtain ⟨hrounds, hafter⟩ := ih hnext hsame.symm
          constructor
          · rw [rounds_append, List.filter_append, hnone]
            simpa [hshown] using ⟨hround, hrounds⟩
          · rw [after_append]
            exact hafter

end TwoRuns

end Dialogue

end SearchClient

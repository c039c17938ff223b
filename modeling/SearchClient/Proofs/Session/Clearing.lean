import SearchClient.Proofs.Request.Prepared
import SearchClient.Proofs.Session.Dialogue
import SearchClient.Proofs.Session.History
import SearchClient.Proofs.Session.Params

/-!
# Clearing a session

A cleared session keeps its host and its timeout and nothing else.  Two cleared
sessions with the same host and the same timeout go on alike; and if they go on
alike whatever is done with them, then their timeouts are the same, and their
hosts are such that no request tells one from the other.
-/

namespace SearchClient

/-- Hosts for which every specification is prepared alike. -/
def Endpoint.Alike (a b : Endpoint) : Prop :=
  ∀ (s : Specification) operation, s.prepare a operation = s.prepare b operation

/-- Rounds that are the same to a caller, who sees what is sent and returned, and
the stage and the mapping that the session has then. -/
structure Round.LooksLike (a b : Round) : Prop where
  sent : a.outcome.sent = b.outcome.sent
  result : a.outcome.result = b.outcome.result
  stage : a.next.session.stage = b.next.session.stage
  params : a.next.session.params.map Params.report =
    b.next.session.params.map Params.report

namespace Session

variable {s t : Session} {a b : Endpoint}

/-! ## What a cleared session does -/

/-- Sessions that do the same, for hosts that make the same requests. -/
structure Alike (s t : Session) : Prop extends s.Agree Endpoint.Alike t where
  debug : s.debug = t.debug

theorem Alike.execute (h : s.Alike t) (hhost : a.Alike b) (params : Params)
    (operation : Operation) (reply : Reply) :
    s.execute a params operation reply = t.execute b params operation reply := by
  have hrequest :
      Session.request a params operation = Session.request b params operation := by
    unfold Session.request
    cases params.resolve operation with
    | error e => rw [Except.error_bind, Except.error_bind]
    | ok spec => rw [Except.ok_bind, Except.ok_bind, hhost spec operation]
  unfold Session.execute
  rw [hrequest, h.timeout, h.debug]

theorem Alike.step (h : s.Alike t) (reply : Reply) (step : Step) :
    (s.step reply step).1.Alike (t.step reply step).1 ∧
      (s.step reply step).2 = (t.step reply step).2 := by
  obtain ⟨hnext, houtcome⟩ := h.toAgree.step (fun _ _ _ => rfl) reply step
    (Q := fun a b => a = b) (fun _ => rfl)
    (fun _ a b params operation hhost => h.execute hhost params operation reply)
  refine ⟨⟨hnext, ?_⟩, houtcome⟩
  rw [(s.move_step reply step).debug_eq, (t.move_step reply step).debug_eq,
    h.debug]

theorem clear_congr (hhost : s.host = t.host) (htimeout : s.timeout = t.timeout) :
    s.clear = t.clear := by
  rw [Session.clear, Session.clear, hhost, htimeout]

theorem Alike.clear (hhost : Option.Rel Endpoint.Alike s.host t.host)
    (htimeout : s.timeout = t.timeout) : s.clear.Alike t.clear := by
  refine ⟨⟨hhost, htimeout, rfl, ?_⟩, rfl⟩
  have hsome : s.host.isSome = t.host.isSome := by
    cases hs : s.host <;> cases ht : t.host <;> simp [hs, ht] at hhost ⊢
  rw [Session.clear, Session.clear, hsome]

end Session

namespace Dialogue

/-- Dialogues of sessions that do the same, with the same replies to come. -/
structure Alike (d e : Dialogue) : Prop where
  session : d.session.Alike e.session
  replies : d.replies = e.replies

theorem Alike.round {d e : Dialogue} (h : d.Alike e) (step : Step) :
    (d.round step).LooksLike (e.round step) ∧
      (d.round step).next.Alike (e.round step).next := by
  obtain ⟨hnext, houtcome⟩ := h.session.step d.replies.head step
  unfold Dialogue.round
  rw [← h.replies, houtcome]
  refine ⟨⟨rfl, rfl, hnext.stage, ?_⟩, hnext, rfl⟩
  rw [hnext.params]

theorem Alike.rounds {d e : Dialogue} (h : d.Alike e) (steps : List Step) :
    List.Forall₂ Round.LooksLike (d.rounds steps) (e.rounds steps) := by
  have hruns := forall₂_rounds (R := Alike) (Q := Round.LooksLike)
    (p := fun _ => true) (fun d e step _ h => h.round step)
    (fun _ _ _ h => absurd h.symm Bool.false_ne_true)
    (fun _ _ _ h => absurd h.symm Bool.false_ne_true) h
    (rfl : steps.filter _ = steps.filter _)
  simpa using hruns.1

/-! ## What tells cleared sessions apart -/

/-- With the same reply to everything, the rounds are the turns of a run. -/
theorem turns_const (s : Session) (reply : Reply) (steps : List Step) :
    ((⟨s, Stream'.const reply⟩ : Dialogue).rounds steps).map Round.toTurn =
      s.turns (steps.map (·, reply)) := by
  induction steps generalizing s with
  | nil => rfl
  | cons step steps ih =>
      rw [rounds_cons, List.map_cons, List.map_cons, Session.turns_cons, ← ih]
      rfl

/-- What a session sends that is given a specification and made to call. -/
theorem sent_probe {s : Session} {host : Endpoint} (hstage : s.stage = .idle)
    (hhost : s.host = some host) (params : Params) (operation : Operation)
    (reply : Reply) :
    ((⟨s, Stream'.const reply⟩ : Dialogue).rounds
      [.setParams params, .select operation, .call]).flatMap (·.outcome.sent) =
      (Session.execute
        { s with params := some params, stage := .selected operation }
        host params operation reply).sent := by
  have hturns := turns_const s reply [.setParams params, .select operation, .call]
  rw [← Session.sent_handOver (.inl hstage) hhost reply, Session.handOver]
  simp only [List.map_cons, List.map_nil] at hturns
  rw [← hturns]
  simp [List.flatMap_cons]

theorem sent_congr {xs ys : List Round} (h : List.Forall₂ Round.LooksLike xs ys) :
    xs.flatMap (·.outcome.sent) = ys.flatMap (·.outcome.sent) := by
  induction h with
  | nil => rfl
  | cons hround _ ih => rw [List.flatMap_cons, List.flatMap_cons, hround.sent, ih]

end Dialogue

namespace Session

variable {s t : Session} {a b : Endpoint} {spec : Specification}
  {operation : Operation} {reply : Reply}

/-- A request tells the timeout, and, the verb and the body being the same for
all hosts, what was prepared. -/
theorem prepare_of_sent {prepared : PreparedRequest}
    (h : (s.execute a (.typed spec) operation reply).sent =
      (t.execute b (.typed spec) operation reply).sent)
    (hprepared : spec.prepare a operation = .ok prepared) :
    s.timeout = t.timeout ∧ spec.prepare b operation = .ok prepared := by
  have hsent : (s.execute a (.typed spec) operation reply).sent =
      [prepared.wire s.timeout] :=
    sent_execute_iff.2 ⟨spec, prepared, rfl, hprepared, rfl⟩
  rw [h] at hsent
  obtain ⟨_, other, hspec, hother, hwire⟩ := sent_execute_iff.1 hsent
  obtain rfl := Except.ok.inj hspec
  have hhost := spec.prepare_congr_host a b operation
  simp only [hprepared, hother, Except.map_ok, Except.ok.injEq, Prod.mk.injEq]
    at hhost
  have haddress : prepared.address = other.address :=
    congrArg WireRequest.address hwire
  obtain ⟨verb, address, body⟩ := prepared
  obtain ⟨_, _, _⟩ := other
  obtain ⟨rfl, rfl⟩ := hhost
  obtain rfl := haddress
  exact ⟨congrArg WireRequest.readTimeout hwire, hother⟩

theorem prepare_eq_of_sent
    (h : (s.execute a (.typed spec) operation reply).sent =
      (t.execute b (.typed spec) operation reply).sent) :
    spec.prepare a operation = spec.prepare b operation := by
  cases hprepared : spec.prepare a operation with
  | ok prepared => exact (prepare_of_sent h hprepared).2.symm
  | error e =>
      have hhost := spec.prepare_congr_host a b operation
      rw [hprepared, Except.map_error] at hhost
      cases hother : spec.prepare b operation with
      | ok other => simp [hother] at hhost
      | error f => simpa [hother] using hhost

/-- Once both are cleared, the sessions go on alike, whatever is done. -/
def GoOnAlike (s t : Session) : Prop :=
  ∀ replies steps, List.Forall₂ Round.LooksLike
    ((⟨s.clear, replies⟩ : Dialogue).rounds steps)
    ((⟨t.clear, replies⟩ : Dialogue).rounds steps)

theorem GoOnAlike.isSome_host (h : s.GoOnAlike t) :
    s.host.isSome = t.host.isSome := by
  have hround := (List.forall₂_cons.1 (h (Stream'.const (.ok [])) [.clear])).1
  have hstage : s.clear.stage = t.clear.stage := hround.stage
  cases hs : s.host <;> cases ht : t.host <;>
    simp [Session.clear, hs, ht] at hstage ⊢

theorem GoOnAlike.alike (h : s.GoOnAlike t) (hs : s.host = some a)
    (ht : t.host = some b) : a.Alike b := by
  have hidle : s.clear.stage = .idle := by simp [Session.clear, hs]
  have hidle' : t.clear.stage = .idle := by simp [Session.clear, ht]
  intro spec operation
  have hsent := Dialogue.sent_congr (h (Stream'.const (.ok []))
    [.setParams (.typed spec), .select operation, .call])
  rw [Dialogue.sent_probe hidle hs, Dialogue.sent_probe hidle' ht] at hsent
  exact prepare_eq_of_sent hsent

theorem next_setHost (s : Session) (host : Endpoint) (reply : Reply) :
    ((⟨s.clear, Stream'.const reply⟩ : Dialogue).round (.setHost host)).next =
      ⟨{ s.clear with host := some host, stage := .idle },
        Stream'.const reply⟩ := by
  cases hs : s.host <;>
    simp [Dialogue.round, Session.step, Session.setHost, Session.clear, hs, done]

theorem GoOnAlike.timeout (h : s.GoOnAlike t) : s.timeout = t.timeout := by
  -- Any host and any specification that can be fetched will do.
  let host : Endpoint := ⟨{ scheme := "http", host := .name "h", path := [[]] }⟩
  let spec : Specification :=
    { index := some "a", docType := some "b", id := some "1" }
  have hrounds := (List.forall₂_cons.1 (h (Stream'.const (.ok []))
    [.setHost host, .setParams (.typed spec), .select .get, .call])).2
  rw [next_setHost, next_setHost] at hrounds
  have hsent := Dialogue.sent_congr hrounds
  rw [Dialogue.sent_probe rfl rfl, Dialogue.sent_probe rfl rfl] at hsent
  exact (prepare_of_sent hsent rfl).1

/--
Clearing leaves nothing behind.  Two sessions with the same host and the same
timeout, whatever else they held and whatever was done with them before, go
through the same rounds once both are cleared, under the same replies.  And this
is all that a cleared session keeps: every run of one looks like that of the
other exactly when their timeouts are the same and their hosts are both missing
or make the same requests.
-/
theorem clear_forgets (s t : Session) :
    (s.host = t.host → s.timeout = t.timeout → ∀ replies steps,
      (⟨s.clear, replies⟩ : Dialogue).rounds steps =
        (⟨t.clear, replies⟩ : Dialogue).rounds steps) ∧
    (s.GoOnAlike t ↔
      s.timeout = t.timeout ∧ Option.Rel Endpoint.Alike s.host t.host) := by
  refine ⟨fun hhost htimeout replies steps => ?_, fun h => ?_, ?_⟩
  · rw [clear_congr hhost htimeout]
  · refine ⟨h.timeout, ?_⟩
    have hsome := h.isSome_host
    cases hs : s.host with
    | none =>
        have ht : t.host = none := by simpa [hs] using hsome.symm
        rw [ht]
        exact .none
    | some a =>
        rw [hs] at hsome
        obtain ⟨b, ht⟩ := Option.isSome_iff_exists.1 hsome.symm
        rw [ht]
        exact .some (h.alike hs ht)
  · rintro ⟨htimeout, hhost⟩ replies steps
    have halike : Dialogue.Alike ⟨s.clear, replies⟩ ⟨t.clear, replies⟩ :=
      ⟨.clear hhost htimeout, rfl⟩
    exact halike.rounds steps

/-- One session has made a call that failed, under the debug flag, and the other
has come from another host. -/
theorem clear_forgets_failed_call :
    let host : Endpoint :=
      ⟨{ scheme := "http", host := .name "h", path := [[]] }⟩
    let other : Endpoint :=
      ⟨{ scheme := "http", host := .name "other", path := [[]] }⟩
    let params : Params :=
      .typed { index := some "a", docType := some "b", id := some "1" }
    let s := (ofHost host).after
      [(.setDebug true, .ok []), (.setParams params, .ok []),
        (.select .get, .ok []), (.call, .error (.connect "refused"))]
    let t := (ofHost other).after [(.setHost host, .ok [])]
    let steps : List Step := [.setParams params, .select .delete, .call]
    s.stage = .executed ∧ s.debug = true ∧ t.stage = .idle ∧
      s.host = t.host ∧ s.timeout = t.timeout ∧
      ∀ replies,
        (⟨s.clear, replies⟩ : Dialogue).rounds steps =
          (⟨t.clear, replies⟩ : Dialogue).rounds steps ∧
        ((⟨s.clear, replies⟩ : Dialogue).rounds steps).flatMap
          (·.outcome.sent) =
          [PreparedRequest.wire
            ⟨.delete, (host.resource ["a", "b", "1"]).render, none⟩
            defaultTimeout] := by
  intro host other params s t steps
  have hruns := (clear_forgets s t).1 rfl rfl
  exact ⟨rfl, rfl, rfl, rfl, rfl, fun replies => ⟨hruns replies steps, rfl⟩⟩

end Session

end SearchClient

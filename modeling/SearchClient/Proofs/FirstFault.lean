import SearchClient.Proofs.Except

/-!
# First faults

What a computation checks in turn is listed as the faults that there are.  The
computation succeeds when the list is empty and fails with its first entry
otherwise; so the faults of a sequence of checks are the faults of each of them,
in order.
-/

namespace SearchClient

universe u

variable {ε α β γ : Type u}

/-- Succeeds when there are no faults, and else fails with the first of them. -/
def FailsFirst (x : Except ε α) (faults : List ε) : Prop :=
  match x with
  | .ok _ => faults = []
  | .error e => faults.head? = some e

namespace FailsFirst

variable {x : Except ε α} {faults more : List ε}

theorem eq_error_iff (h : FailsFirst x faults) {e : ε} :
    x = .error e ↔ faults.head? = some e := by
  cases x with
  | ok a =>
      have hnil : faults = [] := h
      simp [hnil]
  | error first =>
      have hhead : faults.head? = some first := h
      simp [hhead]

theorem exists_ok_iff (h : FailsFirst x faults) :
    (∃ a, x = .ok a) ↔ faults = [] := by
  cases x with
  | ok a => exact ⟨fun _ => h, fun _ => ⟨a, rfl⟩⟩
  | error first =>
      have hhead : faults.head? = some first := h
      constructor
      · rintro ⟨a, ha⟩
        contradiction
      · rintro rfl
        contradiction

theorem ok (a : α) : FailsFirst (.ok a : Except ε α) [] := rfl

theorem error (e : ε) : FailsFirst (.error e : Except ε α) [e] := rfl

theorem map (h : FailsFirst x faults) (f : α → β) :
    FailsFirst (x.map f) faults := by
  cases x with
  | ok a => exact h
  | error e => exact h

/-- The faults of what comes after may depend on what was computed before. -/
theorem bind {f : α → Except ε β} (h : FailsFirst x faults)
    (hnext : ∀ a, x = .ok a → FailsFirst (f a) more) :
    FailsFirst (x >>= f) (faults ++ more) := by
  cases x with
  | ok a =>
      have hnil : faults = [] := h
      rw [Except.ok_bind, hnil, List.nil_append]
      exact hnext a rfl
  | error e =>
      have hhead : faults.head? = some e := h
      rw [Except.error_bind]
      change (faults ++ more).head? = some e
      rw [List.head?_append, hhead, Option.some_or]

/-- What only puts a result together adds no faults. -/
theorem bind_ok {f : α → Except ε β} {g : α → β} (h : FailsFirst x faults)
    (hf : ∀ a, f a = .ok (g a)) : FailsFirst (x >>= f) faults := by
  rw [← List.append_nil faults]
  exact h.bind fun a _ => hf a ▸ ok (g a)

theorem mapM {f : α → Except ε β} {fault : α → List ε}
    (h : ∀ a, FailsFirst (f a) (fault a)) (xs : List α) :
    FailsFirst (xs.mapM f) (xs.flatMap fault) := by
  induction xs with
  | nil => exact ok []
  | cons a xs ih =>
      rw [List.mapM_cons, List.flatMap_cons]
      exact (h a).bind fun b _ => ih.bind_ok fun bs => rfl

theorem foldlM {f : β → α → Except ε β} {fault : α → List ε}
    (h : ∀ b a, FailsFirst (f b a) (fault a)) (xs : List α) (start : β) :
    FailsFirst (xs.foldlM f start) (xs.flatMap fault) := by
  induction xs generalizing start with
  | nil => exact ok start
  | cons a xs ih =>
      rw [List.foldlM_cons, List.flatMap_cons]
      exact (h start a).bind fun next _ => ih next

end FailsFirst

end SearchClient

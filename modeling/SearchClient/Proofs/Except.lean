import Mathlib.Data.List.Forall2

/-!
# Results that may be errors

How a result in `Except` that is known to be `ok` comes apart, two results put
together, and a traversal with optional results that is known to have one.
-/

namespace SearchClient

universe u v w

namespace Except

variable {ε : Type u} {α : Type v} {β : Type w}

@[simp] theorem map_ok (f : α → β) (a : α) :
    (Except.ok a : Except ε α).map f = .ok (f a) := rfl

@[simp] theorem map_error (f : α → β) (e : ε) :
    (Except.error e : Except ε α).map f = .error e := rfl

theorem map_eq_ok {f : α → β} {x : Except ε α} {b : β} :
    x.map f = .ok b ↔ ∃ a, x = .ok a ∧ f a = b := by
  cases x with
  | error e => simp
  | ok a => simp

end Except

namespace Except

variable {ε α β γ : Type u}

@[simp] theorem ok_bind (a : α) (f : α → Except ε β) :
    (Except.ok a >>= f) = f a := rfl

@[simp] theorem error_bind (e : ε) (f : α → Except ε β) :
    ((Except.error e : Except ε α) >>= f) = .error e := rfl

theorem bind_eq_ok {x : Except ε α} {f : α → Except ε β} {b : β} :
    (x >>= f) = .ok b ↔ ∃ a, x = .ok a ∧ f a = .ok b := by
  cases x with
  | error e => simp
  | ok a => simp

theorem mapM_eq_ok {f : α → Except ε β} {xs : List α} {ys : List β} :
    xs.mapM f = .ok ys ↔ List.Forall₂ (fun x y => f x = .ok y) xs ys := by
  induction xs generalizing ys with
  | nil =>
      rw [List.mapM_nil, List.forall₂_nil_left_iff]
      exact ⟨fun h => (Except.ok.inj h).symm, fun h => h ▸ rfl⟩
  | cons x xs ih =>
      rw [List.mapM_cons, List.forall₂_cons_left_iff]
      constructor
      · intro h
        obtain ⟨y, hy, h⟩ := bind_eq_ok.1 h
        obtain ⟨ys, hys, h⟩ := bind_eq_ok.1 h
        exact ⟨y, ys, hy, ih.1 hys, (Except.ok.inj h).symm⟩
      · rintro ⟨y, ys, hy, hys, rfl⟩
        rw [hy, ok_bind, ih.2 hys]
        rfl

/-- Both results put together, or the error of the first that fails. -/
def both (combine : α → β → γ) : Except ε α → Except ε β → Except ε γ
  | .ok a, .ok b => .ok (combine a b)
  | .ok _, .error e => .error e
  | .error e, _ => .error e

theorem both_congr {first second : α → β → γ} {x : Except ε α} {y : Except ε β}
    (h : ∀ a b, x = .ok a → y = .ok b → first a b = second a b) :
    both first x y = both second x y := by
  cases x with
  | error e => rfl
  | ok a =>
      cases y with
      | error e => rfl
      | ok b => exact congrArg Except.ok (h a b rfl rfl)

theorem bind_bind_eq_both (combine : α → β → γ) (x : Except ε α)
    (y : Except ε β) :
    (x >>= fun a => y >>= fun b => .ok (combine a b)) = both combine x y := by
  cases x with
  | error e => rfl
  | ok a => cases y <;> rfl

theorem mapM_append_eq_both (f : α → Except ε β) (xs ys : List α) :
    (xs ++ ys).mapM f = both (· ++ ·) (xs.mapM f) (ys.mapM f) := by
  rw [List.mapM_append]
  exact bind_bind_eq_both (· ++ ·) (xs.mapM f) (ys.mapM f)

/-- A traversal stops at the first item that fails. -/
theorem mapM_eq_error {f : α → Except ε β} {xs : List α} {e : ε} :
    xs.mapM f = .error e ↔
      ∃ before x after ys, xs = before ++ x :: after ∧
        before.mapM f = .ok ys ∧ f x = .error e := by
  constructor
  · intro h
    induction xs with
    | nil => nomatch h
    | cons x xs ih =>
        rw [List.mapM_cons] at h
        cases hx : f x with
        | error first =>
            rw [hx, error_bind] at h
            cases h
            exact ⟨[], x, xs, [], rfl, rfl, hx⟩
        | ok y =>
            cases hxs : xs.mapM f with
            | ok ys =>
                rw [hx, ok_bind, hxs, ok_bind] at h
                nomatch h
            | error first =>
                rw [hx, ok_bind, hxs, error_bind] at h
                obtain ⟨before, fault, after, ys, rfl, hbefore, hfault⟩ :=
                  ih (hxs.trans h)
                refine ⟨x :: before, fault, after, y :: ys, rfl, ?_, hfault⟩
                rw [List.mapM_cons, hx, ok_bind, hbefore]
                rfl
  · rintro ⟨before, x, after, ys, rfl, hbefore, hx⟩
    rw [mapM_append_eq_both, hbefore, List.mapM_cons, hx]
    rfl

theorem mapM_map_eq_ok_self {e : β → α} {f : α → Except ε β} {ys : List β} :
    (ys.map e).mapM f = .ok ys ↔ ∀ y ∈ ys, f (e y) = .ok y := by
  rw [mapM_eq_ok, List.forall₂_map_left_iff, List.forall₂_same]

end Except

variable {α β γ : Type u}

theorem mapM_eq_some {f : α → Option β} {xs : List α} {ys : List β} :
    xs.mapM f = some ys ↔ List.Forall₂ (fun x y => f x = some y) xs ys := by
  induction xs generalizing ys with
  | nil =>
      rw [List.mapM_nil, List.forall₂_nil_left_iff]
      exact ⟨fun h => (Option.some.inj h).symm, fun h => h ▸ rfl⟩
  | cons x xs ih =>
      rw [List.mapM_cons, List.forall₂_cons_left_iff]
      constructor
      · intro h
        obtain ⟨y, hy, h⟩ := Option.bind_eq_some_iff.1 h
        obtain ⟨ys, hys, h⟩ := Option.bind_eq_some_iff.1 h
        exact ⟨y, ys, hy, ih.1 hys, (Option.some.inj h).symm⟩
      · rintro ⟨y, ys, hy, hys, rfl⟩
        simp [hy, ih.2 hys]

theorem ne_none_of_mapM {f : α → Option β} {xs : List α} {ys : List β}
    (h : xs.mapM f = some ys) : ∀ x ∈ xs, f x ≠ none := by
  induction mapM_eq_some.1 h with
  | nil => simp
  | cons hx _ ih =>
      exact List.forall_mem_cons.2 ⟨by simp [hx], ih (mapM_eq_some.2 ‹_›)⟩

theorem ne_none_of_foldlM {f : α → Option β} {step : γ → β → γ} {xs : List α}
    {start result : γ}
    (h : xs.foldlM (fun acc x => (f x).map (step acc)) start = some result) :
    ∀ x ∈ xs, f x ≠ none := by
  induction xs generalizing start with
  | nil => simp
  | cons x xs ih =>
      rw [List.foldlM_cons] at h
      obtain ⟨next, hnext, h⟩ := Option.bind_eq_some_iff.1 h
      refine List.forall_mem_cons.2 ⟨?_, ih h⟩
      intro hnone
      simp [hnone] at hnext

end SearchClient

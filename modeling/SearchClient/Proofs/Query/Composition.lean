import SearchClient.Proofs.Query.FilterMeaning
import SearchClient.Query.OfSort

/-!
# Lists are compiled in parts

What a predicate adds to a tree does not depend on the predicates before it, so
the tree of two lists is that of the first followed by that of the second, and
the error is that of the first list that has one.  The same holds for the
clauses of sort directives.
-/

namespace SearchClient

namespace BoolQuery

variable {p : FilterPredicate} {part : BoolQuery} {e : SpecError}
  {minimum : Int64}

theorem addPredicate_of_ok (h : p.clauses minimum = .ok part)
    (tree : BoolQuery) : addPredicate minimum tree p = .ok (tree ++ part) := by
  rw [addPredicate_eq_map, h, Except.map_ok]

theorem addPredicate_of_error (h : p.clauses minimum = .error e)
    (tree : BoolQuery) : addPredicate minimum tree p = .error e := by
  rw [addPredicate_eq_map, h, Except.map_error]

/-- What was there before stays in front and changes nothing else. -/
theorem foldlM_addPredicate_eq_map (predicates : List FilterPredicate)
    (tree : BoolQuery) :
    predicates.foldlM (addPredicate minimum) tree =
      (predicates.foldlM (addPredicate minimum) {}).map (tree ++ ·) := by
  induction predicates generalizing tree with
  | nil => exact congrArg Except.ok (append_empty tree).symm
  | cons p predicates ih =>
      rw [List.foldlM_cons, List.foldlM_cons]
      cases hp : p.clauses minimum with
      | error e =>
          rw [addPredicate_of_error hp, addPredicate_of_error hp]
          rfl
      | ok part =>
          rw [addPredicate_of_ok hp, addPredicate_of_ok hp, Except.ok_bind,
            Except.ok_bind, ih (tree ++ part), ih ({} ++ part), empty_append]
          cases predicates.foldlM (addPredicate minimum) {} with
          | error e => rfl
          | ok rest => exact congrArg Except.ok (append_assoc tree part rest)

/-! ## The minimum -/

/-- No minimum, or the one that all predicates are given. -/
def HasMinimum (minimum : Int64) (tree : BoolQuery) : Prop :=
  tree.minimum = none ∨ tree.minimum = some minimum

theorem HasMinimum.append {first second : BoolQuery}
    (hfirst : HasMinimum minimum first) (hsecond : HasMinimum minimum second) :
    (first ++ second).minimum =
      if first.minimum.isSome || second.minimum.isSome then some minimum
      else none := by
  rcases hfirst with hfirst | hfirst <;> rcases hsecond with hsecond | hsecond <;>
    simp [append_def, hfirst, hsecond]

theorem hasMinimum_of_clauses (h : p.clauses minimum = .ok part) :
    HasMinimum minimum part := by
  have hpart := (FilterPredicate.adds_of_clauses h).minimum_eq
  split at hpart
  · exact .inr hpart
  · exact .inl hpart

theorem hasMinimum_of_foldlM {predicates : List FilterPredicate}
    {start tree : BoolQuery} (hstart : HasMinimum minimum start)
    (h : predicates.foldlM (addPredicate minimum) start = .ok tree) :
    HasMinimum minimum tree := by
  induction predicates generalizing start with
  | nil =>
      cases h
      exact hstart
  | cons p predicates ih =>
      rw [List.foldlM_cons] at h
      obtain ⟨next, hnext, h⟩ := Except.bind_eq_ok.1 h
      rw [addPredicate_eq_map] at hnext
      obtain ⟨part, hpart, rfl⟩ := Except.map_eq_ok.1 hnext
      refine ih ?_ h
      rw [HasMinimum, hstart.append (hasMinimum_of_clauses hpart)]
      split
      · exact .inr rfl
      · exact .inl rfl

theorem hasMinimum_of_ofFilters {predicates : List FilterPredicate}
    {tree : BoolQuery} (h : ofFilters predicates none minimum = .ok tree) :
    HasMinimum minimum tree := by
  obtain ⟨whole, hwhole, hnone⟩ := Except.bind_eq_ok.1 h
  cases hnone
  exact hasMinimum_of_foldlM (.inl rfl) hwhole

/-! ## Two lists -/

theorem ofFilters_none (predicates : List FilterPredicate) (minimum : Int64) :
    ofFilters predicates none minimum =
      predicates.foldlM (addPredicate minimum) {} := by
  rw [ofFilters]
  cases predicates.foldlM (addPredicate minimum) {} <;> rfl

theorem ofFilters_append (first second : List FilterPredicate)
    (minimum : Int64) :
    ofFilters (first ++ second) none minimum =
      Except.both (· ++ ·) (ofFilters first none minimum)
        (ofFilters second none minimum) := by
  rw [ofFilters_none, ofFilters_none, ofFilters_none, List.foldlM_append]
  cases first.foldlM (addPredicate minimum) {} with
  | error e => rfl
  | ok tree =>
      rw [Except.ok_bind, foldlM_addPredicate_eq_map]
      cases second.foldlM (addPredicate minimum) {} <;> rfl

theorem ofFilters_some (predicates : List FilterPredicate) (g : GeoParameter)
    (minimum : Int64) :
    ofFilters predicates (some g) minimum =
      Except.both (fun tree clause => { tree with must := tree.must ++ [clause] })
        (ofFilters predicates none minimum) g.clause := by
  rw [ofFilters_none, ofFilters]
  cases predicates.foldlM (addPredicate minimum) {} with
  | error e => rfl
  | ok tree =>
      rw [Except.ok_bind, addGeo]
      cases g.clause <;> rfl

end BoolQuery

open BoolQuery SortClause

/--
The tree of two lists of predicates has the clauses of both in their order, and
a minimum when either has one; a geo constraint adds one clause that must hold
after all others.  The clauses of two lists of sort directives are those of the
first and those of the second, one for each directive.  In each case the error
is the first that there is.
-/
theorem filters_and_sort_compose (first second : List FilterPredicate)
    (g : GeoParameter) (minimum : Int64) (front back : List SortDirective) :
    ofFilters (first ++ second) none minimum =
      Except.both
        (fun a b => {
          must := a.must ++ b.must
          should := a.should ++ b.should
          mustNot := a.mustNot ++ b.mustNot
          minimum :=
            if a.minimum.isSome || b.minimum.isSome then some minimum
            else none })
        (ofFilters first none minimum) (ofFilters second none minimum) ∧
    ofFilters first (some g) minimum =
      Except.both (fun tree clause => { tree with must := tree.must ++ [clause] })
        (ofFilters first none minimum) g.clause ∧
    ofDirectives (front ++ back) =
      Except.both (· ++ ·) (ofDirectives front) (ofDirectives back) ∧
    (∀ clauses, ofDirectives front = .ok clauses ↔
      List.Forall₂ (fun d clause => d.clause = .ok clause) front clauses) ∧
    ∀ e, ofDirectives front = .error e ↔
      ∃ before d after clauses, front = before ++ d :: after ∧
        ofDirectives before = .ok clauses ∧ d.clause = .error e := by
  refine ⟨?_, ofFilters_some first g minimum,
    Except.mapM_append_eq_both _ front back, ?_, ?_⟩
  · rw [ofFilters_append]
    refine Except.both_congr fun a b ha hb => ?_
    rw [← (hasMinimum_of_ofFilters ha).append (hasMinimum_of_ofFilters hb)]
    rfl
  · exact fun clauses => Except.mapM_eq_ok
  · exact fun e => Except.mapM_eq_error

end SearchClient

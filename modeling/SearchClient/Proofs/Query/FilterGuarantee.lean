import SearchClient.Proofs.Query.FilterMeaning

/-!
# Which filters a tree insists on

The clauses that should hold are counted together, whichever predicates they come
from.  A predicate that only adds such a clause is therefore not always insisted
on: the tree may get its count from the clauses of others.
-/

namespace SearchClient

namespace BoolQuery

section

variable {predicates : List FilterPredicate} {geo : Option GeoParameter}
  {minimum : Int64} (hvalid : ∀ p ∈ predicates, p.isValid = true)
include hvalid

theorem isFilterLeaf_filterParts (hgeo : ∀ g ∈ geo, g.isComplete = true) :
    ∀ q ∈ (concat (filterParts predicates geo minimum)).leaves,
      q.IsFilterLeaf := by
  have hparts : ∀ part ∈ filterParts predicates geo minimum,
      ∀ q ∈ part.leaves, q.IsFilterLeaf := by
    rw [forall_mem_filterParts_iff]
    refine ⟨fun p hp => (FilterPredicate.adds_added (hvalid p hp) minimum).isFilterLeaf,
      fun g hg q hq => ?_⟩
    obtain ⟨clause, hclause, hadded⟩ := GeoParameter.clause_eq_ok (hgeo g hg)
    rw [hadded] at hq
    obtain rfl : q = clause := by simpa [leaves] using hq
    exact GeoParameter.isFilterLeaf_of_clause hclause
  intro q hq
  obtain ⟨part, hpart, hq⟩ := mem_leaves_concat.1 hq
  exact hparts part hpart q hq

theorem anyOf_mem_should {p : FilterPredicate} (hp : p ∈ predicates)
    (hchoice : p.IsChoice) :
    p.alternatives ≠ [] ∧
      .anyOf p.alternatives ∈ (concat (filterParts predicates geo minimum)).should := by
  obtain ⟨hne, hshould⟩ :=
    (FilterPredicate.adds_added (hvalid p hp) minimum).should_of_isChoice hchoice
  refine ⟨hne, ?_⟩
  rw [should_filterParts]
  exact List.mem_flatMap.2 ⟨p, hp, by simp [hshould]⟩

variable (hgeo : ∀ g ∈ geo, g.isComplete = true)
include hgeo

/-- What must hold or must not settles all predicates but the choices. -/
theorem forall_accepts_holds_iff {p : FilterPredicate} (hp : p ∈ predicates) :
    (∀ v, (concat (filterParts predicates geo minimum)).toQuery.accepts v = true →
      p.holds v = true) ↔
    ¬(p.IsChoice ∧
      (concat (filterParts predicates geo minimum)).CanAvoid p.alternatives) := by
  have hflat : (concat (filterParts predicates geo minimum)).IsFlat := fun q hq =>
    (isFilterLeaf_filterParts hvalid hgeo q hq).isLeaf
  have hadds := FilterPredicate.adds_added (hvalid p hp) minimum
  by_cases hchoice : p.IsChoice
  · simp only [hadds.holds_iff_of_isChoice hchoice, hflat.forall_accepts_iff, hchoice,
      true_and]
  · refine iff_of_true (fun v haccepts => ?_) fun hboth => hchoice hboth.1
    have hmeets := meets_concat_iff.1 (accepts_toQuery.1 haccepts).1
    exact hadds.holds_of_meets hchoice
      ((forall_mem_filterParts_iff.1 hmeets).1 p hp)

/--
A document that the tree accepts meets every predicate but a choice whose
alternatives the tree can be met without.  It meets these as well when as many of
the clauses that should hold are required as the predicates add.
-/
theorem ofFilters_insists_iff :
    ∃ tree, ofFilters predicates geo minimum = .ok tree ∧
      (∀ p ∈ predicates,
        (∀ v, tree.toQuery.accepts v = true → p.holds v = true) ↔
          ¬(p.IsChoice ∧ tree.CanAvoid p.alternatives)) ∧
      ((predicates.countP (·.operator ∈ FilterOp.withOptions) : Int) ≤ tree.required →
        ∀ v, tree.toQuery.accepts v = true → ∀ p ∈ predicates, p.holds v = true) := by
  refine ⟨_, ofFilters_eq_ok hvalid hgeo minimum,
    fun p hp => forall_accepts_holds_iff hvalid hgeo hp,
    fun hrequired v haccepts p hp => ?_⟩
  refine (forall_accepts_holds_iff hvalid hgeo hp).2 (fun havoid => ?_) v haccepts
  obtain ⟨hne, hshould⟩ := anyOf_mem_should hvalid hp havoid.1
  rw [← length_should_filterParts hvalid] at hrequired
  have hnot := not_canAvoid_options hrequired hshould
  rw [Query.options_anyOf hne] at hnot
  exact hnot havoid.2

end

theorem ofFilters_insists_iff_on_three :
    let outside : FilterPredicate :=
      ⟨"age", .notBetween, .array [.ofUInt64 18, .ofUInt64 30], false, none⟩
    let predicates : List FilterPredicate := [
      ⟨"price", .greater, .ofUInt64 10, false, none⟩, outside,
      ⟨"tag", .oneOf, .array [.ofUInt64 1, .ofUInt64 2], false, none⟩]
    (∃ tree, ofFilters predicates none 3 = .ok tree ∧
      ∀ v, tree.toQuery.accepts v = true → ∀ p ∈ predicates, p.holds v = true) ∧
    ∃ tree, ofFilters predicates none 2 = .ok tree ∧
      ¬∀ v, tree.toQuery.accepts v = true → outside.holds v = true := by
  intro outside predicates
  have hvalid : ∀ p ∈ predicates, p.isValid = true := by decide
  have hgeo : ∀ g ∈ (none : Option GeoParameter), g.isComplete = true := by simp
  constructor
  · obtain ⟨tree, htree, -, hall⟩ := (ofFilters_insists_iff hvalid hgeo :
      ∃ tree, ofFilters predicates none 3 = .ok tree ∧ _)
    refine ⟨tree, htree, hall ?_⟩
    cases htree
    decide
  · obtain ⟨tree, htree, hguarantee, -⟩ := (ofFilters_insists_iff hvalid hgeo :
      ∃ tree, ofFilters predicates none 2 = .ok tree ∧ _)
    refine ⟨tree, htree, fun hall => ?_⟩
    refine (hguarantee outside (by simp [predicates])).1 hall ⟨.inr rfl, ?_⟩
    have hparts : tree = {
        must := [.greaterThan "price" (.ofUInt64 10)]
        should := [
          .anyOf [.ofTerm "price" (.ofUInt64 10)],
          .anyOf [.lessThan "age" (.ofUInt64 18), .greaterThan "age" (.ofUInt64 30)],
          .anyOf [.ofTerm "tag" (.ofUInt64 1), .ofTerm "tag" (.ofUInt64 2)]]
        minimum := some 2 } := by
      cases htree
      rfl
    rw [hparts]
    constructor
    · simp [outside, FilterPredicate.alternatives, Query.greaterThan,
        Query.lessThan, SortedMap.singleton]
    · refine ⟨_, .cons_cons _ (.cons _ (.refl _)), by decide, ?_⟩
      simp [outside, FilterPredicate.alternatives, Query.anyOf, Query.options,
        Query.ofTerm, Query.greaterThan, Query.lessThan]

theorem ofFilters_insists_not_always :
    let predicates : List FilterPredicate := [
      ⟨"price", .greater, .ofUInt64 10, false, none⟩,
      ⟨"age", .notBetween, .array [.ofUInt64 18, .ofUInt64 30], false, none⟩]
    (∀ p ∈ predicates, p.isValid = true) ∧
      ∃ tree, ofFilters predicates none 1 = .ok tree ∧
        ∃ v, tree.toQuery.accepts v = true ∧ ∃ p ∈ predicates, p.holds v = false := by
  intro predicates
  -- Above the price, and of an age within the bounds.
  let v : Valuation := fun q =>
    match q with
    | .range bounds => bounds.keys = ["price"]
    | _ => false
  refine ⟨by decide, _, rfl, v, ?_, _, List.mem_cons_of_mem _ List.mem_cons_self, ?_⟩
  · decide
  · decide

end BoolQuery

end SearchClient

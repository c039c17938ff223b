import SearchClient.Proofs.Spec.Validity
import SearchClient.Request

/-!
# What is wrong with a search

The faults of a specification, in the order in which a search looks for them:
filters, geo constraint, score rules, group columns, sort directives.  A search
is made exactly when there are none, and otherwise the first of them is its
error; the names of the index and of the type are looked at before all else.
-/

namespace SearchClient

theorem BoolQuery.ofFilters_failsFirst (predicates : List FilterPredicate)
    (geo : Option GeoParameter) (minimum : Int64) :
    FailsFirst (ofFilters predicates geo minimum)
      (predicates.flatMap FilterPredicate.faults ++
        geo.toList.flatMap GeoParameter.faults) := by
  have hfilters : FailsFirst (predicates.foldlM (addPredicate minimum) {})
      (predicates.flatMap FilterPredicate.faults) :=
    .foldlM (addPredicate_failsFirst minimum) _ _
  refine hfilters.bind fun tree _ => ?_
  cases geo with
  | none => exact .ok tree
  | some g =>
      rw [Option.toList_some, List.flatMap_singleton]
      exact g.clause_failsFirst.map _

namespace Specification

/-- Each part that a search in the mode makes use of is as it has to be. -/
structure IsSearchable (s : Specification) (mode : SearchMode) : Prop where
  filters : ∀ p ∈ s.filters, p.isValid = true
  geo : ∀ g ∈ s.geo, g.isComplete = true
  rules : mode = .scored →
    ∃ rules, s.rules = some rules ∧ ∀ r ∈ rules, r.isValid = true
  columns : s.grouped = true →
    ∃ columns, s.groupColumns = some columns ∧ columns ≠ []
  sort : ∀ d ∈ s.sort, d.isComplete = true

def filterFaults (s : Specification) : List SpecError :=
  s.filters.flatMap FilterPredicate.faults ++
    s.geo.toList.flatMap GeoParameter.faults

def ruleFaults (s : Specification) : List SpecError :=
  match s.rules with
  | none => [.rulesRequired]
  | some rules => rules.flatMap ScoreRule.faults

def columnFaults (s : Specification) : List SpecError :=
  if s.grouped && (s.groupColumns.getD []).isEmpty then [.groupColumnsRequired]
  else []

/-- All faults, in the order in which a search in the mode looks for them. -/
def faults (s : Specification) (mode : SearchMode) : List SpecError :=
  s.filterFaults ++ (if mode = .scored then s.ruleFaults else []) ++
    s.columnFaults ++ s.sort.flatMap SortDirective.faults

def targetFaults (s : Specification) : List SpecError :=
  if s.index.getD "" = "" ∨ s.docType.getD "" = "" then [.indexTypeRequired]
  else []

variable (s : Specification) (mode : SearchMode)

variable {s} in
theorem not_hasFilters_iff :
    ¬s.hasFilters = true ↔ s.filters = [] ∧ s.geo = none := by
  simp only [hasFilters, Bool.or_eq_true, Bool.not_eq_true',
    List.isEmpty_eq_false_iff, not_or, not_not, Bool.not_eq_true,
    Option.isSome_eq_false_iff, Option.isNone_iff_eq_none]

theorem filterTree_failsFirst : FailsFirst s.filterTree s.filterFaults := by
  unfold filterTree filterFaults
  split
  · exact (BoolQuery.ofFilters_failsFirst s.filters s.geo s.minShouldMatch).map _
  · next hnone =>
    obtain ⟨hfilters, hgeo⟩ := not_hasFilters_iff.1 hnone
    rw [hfilters, hgeo]
    exact .ok none

theorem modeQuery_failsFirst :
    FailsFirst (s.modeQuery mode)
      (s.filterFaults ++ if mode = .scored then s.ruleFaults else []) := by
  cases mode with
  | plain =>
      refine s.filterTree_failsFirst.bind fun tree _ => ?_
      split
      · exact .ok none
      · exact .ok _
  | scored =>
      refine (s.filterTree_failsFirst.bind fun tree _ => ?_).map some
      unfold ruleFaults
      cases s.rules with
      | none => exact .error _
      | some rules =>
          exact (FailsFirst.mapM ScoreRule.scoreFunction_failsFirst rules).bind_ok
            fun _ => rfl
  | multiKeyword =>
      exact (s.filterTree_failsFirst.bind fun tree _ => .ok _).map some

theorem aggregations_failsFirst : FailsFirst s.aggregations s.columnFaults := by
  unfold aggregations columnFaults
  cases s.grouped with
  | false => exact .ok none
  | true =>
      refine FailsFirst.map ?_ some
      unfold Aggregation.ofColumns
      cases s.groupColumns.getD [] with
      | nil => exact .error _
      | cons column columns => exact .ok _

theorem searchBody_failsFirst : FailsFirst (s.searchBody mode) (s.faults mode) := by
  unfold faults
  rw [List.append_assoc]
  refine (s.modeQuery_failsFirst mode).bind fun query _ => ?_
  refine s.aggregations_failsFirst.bind fun aggregations _ => ?_
  exact (FailsFirst.mapM SortDirective.clause_failsFirst s.sort).bind_ok
    fun _ => rfl

theorem target?_eq_none_iff :
    s.target? = none ↔ s.index.getD "" = "" ∨ s.docType.getD "" = "" := by
  cases hindex : s.index <;> cases htype : s.docType <;>
    simp [target?, nonEmpty?, hindex, htype, Option.filter,
      or_iff_not_imp_left]

theorem prepareSearch_failsFirst (host : Endpoint) :
    FailsFirst (s.prepareSearch host mode) (s.targetFaults ++ s.faults mode) := by
  have hnone := s.target?_eq_none_iff
  unfold prepareSearch targetFaults
  cases htarget : s.target? with
  | none =>
      rw [if_pos (hnone.1 htarget)]
      exact rfl
  | some target =>
      rw [if_neg fun hempty => by simp [hnone.2 hempty] at htarget]
      exact (s.searchBody_failsFirst mode).map _

theorem ruleFaults_eq_nil_iff :
    s.ruleFaults = [] ↔
      ∃ rules, s.rules = some rules ∧ ∀ r ∈ rules, r.isValid = true := by
  unfold ruleFaults
  cases s.rules <;> simp [ScoreRule.faults_eq_nil_iff]

theorem columnFaults_eq_nil_iff :
    s.columnFaults = [] ↔ (s.grouped = true →
      ∃ columns, s.groupColumns = some columns ∧ columns ≠ []) := by
  unfold columnFaults
  cases s.grouped <;> cases s.groupColumns <;> simp

theorem faults_eq_nil_iff : s.faults mode = [] ↔ s.IsSearchable mode := by
  have hrules : (if mode = .scored then s.ruleFaults else []) = [] ↔
      (mode = .scored → s.ruleFaults = []) := by
    split <;> simp [*]
  simp only [faults, filterFaults, List.append_eq_nil_iff,
    List.flatMap_eq_nil_iff, FilterPredicate.faults_eq_nil_iff,
    GeoParameter.faults_eq_nil_iff, SortDirective.faults_eq_nil_iff, hrules,
    ruleFaults_eq_nil_iff, columnFaults_eq_nil_iff, Option.mem_toList]
  constructor
  · rintro ⟨⟨⟨⟨hfilters, hgeo⟩, hrules⟩, hcolumns⟩, hsort⟩
    exact ⟨hfilters, hgeo, hrules, hcolumns, hsort⟩
  · rintro ⟨hfilters, hgeo, hrules, hcolumns, hsort⟩
    exact ⟨⟨⟨⟨hfilters, hgeo⟩, hrules⟩, hcolumns⟩, hsort⟩

/--
A search can be made of a specification exactly when all parts of it that the mode
makes use of are as they have to be; if not, the error is the first of its faults.
A request for the search reports a missing index or type before any of them.
-/
theorem searchBody_first_fault :
    ((∃ body, s.searchBody mode = .ok body) ↔ s.IsSearchable mode) ∧
    (∀ e, s.searchBody mode = .error e ↔ (s.faults mode).head? = some e) ∧
    ∀ host e, s.prepare host (.search mode) = .error e ↔
      (s.targetFaults ++ s.faults mode).head? = some e := by
  refine ⟨?_, ?_, ?_⟩
  · rw [(s.searchBody_failsFirst mode).exists_ok_iff, s.faults_eq_nil_iff]
  · intro e
    exact (s.searchBody_failsFirst mode).eq_error_iff
  · intro host e
    exact (s.prepareSearch_failsFirst mode host).eq_error_iff

end Specification

end SearchClient

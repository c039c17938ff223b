import SearchClient.Proofs.Query.Keywords

/-!
# Shapes of searches

The query of a search has one shape for each mode.  All of them filter by the
same tree, that of the filters and the geo constraint; where the filter has a
place of its own, it is left out when there is nothing to filter by.
-/

namespace SearchClient

/-- The filter, in the shapes that have a place for one. -/
def Query.filter? : Query → Option Query
  | .filtered _ filter => filter
  | .functionScore _ filter _ _ => filter
  | _ => none

namespace ScoreRule

/-- The score function of a rule: its weight, for the documents that compare with
its value as its operator says. -/
inductive Scores (r : ScoreRule) : Binary64 × Query → Prop where
  | greater {field : String} {value : Json} {weight : Binary64}
      (hop : r.operator = some .greater) (hfield : r.field = some field)
      (hvalue : r.value = some value) (hweight : r.weight = some weight) :
      Scores r (weight, .greaterThan field value)
  | less {field : String} {value : Json} {weight : Binary64}
      (hop : r.operator = some .less) (hfield : r.field = some field)
      (hvalue : r.value = some value) (hweight : r.weight = some weight) :
      Scores r (weight, .lessThan field value)
  | equal {field : String} {value : Json} {weight : Binary64}
      (hop : r.operator = some .equal) (hfield : r.field = some field)
      (hvalue : r.value = some value) (hweight : r.weight = some weight) :
      Scores r (weight, .ofTerm field value)

theorem scores_of_scoreFunction {r : ScoreRule} {function : Binary64 × Query}
    (h : r.scoreFunction = .ok function) : r.Scores function := by
  unfold scoreFunction at h
  split at h
  · next hfield hop hvalue hweight =>
    split at h
    · cases h
      exact .greater hop hfield hvalue hweight
    · cases h
      exact .less hop hfield hvalue hweight
    · cases h
      exact .equal hop hfield hvalue hweight
    · contradiction
  · contradiction

end ScoreRule

namespace Specification

variable {s : Specification} {mode : SearchMode} {body : SearchBody}

/-- The filter of a search, unless there is nothing to filter by. -/
def filter? (s : Specification) : Option Query :=
  if s.hasFilters then some s.filterBool.toQuery else none

/-- A scored search takes keywords only with a search type and columns. -/
def scoredClause? (s : Specification) : Option Query :=
  if s.searchType.isSome && s.columns.isSome then s.keywordClause? else none

/-- The query that a search in a mode sends. -/
inductive Sends (s : Specification) : SearchMode → Option Query → Prop where
  | nothing (hkeyword : s.keywordClause? = none) (hfilter : s.filter? = none) :
      Sends s .plain none
  | plain (hsome : s.keywordClause?.isSome ∨ s.filter?.isSome) :
      Sends s .plain (some (.filtered s.keywordClause? s.filter?))
  | scored {rules : List ScoreRule} {functions : List (Binary64 × Query)}
      (hrules : s.rules = some rules)
      (hfunctions : List.Forall₂ ScoreRule.Scores rules functions) :
      Sends s .scored
        (some (.functionScore s.scoredClause? s.filter? functions s.scoreMode))
  | multiKeyword :
      Sends s .multiKeyword (some (s.addTerms s.filterBool).toQuery)

theorem exists_searchBody_iff :
    (∃ body, s.searchBody mode = .ok body) ↔ s.IsSearchable mode := by
  rw [(s.searchBody_failsFirst mode).exists_ok_iff, s.faults_eq_nil_iff]

theorem filterTree_of_isSearchable (h : s.IsSearchable mode) :
    ∃ tree, s.filterTree = .ok tree ∧ tree.map BoolQuery.toQuery = s.filter? ∧
      tree.getD {} = s.filterBool := by
  have hfilters := ofFilters_of_isSearchable h
  obtain ⟨tree, htree, hget⟩ := filterTree_of_ofFilters hfilters
  refine ⟨tree, htree, ?_, hget⟩
  rw [filterTree, hfilters, Except.map_ok] at htree
  unfold filter?
  split at htree
  · next hsome => rw [if_pos hsome, ← Except.ok.inj htree, Option.map_some]
  · next hnone => rw [if_neg hnone, ← Except.ok.inj htree, Option.map_none]

theorem addTerms_of_nil (h : s.termClauses = []) (tree : BoolQuery) :
    s.addTerms tree = tree := by
  unfold termClauses at h
  unfold addTerms
  split
  · next keyword columns hkeyword hcolumns =>
    simp only [hkeyword, hcolumns] at h
    have hterms : keyword.terms = [] := List.map_eq_nil_iff.1 h
    simp [h, hterms, Keyword.count]
  · rfl

theorem sends_of_searchBody (h : s.searchBody mode = .ok body) :
    s.Sends mode body.query := by
  obtain ⟨tree, htree, hfilter, hget⟩ :=
    filterTree_of_isSearchable (exists_searchBody_iff.1 ⟨body, h⟩)
  have hquery := (searchBody_eq_ok.1 h).query
  generalize body.query = query at hquery
  cases mode with
  | plain =>
      rw [modeQuery, plainQuery, htree, Except.ok_bind] at hquery
      split at hquery
      · next hkeyword =>
        cases hquery
        exact .nothing hkeyword hfilter.symm
      · next hnot =>
        cases hquery
        rw [hfilter]
        refine .plain ?_
        by_contra hnone
        simp only [not_or, Option.not_isSome_iff_eq_none] at hnone
        rw [hnone.2, Option.map_eq_none_iff] at hfilter
        exact hnot hnone.1 hfilter
  | scored =>
      obtain ⟨scored, hscored, rfl⟩ := Except.map_eq_ok.1 hquery
      rw [scoredQuery, htree, Except.ok_bind] at hscored
      split at hscored
      · contradiction
      · next rules hrules =>
        obtain ⟨functions, hfunctions, hscored⟩ := Except.bind_eq_ok.1 hscored
        cases hscored
        rw [hfilter]
        exact .scored hrules ((Except.mapM_eq_ok.1 hfunctions).imp
          fun _ _ => ScoreRule.scores_of_scoreFunction)
  | multiKeyword =>
      rw [modeQuery, multiKeywordQuery, htree, Except.ok_bind, hget] at hquery
      cases hquery
      exact .multiKeyword

end Specification

end SearchClient

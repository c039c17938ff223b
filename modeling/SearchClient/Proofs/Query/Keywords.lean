import SearchClient.Proofs.Query.Assembled
import SearchClient.Proofs.Query.FilterGuarantee

/-!
# Searches for several keywords

The clauses of the keywords go where those of the filters are: a single one among
the clauses that must hold, several among those that should.  A keyword that
matches can then make up for the alternatives of a filter, and these for a
keyword.  When either cannot happen is told by the filters and the count alone.
-/

namespace SearchClient

namespace Valuation

/-- The document matches the clauses as well. -/
noncomputable def granting (v : Valuation) (clauses : List Query) : Valuation :=
  fun q => v q || @decide (q ∈ clauses) (Classical.propDecidable _)

variable {v : Valuation} {clauses : List Query} {q : Query}

theorem granting_of_mem (h : q ∈ clauses) : v.granting clauses q = true := by
  simp [granting, h]

theorem granting_of_not_mem (h : q ∉ clauses) : v.granting clauses q = v q := by
  simp [granting, h]

end Valuation

namespace Specification

variable {s : Specification} {body : SearchBody} {keyword : Keyword}
  {columns : List String} {filters : BoolQuery} {v : Valuation}

theorem filterTree_of_ofFilters
    (h : BoolQuery.ofFilters s.filters s.geo s.minShouldMatch = .ok filters) :
    ∃ tree, s.filterTree = .ok tree ∧ tree.getD {} = filters := by
  unfold filterTree
  split
  · exact ⟨some filters, by rw [h, Except.map_ok], rfl⟩
  · next hnone =>
    obtain ⟨hfilters, hgeo⟩ := not_hasFilters_iff.1 hnone
    rw [hfilters, hgeo] at h
    cases h
    exact ⟨none, rfl, rfl⟩

/-- What the filters and the geo constraint ask for. -/
def filterBool (s : Specification) : BoolQuery :=
  .concat (BoolQuery.filterParts s.filters s.geo s.minShouldMatch)

theorem ofFilters_of_isSearchable {mode : SearchMode} (h : s.IsSearchable mode) :
    BoolQuery.ofFilters s.filters s.geo s.minShouldMatch = .ok s.filterBool :=
  BoolQuery.ofFilters_eq_ok h.filters h.geo s.minShouldMatch

/-- The tree of a search for keywords is that of its filters with the keywords added. -/
theorem query_of_multiKeyword (h : s.searchBody .multiKeyword = .ok body) :
    s.IsSearchable .multiKeyword ∧
      body.query = some (s.addTerms s.filterBool).toQuery := by
  have hvalid := (s.faults_eq_nil_iff .multiKeyword).1
    ((s.searchBody_failsFirst .multiKeyword).exists_ok_iff.1 ⟨body, h⟩)
  refine ⟨hvalid, ?_⟩
  obtain ⟨tree, htree, hget⟩ :=
    filterTree_of_ofFilters (ofFilters_of_isSearchable hvalid)
  have hquery := (searchBody_eq_ok.1 h).query
  rw [modeQuery, multiKeywordQuery, htree, Except.ok_bind, hget] at hquery
  exact (Except.ok.inj hquery).symm

/-! ## What the keywords add -/

/-- One clause for each term of the keyword, over the given columns. -/
def termClauses (s : Specification) : List Query :=
  match s.keyword, s.columns with
  | some keyword, some columns =>
    Query.ofTerms keyword columns s.searchType s.phrasePrefix
  | _, _ => []

/-- How many of the clauses that should hold the keywords can make up for. -/
def termSupply (s : Specification) : Nat :=
  if s.termClauses.length = 1 then 0 else s.termClauses.length

theorem mem_termClauses {q : Query} (h : q ∈ s.termClauses) :
    q.IsLeaf ∧ ¬q.IsFilterLeaf ∧ q.options = [q] := by
  unfold termClauses at h
  split at h
  · obtain ⟨term, -, rfl⟩ := List.mem_map.1 h
    exact ⟨trivial, not_false, rfl⟩
  · contradiction

section

variable (h : s.termClauses ≠ [])
include h

theorem addTerms_cases (tree : BoolQuery) :
    (s.termClauses.length = 1 ∧
      s.addTerms tree = { tree with must := tree.must ++ s.termClauses }) ∨
    (1 < s.termClauses.length ∧
      s.addTerms tree = { tree with
        should := tree.should ++ s.termClauses
        minimum := tree.minimum.or (some (max s.minShouldMatch 1)) }) := by
  unfold termClauses at h ⊢
  unfold addTerms
  cases hkeyword : s.keyword with
  | none => simp [hkeyword] at h
  | some keyword =>
      cases hcolumns : s.columns with
      | none => simp [hkeyword, hcolumns] at h
      | some columns =>
          simp only [hkeyword, hcolumns] at h ⊢
          have hcount : (Query.ofTerms keyword columns s.searchType
              s.phrasePrefix).length = keyword.count := by
            rw [Query.ofTerms, List.length_map, Keyword.count]
          have hpos := List.length_pos_iff.2 h
          rw [hcount] at hpos ⊢
          by_cases hone : keyword.count = 1
          · exact .inl ⟨hone, if_pos hone⟩
          · refine .inr ⟨by omega, ?_⟩
            rw [if_neg hone, if_neg (by simpa using h)]

theorem meets_of_addTerms (hmeets : (s.addTerms filters).Meets v) :
    filters.Meets v := by
  rcases addTerms_cases h filters with ⟨-, heq⟩ | ⟨-, heq⟩
  · rw [heq] at hmeets
    exact ⟨fun q hq => hmeets.must q (List.mem_append_left _ hq), hmeets.mustNot⟩
  · rw [heq] at hmeets
    exact ⟨hmeets.must, hmeets.mustNot⟩

theorem count_addTerms_le (filters : BoolQuery) :
    (s.addTerms filters).count v ≤ filters.count v + s.termSupply := by
  unfold termSupply
  rcases addTerms_cases h filters with ⟨hone, heq⟩ | ⟨hmany, heq⟩
  · rw [heq, if_pos hone]
    exact Nat.le_refl _
  · rw [heq, if_neg (by omega), BoolQuery.count, List.countP_append]
    exact Nat.add_le_add_left List.countP_le_length _

theorem mem_leaves_addTerms {q : Query}
    (hq : q ∈ (s.addTerms filters).leaves) :
    q ∈ filters.leaves ∨ q ∈ s.termClauses := by
  rw [BoolQuery.mem_leaves] at hq ⊢
  rcases addTerms_cases h filters with ⟨-, heq⟩ | ⟨-, heq⟩
  · rw [heq] at hq
    rcases hq with hq | hq
    · exact (List.mem_append.1 hq).imp_left .inl
    · exact .inl (.inr hq)
  · rw [heq] at hq
    rcases hq with hq | hq | ⟨clause, hclause, hq⟩
    · exact .inl (.inl hq)
    · exact .inl (.inr (.inl hq))
    · rcases List.mem_append.1 hclause with hclause | hclause
      · exact .inl (.inr (.inr ⟨clause, hclause, hq⟩))
      · rw [(mem_termClauses hclause).2.2, List.mem_singleton] at hq
        exact .inr (hq ▸ hclause)

theorem addTerms_of_accepts (filters : BoolQuery)
    (hall : ∀ q ∈ s.termClauses, q.accepts v = true) :
    ((s.addTerms filters).Meets v ↔ filters.Meets v) ∧
      (s.addTerms filters).count v = filters.count v + s.termSupply := by
  refine ⟨⟨meets_of_addTerms h, fun hmeets => ?_⟩, ?_⟩
  · rcases addTerms_cases h filters with ⟨-, heq⟩ | ⟨-, heq⟩
    · rw [heq]
      exact ⟨List.forall_mem_append.2 ⟨hmeets.must, hall⟩, hmeets.mustNot⟩
    · rw [heq]
      exact ⟨hmeets.must, hmeets.mustNot⟩
  · unfold termSupply
    rcases addTerms_cases h filters with ⟨hone, heq⟩ | ⟨hmany, heq⟩
    · rw [heq, if_pos hone]
      rfl
    · rw [heq, if_neg (by omega), BoolQuery.count, List.countP_append,
        List.countP_eq_length.2 hall, BoolQuery.count]

/-! ## What the tree insists on -/

variable (hleaves : ∀ q ∈ filters.leaves, q.IsFilterLeaf)
include hleaves

theorem isFlat_addTerms : (s.addTerms filters).IsFlat := by
  intro q hq
  rcases mem_leaves_addTerms h hq with hq | hq
  · exact (hleaves q hq).isLeaf
  · exact (mem_termClauses hq).1

/-- No filter depends on a keyword: with all of them granted, a document is accepted
when they make up for what it lacks. -/
theorem accepts_granting_iff :
    ((s.addTerms filters).toQuery.accepts (v.granting s.termClauses) = true ↔
      filters.Meets v ∧
        (s.addTerms filters).required ≤ ((filters.count v + s.termSupply : Nat) : Int)) ∧
    (filters.toQuery.accepts (v.granting s.termClauses) = true ↔
      filters.toQuery.accepts v = true) := by
  have hflat : filters.IsFlat := fun q hq => (hleaves q hq).isLeaf
  have hsame : ∀ q ∈ filters.leaves, v.granting s.termClauses q = v q :=
    fun q hq => Valuation.granting_of_not_mem fun hmem =>
      (mem_termClauses hmem).2.1 (hleaves q hq)
  have hall : ∀ q ∈ s.termClauses, q.accepts (v.granting s.termClauses) = true :=
    fun q hq => by
      rw [(mem_termClauses hq).1.accepts, Valuation.granting_of_mem hq]
  obtain ⟨hmeets, hcount⟩ := hflat.congr hsame
  obtain ⟨hmeets', hcount'⟩ := addTerms_of_accepts h filters hall
  constructor
  · rw [BoolQuery.accepts_toQuery, hmeets', hmeets, hcount', hcount]
  · rw [BoolQuery.accepts_toQuery, BoolQuery.accepts_toQuery, hmeets, hcount]

/-- The filters are insisted on unless a document that lacks some of what they ask
for is accepted with all keywords granted. -/
theorem insists_on_filters_iff :
    (∀ v, (s.addTerms filters).toQuery.accepts v = true →
      filters.toQuery.accepts v = true) ↔
    ∀ v, filters.Meets v → filters.count v < filters.required →
      ((filters.count v + s.termSupply : Nat) : Int) < (s.addTerms filters).required := by
  constructor
  · intro hall v hmeets hlacks
    by_contra hmade
    -- The filters cannot tell this document from the one with all keywords granted.
    obtain ⟨haccepts, hsame⟩ := accepts_granting_iff (v := v) h hleaves
    have hfilters := hsame.1 (hall _ (haccepts.2 ⟨hmeets, Int.not_lt.1 hmade⟩))
    exact absurd (BoolQuery.accepts_toQuery.1 hfilters).2 (Int.not_le.2 hlacks)
  · intro hall v haccepts
    obtain ⟨hmeets, hrequired⟩ := BoolQuery.accepts_toQuery.1 haccepts
    have hmeets' := meets_of_addTerms h hmeets
    refine BoolQuery.accepts_toQuery.2 ⟨hmeets', Int.not_lt.1 fun hlacks => ?_⟩
    have hle := count_addTerms_le (v := v) h filters
    have hlt := hall v hmeets' hlacks
    omega

theorem insists_on_terms_iff :
    (∀ v, (s.addTerms filters).toQuery.accepts v = true →
      ∃ q ∈ s.termClauses, q.accepts v = true) ↔
    ¬(s.addTerms filters).CanAvoid s.termClauses := by
  rw [← (isFlat_addTerms h hleaves).forall_accepts_iff]
  refine forall₂_congr fun v _ => exists_congr fun q => and_congr_right fun hq => ?_
  rw [(mem_termClauses hq).1.accepts]

end

theorem max_one_pos (minimum : Int64) : 0 < (max minimum 1).toInt := by
  rw [show max minimum 1 = if minimum ≤ 1 then 1 else minimum from rfl]
  split
  · decide
  · next h =>
    rw [Int64.le_iff_toInt_le] at h
    exact Int.lt_trans (by decide) (Int.not_le.1 h)

theorem not_canAvoid_of_single (hsingle : s.termClauses.length = 1) :
    ¬(s.addTerms filters).CanAvoid s.termClauses := by
  have h : s.termClauses ≠ [] := by
    intro hnil
    simp [hnil] at hsingle
  intro havoid
  rcases addTerms_cases h filters with ⟨-, heq⟩ | ⟨hmany, -⟩
  · obtain ⟨q, hq⟩ := List.exists_mem_of_ne_nil _ h
    rw [heq] at havoid
    exact (havoid.must q (List.mem_append_right _ hq)).1 hq
  · omega

/-- Without other clauses that should hold, one of them has to be a keyword's. -/
theorem not_canAvoid_of_should_nil (h : s.termClauses ≠ [])
    (hshould : filters.should = []) (hminimum : filters.minimum = none) :
    ¬(s.addTerms filters).CanAvoid s.termClauses := by
  intro havoid
  rcases addTerms_cases h filters with ⟨hone, -⟩ | ⟨-, heq⟩
  · exact not_canAvoid_of_single hone havoid
  · obtain ⟨chosen, hsub, hrequired, hoptions⟩ := havoid.should
    rw [heq, hshould, List.nil_append] at hsub
    rw [heq, hminimum, BoolQuery.required, Option.none_or] at hrequired
    cases chosen with
    | nil => exact absurd hrequired (by simpa using max_one_pos s.minShouldMatch)
    | cons q chosen =>
        obtain ⟨leaf, hleaf, hnot, -⟩ := hoptions q List.mem_cons_self
        have hq := hsub.subset List.mem_cons_self
        rw [(mem_termClauses hq).2.2, List.mem_singleton] at hleaf
        exact hnot (hleaf ▸ hq)

theorem filterBool_of_no_options (hvalid : ∀ p ∈ s.filters, p.isValid = true)
    (hops : ∀ p ∈ s.filters, p.operator ∉ FilterOp.withOptions) :
    s.filterBool.should = [] ∧ s.filterBool.minimum = none := by
  have hnone : ¬∃ p ∈ s.filters, p.operator = .oneOf := by
    rintro ⟨p, hp, hop⟩
    exact hops p hp (by simp [hop, FilterOp.withOptions])
  constructor
  · rw [← List.length_eq_zero_iff, filterBool,
      BoolQuery.length_should_filterParts hvalid]
    simpa using hops
  · rw [filterBool, BoolQuery.minimum_filterParts hvalid, if_neg hnone]

/--
What a search for keywords insists on.  The clauses of the filters that must or
must not hold always count, and so does a single keyword.  A keyword is insisted
on unless the tree can be met without any, and the filters are unless the keywords
can make up for what a document lacks of them.  Both are when no filter adds to
the clauses that should hold.
-/
theorem multiKeyword_insists_iff {columns : List String}
    (hkeyword : s.keyword = some keyword) (hcolumns : s.columns = some columns)
    (hterms : keyword.terms ≠ []) (hbody : s.searchBody .multiKeyword = .ok body) :
    ∃ filters whole : BoolQuery,
      BoolQuery.ofFilters s.filters s.geo s.minShouldMatch = .ok filters ∧
      body.query = some whole.toQuery ∧
      (∀ v, whole.toQuery.accepts v = true → filters.Meets v) ∧
      ((∀ v, whole.toQuery.accepts v = true →
          ∃ q ∈ s.termClauses, q.accepts v = true) ↔
        ¬whole.CanAvoid s.termClauses) ∧
      ((∀ v, whole.toQuery.accepts v = true → filters.toQuery.accepts v = true) ↔
        ∀ v, filters.Meets v → filters.count v < filters.required →
          ((filters.count v + s.termSupply : Nat) : Int) < whole.required) ∧
      (keyword.count = 1 → ∀ v, whole.toQuery.accepts v = true →
        ∃ q ∈ s.termClauses, q.accepts v = true) ∧
      ((∀ p ∈ s.filters, p.operator ∉ FilterOp.withOptions) →
        ∀ v, whole.toQuery.accepts v = true →
          (∃ q ∈ s.termClauses, q.accepts v = true) ∧
            filters.toQuery.accepts v = true) := by
  have hclauses : s.termClauses =
      Query.ofTerms keyword columns s.searchType s.phrasePrefix := by
    rw [termClauses, hkeyword, hcolumns]
  have hlength : s.termClauses.length = keyword.count := by
    rw [hclauses, Query.ofTerms, List.length_map, Keyword.count]
  have h : s.termClauses ≠ [] := by
    rw [hclauses]
    exact mt List.map_eq_nil_iff.1 hterms
  obtain ⟨hvalid, hquery⟩ := query_of_multiKeyword hbody
  have hleaves : ∀ q ∈ s.filterBool.leaves, q.IsFilterLeaf :=
    BoolQuery.isFilterLeaf_filterParts hvalid.filters hvalid.geo
  have hkeywords := insists_on_terms_iff h hleaves
  have hfilters := insists_on_filters_iff h hleaves
  refine ⟨s.filterBool, _, ofFilters_of_isSearchable hvalid, hquery,
    fun v haccepts => meets_of_addTerms h (BoolQuery.accepts_toQuery.1 haccepts).1,
    hkeywords, hfilters, fun hone => ?_, fun hops v haccepts => ?_⟩
  · exact hkeywords.2 (not_canAvoid_of_single (hlength.trans hone))
  · obtain ⟨hshould, hminimum⟩ := filterBool_of_no_options hvalid.filters hops
    have hrequired : s.filterBool.required = 0 := by
      simp [BoolQuery.required, hminimum, hshould]
    refine ⟨hkeywords.2 (not_canAvoid_of_should_nil h hshould hminimum) v haccepts,
      hfilters.2 (fun w _ hlacks => ?_) v haccepts⟩
    omega

theorem multiKeyword_insists_iff_under_price :
    let s : Specification := {
      filters := [⟨"price", .less, .ofUInt64 10, false, none⟩]
      keyword := some (.many ["rust", "go"])
      columns := some ["title"] }
    ∃ filters query body,
      BoolQuery.ofFilters s.filters s.geo s.minShouldMatch = .ok filters ∧
      s.searchBody .multiKeyword = .ok body ∧ body.query = some query ∧
      ∀ v, query.accepts v = true →
        (∃ q ∈ s.termClauses, q.accepts v = true) ∧
          filters.toQuery.accepts v = true := by
  intro s
  have hterms : (Keyword.many ["rust", "go"]).terms ≠ [] := List.cons_ne_nil _ _
  obtain ⟨body, hbody⟩ : ∃ body, s.searchBody .multiKeyword = .ok body := ⟨_, rfl⟩
  obtain ⟨filters, whole, hfilters, hquery, -, -, -, -, hboth⟩ :=
    multiKeyword_insists_iff rfl rfl hterms hbody
  exact ⟨filters, whole.toQuery, body, hfilters, hbody, hquery, hboth (by decide)⟩

theorem multiKeyword_insists_not_always :
    let s : Specification := {
      filters := [⟨"tag", .oneOf, .array [.ofUInt64 1, .ofUInt64 2], false, none⟩]
      keyword := some (.many ["rust", "go"])
      columns := some ["title"] }
    ∃ filters query body,
      BoolQuery.ofFilters s.filters s.geo s.minShouldMatch = .ok filters ∧
      s.searchBody .multiKeyword = .ok body ∧ body.query = some query ∧
      (∃ v, query.accepts v = true ∧ ∀ q ∈ s.termClauses, q.accepts v = false) ∧
      ∃ v, query.accepts v = true ∧ filters.toQuery.accepts v = false := by
  intro s
  let onlyTags : Valuation := fun q =>
    match q with
    | .term _ => true
    | _ => false
  let onlyKeywords : Valuation := fun q =>
    match q with
    | .multiMatch _ => true
    | _ => false
  refine ⟨_, _, _, rfl, rfl, rfl, ⟨onlyTags, ?_, ?_⟩, onlyKeywords, ?_, ?_⟩
  · rfl
  · intro q hq
    obtain ⟨term, -, rfl⟩ := List.mem_map.1 (hq : q ∈ Query.ofTerms _ _ _ _)
    rfl
  · rfl
  · rfl

end Specification

end SearchClient

import SearchClient.Proofs.Query.Shape

/-!
# Search modes

The modes differ in the query they send and in nothing else.  They all filter by
one tree: the shapes that keep the filter apart have the tree itself there, and a
search for keywords extends its clauses by one for each keyword.  A scored search
asks for more of a specification than the others, which ask for the same.
-/

namespace SearchClient

/-- The bodies have the same parts, their queries apart. -/
structure SearchBody.SameDirectives (a b : SearchBody) : Prop where
  highlight : a.highlight = b.highlight
  aggregations : a.aggregations = b.aggregations
  offset : a.offset = b.offset
  sort : a.sort = b.sort
  size : a.size = b.size
  projection : a.projection = b.projection

/-- Clauses are put after those that must hold or after those that should, and a
minimum that is set stays. -/
structure BoolQuery.ExtendedBy (tree : BoolQuery) (added : List Query)
    (whole : BoolQuery) : Prop where
  clauses : whole.must = tree.must ++ added ∧ whole.should = tree.should ∨
    whole.must = tree.must ∧ whole.should = tree.should ++ added
  mustNot : whole.mustNot = tree.mustNot
  minimum : tree.minimum.isSome → whole.minimum = tree.minimum

namespace Specification

variable {s : Specification} {mode other : SearchMode} {body otherBody : SearchBody}

theorem Assembled.sameDirectives (h : s.Assembled mode body)
    (hother : s.Assembled other otherBody) : body.SameDirectives otherBody where
  highlight := h.highlight.trans hother.highlight.symm
  aggregations := Except.ok.inj (h.aggregations.symm.trans hother.aggregations)
  offset := h.offset.trans hother.offset.symm
  sort := Except.ok.inj (h.sort.symm.trans hother.sort)
  size := h.size.trans hother.size.symm
  projection := h.projection.trans hother.projection.symm

theorem IsSearchable.of_scored (h : s.IsSearchable .scored) (mode : SearchMode) :
    s.IsSearchable mode where
  filters := h.filters
  geo := h.geo
  rules _ := h.rules rfl
  columns := h.columns
  sort := h.sort

theorem isSearchable_iff_of_not_scored (h : mode ≠ .scored) (hother : other ≠ .scored) :
    s.IsSearchable mode ↔ s.IsSearchable other :=
  ⟨fun hmode => { hmode with rules := fun hscored => absurd hscored hother },
    fun hmode => { hmode with rules := fun hscored => absurd hscored h }⟩

theorem extendedBy_addTerms (tree : BoolQuery) :
    tree.ExtendedBy s.termClauses (s.addTerms tree) := by
  rcases eq_or_ne s.termClauses [] with hnil | hsome
  · rw [hnil, addTerms_of_nil hnil]
    exact ⟨.inl ⟨(List.append_nil _).symm, rfl⟩, rfl, fun _ => rfl⟩
  · rcases addTerms_cases hsome tree with ⟨-, heq⟩ | ⟨-, heq⟩
    · rw [heq]
      exact ⟨.inl ⟨rfl, rfl⟩, rfl, fun _ => rfl⟩
    · rw [heq]
      exact ⟨.inr ⟨rfl, rfl⟩, rfl, Option.or_of_isSome⟩

/-- One clause for each keyword, in their order; none without columns to look in. -/
def AsksForKeywords (s : Specification) (added : List Query) : Prop :=
  match s.keyword, s.columns with
  | some keyword, some columns =>
    List.Forall₂ (fun term clause => ∃ matchType,
      clause = .multiMatch ⟨Percent.decodeForm term, matchType, columns⟩)
      keyword.terms added
  | _, _ => added = []

theorem asksForKeywords_termClauses : s.AsksForKeywords s.termClauses := by
  unfold AsksForKeywords termClauses
  cases s.keyword with
  | none => rfl
  | some keyword =>
      cases s.columns with
      | none => rfl
      | some columns =>
          refine List.forall₂_map_right_iff.2 (List.forall₂_same.2 fun term _ => ?_)
          exact ⟨_, rfl⟩

/-- The filter stands in its place, or its tree is extended by the keywords. -/
def FiltersBy (s : Specification) (mode : SearchMode) (tree : BoolQuery)
    (query : Option Query) : Prop :=
  match mode with
  | .plain | .scored => query.bind Query.filter? =
      if s.filters.isEmpty && s.geo.isNone then none else some tree.toQuery
  | .multiKeyword => ∃ added whole, query = some whole.toQuery ∧
      s.AsksForKeywords added ∧ tree.ExtendedBy added whole

theorem filter?_eq_ite : s.filter? =
    if s.filters.isEmpty && s.geo.isNone then none else some s.filterBool.toQuery := by
  unfold filter? hasFilters
  cases s.filters.isEmpty <;> cases s.geo <;> rfl

theorem filtersBy_of_searchBody (h : s.searchBody mode = .ok body) :
    s.FiltersBy mode s.filterBool body.query := by
  have hsends := sends_of_searchBody h
  generalize body.query = query at hsends
  cases hsends with
  | nothing hkeyword hfilter => exact hfilter.symm.trans filter?_eq_ite
  | plain => exact filter?_eq_ite
  | scored => exact filter?_eq_ite
  | multiKeyword =>
      exact ⟨_, _, rfl, asksForKeywords_termClauses, extendedBy_addTerms _⟩

/--
Searches of one specification in different modes differ in their queries only, and
these filter by the tree of its filters.  What can be searched in the scored mode
can be in every mode, and the two other modes can search the same.
-/
theorem modes_agree (s : Specification) :
    (∀ mode other body otherBody, s.searchBody mode = .ok body →
      s.searchBody other = .ok otherBody → body.SameDirectives otherBody) ∧
    (∀ mode body, s.searchBody mode = .ok body →
      ∃ tree, BoolQuery.ofFilters s.filters s.geo s.minShouldMatch = .ok tree ∧
        s.FiltersBy mode tree body.query) ∧
    ((∃ body, s.searchBody .scored = .ok body) →
      ∀ mode, ∃ body, s.searchBody mode = .ok body) ∧
    ((∃ body, s.searchBody .plain = .ok body) ↔
      ∃ body, s.searchBody .multiKeyword = .ok body) := by
  refine ⟨fun mode other body otherBody h hother => ?_, fun mode body h => ?_, ?_, ?_⟩
  · exact (searchBody_eq_ok.1 h).sameDirectives (searchBody_eq_ok.1 hother)
  · exact ⟨s.filterBool, ofFilters_of_isSearchable (exists_searchBody_iff.1 ⟨body, h⟩),
      filtersBy_of_searchBody h⟩
  · rw [exists_searchBody_iff]
    exact fun h mode => exists_searchBody_iff.2 (h.of_scored mode)
  · rw [exists_searchBody_iff, exists_searchBody_iff]
    exact isSearchable_iff_of_not_scored nofun nofun

theorem modes_agree_on_unscored :
    let s : Specification := {
      filters := [⟨"tag", .oneOf, .array [.ofUInt64 1, .ofUInt64 2], false, none⟩]
      keyword := some (.many ["rust", "go"])
      columns := some ["title"]
      rules := some []
      limit := some 5 }
    let tree : BoolQuery := {
      should := [.anyOf [.ofTerm "tag" (.ofUInt64 1), .ofTerm "tag" (.ofUInt64 2)]]
      minimum := some 1 }
    ∃ plain scored keywords, s.searchBody .plain = .ok plain ∧
      s.searchBody .scored = .ok scored ∧ s.searchBody .multiKeyword = .ok keywords ∧
      plain.SameDirectives scored ∧ scored.SameDirectives keywords ∧
      plain.query.bind Query.filter? = some tree.toQuery ∧
      scored.query.bind Query.filter? = some tree.toQuery ∧
      ∃ added whole, keywords.query = some whole.toQuery ∧
        added.length = 2 ∧ tree.ExtendedBy added whole := by
  intro s tree
  obtain ⟨hsame, hfilters, hscored, -⟩ := modes_agree s
  have hall := hscored ⟨_, rfl⟩
  obtain ⟨plain, hplain⟩ := hall .plain
  obtain ⟨scored, hscored⟩ := hall .scored
  obtain ⟨keywords, hkeywords⟩ := hall .multiKeyword
  have htree : BoolQuery.ofFilters s.filters s.geo s.minShouldMatch = .ok tree := rfl
  have hby : ∀ mode body, s.searchBody mode = .ok body →
      s.FiltersBy mode tree body.query := by
    intro mode body h
    obtain ⟨other, hother, hfilter⟩ := hfilters mode body h
    rwa [Except.ok.inj (htree.symm.trans hother)]
  obtain ⟨added, whole, hwhole, hadded, hextended⟩ := hby _ _ hkeywords
  exact ⟨plain, scored, keywords, hplain, hscored, hkeywords, hsame _ _ _ _ hplain hscored,
    hsame _ _ _ _ hscored hkeywords, hby _ _ hplain, hby _ _ hscored, added, whole, hwhole,
    hadded.length_eq.symm, hextended⟩

end Specification

end SearchClient

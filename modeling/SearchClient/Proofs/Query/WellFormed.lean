import SearchClient.Proofs.Query.Shape

/-!
# Well-formed queries

A clause that comes out empty, or under no field, would accept every document.
The queries that searches send have no such clause at any depth: each predicate
adds leaves under its field and choices among such leaves, and a bool of these
is empty only when nothing was added to it.
-/

namespace SearchClient

namespace Query

mutual

/-- The clauses inside a query, at any depth. -/
def inside : Query → List Query
  | .bool must should mustNot _ =>
    insideEach must ++ insideEach should ++ insideEach mustNot
  | .filtered query filter => insideIfAny query ++ insideIfAny filter
  | .functionScore query filter functions _ =>
    insideIfAny query ++ insideIfAny filter ++ insideFunctions functions
  | .term _ | .range _ | .fullText _ _ | .multiMatch _ | .geoDistance _
  | .geoBoundingBox _ => []

def insideEach : List Query → List Query
  | [] => []
  | q :: qs => q :: q.inside ++ insideEach qs

def insideIfAny : Option Query → List Query
  | none => []
  | some q => q :: q.inside

def insideFunctions : List (Binary64 × Query) → List Query
  | [] => []
  | (_, filter) :: rest => filter :: filter.inside ++ insideFunctions rest

end

/-- The query and all clauses inside it. -/
def clauses (q : Query) : List Query := q :: q.inside

theorem insideEach_eq (qs : List Query) : insideEach qs = qs.flatMap clauses := by
  induction qs with
  | nil => rfl
  | cons q qs ih => rw [insideEach, ih, List.flatMap_cons, clauses]

theorem insideIfAny_eq (q : Option Query) :
    insideIfAny q = q.toList.flatMap clauses := by
  cases q with
  | none => rfl
  | some q => simp [insideIfAny, clauses]

theorem insideFunctions_eq (functions : List (Binary64 × Query)) :
    insideFunctions functions = functions.flatMap fun f => f.2.clauses := by
  induction functions with
  | nil => rfl
  | cons f functions ih => rw [insideFunctions, ih, List.flatMap_cons, clauses]

/--
What a clause looks like, those inside it apart.  A leaf that is about a field has
one field, and a range bounds it on one side.  A bool among the clauses that
should hold is a choice: it has clauses of which one should hold, and nothing else.
-/
def IsWellFormed : Query → Prop
  | .term values => ∃ field, values.keys = [field]
  | .range bounds => (∃ field, bounds.keys = [field]) ∧
      ∀ entry ∈ bounds.toList, entry.2.greater.isSome ≠ entry.2.less.isSome
  | .fullText _ values => ∃ field, values.keys = [field]
  | .multiMatch _ => True
  | .geoDistance clause => ∃ field, clause.point.keys = [field]
  | .geoBoundingBox boxes => ∃ field, boxes.keys = [field]
  | .bool _ should _ _ => ∀ b : BoolQuery, b.toQuery ∈ should →
      b.should ≠ [] ∧ b.must = [] ∧ b.mustNot = [] ∧ b.minimum = none
  | .filtered query filter => query.isSome ∨ filter.isSome
  | .functionScore _ _ _ _ => True

/-- A bool without clauses, which every document meets. -/
def IsEmptyBool (q : Query) : Prop := ∃ b : BoolQuery, q = b.toQuery ∧ b.isEmpty = true

def minimum? : Query → Option Int64
  | .bool _ _ _ minimum => minimum
  | _ => none

/-- Whether the shape has a place for a filter. -/
def takesFilter : Query → Bool
  | .filtered _ _ | .functionScore _ _ _ _ => true
  | _ => false

/-! ## Parts of a bool -/

/-- A leaf that is well formed. -/
def IsSoundLeaf (q : Query) : Prop := q.IsLeaf ∧ q.IsWellFormed

/-- A sound leaf, or a choice among sound leaves. -/
inductive IsPart : Query → Prop where
  | leaf {q : Query} (hleaf : q.IsSoundLeaf) : IsPart q
  | choice {options : List Query} (hsome : options ≠ [])
      (hoptions : ∀ q ∈ options, q.IsSoundLeaf) : IsPart (anyOf options)

section

variable (field : String) (value : Json)

@[simp] theorem isSoundLeaf_ofTerm : (ofTerm field value).IsSoundLeaf :=
  ⟨trivial, field, rfl⟩

@[simp] theorem isSoundLeaf_greaterThan : (greaterThan field value).IsSoundLeaf :=
  ⟨trivial, ⟨field, rfl⟩, by simp [SortedMap.toList, SortedMap.singleton]⟩

@[simp] theorem isSoundLeaf_lessThan : (lessThan field value).IsSoundLeaf :=
  ⟨trivial, ⟨field, rfl⟩, by simp [SortedMap.toList, SortedMap.singleton]⟩

@[simp] theorem isSoundLeaf_fullText (kind : MatchKind) :
    (fullText kind (.singleton field value)).IsSoundLeaf :=
  ⟨trivial, field, rfl⟩

end

theorem minimum?_of_takesFilter {q : Query} (h : q.takesFilter = true) :
    q.minimum? = none := by
  cases q with
  | bool => contradiction
  | _ => rfl

theorem not_isEmptyBool_of_takesFilter {q : Query} (h : q.takesFilter = true) :
    ¬q.IsEmptyBool := by
  rintro ⟨b, rfl, -⟩
  contradiction

theorem filter?_mem_inside {q filter : Query} (h : q.filter? = some filter) :
    filter ∈ q.inside := by
  cases q with
  | filtered query place =>
      obtain rfl : place = some filter := h
      simp [inside, insideIfAny]
  | functionScore query place =>
      obtain rfl : place = some filter := h
      simp [inside, insideIfAny]
  | _ => contradiction

theorem IsLeaf.inside_eq_nil {q : Query} (h : q.IsLeaf) : q.inside = [] := by
  cases q with
  | bool => contradiction
  | filtered => contradiction
  | functionScore => contradiction
  | _ => rfl

theorem IsLeaf.minimum?_eq_none {q : Query} (h : q.IsLeaf) : q.minimum? = none := by
  cases q with
  | bool => contradiction
  | _ => rfl

namespace IsPart

variable {q : Query}

/-- The only bools among the parts are choices. -/
theorem eq_choice {b : BoolQuery} (h : b.toQuery.IsPart) :
    b.should ≠ [] ∧ b.must = [] ∧ b.mustNot = [] ∧ b.minimum = none := by
  generalize hq : b.toQuery = q at h
  cases h with
  | leaf hleaf => exact absurd hleaf.1 (hq ▸ not_false)
  | choice hsome =>
      obtain ⟨hmust, hshould, hnot, hminimum⟩ := Query.bool.inj hq
      exact ⟨hshould ▸ hsome, hmust, hnot, hminimum⟩

theorem isWellFormed (h : q.IsPart) : q.IsWellFormed := by
  cases h with
  | leaf hleaf => exact hleaf.2
  | choice _ hoptions =>
      intro b hb
      exact (IsPart.leaf (hoptions _ hb)).eq_choice

theorem not_isEmptyBool (h : q.IsPart) : ¬q.IsEmptyBool := by
  rintro ⟨b, rfl, hempty⟩
  simp [BoolQuery.isEmpty, h.eq_choice.1] at hempty

theorem minimum?_eq_none (h : q.IsPart) : q.minimum? = none := by
  cases h with
  | leaf hleaf => exact hleaf.1.minimum?_eq_none
  | choice => rfl

theorem takesFilter_eq_false (h : q.IsPart) : q.takesFilter = false := by
  cases h with
  | @leaf q hleaf =>
      obtain ⟨hleaf, -⟩ := hleaf
      cases q with
      | filtered => contradiction
      | functionScore => contradiction
      | _ => rfl
  | choice => rfl

theorem of_mem_clauses (h : q.IsPart) : ∀ clause ∈ q.clauses, clause.IsPart := by
  rw [clauses, List.forall_mem_cons]
  refine ⟨h, ?_⟩
  cases h with
  | leaf hleaf => simp [hleaf.1.inside_eq_nil]
  | choice _ hoptions =>
      intro clause hclause
      rw [anyOf, inside, insideEach_eq, insideEach_eq] at hclause
      obtain ⟨q, hq, hclause⟩ : ∃ q ∈ _, clause ∈ clauses q := by
        simpa using hclause
      rw [clauses, (hoptions q hq).1.inside_eq_nil, List.mem_singleton] at hclause
      exact .leaf (hclause ▸ hoptions q hq)

end IsPart

end Query

/-! ## Bools made of parts -/

namespace BoolQuery

variable {a b : BoolQuery} {parts : List BoolQuery}

/-- All clauses of the bool are leaves or choices. -/
def IsSound (b : BoolQuery) : Prop := ∀ q ∈ b.must ++ b.should ++ b.mustNot, q.IsPart

theorem isSound_iff : b.IsSound ↔ (∀ q ∈ b.must, q.IsPart) ∧
    (∀ q ∈ b.should, q.IsPart) ∧ ∀ q ∈ b.mustNot, q.IsPart := by
  simp only [IsSound, List.forall_mem_append, and_assoc]

theorem IsSound.append (ha : a.IsSound) (hb : b.IsSound) : (a ++ b).IsSound := by
  simp only [isSound_iff, append_def, List.forall_mem_append] at ha hb ⊢
  exact ⟨⟨ha.1, hb.1⟩, ⟨ha.2.1, hb.2.1⟩, ha.2.2, hb.2.2⟩

theorem isSound_concat (h : ∀ part ∈ parts, part.IsSound) : (concat parts).IsSound := by
  induction parts with
  | nil => simp [concat, IsSound]
  | cons part parts ih =>
      rw [List.forall_mem_cons] at h
      exact h.1.append (ih h.2)

theorem isEmpty_iff :
    b.isEmpty = true ↔ b.must = [] ∧ b.should = [] ∧ b.mustNot = [] := by
  simp only [isEmpty, Bool.and_eq_true, List.isEmpty_iff, and_assoc]

theorem isEmpty_concat_iff :
    (concat parts).isEmpty = true ↔ ∀ part ∈ parts, part.isEmpty = true := by
  simp only [isEmpty_iff, must_concat, should_concat, mustNot_concat,
    List.flatMap_eq_nil_iff, forall₂_and]

theorem inside_toQuery (b : BoolQuery) : b.toQuery.inside =
    (b.must ++ b.should ++ b.mustNot).flatMap Query.clauses := by
  simp only [toQuery, Query.inside, Query.insideEach_eq, List.flatMap_append]

theorem IsSound.of_mem_inside (h : b.IsSound) :
    ∀ clause ∈ b.toQuery.inside, clause.IsPart := by
  intro clause hclause
  rw [inside_toQuery] at hclause
  obtain ⟨q, hq, hclause⟩ := List.mem_flatMap.1 hclause
  exact (h q hq).of_mem_clauses clause hclause

theorem IsSound.isWellFormed (h : b.IsSound) : b.toQuery.IsWellFormed :=
  fun _ hmem => ((isSound_iff.1 h).2.1 _ hmem).eq_choice

theorem isEmptyBool_toQuery_iff : b.toQuery.IsEmptyBool ↔ b.isEmpty = true := by
  constructor
  · rintro ⟨other, hother, hempty⟩
    obtain ⟨hmust, hshould, hnot, -⟩ := Query.bool.inj hother
    rwa [isEmpty, hmust, hshould, hnot]
  · exact fun h => ⟨b, rfl, h⟩

end BoolQuery

/-! ## What filters add -/

theorem FilterPredicate.Adds.isSound {p : FilterPredicate} {minimum : Int64}
    {part : BoolQuery} (h : p.Adds minimum part) : part.IsSound := by
  rw [BoolQuery.isSound_iff]
  cases h <;> simp [Query.IsPart.leaf, Query.IsPart.choice]

/-- A valid predicate adds something; of `noneOf` that is because it has items. -/
theorem FilterPredicate.isEmpty_added {p : FilterPredicate} (h : p.isValid = true)
    (minimum : Int64) : (p.added minimum).isEmpty = false := by
  have hadds := adds_added h minimum
  generalize p.added minimum = part at hadds
  cases hadds with
  | noneOf hop hvalue =>
      have hitems : p.hasItems = true := by simpa [isValid, hop] using h
      rw [hasItems, hvalue] at hitems
      split at hitems
      · next hvalues =>
        rw [Json.array.inj hvalues]
        rfl
      · contradiction
  | _ => rfl

theorem GeoParameter.isSoundLeaf_of_clause {g : GeoParameter} {clause : Query}
    (h : g.clause = .ok clause) : clause.IsSoundLeaf := by
  unfold GeoParameter.clause at h
  split at h
  · contradiction
  · split at h
    · split at h
      · cases h
        exact ⟨trivial, _, rfl⟩
      · contradiction
    · split at h
      · cases h
        exact ⟨trivial, _, rfl⟩
      · contradiction

theorem ScoreRule.isSoundLeaf_of_scores {rules : List ScoreRule}
    {functions : List (Binary64 × Query)} (h : List.Forall₂ Scores rules functions) :
    ∀ function ∈ functions, function.2.IsSoundLeaf := by
  induction h with
  | nil => simp
  | cons hscores _ ih =>
      refine List.forall_mem_cons.2 ⟨?_, ih⟩
      cases hscores <;> simp

namespace Specification

variable {s : Specification} {mode : SearchMode} {body : SearchBody} {query q : Query}

section

variable (h : s.IsSearchable mode)
include h

theorem isSound_filterBool : s.filterBool.IsSound := by
  refine BoolQuery.isSound_concat ?_
  rw [BoolQuery.forall_mem_filterParts_iff]
  refine ⟨fun p hp => (FilterPredicate.adds_added (h.filters p hp) _).isSound,
    fun g hg => ?_⟩
  obtain ⟨clause, hclause, hadded⟩ := GeoParameter.clause_eq_ok (h.geo g hg)
  rw [hadded]
  simpa [BoolQuery.isSound_iff] using .leaf (GeoParameter.isSoundLeaf_of_clause hclause)

theorem isEmpty_filterBool_iff :
    s.filterBool.isEmpty = true ↔ s.filters = [] ∧ s.geo = none := by
  rw [filterBool, BoolQuery.isEmpty_concat_iff, BoolQuery.forall_mem_filterParts_iff]
  constructor
  · rintro ⟨hfilters, hgeo⟩
    refine ⟨List.eq_nil_iff_forall_not_mem.2 fun p hp => ?_,
      Option.eq_none_iff_forall_not_mem.2 fun g hg => ?_⟩
    · have hempty := hfilters p hp
      rw [FilterPredicate.isEmpty_added (h.filters p hp)] at hempty
      contradiction
    · obtain ⟨clause, -, hadded⟩ := GeoParameter.clause_eq_ok (h.geo g hg)
      have hempty := hgeo g hg
      rw [hadded] at hempty
      contradiction
  · rintro ⟨hfilters, hgeo⟩
    simp [hfilters, hgeo]

theorem isSome_minimum_filterBool_iff :
    s.filterBool.minimum.isSome ↔ ∃ p ∈ s.filters, p.operator = .oneOf := by
  rw [filterBool, BoolQuery.minimum_filterParts h.filters]
  split <;> simp [*]

end

/-! ## What keywords add -/

theorem isSoundLeaf_of_keywordClause (h : s.keywordClause? = some q) : q.IsSoundLeaf := by
  obtain ⟨keyword, -, hclause⟩ := Option.bind_eq_some_iff.1 h
  unfold Query.ofKeyword? at hclause
  split at hclause
  · cases hclause
    exact ⟨trivial, trivial⟩
  · cases hclause
    exact Query.isSoundLeaf_fullText _ _ _
  · contradiction

theorem isSoundLeaf_of_mem_termClauses (h : q ∈ s.termClauses) : q.IsSoundLeaf := by
  obtain ⟨hleaf, hnot, -⟩ := mem_termClauses h
  refine ⟨hleaf, ?_⟩
  cases q with
  | multiMatch => trivial
  | bool => contradiction
  | filtered => contradiction
  | functionScore => contradiction
  | _ => exact absurd trivial hnot

theorem one_lt_length_termClauses_iff :
    1 < s.termClauses.length ↔
      s.columns.isSome ∧ ∃ keyword, s.keyword = some keyword ∧ 2 ≤ keyword.count := by
  unfold termClauses
  cases s.keyword <;> cases s.columns <;>
    simp [Query.ofTerms, Keyword.count, Nat.lt_iff_add_one_le]

variable {tree : BoolQuery}

theorem isSound_addTerms (h : tree.IsSound) : (s.addTerms tree).IsSound := by
  have hterms : ∀ q ∈ s.termClauses, q.IsPart := fun q hq =>
    .leaf (isSoundLeaf_of_mem_termClauses hq)
  rcases eq_or_ne s.termClauses [] with hnil | hsome
  · rwa [addTerms_of_nil hnil]
  · rw [BoolQuery.isSound_iff] at h ⊢
    rcases addTerms_cases hsome tree with ⟨-, heq⟩ | ⟨-, heq⟩
    · rw [heq, List.forall_mem_append]
      exact ⟨⟨h.1, hterms⟩, h.2⟩
    · rw [heq, List.forall_mem_append]
      exact ⟨h.1, ⟨h.2.1, hterms⟩, h.2.2⟩

theorem isEmpty_addTerms_iff :
    (s.addTerms tree).isEmpty = true ↔ tree.isEmpty = true ∧ s.termClauses = [] := by
  rcases eq_or_ne s.termClauses [] with hnil | hsome
  · simp [addTerms_of_nil hnil, hnil]
  · rw [BoolQuery.isEmpty_iff]
    rcases addTerms_cases hsome tree with ⟨-, heq⟩ | ⟨-, heq⟩
    · simp [heq, hsome]
    · simp [heq, hsome]

theorem isSome_minimum_addTerms_iff :
    (s.addTerms tree).minimum.isSome ↔
      tree.minimum.isSome ∨ 1 < s.termClauses.length := by
  rcases eq_or_ne s.termClauses [] with hnil | hsome
  · simp [addTerms_of_nil hnil, hnil]
  · rcases addTerms_cases hsome tree with ⟨hone, heq⟩ | ⟨hmany, heq⟩
    · simp [heq, hone]
    · simp [heq, hmany]

/-! ## Whole bodies -/

theorem filter?_eq_some_iff :
    s.filter? = some q ↔ s.hasFilters = true ∧ s.filterBool.toQuery = q := by
  unfold filter?
  split <;> simp [*]

theorem isSoundLeaf_of_scoredClause (h : s.scoredClause? = some q) : q.IsSoundLeaf := by
  unfold scoredClause? at h
  split at h
  · exact isSoundLeaf_of_keywordClause h
  · contradiction

section

variable {keyword : Option Query} {clause : Query}
  (hkeyword : ∀ q, keyword = some q → q.IsSoundLeaf) (hvalid : s.IsSearchable mode)
include hkeyword hvalid

/-- Beside the keywords and the filter of a search there are the parts of these. -/
theorem of_mem_insideIfAny
    (h : clause ∈ Query.insideIfAny keyword ++ Query.insideIfAny s.filter?) :
    clause.IsPart ∨ s.filter? = some clause := by
  simp only [Query.insideIfAny_eq, List.mem_append, List.mem_flatMap,
    Option.mem_toList] at h
  rcases h with ⟨q, hq, hclause⟩ | ⟨q, hq, hclause⟩
  · exact .inl ((Query.IsPart.leaf (hkeyword q hq)).of_mem_clauses clause hclause)
  · rcases List.mem_cons.1 hclause with rfl | hinside
    · exact .inr hq
    · obtain ⟨-, rfl⟩ := filter?_eq_some_iff.1 hq
      exact .inl ((isSound_filterBool hvalid).of_mem_inside clause hinside)

end

/-- Inside a query stand parts, and the filter if it has a place of its own. -/
theorem Sends.of_mem_inside (h : s.Sends mode (some query)) (hvalid : s.IsSearchable mode) :
    ∀ clause ∈ query.inside, clause.IsPart ∨ s.filter? = some clause := by
  intro clause hclause
  cases h with
  | plain =>
      exact of_mem_insideIfAny (fun _ => isSoundLeaf_of_keywordClause) hvalid hclause
  | scored hrules hfunctions =>
      rw [Query.inside, List.mem_append] at hclause
      rcases hclause with hclause | hclause
      · exact of_mem_insideIfAny (fun _ => isSoundLeaf_of_scoredClause) hvalid hclause
      · rw [Query.insideFunctions_eq] at hclause
        obtain ⟨function, hfunction, hclause⟩ := List.mem_flatMap.1 hclause
        have hleaf := ScoreRule.isSoundLeaf_of_scores hfunctions function hfunction
        exact .inl ((Query.IsPart.leaf hleaf).of_mem_clauses clause hclause)
  | multiKeyword =>
      exact .inl ((isSound_addTerms (isSound_filterBool hvalid)).of_mem_inside clause hclause)

theorem Sends.filter_or_whole (h : s.Sends mode (some query)) :
    mode ≠ .multiKeyword ∧ query.takesFilter = true ∧ query.filter? = s.filter? ∨
      mode = .multiKeyword ∧ query = (s.addTerms s.filterBool).toQuery := by
  cases h with
  | plain => exact .inl ⟨nofun, rfl, rfl⟩
  | scored => exact .inl ⟨nofun, rfl, rfl⟩
  | multiKeyword => exact .inr ⟨rfl, rfl⟩

theorem Sends.takesFilter_iff (h : s.Sends mode (some query)) :
    query.takesFilter = true ↔ mode ≠ .multiKeyword := by
  rcases h.filter_or_whole with ⟨hmode, htakes, -⟩ | ⟨hmode, rfl⟩
  · exact iff_of_true htakes hmode
  · exact iff_of_false Bool.false_ne_true (not_not.2 hmode)

theorem Sends.filter?_eq (h : s.Sends mode (some query))
    (htakes : query.takesFilter = true) : query.filter? = s.filter? := by
  rcases h.filter_or_whole with ⟨-, -, hfilter⟩ | ⟨-, rfl⟩
  · exact hfilter
  · contradiction

theorem filter?_eq_none_iff : s.filter? = none ↔ s.filters = [] ∧ s.geo = none := by
  rw [← not_hasFilters_iff, filter?]
  split <;> simp [*]

theorem isSome_filter?_iff : s.filter?.isSome ↔ s.filters ≠ [] ∨ s.geo ≠ none := by
  rw [← Option.ne_none_iff_isSome, ne_eq, filter?_eq_none_iff, not_and_or]

theorem filter_not_empty {filter : Query} (hvalid : s.IsSearchable mode)
    (h : s.filter? = some filter) :
    ∃ b : BoolQuery, filter = b.toQuery ∧ b.isEmpty = false := by
  obtain ⟨hsome, rfl⟩ := filter?_eq_some_iff.1 h
  refine ⟨s.filterBool, rfl, Bool.eq_false_iff.2 fun hempty => ?_⟩
  exact not_hasFilters_iff.2 ((isEmpty_filterBool_iff hvalid).1 hempty) hsome

section

variable (h : s.Sends mode (some query)) (hvalid : s.IsSearchable mode)
include h hvalid

theorem Sends.isWellFormed : ∀ clause ∈ query.clauses, clause.IsWellFormed := by
  have hfilters := isSound_filterBool hvalid
  refine List.forall_mem_cons.2 ⟨?_, fun clause hclause => ?_⟩
  · cases h with
    | plain hsome => exact hsome
    | scored => exact trivial
    | multiKeyword => exact (isSound_addTerms hfilters).isWellFormed
  · rcases h.of_mem_inside hvalid clause hclause with hpart | hfilter
    · exact hpart.isWellFormed
    · obtain ⟨-, rfl⟩ := filter?_eq_some_iff.1 hfilter
      exact hfilters.isWellFormed

theorem Sends.eq_of_takesFilter : ∀ clause ∈ query.clauses,
    clause.takesFilter = true → clause = query := by
  refine List.forall_mem_cons.2 ⟨fun _ => rfl, fun clause hclause htakes => ?_⟩
  rcases h.of_mem_inside hvalid clause hclause with hpart | hfilter
  · simp [hpart.takesFilter_eq_false] at htakes
  · obtain ⟨-, rfl⟩ := filter?_eq_some_iff.1 hfilter
    contradiction

/-- Only the whole of a search for keywords can be empty. -/
theorem Sends.isEmptyBool :
    (∀ clause ∈ query.inside, ¬clause.IsEmptyBool) ∧
      (query.IsEmptyBool → mode = .multiKeyword ∧ s.filters = [] ∧ s.geo = none ∧
        s.termClauses = []) := by
  refine ⟨fun clause hclause => ?_, fun hempty => ?_⟩
  · rcases h.of_mem_inside hvalid clause hclause with hpart | hfilter
    · exact hpart.not_isEmptyBool
    · obtain ⟨b, rfl, hsome⟩ := filter_not_empty hvalid hfilter
      rw [BoolQuery.isEmptyBool_toQuery_iff, hsome]
      exact Bool.false_ne_true
  · rcases h.filter_or_whole with ⟨-, htakes, -⟩ | ⟨hmode, rfl⟩
    · exact absurd hempty (Query.not_isEmptyBool_of_takesFilter htakes)
    · rw [BoolQuery.isEmptyBool_toQuery_iff, isEmpty_addTerms_iff,
        isEmpty_filterBool_iff hvalid, and_assoc] at hempty
      exact ⟨hmode, hempty⟩

/-- A minimum is set by `oneOf` filters, or for several keywords. -/
theorem Sends.isSome_minimum_iff :
    (∃ clause ∈ query.clauses, clause.minimum?.isSome) ↔
      (∃ p ∈ s.filters, p.operator = .oneOf) ∨
        mode = .multiKeyword ∧ 1 < s.termClauses.length := by
  have hwhole : (s.addTerms s.filterBool).minimum.isSome ↔
      (∃ p ∈ s.filters, p.operator = .oneOf) ∨ 1 < s.termClauses.length := by
    rw [isSome_minimum_addTerms_iff, isSome_minimum_filterBool_iff hvalid]
  have hinside : ∀ clause ∈ query.inside, clause.minimum?.isSome →
      ∃ p ∈ s.filters, p.operator = .oneOf := by
    intro clause hclause hsome
    rcases h.of_mem_inside hvalid clause hclause with hpart | hfilter
    · simp [hpart.minimum?_eq_none] at hsome
    · obtain ⟨-, rfl⟩ := filter?_eq_some_iff.1 hfilter
      exact (isSome_minimum_filterBool_iff hvalid).1 hsome
  rcases h.filter_or_whole with ⟨hmode, htakes, hfilter⟩ | ⟨rfl, rfl⟩
  · constructor
    · rintro ⟨clause, hclause, hsome⟩
      rcases List.mem_cons.1 hclause with rfl | hmem
      · simp [Query.minimum?_of_takesFilter htakes] at hsome
      · exact .inl (hinside clause hmem hsome)
    · rintro (⟨p, hp, hop⟩ | ⟨hmulti, -⟩)
      · obtain ⟨filter, hsome⟩ := Option.isSome_iff_exists.1
          (isSome_filter?_iff.2 (.inl (List.ne_nil_of_mem hp)))
        obtain ⟨-, rfl⟩ := filter?_eq_some_iff.1 hsome
        exact ⟨_, List.mem_cons_of_mem _ (Query.filter?_mem_inside (hfilter.trans hsome)),
          (isSome_minimum_filterBool_iff hvalid).2 ⟨p, hp, hop⟩⟩
      · exact absurd hmulti hmode
  · constructor
    · rintro ⟨clause, hclause, hsome⟩
      rcases List.mem_cons.1 hclause with rfl | hmem
      · exact (hwhole.1 hsome).imp_right fun hmany => ⟨rfl, hmany⟩
      · exact .inl (hinside clause hmem hsome)
    · intro hset
      exact ⟨_, List.mem_cons_self, hwhole.2 (hset.imp_right And.right)⟩

end

/--
The query of a search has no clause, at any depth, that is not well formed or that
has come out empty, but for a search for keywords that has neither keywords nor
anything to filter by.  A search has a filter exactly when there is something to
filter by, a scored search has the score functions of its rules in their order,
and a minimum is set only by `oneOf` filters or for several keywords.
-/
theorem searchBody_wellFormed (hbody : s.searchBody mode = .ok body) :
    (∀ query, body.query = some query →
      (∀ clause ∈ query.clauses, clause.IsWellFormed) ∧
      (query.takesFilter = true ↔ mode ≠ .multiKeyword) ∧
      (∀ clause ∈ query.clauses, clause.takesFilter = true →
        (clause.filter?.isSome ↔ s.filters ≠ [] ∨ s.geo ≠ none) ∧
        ∀ filter, clause.filter? = some filter →
          ∃ b : BoolQuery, filter = b.toQuery ∧ b.isEmpty = false) ∧
      (∀ clause ∈ query.clauses, ∀ keyword filter functions scoreMode,
        clause = .functionScore keyword filter functions scoreMode →
        ∃ rules, s.rules = some rules ∧
          List.Forall₂ ScoreRule.Scores rules functions) ∧
      (∀ clause ∈ query.inside, ¬clause.IsEmptyBool) ∧
      (query.IsEmptyBool → mode = .multiKeyword ∧ s.filters = [] ∧ s.geo = none ∧
        s.termClauses = [])) ∧
    (body.query = none → mode = .plain ∧ s.filters = [] ∧ s.geo = none ∧
      s.keywordClause? = none) ∧
    ((∃ query, body.query = some query ∧
        ∃ clause ∈ query.clauses, clause.minimum?.isSome) ↔
      (∃ p ∈ s.filters, p.operator = .oneOf) ∨
        mode = .multiKeyword ∧ s.columns.isSome ∧
          ∃ keyword, s.keyword = some keyword ∧ 2 ≤ keyword.count) := by
  have hvalid := exists_searchBody_iff.1 ⟨body, hbody⟩
  have hsends := sends_of_searchBody hbody
  generalize body.query = sent at hsends ⊢
  cases sent with
  | none =>
      cases hsends with
      | nothing hkeyword hfilter =>
          obtain ⟨hfilters, hgeo⟩ := filter?_eq_none_iff.1 hfilter
          exact ⟨nofun, fun _ => ⟨rfl, hfilters, hgeo, hkeyword⟩, by simp [hfilters]⟩
  | some query =>
      simp only [Option.some.injEq, forall_eq', exists_eq_left', reduceCtorEq,
        false_imp_iff, true_and]
      refine ⟨⟨hsends.isWellFormed hvalid, hsends.takesFilter_iff,
        fun clause hclause htakes => ?_,
        fun clause hclause keyword filter functions scoreMode heq => ?_,
        hsends.isEmptyBool hvalid⟩, ?_⟩
      · obtain rfl := hsends.eq_of_takesFilter hvalid clause hclause htakes
        rw [hsends.filter?_eq htakes]
        exact ⟨isSome_filter?_iff, fun _ => filter_not_empty hvalid⟩
      · subst heq
        obtain rfl := hsends.eq_of_takesFilter hvalid _ hclause rfl
        cases hsends with
        | scored hrules hfunctions => exact ⟨_, hrules, hfunctions⟩
      · rw [hsends.isSome_minimum_iff hvalid, one_lt_length_termClauses_iff]

theorem searchBody_wellFormed_of_scored :
    let s : Specification := {
      filters := [
        ⟨"tag", .oneOf, .array [.ofUInt64 1, .ofUInt64 2], false, none⟩,
        ⟨"id", .noneOf, .array [.ofUInt64 7], false, none⟩]
      geo := some (.boundingBox "at" (⟨1⟩, ⟨0⟩) (⟨0⟩, ⟨1⟩))
      rules := some [
        ⟨some "stars", some .greater, some (.ofUInt64 3), some ⟨0⟩⟩,
        ⟨some "new", some .equal, some (.bool true), some ⟨1⟩⟩] }
    ∃ body query, s.searchBody .scored = .ok body ∧ body.query = some query ∧
      (∀ clause ∈ query.clauses, clause.IsWellFormed ∧ ¬clause.IsEmptyBool) ∧
      (∃ b : BoolQuery, query.filter? = some b.toQuery ∧ b.isEmpty = false) ∧
      ∃ clause ∈ query.clauses, clause.minimum?.isSome := by
  intro s
  obtain ⟨body, hbody⟩ : ∃ body, s.searchBody .scored = .ok body := ⟨_, rfl⟩
  obtain ⟨hquery, hnone, hminimum⟩ := searchBody_wellFormed hbody
  obtain ⟨query, hsome, hclauses⟩ :=
    hminimum.2 (.inl ⟨_, List.mem_cons_self, rfl⟩)
  obtain ⟨hformed, htakes, hfilter, -, hinside, hempty⟩ := hquery query hsome
  obtain ⟨hplace, hfull⟩ := hfilter query List.mem_cons_self (htakes.2 nofun)
  obtain ⟨filter, hfilter⟩ := Option.isSome_iff_exists.1 (hplace.2 (.inl nofun))
  obtain ⟨b, rfl, hb⟩ := hfull filter hfilter
  refine ⟨body, query, hbody, hsome, fun clause hclause => ⟨hformed clause hclause, ?_⟩,
    ⟨b, hfilter, hb⟩, hclauses⟩
  rcases List.mem_cons.1 hclause with rfl | hmem
  · exact fun h => nomatch (hempty h).1
  · exact hinside clause hmem

end Specification

end SearchClient

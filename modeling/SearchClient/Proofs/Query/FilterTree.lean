import SearchClient.Proofs.Query.Meaning
import SearchClient.Proofs.Request.FirstFault

/-!
# What filters add

A filter tree is put together from what each of its predicates adds, in their
order, and the clause of its geo constraint.  For each operator one rule says
what a valid predicate adds; all else about filter trees follows from these
rules.
-/

namespace SearchClient

/-- A leaf of the kinds that filters are made of. -/
def Query.IsFilterLeaf : Query → Prop
  | .term _ | .range _ | .fullText _ _ | .geoDistance _ | .geoBoundingBox _ => True
  | .bool _ _ _ _ | .multiMatch _ | .filtered _ _ | .functionScore _ _ _ _ => False

namespace Query

theorem IsFilterLeaf.isLeaf {q : Query} (h : q.IsFilterLeaf) : q.IsLeaf := by
  cases q <;> trivial

@[simp] theorem isFilterLeaf_ofTerm (field : String) (value : Json) :
    (ofTerm field value).IsFilterLeaf := trivial

@[simp] theorem isFilterLeaf_lessThan (field : String) (value : Json) :
    (lessThan field value).IsFilterLeaf := trivial

@[simp] theorem isFilterLeaf_greaterThan (field : String) (value : Json) :
    (greaterThan field value).IsFilterLeaf := trivial

@[simp] theorem isFilterLeaf_fullText (kind : MatchKind) (values : SortedMap Json) :
    (fullText kind values).IsFilterLeaf := trivial

end Query

namespace BoolQuery

variable {v : Valuation} {parts : List BoolQuery}

/-- The clauses of both; the later minimum counts. -/
def append (a b : BoolQuery) : BoolQuery where
  must := a.must ++ b.must
  should := a.should ++ b.should
  mustNot := a.mustNot ++ b.mustNot
  minimum := b.minimum.or a.minimum

instance : Append BoolQuery := ⟨append⟩

theorem append_def (a b : BoolQuery) : a ++ b =
    ⟨a.must ++ b.must, a.should ++ b.should, a.mustNot ++ b.mustNot,
      b.minimum.or a.minimum⟩ := rfl

theorem append_assoc (a b c : BoolQuery) : a ++ b ++ c = a ++ (b ++ c) := by
  simp only [append_def, List.append_assoc, Option.or_assoc]

theorem append_empty (b : BoolQuery) : b ++ {} = b := by
  simp [append_def]

theorem empty_append (b : BoolQuery) : {} ++ b = b := by
  simp [append_def]

theorem append_must (b : BoolQuery) (clauses : List Query) :
    b ++ { must := clauses } = { b with must := b.must ++ clauses } := by
  simp [append_def]

/-- The clauses of all parts in their order. -/
def concat (parts : List BoolQuery) : BoolQuery := parts.foldr (· ++ ·) {}

theorem concat_nil : concat [] = {} := rfl

theorem concat_cons (part : BoolQuery) (parts : List BoolQuery) :
    concat (part :: parts) = part ++ concat parts := rfl

theorem concat_append (parts more : List BoolQuery) :
    concat (parts ++ more) = concat parts ++ concat more := by
  induction parts with
  | nil => exact (empty_append _).symm
  | cons part parts ih =>
      rw [List.cons_append, concat_cons, concat_cons, ih, append_assoc]

/-- The minimum is that of any part that has one, if all agree. -/
theorem minimum_concat {minimum : Int64}
    (h : ∀ part ∈ parts, part.minimum = none ∨ part.minimum = some minimum) :
    (concat parts).minimum =
      if ∀ part ∈ parts, part.minimum = none then none else some minimum := by
  induction parts with
  | nil => rfl
  | cons part parts ih =>
      simp only [List.forall_mem_cons] at h ⊢
      have hstep : (concat (part :: parts)).minimum =
          (concat parts).minimum.or part.minimum := rfl
      rw [hstep, ih h.2]
      -- The later parts decide, and only without a minimum among them the first does.
      by_cases hall : ∀ part ∈ parts, part.minimum = none
      · rw [if_pos hall, Option.none_or]
        rcases h.1 with hpart | hpart
        · rw [if_pos ⟨hpart, hall⟩, hpart]
        · rw [if_neg (by simp [hpart]), hpart]
      · rw [if_neg hall, if_neg fun hboth => hall hboth.2, Option.some_or]

theorem flatMap_concat {α : Type} {clauses : BoolQuery → List α}
    (hnil : clauses {} = [])
    (happend : ∀ a b, clauses (a ++ b) = clauses a ++ clauses b) :
    clauses (concat parts) = parts.flatMap clauses := by
  induction parts with
  | nil => exact hnil
  | cons part parts ih =>
      rw [List.flatMap_cons, concat_cons, happend, ih]

theorem must_concat : (concat parts).must = parts.flatMap must :=
  flatMap_concat rfl fun _ _ => rfl

theorem should_concat : (concat parts).should = parts.flatMap should :=
  flatMap_concat rfl fun _ _ => rfl

theorem mustNot_concat : (concat parts).mustNot = parts.flatMap mustNot :=
  flatMap_concat rfl fun _ _ => rfl

theorem meets_concat_iff : (concat parts).Meets v ↔ ∀ part ∈ parts, part.Meets v := by
  constructor
  · intro h part hpart
    refine ⟨fun q hq => h.must q ?_, fun q hq => h.mustNot q ?_⟩
    · rw [must_concat]
      exact List.mem_flatMap.2 ⟨part, hpart, hq⟩
    · rw [mustNot_concat]
      exact List.mem_flatMap.2 ⟨part, hpart, hq⟩
  · intro h
    refine ⟨fun q hq => ?_, fun q hq => ?_⟩
    · rw [must_concat] at hq
      obtain ⟨part, hpart, hq⟩ := List.mem_flatMap.1 hq
      exact (h part hpart).must q hq
    · rw [mustNot_concat] at hq
      obtain ⟨part, hpart, hq⟩ := List.mem_flatMap.1 hq
      exact (h part hpart).mustNot q hq

theorem forall_mem_should_concat_iff {P : Query → Prop} :
    (∀ q ∈ (concat parts).should, P q) ↔ ∀ part ∈ parts, ∀ q ∈ part.should, P q := by
  rw [should_concat]
  exact List.forall_mem_flatMap

theorem mem_leaves_concat {q : Query} :
    q ∈ (concat parts).leaves ↔ ∃ part ∈ parts, q ∈ part.leaves := by
  simp only [mem_leaves, must_concat, should_concat, mustNot_concat,
    List.mem_flatMap]
  constructor
  · rintro (⟨part, hpart, hq⟩ | ⟨part, hpart, hq⟩ | ⟨clause, ⟨part, hpart, hc⟩, hq⟩)
    · exact ⟨part, hpart, .inl hq⟩
    · exact ⟨part, hpart, .inr (.inl hq)⟩
    · exact ⟨part, hpart, .inr (.inr ⟨clause, hc, hq⟩)⟩
  · rintro ⟨part, hpart, hq | hq | ⟨clause, hc, hq⟩⟩
    · exact .inl ⟨part, hpart, hq⟩
    · exact .inr (.inl ⟨part, hpart, hq⟩)
    · exact .inr (.inr ⟨clause, ⟨part, hpart, hc⟩, hq⟩)

end BoolQuery

namespace FilterPredicate

/-- The clauses of a predicate are those that it puts into an empty tree. -/
def clauses (p : FilterPredicate) (minimum : Int64) : Except SpecError BoolQuery :=
  BoolQuery.addPredicate minimum {} p

/-- What the predicate adds; nothing if it is not valid. -/
def added (p : FilterPredicate) (minimum : Int64) : BoolQuery :=
  match p.clauses minimum with
  | .ok part => part
  | .error _ => {}

/-- What a valid predicate adds, one rule for each operator. -/
inductive Adds (p : FilterPredicate) (minimum : Int64) : BoolQuery → Prop where
  | between {low high : Json} (hop : p.operator = .between)
      (hvalue : p.value = .array [low, high]) :
      Adds p minimum {
        must := [.greaterThan p.field low, .lessThan p.field high]
        should := [.anyOf [.ofTerm p.field low]] }
  | notBetween {low high : Json} (hop : p.operator = .notBetween)
      (hvalue : p.value = .array [low, high]) :
      Adds p minimum {
        should := [.anyOf [.lessThan p.field low, .greaterThan p.field high]] }
  | greater (hop : p.operator = .greater) :
      Adds p minimum {
        must := [.greaterThan p.field p.value]
        should := [.anyOf [.ofTerm p.field p.value]] }
  | less (hop : p.operator = .less) :
      Adds p minimum { must := [.lessThan p.field p.value] }
  | term (hop : p.operator = .equal) (hterm : p.termQuery = false) :
      Adds p minimum { must := [.ofTerm p.field p.value] }
  | fullText {kind : MatchKind} (hop : p.operator = .equal)
      (htext : p.termQuery = true)
      (hkind : p.matchType.getD "match" = kind.name) :
      Adds p minimum { must := [.fullText kind (.singleton p.field p.value)] }
  | notEqual (hop : p.operator = .notEqual) :
      Adds p minimum { mustNot := [.ofTerm p.field p.value] }
  | oneOf {first : Json} {rest : List Json} (hop : p.operator = .oneOf)
      (hvalue : p.value = .array (first :: rest)) :
      Adds p minimum {
        should := [.anyOf ((first :: rest).map (.ofTerm p.field))]
        minimum := some minimum }
  | noneOf {values : List Json} (hop : p.operator = .noneOf)
      (hvalue : p.value = .array values) :
      Adds p minimum { mustNot := values.map (.ofTerm p.field) }

variable {p : FilterPredicate} {part : BoolQuery} {minimum : Int64}

theorem bounds_eq_ok_iff {value low high : Json} :
    bounds value = .ok (low, high) ↔ value = .array [low, high] := by
  unfold bounds
  split <;> simp_all

theorem items_eq_ok_iff {value : Json} {e : SpecError} {values : List Json} :
    items value e = .ok values ↔
      ∃ first rest, value = .array (first :: rest) ∧ values = first :: rest := by
  unfold items
  split
  · simp [eq_comm]
  · simp_all

theorem adds_of_clauses (h : p.clauses minimum = .ok part) :
    p.Adds minimum part := by
  unfold clauses BoolQuery.addPredicate at h
  cases hop : p.operator with
  | between =>
      rw [hop] at h
      obtain ⟨⟨low, high⟩, hbounds, hpart⟩ := Except.bind_eq_ok.1 h
      cases hpart
      exact .between hop (bounds_eq_ok_iff.1 hbounds)
  | notBetween =>
      rw [hop] at h
      obtain ⟨⟨low, high⟩, hbounds, hpart⟩ := Except.bind_eq_ok.1 h
      cases hpart
      exact .notBetween hop (bounds_eq_ok_iff.1 hbounds)
  | greater =>
      rw [hop] at h
      cases h
      exact .greater hop
  | less =>
      rw [hop] at h
      cases h
      exact .less hop
  | equal =>
      rw [hop] at h
      obtain ⟨clause, hclause, hpart⟩ := Except.bind_eq_ok.1 h
      cases hpart
      cases htext : p.termQuery with
      | false =>
          rw [equalClause, htext] at hclause
          cases hclause
          exact .term hop htext
      | true =>
          rw [equalClause, htext] at hclause
          obtain ⟨kind, hkind, rfl⟩ := Except.map_eq_ok.1 hclause
          exact .fullText hop htext (matchKind_eq_ok_iff.1 hkind)
  | notEqual =>
      rw [hop] at h
      cases h
      exact .notEqual hop
  | oneOf =>
      rw [hop] at h
      obtain ⟨values, hitems, hpart⟩ := Except.bind_eq_ok.1 h
      obtain ⟨first, rest, hvalue, rfl⟩ := items_eq_ok_iff.1 hitems
      cases hpart
      exact .oneOf hop hvalue
  | noneOf =>
      rw [hop] at h
      obtain ⟨values, hitems, hpart⟩ := Except.bind_eq_ok.1 h
      obtain ⟨first, rest, hvalue, rfl⟩ := items_eq_ok_iff.1 hitems
      cases hpart
      exact .noneOf hop hvalue
  | unsupported token =>
      rw [hop] at h
      contradiction

theorem Adds.isFilterLeaf (h : p.Adds minimum part) :
    ∀ q ∈ part.leaves, q.IsFilterLeaf := by
  cases h <;> simp [BoolQuery.leaves, Query.options_anyOf]

theorem clauses_eq_ok (h : p.isValid = true) (minimum : Int64) :
    p.clauses minimum = .ok (p.added minimum) := by
  obtain ⟨part, hpart⟩ := (BoolQuery.addPredicate_failsFirst minimum {} p).exists_ok_iff.2
    (faults_eq_nil_iff.2 h)
  have hclauses : p.clauses minimum = .ok part := hpart
  rw [added, hclauses]

theorem adds_added (h : p.isValid = true) (minimum : Int64) :
    p.Adds minimum (p.added minimum) :=
  adds_of_clauses (clauses_eq_ok h minimum)

end FilterPredicate

namespace GeoParameter

/-- The clause of the constraint, which must hold; nothing if it is not complete. -/
def added (g : GeoParameter) : BoolQuery :=
  match g.clause with
  | .ok clause => { must := [clause] }
  | .error _ => {}

theorem isFilterLeaf_of_clause {g : GeoParameter} {clause : Query}
    (h : g.clause = .ok clause) : clause.IsFilterLeaf := by
  unfold GeoParameter.clause at h
  split at h
  · contradiction
  · split at h
    · split at h
      · cases h
        trivial
      · contradiction
    · split at h
      · cases h
        trivial
      · contradiction

theorem clause_eq_ok {g : GeoParameter} (h : g.isComplete = true) :
    ∃ clause, g.clause = .ok clause ∧ g.added = { must := [clause] } := by
  obtain ⟨clause, hclause⟩ := g.clause_failsFirst.exists_ok_iff.2
    (faults_eq_nil_iff.2 h)
  exact ⟨clause, hclause, by rw [added, hclause]⟩

end GeoParameter

namespace BoolQuery

variable {predicates : List FilterPredicate} {geo : Option GeoParameter}
  {minimum : Int64}

/-- What the predicates add, and what the geo constraint does. -/
def filterParts (predicates : List FilterPredicate) (geo : Option GeoParameter)
    (minimum : Int64) : List BoolQuery :=
  predicates.map (·.added minimum) ++ geo.toList.map GeoParameter.added

/-- A predicate puts its clauses behind those of the tree and looks at none of them. -/
theorem addPredicate_eq_map (minimum : Int64) (tree : BoolQuery)
    (p : FilterPredicate) :
    addPredicate minimum tree p = (p.clauses minimum).map (tree ++ ·) := by
  unfold FilterPredicate.clauses addPredicate
  cases p.operator with
  | between => cases FilterPredicate.bounds p.value <;> simp [append_def]
  | notBetween => cases FilterPredicate.bounds p.value <;> simp [append_def]
  | greater => simp [append_def]
  | less => simp [append_def]
  | equal => cases p.equalClause <;> simp [append_def]
  | notEqual => simp [append_def]
  | oneOf => cases FilterPredicate.items p.value .oneOfRequiresArray <;> simp [append_def]
  | noneOf => cases FilterPredicate.items p.value .noneOfRequiresArray <;> simp [append_def]
  | unsupported token => rfl

theorem foldlM_addPredicate (hvalid : ∀ p ∈ predicates, p.isValid = true)
    (minimum : Int64) (tree : BoolQuery) :
    predicates.foldlM (addPredicate minimum) tree =
      .ok (tree ++ concat (predicates.map (·.added minimum))) := by
  induction predicates generalizing tree with
  | nil => exact congrArg Except.ok (append_empty tree).symm
  | cons p predicates ih =>
      simp only [List.forall_mem_cons] at hvalid
      rw [List.foldlM_cons, addPredicate_eq_map,
        FilterPredicate.clauses_eq_ok hvalid.1, Except.map_ok, Except.ok_bind,
        ih hvalid.2, List.map_cons, concat_cons, append_assoc]

/-- With nothing wrong in it a list of filters has a tree, put together from parts. -/
theorem ofFilters_eq_ok (hvalid : ∀ p ∈ predicates, p.isValid = true)
    (hgeo : ∀ g ∈ geo, g.isComplete = true) (minimum : Int64) :
    ofFilters predicates geo minimum =
      .ok (concat (filterParts predicates geo minimum)) := by
  rw [ofFilters, foldlM_addPredicate hvalid, Except.ok_bind, empty_append,
    filterParts, concat_append]
  cases geo with
  | none => exact congrArg Except.ok (append_empty _).symm
  | some g =>
      obtain ⟨clause, hclause, hadded⟩ := GeoParameter.clause_eq_ok (hgeo g rfl)
      rw [addGeo, hclause, Except.map_ok, Option.toList_some, List.map_cons,
        List.map_nil, concat_cons, hadded, concat_nil, append_empty, append_must]

theorem forall_mem_filterParts_iff {P : BoolQuery → Prop} :
    (∀ part ∈ filterParts predicates geo minimum, P part) ↔
      (∀ p ∈ predicates, P (p.added minimum)) ∧ ∀ g ∈ geo, P g.added := by
  simp only [filterParts, List.forall_mem_append, List.forall_mem_map,
    Option.mem_toList, Option.mem_def]

end BoolQuery

end SearchClient

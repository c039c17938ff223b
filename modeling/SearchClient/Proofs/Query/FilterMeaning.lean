import SearchClient.Proofs.Query.FilterTree

/-!
# What filters mean

Whether a predicate holds of a document, and whether the filter tree accepts it.
-/

namespace SearchClient

/-- The operators that add a clause that should hold. -/
def FilterOp.withOptions : List FilterOp := [.between, .notBetween, .greater, .oneOf]

namespace FilterPredicate

/-- Whether the predicate holds of a document. -/
def holds (v : Valuation) (p : FilterPredicate) : Bool :=
  match p.operator, p.value with
  | .between, .array [low, high] =>
    (v (.greaterThan p.field low) && v (.lessThan p.field high)) || v (.ofTerm p.field low)
  | .notBetween, .array [low, high] =>
    v (.lessThan p.field low) || v (.greaterThan p.field high)
  | .greater, value => v (.greaterThan p.field value) || v (.ofTerm p.field value)
  | .less, value => v (.lessThan p.field value)
  | .equal, value =>
    if p.termQuery then
      MatchKind.all.any fun kind =>
        p.matchType.getD "match" = kind.name && v (.fullText kind (.singleton p.field value))
    else v (.ofTerm p.field value)
  | .notEqual, value => !v (.ofTerm p.field value)
  | .oneOf, .array values => values.any fun value => v (.ofTerm p.field value)
  | .noneOf, .array values => values.all fun value => !v (.ofTerm p.field value)
  | _, _ => false

/-- The clauses among which a predicate that only asks for one of several chooses. -/
def alternatives (p : FilterPredicate) : List Query :=
  match p.operator, p.value with
  | .notBetween, .array [low, high] => [.lessThan p.field low, .greaterThan p.field high]
  | .oneOf, .array values => values.map (.ofTerm p.field)
  | _, _ => []

/-- The operators of which nothing is put among the clauses that must hold. -/
def IsChoice (p : FilterPredicate) : Prop :=
  p.operator = .oneOf ∨ p.operator = .notBetween

theorem holds_fullText {p : FilterPredicate} {kind : MatchKind} {v : Valuation}
    (hop : p.operator = .equal) (htext : p.termQuery = true)
    (hkind : p.matchType.getD "match" = kind.name) :
    p.holds v = v (.fullText kind (.singleton p.field p.value)) := by
  cases kind <;>
    simp [holds, hop, htext, hkind, MatchKind.all, MatchKind.name]

namespace Adds

variable {p : FilterPredicate} {minimum : Int64} {part : BoolQuery} {v : Valuation}

/-- A choice adds one clause, which should hold, of its alternatives. -/
theorem should_of_isChoice (h : p.Adds minimum part) (hchoice : p.IsChoice) :
    p.alternatives ≠ [] ∧ part.should = [.anyOf p.alternatives] := by
  cases h with
  | notBetween hop hvalue => simp [alternatives, hop, hvalue]
  | oneOf hop hvalue => simp [alternatives, hop, hvalue]
  | _ hop => simp [IsChoice, hop] at hchoice

theorem holds_iff_of_isChoice (h : p.Adds minimum part) (hchoice : p.IsChoice) :
    p.holds v = true ↔ ∃ q ∈ p.alternatives, v q = true := by
  cases h with
  | notBetween hop hvalue => simp [alternatives, holds, hop, hvalue]
  | oneOf hop hvalue => simp [alternatives, holds, hop, hvalue]
  | _ hop => simp [IsChoice, hop] at hchoice

/-- What any other predicate puts among the clauses that must hold or must not is
enough for it. -/
theorem holds_of_meets (h : p.Adds minimum part) (hchoice : ¬p.IsChoice)
    (hmeets : part.Meets v) : p.holds v = true := by
  rw [BoolQuery.meets_iff] at hmeets
  cases h with
  | between hop hvalue => simp_all [holds]
  | notBetween hop => exact absurd (.inr hop) hchoice
  | greater hop => simp_all [holds]
  | less hop => simp_all [holds]
  | term hop hterm => simp_all [holds]
  | fullText hop htext hkind =>
      rw [holds_fullText hop htext hkind]
      simpa using hmeets
  | notEqual hop => simp_all [holds]
  | oneOf hop => exact absurd (.inl hop) hchoice
  | noneOf hop hvalue => simp_all [holds]

/-- But for the operators that admit a bound, a predicate holds when what it adds
is taken strictly. -/
theorem strict_iff_holds (h : p.Adds minimum part) (hbetween : p.operator ≠ .between)
    (hgreater : p.operator ≠ .greater) :
    (part.Meets v ∧ ∀ q ∈ part.should, q.accepts v = true) ↔ p.holds v = true := by
  rw [BoolQuery.meets_iff]
  cases h with
  | between hop => contradiction
  | notBetween hop hvalue =>
      simp [holds, hop, hvalue, Query.accepts_anyOf]
  | greater hop => contradiction
  | less hop => simp [holds, hop]
  | term hop hterm => simp [holds, hop, hterm]
  | fullText hop htext hkind =>
      rw [holds_fullText hop htext hkind]
      simp
  | notEqual hop => simp [holds, hop]
  | oneOf hop hvalue => simp [holds, hop, hvalue, Query.accepts_anyOf]
  | noneOf hop hvalue => simp [holds, hop, hvalue]

/-- Only `oneOf` sets the minimum. -/
theorem minimum_eq (h : p.Adds minimum part) :
    part.minimum = if p.operator = .oneOf then some minimum else none := by
  cases h <;> simp [*]

theorem length_should (h : p.Adds minimum part) :
    part.should.length = if p.operator ∈ FilterOp.withOptions then 1 else 0 := by
  cases h <;> simp [FilterOp.withOptions, *]

end Adds

end FilterPredicate

namespace GeoParameter

/-- Whether the clause of the constraint is true of a document. -/
def holds (v : Valuation) (g : GeoParameter) : Bool :=
  match g.clause with
  | .ok clause => v clause
  | .error _ => false

theorem minimum_added (g : GeoParameter) : g.added.minimum = none := by
  unfold added
  split <;> rfl

theorem should_added (g : GeoParameter) : g.added.should = [] := by
  unfold added
  split <;> rfl

theorem meets_added_iff {g : GeoParameter} (h : g.isComplete = true)
    {v : Valuation} : g.added.Meets v ↔ g.holds v = true := by
  obtain ⟨clause, hclause, hadded⟩ := clause_eq_ok h
  have haccepts := (isFilterLeaf_of_clause hclause).isLeaf.accepts v
  simp [BoolQuery.meets_iff, hadded, holds, hclause, haccepts]

theorem strict_iff_holds {g : GeoParameter} (h : g.isComplete = true)
    {v : Valuation} :
    (g.added.Meets v ∧ ∀ q ∈ g.added.should, q.accepts v = true) ↔
      g.holds v = true := by
  rw [meets_added_iff h, should_added]
  simp

end GeoParameter

namespace BoolQuery

variable {predicates : List FilterPredicate} {geo : Option GeoParameter}
  {minimum : Int64}

theorem should_filterParts :
    (concat (filterParts predicates geo minimum)).should =
      predicates.flatMap fun p => (p.added minimum).should := by
  rw [should_concat, filterParts, List.flatMap_append, List.flatMap_map]
  cases geo <;> simp [GeoParameter.should_added]

section

variable (hvalid : ∀ p ∈ predicates, p.isValid = true)
include hvalid

theorem minimum_filterParts :
    (concat (filterParts predicates geo minimum)).minimum =
      if ∃ p ∈ predicates, p.operator = .oneOf then some minimum else none := by
  have hminimum : ∀ p ∈ predicates, (p.added minimum).minimum =
      if p.operator = .oneOf then some minimum else none := fun p hp =>
    (FilterPredicate.adds_added (hvalid p hp) minimum).minimum_eq
  have hparts : ∀ part ∈ filterParts predicates geo minimum,
      part.minimum = none ∨ part.minimum = some minimum := by
    rw [forall_mem_filterParts_iff]
    refine ⟨fun p hp => ?_, fun g _ => .inl g.minimum_added⟩
    rw [hminimum p hp]
    split
    · exact .inr rfl
    · exact .inl rfl
  have hnone : (∀ part ∈ filterParts predicates geo minimum, part.minimum = none) ↔
      ¬∃ p ∈ predicates, p.operator = .oneOf := by
    rw [forall_mem_filterParts_iff, and_iff_left fun g _ => g.minimum_added]
    simp only [not_exists, not_and]
    refine forall₂_congr fun p hp => ?_
    rw [hminimum p hp]
    simp
  rw [minimum_concat hparts, if_congr hnone rfl rfl, ite_not]

theorem length_should_filterParts :
    (concat (filterParts predicates geo minimum)).should.length =
      predicates.countP (·.operator ∈ FilterOp.withOptions) := by
  rw [should_filterParts]
  induction predicates with
  | nil => rfl
  | cons p predicates ih =>
      rw [List.forall_mem_cons] at hvalid
      rw [List.flatMap_cons, List.length_append, ih hvalid.2,
        (FilterPredicate.adds_added hvalid.1 minimum).length_should,
        List.countP_cons]
      simp only [decide_eq_true_eq, Nat.add_comm]

variable (hops : ∀ p ∈ predicates,
    p.operator ∈ [.less, .equal, .notEqual, .oneOf, .noneOf])
include hops

/-- Without the operators that leave a bound or a choice to the others, each clause
that should hold is the choice of one `oneOf`. -/
theorem length_should_of_oneOf :
    (concat (filterParts predicates geo minimum)).should.length =
      predicates.countP (·.operator = .oneOf) := by
  rw [length_should_filterParts hvalid]
  refine List.countP_congr fun p hp => ?_
  have hop := hops p hp
  simp only [List.mem_cons, List.not_mem_nil, or_false] at hop
  rcases hop with hop | hop | hop | hop | hop <;>
    simp [hop, FilterOp.withOptions]

variable (hminimum : (∃ p ∈ predicates, p.operator = .oneOf) →
    minimum.toInt = predicates.countP (·.operator = .oneOf))
include hminimum

theorem required_filterParts :
    (concat (filterParts predicates geo minimum)).required =
      (concat (filterParts predicates geo minimum)).should.length := by
  have hlength : (concat (filterParts predicates geo minimum)).should.length =
      predicates.countP (·.operator = .oneOf) :=
    length_should_of_oneOf hvalid hops
  rw [hlength, required, minimum_filterParts hvalid]
  by_cases hchoice : ∃ p ∈ predicates, p.operator = .oneOf
  · rw [if_pos hchoice]
    exact hminimum hchoice
  · have hcount : predicates.countP (·.operator = .oneOf) = 0 := by
      simpa using hchoice
    rw [hcount, List.length_eq_zero_iff] at hlength
    rw [if_neg hchoice, hlength, hcount]
    simp

/-- When as many choices are asked for as there are, a document is accepted exactly
when all predicates hold and the geo constraint does. -/
theorem ofFilters_accepts_iff (hgeo : ∀ g ∈ geo, g.isComplete = true) :
    ∃ tree, ofFilters predicates geo minimum = .ok tree ∧
      ∀ v, tree.toQuery.accepts v = true ↔
        (∀ p ∈ predicates, p.holds v = true) ∧ ∀ g ∈ geo, g.holds v = true := by
  refine ⟨_, ofFilters_eq_ok hvalid hgeo minimum, fun v => ?_⟩
  -- All of `should` is required, so the tree is met when each part is taken strictly.
  rw [accepts_toQuery, required_filterParts hvalid hops hminimum, Int.ofNat_le,
    length_le_count_iff, forall_mem_should_concat_iff, meets_concat_iff,
    ← forall₂_and, forall_mem_filterParts_iff]
  refine and_congr (forall₂_congr fun p hp => ?_) (forall₂_congr fun g hg => ?_)
  · refine (FilterPredicate.adds_added (hvalid p hp) minimum).strict_iff_holds ?_ ?_
    · intro hop
      simpa [hop] using hops p hp
    · intro hop
      simpa [hop] using hops p hp
  · exact GeoParameter.strict_iff_holds (hgeo g hg)

end

theorem ofFilters_accepts_iff_of_two_choices :
    let number (n : UInt64) : Json := .ofUInt64 n
    let predicates : List FilterPredicate := [
      { field := "tag", operator := .oneOf, value := .array [number 1, number 2] },
      { field := "price", operator := .less, value := number 10 },
      .fullText "title" (.string "rust") "match_phrase",
      { field := "tag", operator := .notEqual, value := number 2 },
      { field := "id", operator := .noneOf, value := .array [number 7, number 8] },
      { field := "lang", operator := .equal, value := .string "en" },
      { field := "tag", operator := .oneOf, value := .array [number 2, number 3] }]
    let geo : GeoParameter := .boundingBox "at" (⟨1⟩, ⟨0⟩) (⟨0⟩, ⟨1⟩)
    ∃ tree, ofFilters predicates (some geo) 2 = .ok tree ∧
      ∀ v, tree.toQuery.accepts v = true ↔
        ((v (.ofTerm "tag" (number 1)) = true ∨ v (.ofTerm "tag" (number 2)) = true) ∧
          v (.lessThan "price" (number 10)) = true ∧
          v (.fullText .phrase (.singleton "title" (.string "rust"))) = true ∧
          v (.ofTerm "tag" (number 2)) = false ∧
          (v (.ofTerm "id" (number 7)) = false ∧ v (.ofTerm "id" (number 8)) = false) ∧
          v (.ofTerm "lang" (.string "en")) = true ∧
          (v (.ofTerm "tag" (number 2)) = true ∨ v (.ofTerm "tag" (number 3)) = true)) ∧
        v (.geoBoundingBox (.singleton "at" ⟨⟨⟨1⟩, ⟨0⟩⟩, ⟨⟨0⟩, ⟨1⟩⟩⟩)) = true := by
  intro number predicates geo
  have hvalid : ∀ p ∈ predicates, p.isValid = true := by decide
  have hops : ∀ p ∈ predicates,
      p.operator ∈ [.less, .equal, .notEqual, .oneOf, .noneOf] := by decide
  have hgeo : ∀ g ∈ some geo, g.isComplete = true := by decide
  have hminimum : (∃ p ∈ predicates, p.operator = .oneOf) →
      (2 : Int64).toInt = predicates.countP (·.operator = .oneOf) := fun _ => rfl
  obtain ⟨tree, htree, haccepts⟩ := ofFilters_accepts_iff hvalid hops hminimum hgeo
  refine ⟨tree, htree, fun v => ?_⟩
  rw [haccepts v]
  simp [predicates, geo, FilterPredicate.holds, FilterPredicate.fullText,
    MatchKind.all, MatchKind.name, GeoParameter.holds, GeoParameter.clause,
    GeoParameter.boundingBox]

end BoolQuery

end SearchClient

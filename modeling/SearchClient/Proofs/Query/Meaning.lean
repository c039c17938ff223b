import Mathlib.Data.List.Count
import SearchClient.Query.Basic

/-!
# What queries accept

A leaf clause is true of a document or not, and nothing more is known of it; what
a query accepts follows from its leaf clauses.  A `bool` accepts when all of
`must` holds, none of `mustNot` does, and as many of `should` hold as it
requires.  Of a bool whose clauses are leaves, or choices among leaves, it can be
told which clauses it does not insist on: it can be met without some of its
leaves exactly when what remains of `must` and `should` is enough.
-/

namespace SearchClient

/-- Which leaf clauses are true of a document. -/
abbrev Valuation := Query → Bool

/-- How many of `should` have to hold: the minimum if there is one, and else one
if there is nothing else to hold. -/
def BoolQuery.required (b : BoolQuery) : Int :=
  match b.minimum with
  | some minimum => minimum.toInt
  | none => if b.must = [] ∧ b.should ≠ [] then 1 else 0

namespace Query

mutual

/-- The functions of a scored query rank what it accepts and do not change it. -/
def accepts (v : Valuation) : Query → Bool
  | .bool must should mustNot minimum =>
    (acceptsEach v must).all id && (acceptsEach v mustNot).all not &&
      decide ((BoolQuery.mk must should mustNot minimum).required ≤
        ((acceptsEach v should).count true : Int))
  | .filtered query filter => acceptsIfAny v query && acceptsIfAny v filter
  | .functionScore query filter _ _ => acceptsIfAny v query && acceptsIfAny v filter
  | .term values => v (.term values)
  | .range bounds => v (.range bounds)
  | .fullText kind values => v (.fullText kind values)
  | .multiMatch clause => v (.multiMatch clause)
  | .geoDistance clause => v (.geoDistance clause)
  | .geoBoundingBox boxes => v (.geoBoundingBox boxes)

def acceptsEach (v : Valuation) : List Query → List Bool
  | [] => []
  | q :: qs => q.accepts v :: acceptsEach v qs

def acceptsIfAny (v : Valuation) : Option Query → Bool
  | none => true
  | some q => q.accepts v

end

theorem acceptsEach_eq_map (v : Valuation) (qs : List Query) :
    acceptsEach v qs = qs.map (accepts v) := by
  induction qs with
  | nil => rfl
  | cons q qs ih => rw [acceptsEach, ih, List.map_cons]

end Query

namespace BoolQuery

variable {v w : Valuation} {a b : BoolQuery}

/-- All that must hold does, and nothing does that must not. -/
structure Meets (v : Valuation) (b : BoolQuery) : Prop where
  must : ∀ q ∈ b.must, q.accepts v = true
  mustNot : ∀ q ∈ b.mustNot, q.accepts v = false

/-- How many of the clauses that should hold do. -/
def count (v : Valuation) (b : BoolQuery) : Nat := b.should.countP (Query.accepts v)

theorem meets_iff : b.Meets v ↔
    (∀ q ∈ b.must, q.accepts v = true) ∧ ∀ q ∈ b.mustNot, q.accepts v = false :=
  ⟨fun h => ⟨h.must, h.mustNot⟩, fun h => ⟨h.1, h.2⟩⟩

theorem accepts_toQuery :
    b.toQuery.accepts v = true ↔ b.Meets v ∧ b.required ≤ b.count v := by
  have hcount : (b.should.map (Query.accepts v)).count true = b.count v := by
    rw [List.count, List.countP_map]
    exact List.countP_congr (by simp)
  simp only [toQuery, Query.accepts, Query.acceptsEach_eq_map, hcount,
    Bool.and_eq_true, decide_eq_true_eq, List.all_map, List.all_eq_true]
  constructor
  · rintro ⟨⟨hmust, hnot⟩, hrequired⟩
    exact ⟨⟨hmust, by simpa using hnot⟩, hrequired⟩
  · rintro ⟨⟨hmust, hnot⟩, hrequired⟩
    exact ⟨⟨hmust, by simpa using hnot⟩, hrequired⟩

theorem length_le_count_iff :
    b.should.length ≤ b.count v ↔ ∀ q ∈ b.should, q.accepts v = true := by
  rw [count, List.countP_eq_length.symm]
  have hle := List.countP_le_length (p := Query.accepts v) (l := b.should)
  omega

end BoolQuery

/-! ## Leaves -/

namespace Query

/-- A clause that holds no other clauses. -/
def IsLeaf : Query → Prop
  | .bool _ _ _ _ | .filtered _ _ | .functionScore _ _ _ _ => False
  | .term _ | .range _ | .fullText _ _ | .multiMatch _ | .geoDistance _
  | .geoBoundingBox _ => True

theorem IsLeaf.accepts {q : Query} (h : q.IsLeaf) (v : Valuation) :
    q.accepts v = v q := by
  cases q with
  | bool => contradiction
  | filtered => contradiction
  | functionScore => contradiction
  | _ => rfl

@[simp] theorem accepts_ofTerm (v : Valuation) (field : String) (value : Json) :
    (ofTerm field value).accepts v = v (ofTerm field value) := rfl

@[simp] theorem accepts_lessThan (v : Valuation) (field : String) (value : Json) :
    (lessThan field value).accepts v = v (lessThan field value) := rfl

@[simp] theorem accepts_greaterThan (v : Valuation) (field : String) (value : Json) :
    (greaterThan field value).accepts v = v (greaterThan field value) := rfl

@[simp] theorem accepts_fullText (v : Valuation) (kind : MatchKind)
    (values : SortedMap Json) :
    (fullText kind values).accepts v = v (fullText kind values) := rfl

/-- What a clause leaves open: the clauses of a choice, or itself alone. -/
def options : Query → List Query
  | .bool [] (first :: rest) [] none => first :: rest
  | q => [q]

theorem accepts_anyOf {v : Valuation} {clauses : List Query} (h : clauses ≠ []) :
    (anyOf clauses).accepts v = true ↔ ∃ q ∈ clauses, q.accepts v = true := by
  have hquery : anyOf clauses = BoolQuery.toQuery { should := clauses } := rfl
  have hrequired : BoolQuery.required { should := clauses } = 1 := by
    simp [BoolQuery.required, h]
  rw [hquery, BoolQuery.accepts_toQuery, hrequired]
  have hpos := List.countP_pos_iff (p := Query.accepts v) (l := clauses)
  constructor
  · rintro ⟨-, hcount⟩
    simp only [BoolQuery.count] at hcount
    exact hpos.1 (by omega)
  · intro hexists
    have hcount := hpos.2 hexists
    refine ⟨⟨by simp, by simp⟩, ?_⟩
    simp only [BoolQuery.count]
    omega

theorem options_anyOf {clauses : List Query} (h : clauses ≠ []) :
    (anyOf clauses).options = clauses := by
  cases clauses with
  | nil => contradiction
  | cons first rest => rfl

theorem accepts_iff_options {v : Valuation} {q : Query}
    (h : ∀ leaf ∈ q.options, leaf.IsLeaf) :
    q.accepts v = true ↔ ∃ leaf ∈ q.options, v leaf = true := by
  unfold options at h ⊢
  split
  · next first rest =>
    have hany : (anyOf (first :: rest)).accepts v = true ↔
        ∃ q ∈ first :: rest, q.accepts v = true := accepts_anyOf (by simp)
    rw [anyOf] at hany
    rw [hany]
    exact exists_congr fun leaf => and_congr_right fun hleaf => by
      rw [(h leaf hleaf).accepts]
  · next hnot =>
    have hleaf := (h q (by simp)).accepts v
    simp [hleaf]

end Query

namespace BoolQuery

variable {v w : Valuation} {b : BoolQuery} {own : List Query}

def leaves (b : BoolQuery) : List Query :=
  b.must ++ b.mustNot ++ b.should.flatMap Query.options

/-- No clause holds others, but for a choice among leaves. -/
def IsFlat (b : BoolQuery) : Prop := ∀ q ∈ b.leaves, q.IsLeaf

theorem mem_leaves {q : Query} :
    q ∈ b.leaves ↔
      q ∈ b.must ∨ q ∈ b.mustNot ∨ ∃ clause ∈ b.should, q ∈ clause.options := by
  simp [leaves]

namespace IsFlat

theorem accepts_must (h : b.IsFlat) (v : Valuation) {q : Query}
    (hq : q ∈ b.must) : q.accepts v = v q :=
  (h q (mem_leaves.2 (.inl hq))).accepts v

theorem accepts_mustNot (h : b.IsFlat) (v : Valuation) {q : Query}
    (hq : q ∈ b.mustNot) : q.accepts v = v q :=
  (h q (mem_leaves.2 (.inr (.inl hq)))).accepts v

theorem accepts_should (h : b.IsFlat) (v : Valuation) {q : Query}
    (hq : q ∈ b.should) :
    q.accepts v = true ↔ ∃ leaf ∈ q.options, v leaf = true :=
  Query.accepts_iff_options fun leaf hleaf =>
    h leaf (mem_leaves.2 (.inr (.inr ⟨q, hq, hleaf⟩)))

/-- Only its own leaves tell what it accepts. -/
theorem congr (h : b.IsFlat) (hsame : ∀ q ∈ b.leaves, v q = w q) :
    (b.Meets v ↔ b.Meets w) ∧ b.count v = b.count w := by
  have hmust : ∀ q ∈ b.must, q.accepts v = q.accepts w := fun q hq => by
    rw [h.accepts_must v hq, h.accepts_must w hq,
      hsame q (mem_leaves.2 (.inl hq))]
  have hnot : ∀ q ∈ b.mustNot, q.accepts v = q.accepts w := fun q hq => by
    rw [h.accepts_mustNot v hq, h.accepts_mustNot w hq,
      hsame q (mem_leaves.2 (.inr (.inl hq)))]
  have hshould : ∀ q ∈ b.should,
      (q.accepts v = true ↔ q.accepts w = true) := fun q hq => by
    rw [h.accepts_should v hq, h.accepts_should w hq]
    exact exists_congr fun leaf => and_congr_right fun hleaf => by
      rw [hsame leaf (mem_leaves.2 (.inr (.inr ⟨q, hq, hleaf⟩)))]
  refine ⟨⟨fun hv => ⟨fun q hq => ?_, fun q hq => ?_⟩,
    fun hw => ⟨fun q hq => ?_, fun q hq => ?_⟩⟩, List.countP_congr hshould⟩
  · rw [← hmust q hq, hv.must q hq]
  · rw [← hnot q hq, hv.mustNot q hq]
  · rw [hmust q hq, hw.must q hq]
  · rw [hnot q hq, hw.mustNot q hq]

end IsFlat

/-! ## What a bool can be met without -/

/--
The bool can be met while none of `own` is true: no clause that must hold is one
of them or excluded, and enough of the clauses that should hold can be chosen
that each leave open an option which is neither.
-/
structure CanAvoid (b : BoolQuery) (own : List Query) : Prop where
  must : ∀ q ∈ b.must, q ∉ own ∧ q ∉ b.mustNot
  should : ∃ chosen : List Query, chosen.Sublist b.should ∧
    b.required ≤ chosen.length ∧
    ∀ q ∈ chosen, ∃ leaf ∈ q.options, leaf ∉ own ∧ leaf ∉ b.mustNot

theorem IsFlat.canAvoid (h : b.IsFlat) (haccepts : b.toQuery.accepts v = true)
    (hown : ∀ q ∈ own, v q = false) : b.CanAvoid own := by
  obtain ⟨hmeets, hrequired⟩ := accepts_toQuery.1 haccepts
  have hfree : ∀ q, v q = true → q ∉ own ∧ q ∉ b.mustNot := by
    intro q hq
    constructor
    · intro hmem
      simp [hown q hmem] at hq
    · intro hmem
      have hfalse := hmeets.mustNot q hmem
      rw [h.accepts_mustNot v hmem, hq] at hfalse
      contradiction
  refine ⟨fun q hq => hfree q ?_, b.should.filter (Query.accepts v),
    List.filter_sublist, ?_, ?_⟩
  · rw [← h.accepts_must v hq, hmeets.must q hq]
  · rwa [← List.countP_eq_length_filter]
  · intro q hq
    obtain ⟨hshould, hq⟩ := List.mem_filter.1 hq
    obtain ⟨leaf, hleaf, hv⟩ := (h.accepts_should v hshould).1 hq
    exact ⟨leaf, hleaf, hfree leaf hv⟩

/-- Everything is true but `own` and what must not hold. -/
noncomputable def without (b : BoolQuery) (own : List Query) : Valuation :=
  fun q => @decide (q ∉ own ∧ q ∉ b.mustNot) (Classical.propDecidable _)

theorem without_eq_true {q : Query} :
    b.without own q = true ↔ q ∉ own ∧ q ∉ b.mustNot := by
  simp [without]

theorem IsFlat.accepts_without (h : b.IsFlat) (havoid : b.CanAvoid own) :
    b.toQuery.accepts (b.without own) = true := by
  rw [accepts_toQuery]
  refine ⟨⟨fun q hq => ?_, fun q hq => ?_⟩, ?_⟩
  · rw [h.accepts_must _ hq]
    exact without_eq_true.2 (havoid.must q hq)
  · rw [h.accepts_mustNot _ hq, Bool.eq_false_iff]
    exact fun htrue => (without_eq_true.1 htrue).2 hq
  · obtain ⟨chosen, hsub, hrequired, hoptions⟩ := havoid.should
    have hchosen : ∀ q ∈ chosen, q.accepts (b.without own) = true := by
      intro q hq
      obtain ⟨leaf, hleaf, hfree⟩ := hoptions q hq
      exact (h.accepts_should _ (hsub.subset hq)).2
        ⟨leaf, hleaf, without_eq_true.2 hfree⟩
    have hle : chosen.length ≤ b.count (b.without own) := by
      rw [← List.countP_eq_length.2 hchosen]
      exact hsub.countP_le
    omega

/-- Leaves are insisted on unless the bool can be met without them. -/
theorem IsFlat.forall_accepts_iff (h : b.IsFlat) :
    (∀ v, b.toQuery.accepts v = true → ∃ q ∈ own, v q = true) ↔
      ¬b.CanAvoid own := by
  constructor
  · intro hall havoid
    -- Making true all that is neither its own nor excluded is enough for the bool.
    obtain ⟨q, hq, hv⟩ := hall _ (h.accepts_without havoid)
    exact (without_eq_true.1 hv).1 hq
  · intro hnot v haccepts
    by_contra hnone
    exact hnot (h.canAvoid haccepts fun q hq => by
      cases hv : v q with
      | false => rfl
      | true => exact absurd ⟨q, hq, hv⟩ hnone)

/-- With all of `should` required, the options of none of them can be avoided. -/
theorem not_canAvoid_options (h : (b.should.length : Int) ≤ b.required)
    {q : Query} (hq : q ∈ b.should) : ¬b.CanAvoid q.options := by
  rintro ⟨-, chosen, hsub, hrequired, hoptions⟩
  have hall : chosen = b.should := hsub.eq_of_length_le (by omega)
  obtain ⟨leaf, hleaf, hnot, -⟩ := hoptions q (hall ▸ hq)
  exact hnot hleaf

end BoolQuery

end SearchClient

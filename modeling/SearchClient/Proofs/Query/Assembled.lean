import SearchClient.Proofs.Entries
import SearchClient.Proofs.Except
import SearchClient.Query.Assemble

/-!
# Parts of a search body

Each part of the body of a search is made of its own part of the specification.
The aggregations are those of the requested columns; of several requests for one
column the last counts.
-/

namespace SearchClient.Specification

variable {s : Specification} {mode : SearchMode} {body : SearchBody}

/-- What the parts of a body are made of. -/
structure Assembled (s : Specification) (mode : SearchMode) (body : SearchBody) :
    Prop where
  query : s.modeQuery mode = .ok body.query
  highlight : body.highlight = s.highlight?
  aggregations : s.aggregations = .ok body.aggregations
  offset : body.offset = s.offset
  sort : SortClause.ofDirectives s.sort = .ok body.sort
  size : body.size = s.limit
  projection : body.projection =
    s.projection.filter fun columns => !columns.isEmpty

theorem searchBody_eq_ok : s.searchBody mode = .ok body ↔ s.Assembled mode body := by
  constructor
  · intro h
    obtain ⟨query, hquery, h⟩ := Except.bind_eq_ok.1 h
    obtain ⟨aggregations, haggregations, h⟩ := Except.bind_eq_ok.1 h
    obtain ⟨sort, hsort, h⟩ := Except.bind_eq_ok.1 h
    cases h
    exact ⟨hquery, rfl, haggregations, rfl, hsort, rfl, rfl⟩
  · intro h
    refine Except.bind_eq_ok.2 ⟨_, h.query, ?_⟩
    refine Except.bind_eq_ok.2 ⟨_, h.aggregations, ?_⟩
    refine Except.bind_eq_ok.2 ⟨_, h.sort, ?_⟩
    rw [← h.highlight, ← h.offset, ← h.size, ← h.projection]
    rfl

theorem Assembled.sort_isEmpty (h : s.Assembled mode body) :
    body.sort.isEmpty = s.sort.isEmpty := by
  have hclauses := Except.mapM_eq_ok.1 h.sort
  generalize s.sort = directives at hclauses ⊢
  generalize body.sort = clauses at hclauses ⊢
  cases hclauses with
  | nil => rfl
  | cons => rfl

/-! ## Highlighting -/

/-- A body asks for highlighting exactly when its answer is read for fragments. -/
theorem isSome_highlight? (s : Specification) :
    s.highlight?.isSome = s.wantsHighlight := by
  unfold highlight? wantsHighlight
  cases s.highlighted <;> cases s.highlightClass <;> cases s.highlightFields <;> rfl

/-- Fragments are read for the first of the fields that are asked for. -/
theorem highlightField?_eq_bind (s : Specification) :
    s.highlightField? = s.highlight?.bind fun shown => shown.fields.keys.head? := by
  unfold highlightField? highlight? wantsHighlight
  cases s.highlighted <;> cases s.highlightClass <;> cases s.highlightFields <;> rfl

/-! ## Aggregations -/

/-- One aggregation for each column that is asked for. -/
def columnAggregations (s : Specification) : SortedMap Aggregation :=
  .ofList ((s.groupColumns.getD []).map fun c =>
    (c.column, c.aggregation (s.groupSize.getD defaultGroupSize)))

theorem Assembled.aggregations_eq (h : s.Assembled mode body) :
    body.aggregations = if s.grouped then some s.columnAggregations else none := by
  have haggregations := h.aggregations
  unfold Specification.aggregations at haggregations
  split at haggregations
  · next hgrouped =>
    obtain ⟨requested, hrequested, hsome⟩ := Except.map_eq_ok.1 haggregations
    unfold Aggregation.ofColumns at hrequested
    split at hrequested
    · contradiction
    · rw [if_pos hgrouped, ← hsome, ← Except.ok.inj hrequested]
      rfl
  · next hnot => rw [if_neg hnot, ← Except.ok.inj haggregations]

end SearchClient.Specification

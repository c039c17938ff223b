import SearchClient.Proofs.Query.SearchBody
import SearchClient.Proofs.Query.Shape
import SearchClient.Request

/-!
# What a search sends

A search document has a key for each part that the specification asks for, in a
fixed order, and no other.  It is left out exactly when nothing is asked for.
-/

namespace SearchClient

open Json (entriesOf valueIfAny)

namespace SearchBody

/-- The keys of a body in their order, each with what stands under it. -/
def slots (body : SearchBody) : List (String × Option Json) := [
  ("query", body.query.map Query.written),
  ("highlight", body.highlight.map fun h => h.encode.collapse),
  ("aggs", body.aggregations.map fun m => (m.encode Aggregation.encode).collapse),
  ("from", body.offset.map .ofUInt64),
  ("sort", valueIfAny .array (body.sort.map fun clause => clause.encode.collapse)),
  ("size", body.size.map .ofUInt64),
  ("_source", body.projection.map .strings)]

theorem slots_ne_null (body : SearchBody) :
    ∀ slot ∈ body.slots, slot.2 ≠ some .null := by
  have hsort : valueIfAny Json.array
      (body.sort.map fun clause => clause.encode.collapse) ≠ some .null := by
    cases body.sort <;> simp [valueIfAny]
  simp [slots, hsort, Query.written_ne_null, Highlight.encode, SortedMap.encode,
    Json.collapse, Json.ofUInt64, Json.strings]

end SearchBody

namespace Specification

variable {s : Specification} {mode : SearchMode} {body : SearchBody}
  {host : Endpoint} {prepared : PreparedRequest}

/-- A keyword is searched for, unless a search type comes without columns. -/
def searchesKeyword (s : Specification) : Bool :=
  s.keyword.isSome && (s.searchType.isNone || s.columns.isSome)

/-- The keys of a search document in their order, each with whether the search asks
for what stands under it. -/
def requested (s : Specification) (mode : SearchMode) : List (String × Bool) := [
  ("query", mode ≠ .plain || s.hasFilters || s.searchesKeyword),
  ("highlight", s.highlighted && s.highlightClass.isSome && s.highlightFields.isSome),
  ("aggs", s.grouped),
  ("from", s.offset.isSome),
  ("sort", s.isSorted),
  ("size", s.limit.isSome),
  ("_source", s.projection.any fun columns => !columns.isEmpty)]

def requestedKeys (s : Specification) (mode : SearchMode) : List String :=
  ((s.requested mode).filter Prod.snd).map Prod.fst

/-- The search is a plain one without any condition or directive. -/
structure AsksForNothing (s : Specification) (mode : SearchMode) : Prop where
  plain : mode = .plain
  filters : s.filters = []
  geo : s.geo = none
  keyword : s.keyword = none ∨ s.searchType ≠ none ∧ s.columns = none
  highlight : ¬(s.highlighted = true ∧ s.highlightClass ≠ none ∧ s.highlightFields ≠ none)
  grouped : s.grouped = false
  offset : s.offset = none
  sort : s.sort = []
  limit : s.limit = none
  projection : s.projection = none ∨ s.projection = some []

/-! ## Parts that are asked for -/

theorem isSome_keywordClause? (s : Specification) :
    s.keywordClause?.isSome = s.searchesKeyword := by
  unfold keywordClause? searchesKeyword Query.ofKeyword?
  cases s.keyword <;> cases s.searchType <;> cases s.columns <;> rfl

theorem isSome_filter? (s : Specification) : s.filter?.isSome = s.hasFilters := by
  unfold filter?
  cases s.hasFilters <;> rfl

theorem Sends.isSome {query : Option Query} (h : s.Sends mode query) :
    query.isSome = (mode ≠ .plain || s.hasFilters || s.searchesKeyword) := by
  rw [← isSome_keywordClause?, ← isSome_filter?]
  cases h with
  | nothing hkeyword hfilter => simp [hkeyword, hfilter]
  | plain hsome => simpa [or_comm] using hsome
  | scored => simp
  | multiKeyword => simp

/-! ## Parts that are not asked for -/

theorem hasFilters_eq_false_iff :
    s.hasFilters = false ↔ s.filters = [] ∧ s.geo = none := by
  simp [hasFilters]

theorem searchesKeyword_eq_false_iff :
    s.searchesKeyword = false ↔
      s.keyword = none ∨ s.searchType ≠ none ∧ s.columns = none := by
  rw [searchesKeyword]
  cases s.keyword <;> cases s.searchType <;> cases s.columns <;> simp

theorem any_projection_eq_false_iff :
    s.projection.any (fun columns => !columns.isEmpty) = false ↔
      s.projection = none ∨ s.projection = some [] := by
  cases s.projection <;> simp

theorem requestedKeys_eq_nil_iff : s.requestedKeys mode = [] ↔ s.AsksForNothing mode := by
  have hnone : s.requestedKeys mode = [] ↔
      ((mode = .plain ∧ s.hasFilters = false) ∧ s.searchesKeyword = false) ∧
        (s.highlighted = true → s.highlightClass ≠ none →
          s.highlightFields = none) ∧
        s.grouped = false ∧ s.offset = none ∧ s.sort = [] ∧ s.limit = none ∧
        s.projection.any (fun columns => !columns.isEmpty) = false := by
    rw [requestedKeys, List.map_eq_nil_iff, List.filter_eq_nil_iff]
    simp [requested, isSorted, Option.isSome_iff_ne_none]
  rw [hnone, hasFilters_eq_false_iff, searchesKeyword_eq_false_iff,
    any_projection_eq_false_iff]
  constructor
  · rintro ⟨⟨⟨hplain, hfilters, hgeo⟩, hkeyword⟩, hhighlight, hgrouped, hoffset,
      hsort, hlimit, hprojection⟩
    exact ⟨hplain, hfilters, hgeo, hkeyword,
      fun ⟨hon, hclass, hfields⟩ => hfields (hhighlight hon hclass),
      hgrouped, hoffset, hsort, hlimit, hprojection⟩
  · intro h
    refine ⟨⟨⟨h.plain, h.filters, h.geo⟩, h.keyword⟩, fun hon hclass => ?_,
      h.grouped, h.offset, h.sort, h.limit, h.projection⟩
    exact not_not.1 fun hfields => h.highlight ⟨hon, hclass, hfields⟩

/-! ## The document -/

theorem isSome_slots (h : s.searchBody mode = .ok body) :
    body.slots.map (fun slot => (slot.1, slot.2.isSome)) = s.requested mode := by
  have hparts := searchBody_eq_ok.1 h
  have hsort : (valueIfAny Json.array
      (body.sort.map fun clause => clause.encode.collapse)).isSome = s.isSorted := by
    rw [isSorted, ← hparts.sort_isEmpty]
    cases body.sort <;> rfl
  have haggregations : body.aggregations.isSome = s.grouped := by
    rw [hparts.aggregations_eq]
    cases s.grouped <;> rfl
  have hprojection : body.projection.isSome =
      s.projection.any fun columns => !columns.isEmpty := by
    rw [hparts.projection, Option.isSome_filter]
  simp only [SearchBody.slots, requested, List.map_cons, List.map_nil, Option.isSome_map,
    (sends_of_searchBody h).isSome, hparts.highlight, isSome_highlight?, wantsHighlight,
    hparts.offset, hparts.size, hsort, haggregations, hprojection]

theorem collapse_searchBody (h : s.searchBody mode = .ok body) :
    ∃ fields : Entries Json, body.encode.collapse = .object fields ∧
      fields.keys = s.requestedKeys mode ∧ ∀ field ∈ fields, field.2 ≠ .null := by
  refine ⟨entriesOf body.slots, body.collapse_encode, ?_, ?_⟩
  · rw [Entries.keys, Json.keys_entriesOf, requestedKeys, ← isSome_slots h, List.filter_map,
      List.map_map]
    rfl
  · rintro ⟨name, value⟩ hfield rfl
    exact body.slots_ne_null _ (Json.mem_entriesOf.1 hfield) rfl

theorem exists_body_of_prepare (h : s.prepare host (.search mode) = .ok prepared) :
    ∃ body, s.searchBody mode = .ok body ∧ prepared.body = searchDocument body := by
  rw [prepare, prepareSearch] at h
  split at h
  · contradiction
  · obtain ⟨body, hbody, rfl⟩ := Except.map_eq_ok.1 h
    exact ⟨body, hbody, rfl⟩

/-- A search sends nothing exactly when it asks for nothing.  Otherwise it sends an
object whose keys are those of the parts it asks for, none of them `null`. -/
theorem search_sends_requested (h : s.prepare host (.search mode) = .ok prepared) :
    (prepared.body = none ↔ s.AsksForNothing mode) ∧
    (¬s.AsksForNothing mode →
      ∃ fields : Entries Json, prepared.body = some (.object fields) ∧
        fields ≠ [] ∧ fields.keys = s.requestedKeys mode ∧
        ∀ field ∈ fields, field.2 ≠ .null) := by
  obtain ⟨body, hbody, hdocument⟩ := exists_body_of_prepare h
  obtain ⟨fields, hfields, hkeys, hnull⟩ := collapse_searchBody hbody
  rw [hdocument, searchDocument, hfields, ← requestedKeys_eq_nil_iff, ← hkeys]
  cases fields with
  | nil => simp [Entries.keys]
  | cons field fields =>
      have hne : Entries.keys (field :: fields) ≠ [] := List.cons_ne_nil _ _
      exact ⟨iff_of_false (Option.some_ne_none _) hne,
        fun _ => ⟨_, rfl, List.cons_ne_nil _ _, rfl, hnull⟩⟩

/-- An empty projection asks for nothing, nor does a keyword without the columns of
its search type; highlighting without a class is off. -/
theorem search_sends_requested_of_idle_and_paged :
    let host : Endpoint := ⟨{
      scheme := "http"
      host := .name "localhost"
      port := some 9200
      path := [[]] }⟩
    let idle : Specification := { target "books" "book" with
      keyword := some (.one "rust")
      searchType := some "phrase"
      highlighted := true
      highlightFields := some []
      projection := some [] }
    let paged : Specification := { idle with
      columns := some ["title"]
      sort := [.field { field := "year" }]
      limit := some 10 }
    (∃ prepared, idle.prepare host (.search .plain) = .ok prepared ∧
      prepared.body = none) ∧
    (∃ prepared fields, paged.prepare host (.search .plain) = .ok prepared ∧
      prepared.body = some (.object fields) ∧
      Entries.keys fields = ["query", "sort", "size"]) := by
  intro host idle paged
  obtain ⟨first, hfirst⟩ :
      ∃ prepared, idle.prepare host (.search .plain) = .ok prepared := ⟨_, rfl⟩
  obtain ⟨second, hsecond⟩ :
      ∃ prepared, paged.prepare host (.search .plain) = .ok prepared := ⟨_, rfl⟩
  constructor
  · refine ⟨first, hfirst, (search_sends_requested hfirst).1.2 ?_⟩
    exact {
      plain := rfl
      filters := rfl
      geo := rfl
      keyword := .inr ⟨nofun, rfl⟩
      highlight := fun h => h.2.1 rfl
      grouped := rfl
      offset := rfl
      sort := rfl
      limit := rfl
      projection := .inr rfl }
  · have hasks : ¬paged.AsksForNothing .plain := fun h => nomatch h.limit
    obtain ⟨fields, hfields, -, hkeys, -⟩ := (search_sends_requested hsecond).2 hasks
    exact ⟨second, fields, hsecond, hfields, hkeys⟩

end Specification

end SearchClient

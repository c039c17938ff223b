import SearchClient.Proofs.Query.RoundTrip
import SearchClient.Proofs.Query.Sort

/-!
# Search bodies read back

A search body is read back from what it is sent as, whatever is nested in its
query, unless a bound of a range is `null` or a point stands under a key of the
clause that holds it.
-/

namespace SearchClient

open Json (entriesOf valueIfAny)

namespace Highlight

theorem decode_encode {h : Highlight}
    (hfields : (Json.object h.fields).WellFormed) :
    decode h.encode.collapse = .ok h := by
  have hplain : shape.IsPlain := ⟨by decide, by simp [shape]⟩
  have hslots := Shape.decode_slots hplain
    (shape.fields.zip [some (.strings h.preTags), some (.strings h.postTags),
      some (.object h.fields)])
    rfl (by simp [shape])
  rw [encode, Json.collapse_object (by simp)]
  simp only [List.map_cons, List.map_nil, Json.collapse_strings,
    Json.collapse_of_wellFormed _ hfields]
  apply hslots.trans
  refine Field.bind_required.2 ⟨_, Decode.list_strings _, ?_⟩
  refine Field.bind_required.2 ⟨_, Decode.list_strings _, ?_⟩
  exact Field.bind_required.2 ⟨_, rfl, rfl⟩

end Highlight

theorem Aggregation.decode_encode (a : Aggregation) :
    decode a.encode.collapse = .ok a := by
  have hterms : termsShape.IsPlain := ⟨by decide, by simp [termsShape]⟩
  have hplain : shape.IsPlain := ⟨by decide, by simp [shape]⟩
  have horder :
      Decode.sortedMap Decode.string (a.order.encode .string).collapse =
        .ok a.order :=
    Decode.sortedMap_iff.2 fun _ _ => rfl
  have hinner := Shape.decode_slots hterms
    (termsShape.fields.zip [some (.string a.field),
      some (a.order.encode .string).collapse, some (.ofUInt64 a.size)])
    rfl (by simp [termsShape])
  have hread : termsShape.decode (.object [
      ("field", .string a.field),
      ("order", (a.order.encode .string).collapse),
      ("size", .ofUInt64 a.size)]) = .ok a := by
    apply hinner.trans
    refine Field.bind_required.2 ⟨_, rfl, ?_⟩
    refine Field.bind_required.2 ⟨_, horder, ?_⟩
    exact Field.bind_required.2 ⟨_, Decode.size_ofUInt64 _, rfl⟩
  have houter := Shape.decode_slots hplain
    (shape.fields.zip [some (.object [
      ("field", .string a.field),
      ("order", (a.order.encode .string).collapse),
      ("size", .ofUInt64 a.size)])])
    rfl (by simp [shape])
  rw [encode, Json.collapse_single, Json.collapse_object (by simp)]
  apply houter.trans
  exact Field.bind_required.2 ⟨_, hread, rfl⟩

namespace SearchBody

/-- A query that stands in the body at any depth. -/
def Contains (b : SearchBody) (clause : Query) : Prop :=
  ∃ q, b.query = some q ∧ clause.Within q

/--
What the types of a body promise of its values: no object has a key twice, and
no float is infinite or no number.
-/
structure IsRegular (b : SearchBody) : Prop where
  query : ∀ clause, b.Contains clause → clause.IsRegular
  highlight : ∀ h, b.highlight = some h → (Json.object h.fields).WellFormed
  sort : ∀ clause ∈ b.sort, clause.IsRegular

theorem collapse_encode (b : SearchBody) :
    b.encode.collapse = .object (entriesOf [
      ("query", b.query.map Query.written),
      ("highlight", b.highlight.map fun h => h.encode.collapse),
      ("aggs",
        b.aggregations.map fun m => (m.encode Aggregation.encode).collapse),
      ("from", b.offset.map .ofUInt64),
      ("sort",
        valueIfAny .array (b.sort.map fun clause => clause.encode.collapse)),
      ("size", b.size.map .ofUInt64),
      ("_source", b.projection.map .strings)]) := by
  have hentries : b.encode = .object (entriesOf [
      ("query", b.query.map Query.encode),
      ("highlight", b.highlight.map Highlight.encode),
      ("aggs", b.aggregations.map (SortedMap.encode Aggregation.encode)),
      ("from", b.offset.map .ofUInt64),
      ("sort", valueIfAny .array (b.sort.map SortClause.encode)),
      ("size", b.size.map .ofUInt64),
      ("_source", b.projection.map .strings)]) := by
    simp [encode, entriesOf, Json.entryIfSome_eq, Json.entryIfAny_eq,
      Json.valueIfAny_map]
  rw [hentries, Json.collapse_entriesOf (by simp)]
  simp only [List.map_cons, List.map_nil, Option.map_map,
    Json.map_collapse_valueIfAny, List.map_map, Function.comp_def,
    Json.collapse_ofUInt64, Json.collapse_strings]
  rfl

theorem decode_iff
    {query highlight aggregations offset sort size projection : Option Json}
    {b : SearchBody} :
    decode (.object (entriesOf [
      ("query", query),
      ("highlight", highlight),
      ("aggs", aggregations),
      ("from", offset),
      ("sort", sort),
      ("size", size),
      ("_source", projection)])) = .ok b ↔
    Decode.orDefault none (Decode.optional Query.decode) query = .ok b.query ∧
      Decode.orDefault none (Decode.optional Highlight.decode) highlight =
        .ok b.highlight ∧
      Decode.orDefault none
          (Decode.optional (Decode.sortedMap Aggregation.decode)) aggregations =
        .ok b.aggregations ∧
      Decode.orDefault none (Decode.optional Decode.word64) offset =
        .ok b.offset ∧
      Decode.orDefault [] (Decode.list SortClause.decode) sort = .ok b.sort ∧
      Decode.orDefault none (Decode.optional Decode.word64) size = .ok b.size ∧
      Decode.orDefault none (Decode.optional (Decode.list Decode.string))
          projection =
        .ok b.projection := by
  have hplain : shape.IsPlain := ⟨by decide, by simp [shape]⟩
  have hslots := Shape.decode_slots hplain
    (shape.fields.zip
      [query, highlight, aggregations, offset, sort, size, projection])
    rfl (by simp [shape])
  apply (Eq.congr_left hslots).trans
  constructor
  · intro h
    obtain ⟨first, hfirst, h⟩ := (Field.bind_defaulted none (by rfl)).1 h
    obtain ⟨second, hsecond, h⟩ := (Field.bind_defaulted none (by rfl)).1 h
    obtain ⟨third, hthird, h⟩ := (Field.bind_defaulted none (by rfl)).1 h
    obtain ⟨fourth, hfourth, h⟩ := (Field.bind_defaulted none (by rfl)).1 h
    obtain ⟨fifth, hfifth, h⟩ := (Field.bind_defaulted [] (by rfl)).1 h
    obtain ⟨sixth, hsixth, h⟩ := (Field.bind_defaulted none (by rfl)).1 h
    obtain ⟨seventh, hseventh, h⟩ := (Field.bind_defaulted none (by rfl)).1 h
    obtain rfl := Except.ok.inj h
    exact ⟨hfirst, hsecond, hthird, hfourth, hfifth, hsixth, hseventh⟩
  · rintro
      ⟨hquery, hhighlight, haggregations, hoffset, hsort, hsize, hprojection⟩
    refine (Field.bind_defaulted none rfl).2 ⟨_, hquery, ?_⟩
    refine (Field.bind_defaulted none rfl).2 ⟨_, hhighlight, ?_⟩
    refine (Field.bind_defaulted none rfl).2 ⟨_, haggregations, ?_⟩
    refine (Field.bind_defaulted none rfl).2 ⟨_, hoffset, ?_⟩
    refine (Field.bind_defaulted [] rfl).2 ⟨_, hsort, ?_⟩
    refine (Field.bind_defaulted none rfl).2 ⟨_, hsize, ?_⟩
    exact (Field.bind_defaulted none rfl).2 ⟨_, hprojection, rfl⟩

/-! ## Parts of a body -/

variable {b : SearchBody}

theorem decode_query_iff (h : b.IsRegular) :
    Decode.orDefault none (Decode.optional Query.decode)
        (b.query.map Query.written) = .ok b.query ↔
      ∀ clause, b.Contains clause → clause.IsReadable := by
  rw [Decode.orDefault_map_iff Query.written_ne_null]
  constructor
  · rintro hread clause ⟨q, hq, hwithin⟩
    have hregular := fun c hc => h.query c ⟨q, hq, hc⟩
    exact (Query.decode_written_iff hregular).1 (hread q hq) clause hwithin
  · intro hreadable q hq
    have hregular := fun c hc => h.query c ⟨q, hq, hc⟩
    exact (Query.decode_written_iff hregular).2 fun c hc =>
      hreadable c ⟨q, hq, hc⟩

theorem decode_highlight (h : b.IsRegular) :
    Decode.orDefault none (Decode.optional Highlight.decode)
      (b.highlight.map fun h => h.encode.collapse) = .ok b.highlight := by
  refine (Decode.orDefault_map_iff fun h => ?_).2 fun highlight hsome => ?_
  · simp [Highlight.encode, Json.collapse]
  · exact Highlight.decode_encode (h.highlight highlight hsome)

theorem decode_aggregations (b : SearchBody) :
    Decode.orDefault none
      (Decode.optional (Decode.sortedMap Aggregation.decode))
      (b.aggregations.map fun m => (m.encode Aggregation.encode).collapse) =
        .ok b.aggregations := by
  refine (Decode.orDefault_map_iff fun m => ?_).2 fun m _ => ?_
  · simp [SortedMap.encode, Json.collapse]
  · exact Decode.sortedMap_iff.2 fun entry _ =>
      Aggregation.decode_encode entry.2

theorem decode_count (count : Option UInt64) :
    Decode.orDefault none (Decode.optional Decode.word64)
      (count.map .ofUInt64) = .ok count :=
  (Decode.orDefault_map_iff (by simp [Json.ofUInt64])).2 fun n _ =>
    Decode.word64_ofUInt64 n

theorem decode_projection (columns : Option (List String)) :
    Decode.orDefault none (Decode.optional (Decode.list Decode.string))
      (columns.map .strings) = .ok columns :=
  (Decode.orDefault_map_iff (by simp [Json.strings])).2 fun names _ =>
    Decode.list_strings names

theorem decode_sort_iff (h : b.IsRegular) :
    Decode.orDefault [] (Decode.list SortClause.decode)
        (valueIfAny .array (b.sort.map fun clause => clause.encode.collapse)) =
          .ok b.sort ↔
      ∀ clause ∈ b.sort, clause.IsReadable := by
  rw [Decode.orDefault_ifAny_iff]
  exact forall₂_congr fun clause hclause =>
    SortClause.decode_encode_iff (h.sort clause hclause)

/-! ## Conditions -/

theorem forall_contains_iff :
    (∀ clause, b.Contains clause → clause.IsReadable) ↔
      (∀ bounds, b.Contains (.range bounds) →
        ∀ entry ∈ bounds.toList,
          entry.2.greater ≠ some .null ∧ entry.2.less ≠ some .null) ∧
      ∀ clause, b.Contains (.geoDistance clause) →
        "distance" ∉ clause.point.keys := by
  constructor
  · intro h
    exact ⟨fun bounds hmem => h _ hmem, fun clause hmem => h _ hmem⟩
  · rintro ⟨hrange, hdistance⟩ clause hmem
    cases clause with
    | range bounds => exact hrange bounds hmem
    | geoDistance clause => exact hdistance clause hmem
    | _ => trivial

theorem forall_sort_iff :
    (∀ clause ∈ b.sort, clause.IsReadable) ↔
      ∀ clause, .geoDistance clause ∈ b.sort →
        ∀ key ∈ GeoDistanceSort.ownKeys, key ∉ clause.point.keys := by
  constructor
  · intro h clause hmem
    exact h _ hmem
  · intro h clause hmem
    cases clause with
    | geoDistance clause => exact h clause hmem
    | _ => trivial

/--
A body is read back from what it is sent as exactly when no bound of a range in
it is `null`, no distance has a point under the name of the distance, and no
sort by distance has one under a key of its own.  Each sort clause by itself
comes back as it was, a sort by fields whatever they are called.
-/
theorem reads_back_iff {b : SearchBody} (h : b.IsRegular) :
    (decode b.encode.collapse = .ok b ↔
      (∀ bounds, b.Contains (.range bounds) →
        ∀ entry ∈ bounds.toList,
          entry.2.greater ≠ some .null ∧ entry.2.less ≠ some .null) ∧
      (∀ clause, b.Contains (.geoDistance clause) →
        "distance" ∉ clause.point.keys) ∧
      (∀ clause, .geoDistance clause ∈ b.sort →
        ∀ key ∈ ["order", "unit", "distance_type", "mode"],
          key ∉ clause.point.keys)) ∧
    ∀ clause ∈ b.sort,
      (∀ distance, clause = .geoDistance distance →
        ∀ key ∈ ["order", "unit", "distance_type", "mode"],
          key ∉ distance.point.keys) →
      SortClause.decode clause.encode.collapse = .ok clause := by
  constructor
  · rw [collapse_encode, decode_iff, decode_query_iff h, decode_sort_iff h,
      forall_contains_iff, forall_sort_iff]
    simp only [decode_highlight h, decode_aggregations, decode_count,
      decode_projection, true_and, and_true, and_assoc, GeoDistanceSort.ownKeys]
  · intro clause hclause hkeys
    apply (SortClause.decode_encode_iff (h.sort clause hclause)).2
    cases clause with
    | geoDistance distance => exact hkeys distance rfl
    | script script => trivial
    | field clauses => trivial

theorem reads_back_iff_at_bounds :
    let body (bound : Json) : SearchBody := {
      query := some (.anyOf [.greaterThan "age" bound])
      sort := [.field (.singleton "_script" ⟨"asc", true⟩)] }
    decode (body (.ofUInt64 18)).encode.collapse = .ok (body (.ofUInt64 18)) ∧
      decode (body .null).encode.collapse ≠ .ok (body .null) := by
  intro body
  have hcontains : ∀ bound clause, (body bound).Contains clause ↔
      clause = .anyOf [.greaterThan "age" bound] ∨
        clause = .greaterThan "age" bound := by
    intro bound clause
    constructor
    · rintro ⟨q, hquery, hwithin⟩
      obtain rfl := Option.some.inj hquery
      cases hwithin with
      | self => exact .inl rfl
      | child hchild hwithin =>
          obtain rfl := List.mem_singleton.1 hchild
          cases hwithin with
          | self => exact .inr rfl
          | child hchild _ => simp [Query.greaterThan, Query.children] at hchild
    · rintro (rfl | rfl)
      · exact ⟨_, rfl, .self⟩
      · exact ⟨_, rfl, .child List.mem_cons_self .self⟩
  have hregular :
      ∀ bound : Json, bound.WellFormed → (body bound).IsRegular := by
    intro bound hbound
    refine ⟨fun clause hclause => ?_, by simp [body], ?_⟩
    · rcases (hcontains bound clause).1 hclause with rfl | rfl
      · trivial
      · simpa [Query.greaterThan, Query.IsRegular, RangeBounds.IsWellFormed]
          using hbound
    · simp [body, SortClause.IsRegular]
  constructor
  · refine (reads_back_iff (hregular (.ofUInt64 18) trivial)).1.2 ⟨?_, ?_,
      by simp [body]⟩
    · intro bounds hbounds
      cases (hcontains _ _).1 hbounds with
      | inl h => simp [Query.anyOf] at h
      | inr h =>
          rw [Query.range.inj h]
          simp [Json.ofUInt64]
    · intro clause hclause
      cases (hcontains _ _).1 hclause with
      | inl h => simp [Query.anyOf] at h
      | inr h => simp [Query.greaterThan] at h
  · intro hread
    have hbounds := ((reads_back_iff (hregular .null trivial)).1.1 hread).1 _
      ((hcontains .null _).2 (.inr rfl))
    simp at hbounds

end SearchBody

end SearchClient

import SearchClient.Proofs.Query.Clause

/-!
# Queries read back

A query is read back from what it is sent as exactly when every clause in it
can be told from what another clause would be sent as.  One step of reading goes
from a query to the queries that it holds; the depth of what is sent bounds the
steps.
-/

namespace SearchClient

open Json (entriesOf valueIfAny)

namespace Query

def children : Query → List Query
  | .bool must should mustNot _ => must ++ should ++ mustNot
  | .filtered query filter => query.toList ++ filter.toList
  | .functionScore query filter functions _ =>
      query.toList ++ filter.toList ++ functions.map Prod.snd
  | _ => []

/-- A query itself and all that stands in it at any depth. -/
inductive Within (clause : Query) : Query → Prop where
  | self : Within clause clause
  | child {q c : Query} (hchild : c ∈ q.children) (h : Within clause c) :
      Within clause q

/--
What the types of a clause promise of its values: no object has a key twice,
and no float is infinite or no number.
-/
def IsRegular : Query → Prop
  | .term values => ∀ entry ∈ values.toList, entry.2.WellFormed
  | .range bounds => ∀ entry ∈ bounds.toList, entry.2.IsWellFormed
  | .fullText _ values => ∀ entry ∈ values.toList, entry.2.WellFormed
  | .geoDistance clause => ∀ entry ∈ clause.point.toList, entry.2.IsFinite
  | .geoBoundingBox boxes => ∀ entry ∈ boxes.toList, entry.2.IsFinite
  | .functionScore _ _ functions _ =>
      ∀ function ∈ functions, function.1.isFinite = true
  | .bool _ _ _ _ => True
  | .multiMatch _ => True
  | .filtered _ _ => True

/-- A clause that is told from what other clauses are sent as. -/
def IsReadable : Query → Prop
  | .range bounds =>
      ∀ entry ∈ bounds.toList,
        entry.2.greater ≠ some .null ∧ entry.2.less ≠ some .null
  | .geoDistance clause => "distance" ∉ clause.point.keys
  | _ => True

/-! ## Written forms -/

theorem encodeAll_eq_map (qs : List Query) : encodeAll qs = qs.map encode := by
  induction qs with
  | nil => rfl
  | cons q qs ih => rw [encodeAll, ih, List.map_cons]

theorem encodeOption_eq_map (q : Option Query) :
    encodeOption q = q.map encode := by
  cases q <;> rfl

theorem encodeFunctions_eq_map (functions : List (Binary64 × Query)) :
    encodeFunctions functions = functions.map fun function =>
      .object [("weight", .ofBinary64 function.1),
        ("filter", function.2.encode)] := by
  induction functions with
  | nil => rfl
  | cons function functions ih =>
      obtain ⟨weight, filter⟩ := function
      rw [encodeFunctions, ih, List.map_cons]

def written (q : Query) : Json := q.encode.collapse

def writtenFunction (function : Binary64 × Query) : Json :=
  .object [("weight", .ofBinary64 function.1), ("filter", function.2.written)]

theorem written_bool (must should mustNot : List Query)
    (minimum : Option Int64) :
    (Query.bool must should mustNot minimum).written =
      .object [("bool", .object (entriesOf [
        ("must", valueIfAny .array (must.map written)),
        ("should", valueIfAny .array (should.map written)),
        ("must_not", valueIfAny .array (mustNot.map written)),
        ("minimum_should_match", minimum.map .ofInt64)]))] := by
  have hentries : (Query.bool must should mustNot minimum).encode =
      .object [("bool", .object (entriesOf [
        ("must", valueIfAny .array (must.map encode)),
        ("should", valueIfAny .array (should.map encode)),
        ("must_not", valueIfAny .array (mustNot.map encode)),
        ("minimum_should_match", minimum.map .ofInt64)]))] := by
    simp [Query.encode, entriesOf, Json.entryIfAny_eq, Json.entryIfSome_eq,
      encodeAll_eq_map]
  rw [written, hentries, Json.collapse_single,
    Json.collapse_entriesOf (by simp)]
  simp only [List.map_cons, List.map_nil, Json.map_collapse_valueIfAny,
    List.map_map, Option.map_map]
  rfl

theorem written_filtered (query filter : Option Query) :
    (Query.filtered query filter).written =
      .object [("filtered", .object (entriesOf [
        ("query", query.map written),
        ("filter", filter.map written)]))] := by
  have hentries : (Query.filtered query filter).encode =
      .object [("filtered", .object (entriesOf [
        ("query", query.map encode),
        ("filter", filter.map encode)]))] := by
    simp [Query.encode, entriesOf, Json.entryIfSome_eq, encodeOption_eq_map]
  rw [written, hentries, Json.collapse_single,
    Json.collapse_entriesOf (by simp)]
  simp only [List.map_cons, List.map_nil, Option.map_map]
  rfl

theorem written_functionScore (query filter : Option Query)
    (functions : List (Binary64 × Query)) (scoreMode : Option String) :
    (Query.functionScore query filter functions scoreMode).written =
      .object [("function_score", .object (entriesOf [
        ("query", query.map written),
        ("filter", filter.map written),
        ("functions", some (.array (functions.map writtenFunction))),
        ("score_mode", scoreMode.map .string)]))] := by
  have hentries :
      (Query.functionScore query filter functions scoreMode).encode =
        .object [("function_score", .object (entriesOf [
          ("query", query.map encode),
          ("filter", filter.map encode),
          ("functions", some (.array (encodeFunctions functions))),
          ("score_mode", scoreMode.map .string)]))] := by
    simp [Query.encode, entriesOf, Json.entryIfSome_eq, encodeOption_eq_map]
  have hfunction : ∀ function : Binary64 × Query,
      (Json.object [("weight", .ofBinary64 function.1),
        ("filter", function.2.encode)]).collapse =
        writtenFunction function := by
    intro function
    rw [Json.collapse_object (by simp)]
    simp [writtenFunction, written]
  rw [written, hentries, Json.collapse_single,
    Json.collapse_entriesOf (by simp)]
  simp only [List.map_cons, List.map_nil, Option.map_map, Option.map_some,
    Json.collapse_array, encodeFunctions_eq_map, List.map_map,
    Function.comp_def, hfunction]
  rfl

theorem written_ne_null (q : Query) : q.written ≠ .null := by
  cases q with
  | bool must should mustNot minimum => simp [written_bool]
  | filtered query filter => simp [written_filtered]
  | functionScore query filter functions scoreMode =>
      simp [written_functionScore]
  | _ => simp [written, encode]

/-! ## One step -/

theorem decode_functions_iff {inner : Decoder Query}
    {functions : List (Binary64 × Query)}
    (h : ∀ function ∈ functions, function.1.isFinite = true) :
    Decode.list (scoreFunctionShape inner).decode
        (.array (functions.map writtenFunction)) = .ok functions ↔
      ∀ function ∈ functions, inner function.2.written = .ok function.2 := by
  rw [Decode.list_map_iff]
  apply forall₂_congr
  intro function hfunction
  rw [writtenFunction, decode_scoreFunction_iff,
    Decode.double_ofBinary64 (h function hfunction)]
  exact and_iff_right rfl

/--
A query is read back in one step exactly when it is told from others and
what it holds is read back inside.
-/
theorem variant_written_iff {inner : Decoder Query} {q : Query}
    (h : q.IsRegular) :
    Decode.variant (variants inner) q.written = .ok q ↔
      q.IsReadable ∧ ∀ c ∈ q.children, inner c.written = .ok c := by
  cases q with
  | bool must should mustNot minimum =>
      have hminimum : Decode.orDefault none (Decode.optional Decode.signed64)
          (minimum.map .ofInt64) = .ok minimum :=
        (Decode.orDefault_map_iff (by simp [Json.ofInt64])).2 fun n _ =>
          Decode.signed64_ofInt64 n
      rw [written_bool]
      refine (Decode.variant_carrying_iff
        (a := ⟨must, should, mustNot, minimum⟩) rfl
        BoolQuery.toQuery_injective).trans ?_
      rw [BoolQuery.decode_iff, Decode.orDefault_ifAny_iff,
        Decode.orDefault_ifAny_iff, Decode.orDefault_ifAny_iff]
      simp only [hminimum, IsReadable, children, List.forall_mem_append,
        and_true, true_and, and_assoc]
  | term values =>
      rw [written, encode, Json.collapse_single]
      apply (Decode.variant_carrying_iff rfl fun _ _ => Query.term.inj).trans
      simp [Decode.sortedMap_value h, IsReadable, children]
  | range bounds =>
      rw [written, encode, Json.collapse_single]
      apply (Decode.variant_carrying_iff rfl fun _ _ => Query.range.inj).trans
      rw [Decode.sortedMap_iff]
      simp only [children, List.not_mem_nil, false_imp_iff, implies_true,
        and_true]
      exact forall₂_congr fun entry hentry =>
        RangeBounds.decode_encode_iff (h entry hentry)
  | fullText kind values =>
      rw [written, encode, Json.collapse_single]
      have hlookup :
          (variants inner).lookup kind.name =
            some (fullTextVariant kind).2 := by
        cases kind <;> rfl
      apply (Decode.variant_carrying_iff hlookup fun _ _ heq =>
        (Query.fullText.inj heq).2).trans
      simp [Decode.sortedMap_value h, IsReadable, children]
  | multiMatch clause =>
      rw [written, encode, Json.collapse_single]
      apply (Decode.variant_carrying_iff rfl fun _ _ =>
        Query.multiMatch.inj).trans
      simp [MultiMatch.decode_encode, IsReadable, children]
  | geoDistance clause =>
      rw [written, encode, Json.collapse_single]
      apply (Decode.variant_carrying_iff rfl fun _ _ =>
        Query.geoDistance.inj).trans
      rw [GeoDistance.decode_encode_iff h]
      simp [IsReadable, children]
  | geoBoundingBox boxes =>
      rw [written, encode, Json.collapse_single]
      apply (Decode.variant_carrying_iff rfl fun _ _ =>
        Query.geoBoundingBox.inj).trans
      rw [Decode.sortedMap_iff]
      simpa [IsReadable, children] using fun key box hbox =>
        BoundingBox.decode_encode (h (key, box) hbox)
  | filtered query filter =>
      rw [written_filtered]
      refine (Decode.variant_carrying_iff (a := ⟨query, filter⟩) rfl
        FilteredParts.toQuery_injective).trans ?_
      rw [FilteredParts.decode_iff, Decode.orDefault_map_iff written_ne_null,
        Decode.orDefault_map_iff written_ne_null]
      simp only [IsReadable, children, List.forall_mem_append,
        Option.mem_toList, true_and]
  | functionScore query filter functions scoreMode =>
      have hscoreMode : Decode.orDefault none (Decode.optional Decode.string)
          (scoreMode.map .string) = .ok scoreMode :=
        (Decode.orDefault_map_iff (by simp)).2 fun _ _ => rfl
      rw [written_functionScore]
      refine (Decode.variant_carrying_iff
        (a := ⟨query, filter, functions, scoreMode⟩) rfl
        FunctionScoreParts.toQuery_injective).trans ?_
      rw [FunctionScoreParts.decode_iff,
        Decode.orDefault_map_iff written_ne_null,
        Decode.orDefault_map_iff written_ne_null, decode_functions_iff h,
        hscoreMode]
      simp only [IsReadable, children, List.forall_mem_append,
        List.forall_mem_map, Option.mem_toList, true_and, and_true, and_assoc]

/-! ## All steps -/

theorem depth_lt_entriesOf {value : Json} {slots : List (String × Option Json)}
    (h : some value ∈ slots.map Prod.snd) :
    value.depth < (Json.object (entriesOf slots)).depth := by
  obtain ⟨⟨name, _⟩, hslot, rfl⟩ := List.mem_map.1 h
  refine Json.depth_lt_object (List.mem_map.2 ⟨(name, value), ?_, rfl⟩)
  exact List.mem_flatMap.2 ⟨_, hslot, List.mem_singleton.2 rfl⟩

theorem depth_lt_valueIfAny {item : Json} {items : List Json}
    {slots : List (String × Option Json)} (hitem : item ∈ items)
    (h : valueIfAny .array items ∈ slots.map Prod.snd) :
    item.depth < (Json.object (entriesOf slots)).depth := by
  cases items with
  | nil => simp at hitem
  | cons first items =>
      exact Nat.lt_trans (Json.depth_lt_array hitem) (depth_lt_entriesOf h)

theorem depth_child {q c : Query} (h : c ∈ q.children) :
    c.written.depth < q.written.depth := by
  have houter : ∀ {name : String} {payload : Json},
      c.written.depth < payload.depth →
        c.written.depth < (Json.object [(name, payload)]).depth :=
    fun hlt => Nat.lt_trans hlt (Json.depth_lt_object (by simp))
  cases q with
  | bool must should mustNot minimum =>
      rw [written_bool]
      apply houter
      simp only [children, List.mem_append] at h
      rcases h with (h | h) | h <;>
        exact depth_lt_valueIfAny (List.mem_map_of_mem h) (by simp)
  | filtered query filter =>
      rw [written_filtered]
      apply houter
      simp only [children, List.mem_append, Option.mem_toList] at h
      rcases h with rfl | rfl <;> exact depth_lt_entriesOf (by simp)
  | functionScore query filter functions scoreMode =>
      rw [written_functionScore]
      apply houter
      simp only [children, List.mem_append, Option.mem_toList, List.mem_map]
        at h
      rcases h with (rfl | rfl) | ⟨function, hfunction, rfl⟩
      · exact depth_lt_entriesOf (by simp)
      · exact depth_lt_entriesOf (by simp)
      · calc function.2.written.depth
            < (writtenFunction function).depth := Json.depth_lt_object (by simp)
          _ < (Json.array (functions.map writtenFunction)).depth :=
            Json.depth_lt_array (List.mem_map_of_mem hfunction)
          _ < _ := depth_lt_entriesOf (by simp)
  | _ => simp [children] at h

theorem decodeWithin_iff {levels : Nat} {q : Query}
    (hlevels : q.written.depth ≤ levels)
    (h : ∀ c : Query, c.Within q → c.IsRegular) :
    decodeWithin levels q.written = .ok q ↔
      ∀ c : Query, c.Within q → c.IsReadable := by
  induction levels generalizing q with
  | zero =>
      have hpos := Json.depth_pos q.written
      omega
  | succ levels ih =>
      rw [decodeWithin, variant_written_iff (h q .self)]
      have hchildren : ∀ c ∈ q.children,
          (decodeWithin levels c.written = .ok c ↔
            ∀ d : Query, d.Within c → d.IsReadable) := by
        intro c hc
        have hdepth := depth_child hc
        exact ih (by omega) fun d hd => h d (.child hc hd)
      constructor
      · rintro ⟨hself, hinside⟩ c hc
        cases hc with
        | self => exact hself
        | child hchild hwithin =>
            exact (hchildren _ hchild).1 (hinside _ hchild) c hwithin
      · intro hall
        exact ⟨hall q .self, fun c hc => (hchildren c hc).2 fun d hd =>
          hall d (.child hc hd)⟩

theorem decode_written_iff {q : Query}
    (h : ∀ c : Query, c.Within q → c.IsRegular) :
    decode q.written = .ok q ↔ ∀ c : Query, c.Within q → c.IsReadable :=
  decodeWithin_iff (Nat.le_refl _) h

end Query

end SearchClient

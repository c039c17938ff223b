import SearchClient.Proofs.Json.Decode
import SearchClient.Query.Decode

/-!
# Clauses read back

When the record of a clause is read back.  Most are in any case; a range is
unless one of its bounds is `null`, a distance unless a point stands under its
name, and a clause that holds queries exactly when each of them is.
-/

namespace SearchClient

open Json (entriesOf valueIfAny)

/-! ## Points -/

namespace GeoPoint

def IsFinite (p : GeoPoint) : Prop :=
  p.lat.isFinite = true ∧ p.lon.isFinite = true

theorem collapse_encode (p : GeoPoint) : p.encode.collapse = p.encode := by
  rw [encode, Json.collapse_object (by simp)]
  simp

theorem decode_encode {p : GeoPoint} (h : p.IsFinite) :
    decode p.encode = .ok p := by
  have hplain : shape.IsPlain := ⟨by decide, by simp [shape]⟩
  have hslots := Shape.decode_slots hplain
    (shape.fields.zip [some (.ofBinary64 p.lat), some (.ofBinary64 p.lon)])
    rfl (by simp [shape])
  apply hslots.trans
  refine Field.bind_required.2 ⟨_, Decode.double_ofBinary64 h.1, ?_⟩
  exact Field.bind_required.2 ⟨_, Decode.double_ofBinary64 h.2, rfl⟩

theorem decodeHeld_encode {p : GeoPoint} (h : p.IsFinite) :
    decodeHeld p.encode = .ok p :=
  decode_encode h

end GeoPoint

namespace BoundingBox

def IsFinite (b : BoundingBox) : Prop :=
  b.topLeft.IsFinite ∧ b.bottomRight.IsFinite

theorem decode_encode {b : BoundingBox} (h : b.IsFinite) :
    decode b.encode.collapse = .ok b := by
  have hplain : shape.IsPlain := ⟨by decide, by simp [shape]⟩
  have hslots := Shape.decode_slots hplain
    (shape.fields.zip [some b.topLeft.encode, some b.bottomRight.encode])
    rfl (by simp [shape])
  rw [encode, Json.collapse_object (by simp)]
  simp only [List.map_cons, List.map_nil, GeoPoint.collapse_encode]
  apply hslots.trans
  refine Field.bind_required.2 ⟨_, GeoPoint.decode_encode h.1, ?_⟩
  exact Field.bind_required.2 ⟨_, GeoPoint.decode_encode h.2, rfl⟩

end BoundingBox

/-! ## Clauses without queries -/

namespace RangeBounds

def IsWellFormed (b : RangeBounds) : Prop :=
  (∀ j ∈ b.greater, j.WellFormed) ∧ ∀ j ∈ b.less, j.WellFormed

theorem collapse_encode {b : RangeBounds} (h : b.IsWellFormed) :
    b.encode.collapse =
      .object (entriesOf [("gt", b.greater), ("lt", b.less)]) := by
  have hcollapse :
      ∀ {j : Option Json}, (∀ j' ∈ j, j'.WellFormed) →
        j.map Json.collapse = j := by
    intro j hj
    cases j with
    | none => rfl
    | some j => exact congrArg some (Json.collapse_of_wellFormed j (hj j rfl))
  have hentries :
      b.encode = .object (entriesOf [("gt", b.greater), ("lt", b.less)]) := by
    simp [encode, entriesOf, Json.entryIfSome_eq]
  rw [hentries, Json.collapse_entriesOf (by simp)]
  simp [hcollapse h.1, hcollapse h.2]

/-- A bound that is `null` is read as none. -/
theorem decode_encode_iff {b : RangeBounds} (h : b.IsWellFormed) :
    decode b.encode.collapse = .ok b ↔
      b.greater ≠ some .null ∧ b.less ≠ some .null := by
  have hplain : shape.IsPlain := ⟨by decide, by simp [shape]⟩
  have hslots := Shape.decode_slots hplain
    (shape.fields.zip [b.greater, b.less]) rfl (by simp [shape])
  rw [collapse_encode h, ← Decode.orDefault_value_iff,
    ← Decode.orDefault_value_iff]
  apply (Eq.congr_left hslots).trans
  constructor
  · intro h
    obtain ⟨greater, hgreater, h⟩ := (Field.bind_defaulted none (by rfl)).1 h
    obtain ⟨less, hless, h⟩ := (Field.bind_defaulted none (by rfl)).1 h
    obtain rfl := Except.ok.inj h
    exact ⟨hgreater, hless⟩
  · rintro ⟨hgreater, hless⟩
    refine (Field.bind_defaulted none rfl).2 ⟨_, hgreater, ?_⟩
    exact (Field.bind_defaulted none rfl).2 ⟨_, hless, rfl⟩

end RangeBounds

namespace MultiMatch

theorem decode_encode (m : MultiMatch) : decode m.encode.collapse = .ok m := by
  have hplain : shape.IsPlain := ⟨by decide, by simp [shape]⟩
  have hslots := Shape.decode_slots hplain
    (shape.fields.zip [some (.string m.query), m.matchType.map .string,
      some (.strings m.fields)])
    rfl (by simp [shape])
  have hentries : m.encode = .object (entriesOf [
      ("query", some (.string m.query)),
      ("type", m.matchType.map .string),
      ("fields", some (.strings m.fields))]) := by
    simp [encode, entriesOf, Json.entryIfSome_eq]
  have htype :
      Decode.orDefault none (Decode.optional Decode.string)
        (m.matchType.map .string) = .ok m.matchType :=
    (Decode.orDefault_map_iff (by simp)).2 fun _ _ => rfl
  rw [hentries, Json.collapse_entriesOf (by simp)]
  simp only [List.map_cons, List.map_nil, Option.map_some, Json.collapse_string,
    Json.collapse_strings, Option.map_map, Function.comp_def]
  apply hslots.trans
  refine Field.bind_required.2 ⟨_, rfl, ?_⟩
  refine (Field.bind_defaulted none rfl).2 ⟨_, htype, ?_⟩
  exact Field.bind_required.2 ⟨_, Decode.list_strings _, rfl⟩

end MultiMatch

namespace GeoDistance

theorem collapse_encode {g : GeoDistance} (h : "distance" ∉ g.point.keys) :
    g.encode.collapse = .object (("distance", .string g.distance) ::
      g.point.toList.map fun (key, p) => (key, p.encode)) := by
  have hkeys :
      (g.point.encodeEntries GeoPoint.encode).map Prod.fst = g.point.keys := by
    simp [SortedMap.encodeEntries, SortedMap.keys, SortedMap.toList]
  rw [encode, Json.collapse_object]
  · simp [SortedMap.encodeEntries, GeoPoint.collapse_encode]
  · rw [List.map_cons, hkeys]
    exact List.nodup_cons.2 ⟨h, g.point.nodup_keys⟩

/-- A point under the name of the distance takes the place of the distance. -/
theorem decode_encode_iff {g : GeoDistance}
    (h : ∀ entry ∈ g.point.toList, entry.2.IsFinite) :
    decode g.encode.collapse = .ok g ↔ "distance" ∉ g.point.keys := by
  constructor
  · intro hread hkey
    obtain ⟨distance, points, rfl, hnamed⟩ := Decode.items_not_named hread
    exact absurd (hnamed "distance" hkey) (by simp [shape])
  · intro hkey
    have hplain : shape.IsPlain := ⟨by decide, by simp [shape]⟩
    have hothers :
        ∀ key ∈ g.point.keys, shape.fields.find? (·.isNamed key) = none := by
      intro key hmem
      have hne : "distance" ≠ key := fun heq => hkey (heq ▸ hmem)
      simp [shape, hne]
    have hopen := Decode.decodeOpen_around hplain
      (shape.fields.zip [some (.string g.distance)]) [] rfl (by simp [shape])
      (Field.bind_required.2 ⟨_, rfl, rfl⟩) hothers
      (fun entry hentry => GeoPoint.decodeHeld_encode (h entry hentry))
      GeoDistance.mk
    rw [collapse_encode hkey]
    refine Eq.trans ?_ hopen
    exact congrArg (fun entries => decode (.object entries))
      (List.append_nil _).symm

end GeoDistance

/-! ## Clauses of queries -/

namespace BoolQuery

variable {inner : Decoder Query}

theorem decode_iff {must should mustNot minimum : Option Json} {b : BoolQuery} :
    (shape inner).decode (.object (entriesOf [
      ("must", must),
      ("should", should),
      ("must_not", mustNot),
      ("minimum_should_match", minimum)])) = .ok b ↔
    Decode.orDefault [] (Decode.list inner) must = .ok b.must ∧
      Decode.orDefault [] (Decode.list inner) should = .ok b.should ∧
      Decode.orDefault [] (Decode.list inner) mustNot = .ok b.mustNot ∧
      Decode.orDefault none (Decode.optional Decode.signed64) minimum =
        .ok b.minimum := by
  have hplain : (shape inner).IsPlain := ⟨by simp [shape], by simp [shape]⟩
  have hslots := Shape.decode_slots hplain
    ((shape inner).fields.zip [must, should, mustNot, minimum]) rfl
    (by simp [shape])
  apply (Eq.congr_left hslots).trans
  constructor
  · intro h
    obtain ⟨first, hfirst, h⟩ := (Field.bind_defaulted [] (by rfl)).1 h
    obtain ⟨second, hsecond, h⟩ := (Field.bind_defaulted [] (by rfl)).1 h
    obtain ⟨third, hthird, h⟩ := (Field.bind_defaulted [] (by rfl)).1 h
    obtain ⟨fourth, hfourth, h⟩ := (Field.bind_defaulted none (by rfl)).1 h
    obtain rfl := Except.ok.inj h
    exact ⟨hfirst, hsecond, hthird, hfourth⟩
  · rintro ⟨hmust, hshould, hmustNot, hminimum⟩
    refine (Field.bind_defaulted [] rfl).2 ⟨_, hmust, ?_⟩
    refine (Field.bind_defaulted [] rfl).2 ⟨_, hshould, ?_⟩
    refine (Field.bind_defaulted [] rfl).2 ⟨_, hmustNot, ?_⟩
    exact (Field.bind_defaulted none rfl).2 ⟨_, hminimum, rfl⟩

theorem toQuery_injective : Function.Injective toQuery := by
  rintro ⟨must, should, mustNot, minimum⟩ ⟨_, _, _, _⟩ h
  obtain ⟨rfl, rfl, rfl, rfl⟩ := Query.bool.inj h
  rfl

end BoolQuery

namespace FilteredParts

variable {inner : Decoder Query}

theorem decode_iff {query filter : Option Json} {p : FilteredParts} :
    (shape inner).decode
      (.object (entriesOf [("query", query), ("filter", filter)])) = .ok p ↔
      Decode.orDefault none (Decode.optional inner) query = .ok p.query ∧
        Decode.orDefault none (Decode.optional inner) filter = .ok p.filter := by
  have hplain : (shape inner).IsPlain := ⟨by simp [shape], by simp [shape]⟩
  have hslots := Shape.decode_slots hplain
    ((shape inner).fields.zip [query, filter]) rfl (by simp [shape])
  apply (Eq.congr_left hslots).trans
  constructor
  · intro h
    obtain ⟨first, hfirst, h⟩ := (Field.bind_defaulted none (by rfl)).1 h
    obtain ⟨second, hsecond, h⟩ := (Field.bind_defaulted none (by rfl)).1 h
    obtain rfl := Except.ok.inj h
    exact ⟨hfirst, hsecond⟩
  · rintro ⟨hquery, hfilter⟩
    refine (Field.bind_defaulted none rfl).2 ⟨_, hquery, ?_⟩
    exact (Field.bind_defaulted none rfl).2 ⟨_, hfilter, rfl⟩

theorem toQuery_injective : Function.Injective toQuery := by
  rintro ⟨query, filter⟩ ⟨_, _⟩ h
  obtain ⟨rfl, rfl⟩ := Query.filtered.inj h
  rfl

end FilteredParts

theorem decode_scoreFunction_iff {inner : Decoder Query} {weight filter : Json}
    {f : Binary64 × Query} :
    (scoreFunctionShape inner).decode
      (.object [("weight", weight), ("filter", filter)]) = .ok f ↔
      Decode.double weight = .ok f.1 ∧ inner filter = .ok f.2 := by
  have hplain : (scoreFunctionShape inner).IsPlain :=
    ⟨by simp [scoreFunctionShape], by simp [scoreFunctionShape]⟩
  have hslots := Shape.decode_slots hplain
    ((scoreFunctionShape inner).fields.zip [some weight, some filter]) rfl
    (by simp [scoreFunctionShape])
  apply (Eq.congr_left hslots).trans
  constructor
  · intro h
    obtain ⟨first, hfirst, h⟩ := Field.bind_required.1 h
    obtain ⟨second, hsecond, h⟩ := Field.bind_required.1 h
    obtain rfl := Except.ok.inj h
    exact ⟨hfirst, hsecond⟩
  · rintro ⟨hweight, hfilter⟩
    refine Field.bind_required.2 ⟨_, hweight, ?_⟩
    exact Field.bind_required.2 ⟨_, hfilter, rfl⟩

namespace FunctionScoreParts

variable {inner : Decoder Query}

theorem decode_iff {query filter scoreMode : Option Json} {functions : Json}
    {p : FunctionScoreParts} :
    (shape inner).decode (.object (entriesOf [
      ("query", query),
      ("filter", filter),
      ("functions", some functions),
      ("score_mode", scoreMode)])) = .ok p ↔
    Decode.orDefault none (Decode.optional inner) query = .ok p.query ∧
      Decode.orDefault none (Decode.optional inner) filter = .ok p.filter ∧
      Decode.list (scoreFunctionShape inner).decode functions =
        .ok p.functions ∧
      Decode.orDefault none (Decode.optional Decode.string) scoreMode =
        .ok p.scoreMode := by
  have hplain : (shape inner).IsPlain := ⟨by simp [shape], by simp [shape]⟩
  have hslots := Shape.decode_slots hplain
    ((shape inner).fields.zip [query, filter, some functions, scoreMode]) rfl
    (by simp [shape])
  apply (Eq.congr_left hslots).trans
  constructor
  · intro h
    obtain ⟨first, hfirst, h⟩ := (Field.bind_defaulted none (by rfl)).1 h
    obtain ⟨second, hsecond, h⟩ := (Field.bind_defaulted none (by rfl)).1 h
    obtain ⟨third, hthird, h⟩ := Field.bind_required.1 h
    obtain ⟨fourth, hfourth, h⟩ := (Field.bind_defaulted none (by rfl)).1 h
    obtain rfl := Except.ok.inj h
    exact ⟨hfirst, hsecond, hthird, hfourth⟩
  · rintro ⟨hquery, hfilter, hfunctions, hscoreMode⟩
    refine (Field.bind_defaulted none rfl).2 ⟨_, hquery, ?_⟩
    refine (Field.bind_defaulted none rfl).2 ⟨_, hfilter, ?_⟩
    refine Field.bind_required.2 ⟨_, hfunctions, ?_⟩
    exact (Field.bind_defaulted none rfl).2 ⟨_, hscoreMode, rfl⟩

theorem toQuery_injective : Function.Injective toQuery := by
  rintro ⟨query, filter, functions, scoreMode⟩ ⟨_, _, _, _⟩ h
  obtain ⟨rfl, rfl, rfl, rfl⟩ := Query.functionScore.inj h
  rfl

end FunctionScoreParts

end SearchClient

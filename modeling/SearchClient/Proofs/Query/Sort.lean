import SearchClient.Proofs.Query.Clause

/-!
# Sort clauses read back

The kind of a sort clause is not written down: it is told from the keys.  A sort
by fields is never taken for another, whatever its fields are called; a sort by
distance is lost when its point stands under one of its own keys.
-/

namespace SearchClient

open Json (entriesOf)

namespace Script

/-- No object in the parameters has a key twice. -/
def IsWellFormed (s : Script) : Prop :=
  ∀ params, s.params = some params → (Json.object params).WellFormed

theorem decode_encode {s : Script} (h : s.IsWellFormed) :
    shape.decode s.encode.collapse = .ok s := by
  have hplain : shape.IsPlain := ⟨by decide, by simp [shape]⟩
  have hslots := Shape.decode_slots hplain
    (shape.fields.zip [some (.string s.inline), s.params.map .object])
    rfl (by simp [shape])
  have hcollapse :
      (s.params.map Json.object).map Json.collapse = s.params.map .object := by
    cases hparams : s.params with
    | none => rfl
    | some params =>
        exact congrArg some (Json.collapse_of_wellFormed _ (h params hparams))
  have hentries : s.encode = .object (entriesOf [
      ("inline", some (.string s.inline)),
      ("params", s.params.map .object)]) := by
    simp [encode, entriesOf, Json.entryIfSome_eq]
  have hparams :
      Decode.orDefault none (Decode.optional Decode.object)
        (s.params.map .object) = .ok s.params :=
    (Decode.orDefault_map_iff (by simp)).2 fun _ _ => rfl
  rw [hentries, Json.collapse_entriesOf (by simp)]
  simp only [List.map_cons, List.map_nil, Option.map_some, Json.collapse_string,
    hcollapse]
  apply hslots.trans
  refine Field.bind_required.2 ⟨_, rfl, ?_⟩
  exact (Field.bind_defaulted none rfl).2 ⟨_, hparams, rfl⟩

end Script

theorem ScriptSort.decode_encode {s : ScriptSort} (h : s.script.IsWellFormed) :
    shape.decode s.encode.collapse = .ok s := by
  have hplain : shape.IsPlain := ⟨by decide, by simp [shape]⟩
  have hslots := Shape.decode_slots hplain
    (shape.fields.zip [some (.string s.sortType),
      some s.script.encode.collapse, some (.string s.order)])
    rfl (by simp [shape])
  rw [encode, Json.collapse_object (by simp)]
  simp only [List.map_cons, List.map_nil, Json.collapse_string]
  apply hslots.trans
  refine Field.bind_required.2 ⟨_, rfl, ?_⟩
  refine Field.bind_required.2 ⟨_, Script.decode_encode h, ?_⟩
  exact Field.bind_required.2 ⟨_, rfl, rfl⟩

namespace GeoDistanceSort

def ownKeys : List String := ["order", "unit", "distance_type", "mode"]

theorem find?_named_iff {key : String} :
    shape.fields.find? (·.isNamed key) = none ↔ key ∉ ownKeys := by
  rw [List.find?_eq_none]
  simp [shape, ownKeys, @eq_comm _ _ key]

theorem collapse_encode {s : GeoDistanceSort}
    (h : ∀ key ∈ ownKeys, key ∉ s.point.keys) :
    s.encode.collapse =
      .object ([("order", .string s.order), ("unit", .string s.unit)] ++
        (s.point.toList.map fun (key, p) => (key, p.encode)) ++
        [("distance_type", .string s.distanceType),
          ("mode", .string s.mode)]) := by
  have hkeys :
      (s.point.encodeEntries GeoPoint.encode).map Prod.fst = s.point.keys := by
    simp [SortedMap.encodeEntries, SortedMap.keys, SortedMap.toList]
  simp only [ownKeys, List.forall_mem_cons, List.not_mem_nil, false_imp_iff,
    implies_true, and_true] at h
  rw [encode, Json.collapse_object]
  · simp [SortedMap.encodeEntries, GeoPoint.collapse_encode]
  · rw [List.map_append, List.map_append, hkeys]
    have hapart :
        ∀ key ∈ s.point.keys, ¬key = "distance_type" ∧ ¬key = "mode" := by
      intro key hkey
      exact ⟨fun heq => h.2.2.1 (heq ▸ hkey),
        fun heq => h.2.2.2 (heq ▸ hkey)⟩
    simpa [List.nodup_append, h, s.point.nodup_keys] using hapart

theorem decode_encode_iff {s : GeoDistanceSort}
    (h : ∀ entry ∈ s.point.toList, entry.2.IsFinite) :
    decode s.encode.collapse = .ok s ↔ ∀ key ∈ ownKeys, key ∉ s.point.keys := by
  constructor
  · intro hread key hown hkey
    obtain ⟨record, points, rfl, hnamed⟩ := Decode.items_not_named hread
    exact find?_named_iff.1 (hnamed key hkey) hown
  · intro hkeys
    have hplain : shape.IsPlain := ⟨by decide, by simp [shape]⟩
    have hothers :
        ∀ key ∈ s.point.keys, shape.fields.find? (·.isNamed key) = none :=
      fun key hkey => find?_named_iff.2 fun hown => hkeys key hown hkey
    have hput :
        (shape.fields.zip [some (.string s.order), some (.string s.unit),
          some (.string s.distanceType), some (.string s.mode)]).foldlM
            Field.putSlot shape.start = .ok { s with point := .empty } :=
      rfl
    have hopen := Decode.decodeOpen_around hplain
      ((shape.fields.take 2).zip
        [some (.string s.order), some (.string s.unit)])
      ((shape.fields.drop 2).zip
        [some (.string s.distanceType), some (.string s.mode)])
      rfl (by simp [shape]) hput hothers
      (fun entry hentry => GeoPoint.decodeHeld_encode (h entry hentry))
      (fun record points => { record with point := points })
    rw [collapse_encode hkeys]
    exact hopen

end GeoDistanceSort

theorem FieldSort.decode_encode (s : FieldSort) :
    shape.decode s.encode.collapse = .ok s := rfl

namespace SortClause

/-- What the types of a sort clause promise of its values. -/
def IsRegular : SortClause → Prop
  | .script clause => clause.script.IsWellFormed
  | .geoDistance clause => ∀ entry ∈ clause.point.toList, entry.2.IsFinite
  | .field _ => True

def IsReadable : SortClause → Prop
  | .geoDistance clause =>
      ∀ key ∈ GeoDistanceSort.ownKeys, key ∉ clause.point.keys
  | _ => True

theorem decodeUnder_single {α : Type} (key : String) (decode : Decoder α)
    (make : α → SortClause) (payload : Json) :
    decodeUnder key decode make (.object [(key, payload)]) =
      (decode payload).map make := by
  simp [decodeUnder, Json.field?, Json.object?, Entries.get?]

theorem decode_of_script {j : Json} {clause : SortClause}
    (h : decodeUnder "_script" ScriptSort.shape.decode .script j = .ok clause) :
    decode j = .ok clause := by
  simp [decode, Decode.firstOf, h, Except.toOption]

theorem decode_of_geoDistance {j : Json} {e : DecodeError} {clause : SortClause}
    (hscript :
      decodeUnder "_script" ScriptSort.shape.decode .script j = .error e)
    (h : decodeUnder "_geo_distance" GeoDistanceSort.decode .geoDistance j =
      .ok clause) :
    decode j = .ok clause := by
  simp [decode, Decode.firstOf, hscript, h, Except.toOption]

theorem decode_of_field {j : Json} {e e' : DecodeError}
    (hscript :
      decodeUnder "_script" ScriptSort.shape.decode .script j = .error e)
    (hdistance :
      decodeUnder "_geo_distance" GeoDistanceSort.decode .geoDistance j =
        .error e')
    (clause : SortClause) :
    decode j = .ok clause ↔
      ∃ clauses, Decode.sortedMap FieldSort.shape.decode j = .ok clauses ∧
        clause = .field clauses := by
  cases hfield : Decode.sortedMap FieldSort.shape.decode j <;>
    simp [decode, Decode.firstOf, hscript, hdistance, hfield, Except.toOption,
      eq_comm]

/-- No record of another kind is read from what is written for a field. -/
theorem decodeUnder_field {α : Type} (decode : Decoder α)
    (h : ∀ s : FieldSort, ∃ e, decode s.encode.collapse = .error e)
    (key : String) (make : α → SortClause) (clauses : SortedMap FieldSort) :
    ∃ e,
      decodeUnder key decode make (SortClause.field clauses).encode.collapse =
        .error e := by
  unfold decodeUnder
  split
  · next payload hfield =>
    rw [encode, Decode.collapse_sortedMap] at hfield
    obtain ⟨_, _, hentries, -⟩ := List.lookup_eq_some_iff.1 hfield
    have hmem : (key, payload) ∈
        clauses.toList.map fun (key, s) =>
          (key, (FieldSort.encode s).collapse) := by
      simp [hentries]
    obtain ⟨entry, -, heq⟩ := List.mem_map.1 hmem
    obtain ⟨-, rfl⟩ := Prod.mk.inj heq
    obtain ⟨e, he⟩ := h entry.2
    exact ⟨e, by rw [he]; rfl⟩
  · exact ⟨_, rfl⟩

/--
A sort clause is read back as one of its own kind, unless a point stands under
one of the keys of a distance.
-/
theorem decode_encode_iff {clause : SortClause} (h : clause.IsRegular) :
    decode clause.encode.collapse = .ok clause ↔ clause.IsReadable := by
  cases clause with
  | script clause =>
      rw [encode, Json.collapse_single]
      refine iff_of_true (decode_of_script ?_) trivial
      rw [decodeUnder_single, ScriptSort.decode_encode h, Except.map_ok]
  | geoDistance clause =>
      have hclause := GeoDistanceSort.decode_encode_iff h
      rw [encode, Json.collapse_single, IsReadable, ← hclause]
      have hdistance := decodeUnder_single "_geo_distance"
        GeoDistanceSort.decode .geoDistance clause.encode.collapse
      have hscript :
          decodeUnder "_script" ScriptSort.shape.decode .script
            (.object [("_geo_distance", clause.encode.collapse)]) =
              .error (.missingField "_script") :=
        rfl
      cases hread : GeoDistanceSort.decode clause.encode.collapse with
      | ok other =>
          rw [hread] at hdistance
          rw [decode_of_geoDistance hscript hdistance]
          simp
      | error e =>
          rw [hread] at hdistance
          rw [decode_of_field hscript hdistance]
          simp
  | field clauses =>
      obtain ⟨e, hscript⟩ := decodeUnder_field ScriptSort.shape.decode
        (fun s => ⟨_, rfl⟩) "_script" .script clauses
      obtain ⟨e', hdistance⟩ := decodeUnder_field GeoDistanceSort.decode
        (fun s => ⟨_, rfl⟩) "_geo_distance" .geoDistance clauses
      have hread :
          Decode.sortedMap FieldSort.shape.decode
            (SortClause.field clauses).encode.collapse = .ok clauses :=
        Decode.sortedMap_iff.2 fun entry _ => entry.2.decode_encode
      apply iff_of_true _ trivial
      exact (decode_of_field hscript hdistance _).2 ⟨clauses, hread, rfl⟩

end SortClause

end SearchClient

import Mathlib.Tactic.IntervalCases
import SearchClient.Proofs.Entries
import SearchClient.Proofs.Json.Decode
import SearchClient.Proofs.Spec.Parts
import SearchClient.Spec.Error

/-!
# Reading a reported mapping

A specification reports a mapping in which the entries of its document stand
over those that are written for its search keys.  Read again, the mapping gives
the same search keys, unless the projection was given under its second key: it
is then also written under the first.
-/

namespace SearchClient

theorem Json.isNull_eq_false {j : Json} : j.isNull = false ↔ j ≠ .null := by
  cases j <;> simp [isNull]

theorem Decode.bool_eq_ok {j : Json} {b : Bool} :
    bool j = .ok b ↔ j = .bool b := by
  cases j <;> simp [bool, Json.wrongType]

theorem Decode.optional_orNull {α : Type} {decode : Decoder α}
    {encode : α → Json}
    (h : ∀ a, encode a ≠ .null ∧ decode (encode a) = .ok a) (value : Option α) :
    optional decode (.orNull encode value) = .ok value :=
  optional_orNull_iff.2 fun a _ => h a

namespace Specification

variable {s : Specification} {entries : Entries Json}

/-! ## Written search keys -/

theorem names_searchEntries (s : Specification) :
    Entries.keys s.searchEntries = shape.fields.map Field.name := rfl

theorem name_of_written {place : Nat} {entry : String × Json}
    (h : s.searchEntries[place]? = some entry) :
    shape.fields[place]?.map Field.name = some entry.1 := by
  rw [← List.getElem?_map, ← names_searchEntries s]
  simp [Entries.keys, h]

theorem place_of_written {place : Nat} {entry : String × Json}
    (h : s.searchEntries[place]? = some entry) :
    shape.place? entry.1 = some place := by
  obtain ⟨field, hfield, hname⟩ := Option.map_eq_some_iff.1 (name_of_written h)
  rw [← hname]
  exact shape_hasParts.named place field hfield

theorem exists_written_of_target (s : Specification) {key : String}
    {place : Nat} (hkey : key ∈ targetKeys)
    (hplace : shape.place? key = some place) :
    ∃ j, s.searchEntries[place]? = some (key, j) := by
  have hname : shape.fields[place]?.map Field.name = some key := by
    rcases name_of_place hplace with hname | ⟨rfl, -⟩
    · exact hname
    · simp [targetKeys] at hkey
  rw [← List.getElem?_map, ← names_searchEntries s, Entries.keys,
    List.getElem?_map] at hname
  obtain ⟨⟨name, j⟩, hentry, rfl⟩ := Option.map_eq_some_iff.1 hname
  exact ⟨j, hentry⟩

/-- What is written for a search key is read as its part. -/
def ReadsBack (s : Specification) (place : Nat) : Prop :=
  ∀ entry, s.searchEntries[place]? = some entry →
    ∃ part, shape.ReadsAt parts place entry.2 part ∧
      s.parts[place]? = some part

/-- The keys that are left out of the document are read back. -/
theorem readsBack_of_target {key : String} {place : Nat}
    (hkey : key ∈ targetKeys) (hplace : shape.place? key = some place) :
    s.ReadsBack place := by
  intro entry hentry
  simp only [targetKeys, List.mem_cons, List.not_mem_nil, or_false] at hkey
  rcases hkey with rfl | rfl | rfl | rfl <;>
    obtain rfl := Option.some.inj hplace <;>
    obtain rfl := Option.some.inj hentry <;>
    refine ⟨_, ⟨_, rfl, Field.reads_defaulted (fun _ _ => rfl) ?_⟩, rfl⟩
  · apply Decode.optional_orNull
    exact fun _ => ⟨Json.noConfusion, rfl⟩
  · apply Decode.optional_orNull
    exact fun _ => ⟨Json.noConfusion, rfl⟩
  · apply Decode.optional_orNull
    exact fun _ => ⟨Json.noConfusion, rfl⟩
  · rfl

theorem readsBack_projection (s : Specification) : s.ReadsBack 21 := by
  intro entry hentry
  obtain rfl := Option.some.inj hentry
  refine ⟨_, ⟨_, rfl, .orAlso (Field.reads_defaulted (fun _ _ => rfl) ?_) _⟩, rfl⟩
  apply Decode.optional_orNull
  exact fun columns => ⟨Json.noConfusion, Decode.list_strings columns⟩

/-- A search key that is as it was at the start is read back. -/
theorem readsBack_of_start {place : Nat}
    (h : s.parts[place]? = (parts {})[place]?) : s.ReadsBack place := by
  intro entry hentry
  have hlt : place < 22 := (List.getElem?_eq_some_iff.1 hentry).1
  rcases Nat.lt_succ_iff_lt_or_eq.1 hlt with hlt | rfl
  · interval_cases place
    all_goals
      obtain rfl := Option.some.inj hentry
      have hpart := eq_of_heq (Sigma.mk.inj (Option.some.inj h)).2
      refine ⟨⟨_, _⟩, ⟨_, rfl, Field.reads_defaulted (fun _ _ => rfl) ?_⟩, rfl⟩
      rw [hpart]
      rfl
  · exact s.readsBack_projection entry hentry

/-- Where `null` is accepted it leaves a search key unset. -/
theorem put_null {field : Field Specification} (hmem : field ∈ shape.fields)
    {next : Specification} (hput : field.put .null {} = .ok next) :
    next = {} := by
  simp only [shape, List.mem_cons, List.not_mem_nil, or_false] at hmem
  rcases hmem with rfl | rfl | rfl | rfl | rfl | rfl | rfl | rfl | rfl | rfl |
    rfl | rfl | rfl | rfl | rfl | rfl | rfl | rfl | rfl | rfl | rfl | rfl
  all_goals first | exact (Except.ok.inj hput).symm | cases hput

theorem start_of_null {place : Nat} {part : Part}
    (h : shape.ReadsAt parts place .null part) :
    (parts {})[place]? = some part := by
  obtain ⟨field, hfield, hreads⟩ := h
  obtain ⟨next, hput, hparts⟩ := hreads {}
  have hlt := shape_hasParts.place_lt hfield {}
  rw [put_null (List.mem_of_getElem? hfield) hput] at hparts
  rw [hparts, List.getElem?_set_self hlt]

/-! ## The document over the search keys -/

/-- What is reported for search keys that were read from a mapping. -/
def overlaid (s : Specification) (entries : Entries Json) : Entries Json :=
  Entries.insertAll (s.searchEntries.filter fun (_, value) => !value.isNull)
    (documentOf (.object entries))

theorem nodup_keys_written (s : Specification) :
    (Entries.keys (s.searchEntries.filter fun (_, value) => !value.isNull)).Nodup := by
  have hnames : (Entries.keys s.searchEntries).Nodup := by
    rw [names_searchEntries]
    decide
  exact hnames.sublist (List.filter_sublist.map _)

theorem nodup_keys_overlaid (s : Specification) (entries : Entries Json) :
    (s.overlaid entries).keys.Nodup :=
  Entries.nodup_keys_insertAll _ _ s.nodup_keys_written

theorem mem_overlaid (hkeys : entries.keys.Nodup) {entry : String × Json} :
    entry ∈ s.overlaid entries ↔
      entry ∈ documentOf (.object entries) ∨
        entry.1 ∉ (documentOf (.object entries)).keys ∧
        entry ∈ s.searchEntries ∧ entry.2 ≠ .null := by
  rw [overlaid, Entries.mem_insertAll_iff s.nodup_keys_written
    (nodup_keys_documentOf hkeys), List.mem_filter]
  simp [Json.isNull_eq_false]

theorem place_flag : shape.place? "isEn" = some 10 := by decide

theorem place_source : shape.place? "source" = some 21 := by decide

theorem place_alias : shape.place? "_source" = some 21 := by decide

section Read

variable (hread : shape.IsReadFrom parts entries s)
include hread

/-- A search key that the document does not give is read back. -/
theorem readsBack_of_not_document {place : Nat} {entry : String × Json}
    (hentry : s.searchEntries[place]? = some entry)
    (hnot : entry.1 ∉ (documentOf (.object entries)).keys) :
    s.ReadsBack place := by
  have hplace := place_of_written hentry
  by_cases htarget : entry.1 ∈ targetKeys
  · exact readsBack_of_target htarget hplace
  by_cases hprojection : place = 21
  · exact hprojection ▸ s.readsBack_projection
  apply readsBack_of_start
  apply hread.absent
  intro other hother hsame
  have hkey : other.1 = entry.1 := by
    by_contra hne
    exact hprojection (keys_of_place hsame hplace hne).1
  exact hnot (hkey ▸ List.mem_map_of_mem
    (mem_documentOf.2 ⟨hother, hkey ▸ htarget⟩))

theorem given_overlaid (hkeys : entries.keys.Nodup) {entry : String × Json}
    (hentry : entry ∈ s.overlaid entries) {place : Nat}
    (hplace : shape.place? entry.1 = some place) :
    ∃ part, shape.ReadsAt parts place entry.2 part ∧
      s.parts[place]? = some part := by
  rcases (mem_overlaid hkeys).1 hentry with hmem | ⟨hnot, hmem, -⟩
  · exact hread.given entry (mem_documentOf.1 hmem).1 place hplace
  · obtain ⟨other, hother⟩ := List.mem_iff_getElem?.1 hmem
    obtain rfl : other = place :=
      Option.some.inj ((place_of_written hother).symm.trans hplace)
    exact readsBack_of_not_document hread hother hnot entry hother

theorem absent_overlaid (hkeys : entries.keys.Nodup) {place : Nat}
    (hplace : ∀ entry ∈ s.overlaid entries, shape.place? entry.1 ≠ some place) :
    s.parts[place]? = (parts shape.start)[place]? := by
  by_cases hgiven : ∃ entry ∈ entries, shape.place? entry.1 = some place
  · -- the entry was kept from the document, and nothing was written for it
    obtain ⟨⟨key, value⟩, hmem, hkey⟩ := hgiven
    have htarget : key ∈ targetKeys := by
      by_contra hnot
      exact hplace (key, value)
        ((mem_overlaid hkeys).2 (.inl (mem_documentOf.2 ⟨hmem, hnot⟩))) hkey
    obtain ⟨j, hwritten⟩ := s.exists_written_of_target htarget hkey
    have hnull : j = .null := by
      by_contra hne
      exact hplace (key, j) ((mem_overlaid hkeys).2
        (.inr ⟨not_mem_keys_documentOf htarget, List.mem_of_getElem? hwritten,
          hne⟩)) hkey
    obtain ⟨part, hreads, hpart⟩ :=
      readsBack_of_target htarget hkey (key, j) hwritten
    rw [hnull] at hreads
    exact hpart.trans (start_of_null hreads).symm
  · exact hread.absent place fun entry hmem heq => hgiven ⟨entry, hmem, heq⟩

theorem eq_of_given {entry other : String × Json}
    (hentry : entry ∈ documentOf (.object entries))
    (hother : other ∈ documentOf (.object entries)) {place : Nat}
    (hplace : shape.place? entry.1 = some place)
    (hplace' : shape.place? other.1 = some place) : entry = other :=
  Shape.eq_of_place hread.once (mem_documentOf.1 hentry).1
    (mem_documentOf.1 hother).1 hplace hplace'

/-- The projection is what stands under its second key. -/
theorem projection_of_alias {value : Json}
    (hmem : ("_source", value) ∈ entries) :
    Decode.optional (Decode.list Decode.string) value = .ok s.projection :=
  hread.read shape_hasParts rfl rfl (fun _ _ => rfl) rfl hmem place_alias

end Read

/-! ## The two keys of the projection -/

theorem mem_documentOf_of_alias (hkeys : entries.keys.Nodup) {value : Json}
    (h : ("_source", value) ∈ s.overlaid entries) :
    ("_source", value) ∈ documentOf (.object entries) := by
  rcases (mem_overlaid hkeys).1 h with hmem | ⟨-, hmem, -⟩
  · exact hmem
  · have hname : "_source" ∈ Entries.keys s.searchEntries :=
      List.mem_map_of_mem hmem
    rw [names_searchEntries] at hname
    exact absurd hname (by decide)

theorem source_of_alias (hkeys : entries.keys.Nodup)
    (hread : shape.IsReadFrom parts entries s) {value : Json}
    (hmem : ("_source", value) ∈ entries) (hne : value ≠ .null) :
    ∃ written, ("source", written) ∈ s.overlaid entries := by
  have hprojection := projection_of_alias hread hmem
  rw [Decode.optional_of_ne_null hne] at hprojection
  obtain ⟨columns, -, hcolumns⟩ := Except.map_eq_ok.1 hprojection
  refine ⟨.strings columns, (mem_overlaid hkeys).2 (.inr ⟨?_, ?_, ?_⟩)⟩
  · rw [Entries.mem_keys]
    rintro ⟨given, hgiven⟩
    have heq := eq_of_given hread hgiven
      (mem_documentOf.2 ⟨hmem, by simp [targetKeys]⟩) place_source place_alias
    simp at heq
  · simp [searchEntries, ← hcolumns, Json.orNull]
  · simp [Json.strings]

theorem not_both_of_null (hkeys : entries.keys.Nodup)
    (hread : shape.IsReadFrom parts entries s) {value written : Json}
    (halias : ("_source", value) ∈ s.overlaid entries)
    (hsource : ("source", written) ∈ s.overlaid entries) : value ≠ .null := by
  rintro rfl
  have hgiven := mem_documentOf_of_alias hkeys halias
  rcases (mem_overlaid hkeys).1 hsource with hmem | ⟨-, hmem, hne⟩
  · have heq := eq_of_given hread hgiven hmem place_alias place_source
    simp at heq
  · have hprojection := projection_of_alias hread (mem_documentOf.1 hgiven).1
    obtain ⟨place, hplace⟩ := List.mem_iff_getElem?.1 hmem
    obtain rfl : place = 21 :=
      Option.some.inj ((place_of_written hplace).symm.trans place_source)
    have hwritten : .orNull .strings s.projection = written :=
      (Prod.mk.inj (Option.some.inj hplace)).2
    rw [← Except.ok.inj hprojection] at hwritten
    exact hne hwritten.symm

/-- What is reported gives no search key twice exactly when the mapping that was
read did not give a projection under the second key. -/
theorem once_overlaid_iff (hkeys : entries.keys.Nodup)
    (hread : shape.IsReadFrom parts entries s) :
    ((s.overlaid entries).filterMap fun entry => shape.place? entry.1).Nodup ↔
      ∀ value, entries.get? "_source" = some value → value = .null := by
  constructor
  · intro honce value hvalue
    by_contra hne
    have hmem := Entries.mem_of_get? hvalue
    obtain ⟨written, hsource⟩ := source_of_alias hkeys hread hmem hne
    have halias : ("_source", value) ∈ s.overlaid entries :=
      (mem_overlaid hkeys).2 (.inl (mem_documentOf.2 ⟨hmem, by simp [targetKeys]⟩))
    have heq := Shape.eq_of_place honce halias hsource place_alias place_source
    simp at heq
  · intro hnull
    have hnot : ∀ value written, ("_source", value) ∈ s.overlaid entries →
        ("source", written) ∉ s.overlaid entries := by
      intro value written halias hsource
      have hmem := (mem_documentOf.1 (mem_documentOf_of_alias hkeys halias)).1
      exact not_both_of_null hkeys hread halias hsource
        (hnull value (Entries.get?_of_mem hkeys hmem))
    have hapart := List.pairwise_map.1 (s.nodup_keys_overlaid entries)
    refine List.pairwise_filterMap.2 (hapart.imp_of_mem ?_)
    rintro ⟨key, value⟩ ⟨other, written⟩ hmem hmem' hne place hplace place' hplace' rfl
    rcases (keys_of_place hplace hplace' hne).2 with ⟨rfl, rfl⟩ | ⟨rfl, rfl⟩
    · exact hnot _ _ hmem hmem'
    · exact hnot _ _ hmem' hmem

/-! ## Reading again -/

theorem rejects_overlaid (hkeys : entries.keys.Nodup)
    (hread : shape.IsReadFrom parts entries s)
    (h : ¬((s.overlaid entries).filterMap fun entry => shape.place? entry.1).Nodup) :
    ofMapping (.object (s.overlaid entries)) = .error (.duplicateField "source") := by
  have hreads : ∀ entry ∈ s.overlaid entries, ∀ place,
      shape.place? entry.1 = some place →
        ∃ part, shape.ReadsAt parts place entry.2 part :=
    fun entry hmem place hplace =>
      (given_overlaid hread hkeys hmem hplace).imp fun _ hpart => hpart.1
  obtain ⟨before, entry, after, place, field, heq, hplace, ⟨other, hother, hsame⟩,
    hfield, hdecode⟩ := Shape.decode_object_repeated shape_hasParts hreads h
  have hne : other.1 ≠ entry.1 := by
    have hnodup := s.nodup_keys_overlaid entries
    rw [heq, Entries.keys, List.map_append, List.nodup_append] at hnodup
    exact hnodup.2.2 _ (List.mem_map_of_mem hother) _ (by simp)
  obtain rfl : place = 21 := (keys_of_place hsame hplace hne).1
  obtain rfl := Option.some.inj hfield
  rw [ofMapping, hdecode]
  rfl

theorem get?_overlaid (hkeys : entries.keys.Nodup)
    (hread : shape.IsReadFrom parts entries s) {entry : String × Json}
    (hmem : entry ∈ entries) (hkey : entry.1 ∉ ["index", "type", "id"]) :
    (s.overlaid entries).get? entry.1 = some entry.2 := by
  apply Entries.get?_of_mem (s.nodup_keys_overlaid entries)
  rw [mem_overlaid hkeys]
  by_cases htarget : entry.1 ∈ targetKeys
  · -- the flag that is a target key is written again, as it was given
    obtain ⟨key, value⟩ := entry
    simp only [targetKeys, List.mem_cons, List.not_mem_nil, or_false,
      not_or] at htarget hkey
    obtain rfl : key = "isEn" := by simpa [hkey] using htarget
    have hflag : Decode.bool value = .ok s.phrasePrefix :=
      hread.read shape_hasParts rfl rfl (fun _ _ => rfl) rfl hmem place_flag
    obtain rfl := Decode.bool_eq_ok.1 hflag
    refine .inr ⟨not_mem_keys_documentOf (by simp [targetKeys]), ?_, by simp⟩
    simp [searchEntries]
  · exact .inl (mem_documentOf.2 ⟨hmem, htarget⟩)

/--
Of a mapping that was read, a mapping is reported that gives all its entries but
the three that address a document.  The reported mapping is read as the same
specification, but for the document, exactly when the original does not give a
projection under the second key, and is rejected when it does.
-/
theorem mapping_reads_back_iff (hkeys : entries.keys.Nodup)
    (h : ofMapping (.object entries) = .ok s) :
    ((∃ t, ofMapping s.mapping = .ok t ∧
        { t with document := s.document } = s) ↔
      ∀ value, entries.get? "_source" = some value → value = .null) ∧
    (∀ value, entries.get? "_source" = some value → value ≠ .null →
      (ofMapping s.mapping).mapError SpecError.malformed =
        .error (.malformed (.duplicateField "source"))) ∧
    ∀ entry ∈ entries, entry.1 ∉ ["index", "type", "id"] →
      s.mapping.field? entry.1 = some entry.2 := by
  obtain ⟨hread, hdocument⟩ := ofMapping_object_iff.1 h
  have hmapping : s.mapping =
      .object (overlaid { s with document := [] } entries) := by
    rw [mapping, hdocument]
    rfl
  have honce := once_overlaid_iff hkeys hread
  rw [hmapping]
  refine ⟨⟨?_, fun hnull => ?_⟩, fun value hvalue hne => ?_, fun entry hmem hkey => ?_⟩
  · rintro ⟨t, ht, -⟩
    exact honce.1 (ofMapping_object_iff.1 ht).1.once
  · refine ⟨{ s with document := documentOf (.object (overlaid _ entries)) },
      ofMapping_object_iff.2 ⟨?_, rfl⟩, rfl⟩
    exact ⟨honce.2 hnull, fun _ hmem _ => given_overlaid hread hkeys hmem,
      fun _ => absent_overlaid hread hkeys⟩
  · rw [rejects_overlaid hkeys hread fun hnodup =>
      hne (honce.1 hnodup value hvalue)]
    rfl
  · exact get?_overlaid hkeys hread hmem hkey

theorem mapping_reads_back_iff_under_alias :
    let entries : Entries Json :=
      [("index", .string "a"), ("id", .ofUInt64 7), ("isEn", .bool true),
        ("_source", .strings ["title"]), ("title", .null)]
    ∃ s, entries.keys.Nodup ∧ ofMapping (.object entries) = .ok s ∧
      (¬∃ t, ofMapping s.mapping = .ok t ∧
        { t with document := s.document } = s) ∧
      (ofMapping s.mapping).mapError SpecError.malformed =
        .error (.malformed (.duplicateField "source")) ∧
      s.mapping.field? "isEn" = some (.bool true) := by
  intro entries
  have hkeys : entries.keys.Nodup := by decide
  have hread : ofMapping (.object entries) = .ok {
      index := some "a"
      id := some "7"
      phrasePrefix := true
      projection := some ["title"]
      document := [("_source", .strings ["title"]), ("title", .null)] } := rfl
  obtain ⟨hiff, hrejected, hkept⟩ := mapping_reads_back_iff hkeys hread
  have halias : entries.get? "_source" = some (.strings ["title"]) := rfl
  refine ⟨_, hkeys, hread, fun hback => ?_, hrejected _ halias Json.noConfusion,
    hkept ("isEn", .bool true) (by simp [entries]) (by simp)⟩
  exact Json.noConfusion (hiff.1 hback _ halias)

end Specification

end SearchClient

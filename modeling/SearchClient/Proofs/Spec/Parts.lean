import SearchClient.Proofs.Json.Parts
import SearchClient.Spec.Specification

/-!
# The parts of a specification

Each search key of a mapping is read into a part of its own, and so is each of
the keys that address a document.
-/

namespace SearchClient.Specification

/-- The search keys of a specification and its document. -/
def parts (s : Specification) : List Part := [
  ⟨_, s.index⟩, ⟨_, s.docType⟩, ⟨_, s.id⟩, ⟨_, s.filters⟩, ⟨_, s.minMatch⟩,
  ⟨_, s.geo⟩, ⟨_, s.sort⟩, ⟨_, s.keyword⟩, ⟨_, s.columns⟩, ⟨_, s.searchType⟩,
  ⟨_, s.phrasePrefix⟩, ⟨_, s.rules⟩, ⟨_, s.scoreMode⟩, ⟨_, s.grouped⟩,
  ⟨_, s.groupColumns⟩, ⟨_, s.groupSize⟩, ⟨_, s.highlighted⟩,
  ⟨_, s.highlightClass⟩, ⟨_, s.highlightFields⟩, ⟨_, s.offset⟩, ⟨_, s.limit⟩,
  ⟨_, s.projection⟩, ⟨_, s.document⟩]

theorem parts_injective : Function.Injective parts := by
  intro s t h
  cases s
  cases t
  simp only [parts, List.cons.injEq, Sigma.mk.injEq, heq_eq_eq, true_and,
    and_true] at h
  simp only [mk.injEq]
  exact h

theorem shape_hasParts : shape.HasParts parts where
  named := Shape.forall_of_zipIdx (by decide)
  optional := by simp [shape, Field.orAlso]
  length := fun _ => by simp [shape, parts]
  injective := parts_injective
  sets := by
    apply Shape.forall_of_zipIdx
    simp only [shape, List.zipIdx_cons, List.zipIdx_nil, List.forall_mem_cons,
      List.not_mem_nil, false_imp_iff, implies_true, and_true]
    refine ⟨?_, ?_, ?_, ?_, ?_, ?_, ?_, ?_, ?_, ?_, ?_, ?_, ?_, ?_, ?_, ?_, ?_,
      ?_, ?_, ?_, ?_, .orAlso ?_ _⟩
    all_goals exact Field.sets_defaulted fun _ _ => rfl

/-- Only the projection has a second key. -/
theorem name_of_place {key : String} {place : Nat}
    (h : shape.place? key = some place) :
    shape.fields[place]?.map Field.name = some key ∨
      key = "_source" ∧ place = 21 := by
  have hnames : ∀ place (field : Field Specification),
      shape.fields[place]? = some field → field.isNamed key = true →
        field.name = key ∨ key = "_source" ∧ place = 21 := by
    apply Shape.forall_of_zipIdx
    simp [shape, Field.isNamed, Field.orAlso]
  obtain ⟨field, hfield, hfind⟩ := Shape.find?_of_place h
  have hnamed := List.find?_some hfind
  rw [hfield]
  exact (hnames place field hfield hnamed).imp_left (congrArg some)

theorem keys_of_place {key other : String} {place : Nat}
    (h : shape.place? key = some place)
    (hother : shape.place? other = some place) (hne : key ≠ other) :
    place = 21 ∧ (key = "_source" ∧ other = "source" ∨
      key = "source" ∧ other = "_source") := by
  rcases name_of_place h with hname | ⟨rfl, rfl⟩
  · rcases name_of_place hother with hname' | ⟨rfl, rfl⟩
    · exact absurd (Option.some.inj (hname.symm.trans hname')) hne
    · exact ⟨rfl, .inr ⟨(Option.some.inj hname).symm, rfl⟩⟩
  · rcases name_of_place hother with hname' | ⟨rfl, -⟩
    · exact ⟨rfl, .inl ⟨rfl, (Option.some.inj hname').symm⟩⟩
    · contradiction

theorem targetShape_hasParts : targetShape.HasParts parts where
  named := Shape.forall_of_zipIdx (by decide)
  optional := by simp [targetShape]
  length := fun _ => by simp [targetShape, parts]
  injective := parts_injective
  sets := by
    apply Shape.forall_of_zipIdx
    simp only [targetShape, List.zipIdx_cons, List.zipIdx_nil,
      List.forall_mem_cons, List.not_mem_nil, false_imp_iff, implies_true,
      and_true]
    refine ⟨?_, ?_, ?_⟩
    all_goals exact Field.sets_defaulted fun _ _ => rfl

/-- The search keys are read, and the document is what the mapping has besides the
target keys. -/
theorem ofMapping_object_iff {entries : Entries Json} {s : Specification} :
    ofMapping (.object entries) = .ok s ↔
      shape.IsReadFrom parts entries { s with document := [] } ∧
        s.document = documentOf (.object entries) := by
  constructor
  · intro h
    obtain ⟨record, hdecode, rfl⟩ := Except.map_eq_ok.1 h
    have hrecord := (Shape.decode_object_iff shape_hasParts).1 hdecode
    refine ⟨?_, rfl⟩
    have hplace : ∀ entry ∈ entries, shape.place? entry.1 ≠ some 22 := by
      intro entry _ heq
      obtain ⟨field, hfield, -⟩ := Shape.find?_of_place heq
      simp [shape] at hfield
    have hdocument : record.document = [] := by
      simpa [parts, shape] using hrecord.absent 22 hplace
    rwa [← hdocument]
  · rintro ⟨hrecord, hdocument⟩
    refine Except.map_eq_ok.2
      ⟨_, (Shape.decode_object_iff shape_hasParts).2 hrecord, ?_⟩
    rw [← hdocument]

theorem mem_documentOf {entries : Entries Json} {entry : String × Json} :
    entry ∈ documentOf (.object entries) ↔
      entry ∈ entries ∧ entry.1 ∉ targetKeys := by
  simp [documentOf, Json.object?]

theorem not_mem_keys_documentOf {mapping : Json} {key : String}
    (h : key ∈ targetKeys) : key ∉ (documentOf mapping).keys := by
  rw [Entries.mem_keys]
  rintro ⟨value, hmem⟩
  simp [documentOf, h] at hmem

theorem nodup_keys_documentOf {entries : Entries Json}
    (h : entries.keys.Nodup) : (documentOf (.object entries)).keys.Nodup :=
  h.sublist (List.filter_sublist.map _)

end SearchClient.Specification

import SearchClient.Proofs.Entries
import SearchClient.Proofs.Except
import SearchClient.Proofs.Spec.Parts
import SearchClient.Request

/-!
# Built specifications

A specification is read from a mapping or begun with its target, and then built
on step by step.  No reading lets a target key into the document; of the steps
only those that add a field touch it, and they add under any key.
-/

namespace SearchClient.Specification

/-- A specification that no step was taken from yet. -/
inductive Begun : Specification → Prop where
  | ofMapping (mapping : Json) (s : Specification)
      (h : ofMapping mapping = .ok s) : Begun s
  | ofDocumentMapping (mapping : Json) (s : Specification)
      (h : ofDocumentMapping mapping = .ok s) : Begun s
  | target (index docType : String) : Begun (target index docType)
  | empty : Begun {}

inductive BuildStep where
  | setId (text : String)
  | addFilter (p : FilterPredicate)
  | addSort (d : SortDirective)
  | addField (key : String) (value : Json)

namespace BuildStep

def apply (s : Specification) : BuildStep → Specification
  | .setId text => s.withId text
  | .addFilter p => s.withFilter p
  | .addSort d => s.withSort d
  | .addField key value => s.withField key value

def field? : BuildStep → Option (String × Json)
  | .addField key value => some (key, value)
  | _ => none

theorem document_apply (s : Specification) (step : BuildStep) :
    (step.apply s).document = s.document.insertAll step.field?.toList := by
  cases step <;> rfl

end BuildStep

def build (s : Specification) (steps : List BuildStep) : Specification :=
  steps.foldl BuildStep.apply s

/-- The fields that the steps add. -/
def addedFields (steps : List BuildStep) : Entries Json :=
  steps.filterMap BuildStep.field?

theorem mem_keys_addedFields {steps : List BuildStep} {key : String} :
    key ∈ (addedFields steps).keys ↔ ∃ value, .addField key value ∈ steps := by
  rw [Entries.mem_keys]
  refine exists_congr fun value => ?_
  rw [addedFields, List.mem_filterMap]
  constructor
  · rintro ⟨step, hmem, hstep⟩
    cases step with
    | addField other given => cases hstep; exact hmem
    | _ => cases hstep
  · exact fun hmem => ⟨_, hmem, rfl⟩

/-- A run of steps inserts the fields that it adds, in their order. -/
theorem document_build (s : Specification) (steps : List BuildStep) :
    (s.build steps).document = s.document.insertAll (addedFields steps) := by
  induction steps generalizing s with
  | nil => rfl
  | cons step steps ih =>
      change ((step.apply s).build steps).document = _
      rw [ih, step.document_apply]
      cases step <;> rfl

theorem Begun.not_mem_keys {s : Specification} (h : s.Begun) {key : String}
    (hkey : key ∈ targetKeys) : key ∉ s.document.keys := by
  cases h with
  | ofMapping mapping s h =>
      obtain ⟨record, -, rfl⟩ := Except.map_eq_ok.1 h
      exact not_mem_keys_documentOf hkey
  | ofDocumentMapping mapping s h =>
      obtain ⟨record, -, rfl⟩ := Except.map_eq_ok.1 h
      exact not_mem_keys_documentOf hkey
  | target index docType => exact List.not_mem_nil
  | empty => exact List.not_mem_nil

theorem body_of_write {s : Specification} {host : Endpoint}
    {operation : Operation} {prepared : PreparedRequest}
    (hop : operation = .save ∨ operation = .update)
    (h : s.prepare host operation = .ok prepared) :
    prepared.body = some (.object s.document) := by
  rcases hop with rfl | rfl
  · rw [prepare, prepareSave] at h
    split at h
    · cases h
    · split at h <;> cases h <;> rfl
  · rw [prepare, prepareUpdate] at h
    split at h <;> cases h
    rfl

/--
What is saved or updated is an object, and it holds a target key exactly when a
step added a field under that key.
-/
theorem written_target_keys_iff {s : Specification} (hbegun : s.Begun)
    (steps : List BuildStep) {host : Endpoint} {operation : Operation}
    (hop : operation = .save ∨ operation = .update) {prepared : PreparedRequest}
    (h : (s.build steps).prepare host operation = .ok prepared) :
    ∃ document : Entries Json, prepared.body = some (.object document) ∧
      ∀ key ∈ ["index", "type", "id", "isEn"],
        key ∈ document.keys ↔ ∃ value, .addField key value ∈ steps := by
  refine ⟨_, body_of_write hop h, fun key hkey => ?_⟩
  rw [document_build, Entries.mem_keys_insertAll, mem_keys_addedFields]
  exact or_iff_right (hbegun.not_mem_keys hkey)

theorem written_target_keys_iff_after_field :
    let steps : List BuildStep :=
      [.addField "index" (.string "x"), .addField "title" (.string "y")]
    let host : Endpoint :=
      ⟨{ scheme := "http", host := .name "h", path := [[]] }⟩
    ∃ prepared, (target "a" "b").Begun ∧
      ((target "a" "b").build steps).prepare host .save = .ok prepared ∧
      ∃ document : Entries Json, prepared.body = some (.object document) ∧
        ∀ key ∈ ["index", "type", "id", "isEn"],
          key ∈ document.keys ↔ ∃ value, .addField key value ∈ steps := by
  intro steps host
  exact ⟨_, .target "a" "b", rfl,
    written_target_keys_iff (.target "a" "b") steps (.inl rfl) rfl⟩

/-- Nothing keeps a field from being added under a target key. -/
theorem target_keys_not_always_absent :
    ¬∀ (s : Specification) (steps : List BuildStep) (host : Endpoint)
      (operation : Operation) (prepared : PreparedRequest), s.Begun →
      operation = .save ∨ operation = .update →
      (s.build steps).prepare host operation = .ok prepared →
      ∃ document : Entries Json, prepared.body = some (.object document) ∧
        ∀ key ∈ ["index", "type", "id", "isEn"], key ∉ document.keys := by
  intro habsent
  obtain ⟨document, hbody, hkeys⟩ := habsent (target "a" "b")
    [.addField "index" (.string "x"), .addField "title" (.string "y")]
    ⟨{ scheme := "http", host := .name "h", path := [[]] }⟩
    .save _ (.target "a" "b") (.inl rfl) rfl
  cases hbody
  exact hkeys "index" (by simp) (by decide)

end SearchClient.Specification

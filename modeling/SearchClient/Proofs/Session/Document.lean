import SearchClient.Proofs.Json.Compact
import SearchClient.Proofs.Json.Decode
import SearchClient.Proofs.Session.History
import SearchClient.Proofs.Session.Params
import SearchClient.Proofs.Spec.Parts

/-!
# Documents on their way

A mapping that is handed over for a document operation is read for its target
alone, so its other entries may be anything.  They are sent as they are, without
the target keys, in a text that reads back to them.
-/

namespace SearchClient

theorem Json.wellFormedFields_filter (keep : String × Json → Bool)
    {fields : List (String × Json)} (h : WellFormedFields fields) :
    WellFormedFields (fields.filter keep) := by
  induction fields with
  | nil => exact h
  | cons field fields ih =>
      rw [WellFormedFields] at h
      rw [List.filter_cons]
      split
      · rw [WellFormedFields]
        exact ⟨h.1, ih h.2⟩
      · exact ih h.2

/-- Leaving entries out makes no key come twice. -/
theorem Json.WellFormed.filter {entries : Entries Json}
    (h : (Json.object entries).WellFormed) (keep : String × Json → Bool) :
    (Json.object (entries.filter keep)).WellFormed := by
  rw [WellFormed] at h ⊢
  exact ⟨h.1.sublist (List.filter_sublist.map _), wellFormedFields_filter keep h.2⟩

namespace Specification

/-! ## Reading the target -/

theorem targetShape_isPlain : targetShape.IsPlain where
  nodup := by decide
  aliases := by simp [targetShape]

/-- Only what stands under the three addressing keys can be at fault. -/
theorem ofDocumentMapping_of_values {entries : Entries Json}
    (hkeys : entries.keys.Nodup) {index docType id : Option String}
    (hindex : Decode.orDefault none (Decode.optional Decode.string)
      (entries.get? "index") = .ok index)
    (htype : Decode.orDefault none (Decode.optional Decode.string)
      (entries.get? "type") = .ok docType)
    (hid : Decode.orDefault none (Decode.optional decodeId)
      (entries.get? "id") = .ok id) :
    ofDocumentMapping (.object entries) = .ok {
      index := index
      docType := docType
      id := id
      document := documentOf (.object entries) } := by
  refine Except.map_eq_ok.2
    ⟨{ index := index, docType := docType, id := id },
      (Shape.decode_object_iff targetShape_hasParts).2 ?_, rfl⟩
  apply targetShape_isPlain.isReadFrom targetShape_hasParts hkeys
  · rintro (_ | _ | _ | place) field hfield
    · obtain rfl := Option.some.inj hfield
      exact Field.givenBy_defaulted (fun _ _ => rfl) rfl rfl hindex
    · obtain rfl := Option.some.inj hfield
      exact Field.givenBy_defaulted (fun _ _ => rfl) rfl rfl htype
    · obtain rfl := Option.some.inj hfield
      exact Field.givenBy_defaulted (fun _ _ => rfl) rfl rfl hid
    · cases hfield
  · rintro (_ | _ | _ | place) hplace
    all_goals first | rfl | cases hplace

/-! ## Targets -/

/-- A text that is not empty, or an unsigned number, can be an id. -/
inductive NamesDocument : Json → Prop where
  | text (t : String) (h : t ≠ "") : NamesDocument (.string t)
  | number (n : UInt64) : NamesDocument (.ofUInt64 n)

/-- A mapping of an index and a type, with no key twice in any object. -/
structure Addresses (entries : Entries Json) : Prop where
  wellFormed : (Json.object entries).WellFormed
  index : ∃ name, name ≠ "" ∧ entries.get? "index" = some (.string name)
  docType : ∃ name, name ≠ "" ∧ entries.get? "type" = some (.string name)

def GivesId (entries : Entries Json) : Prop :=
  ∃ value, entries.get? "id" = some value ∧ NamesDocument value

def LacksId (entries : Entries Json) : Prop :=
  entries.get? "id" = none ∨ entries.get? "id" = some .null ∨
    entries.get? "id" = some (.string "")

theorem NamesDocument.decode {value : Json} (h : NamesDocument value) :
    ∃ id, id ≠ "" ∧ Decode.optional decodeId value = .ok (some id) := by
  cases h with
  | text t h => exact ⟨t, h, rfl⟩
  | number n =>
      refine ⟨Nat.repr n.toNat, by simp, ?_⟩
      have htext : Decode.string (.ofUInt64 n) =
          .error (.wrongType (.int n.toNat) .string) := rfl
      have hnumber := Decode.word64_ofUInt64 n
      rw [Decode.optional_of_ne_null Json.noConfusion]
      simp [decodeId, Decode.firstOf, htext, hnumber, Except.toOption]

theorem LacksId.decode {entries : Entries Json} (h : LacksId entries) :
    ∃ id, Decode.orDefault none (Decode.optional decodeId)
      (entries.get? "id") = .ok id := by
  rcases h with h | h | h <;> rw [h] <;> exact ⟨_, rfl⟩

theorem nonEmpty?_some {text : String} (h : text ≠ "") :
    nonEmpty? (some text) = some text := by
  simp [nonEmpty?, Option.filter, h]

theorem GivesId.decode {entries : Entries Json} (h : GivesId entries) :
    ∃ id, nonEmpty? id ≠ none ∧
      Decode.orDefault none (Decode.optional decodeId) (entries.get? "id") =
        .ok id := by
  obtain ⟨value, hvalue, hnames⟩ := h
  obtain ⟨id, hne, hid⟩ := hnames.decode
  rw [hvalue]
  exact ⟨some id, by simp [nonEmpty?_some hne], hid⟩

theorem Addresses.nodup {entries : Entries Json} (h : Addresses entries) :
    entries.keys.Nodup := by
  have hall := h.wellFormed
  rw [Json.WellFormed] at hall
  exact hall.1

theorem Addresses.read {entries : Entries Json} (h : Addresses entries)
    {id : Option String}
    (hid : Decode.orDefault none (Decode.optional decodeId)
      (entries.get? "id") = .ok id) :
    ∃ s, ofDocumentMapping (.object entries) = .ok s ∧
      (∃ target, s.target? = some target) ∧ s.id = id ∧
      s.document = documentOf (.object entries) := by
  obtain ⟨index, hindex, hindexAt⟩ := h.index
  obtain ⟨docType, htype, htypeAt⟩ := h.docType
  have hindexRead : Decode.orDefault none (Decode.optional Decode.string)
      (entries.get? "index") = .ok (some index) := by
    rw [hindexAt]
    rfl
  have htypeRead : Decode.orDefault none (Decode.optional Decode.string)
      (entries.get? "type") = .ok (some docType) := by
    rw [htypeAt]
    rfl
  refine ⟨_, ofDocumentMapping_of_values h.nodup hindexRead htypeRead hid,
    ⟨(index, docType), ?_⟩, rfl, rfl⟩
  simp [target?, nonEmpty?_some hindex, nonEmpty?_some htype]

/-! ## What is sent for a document -/

variable {s : Specification} {host : Endpoint}

theorem prepare_save {target : String × String} (h : s.target? = some target) :
    ∃ prepared, s.prepare host .save = .ok prepared ∧
      prepared.verb.hasBody = true ∧ prepared.body = some (.object s.document) := by
  rw [prepare, prepareSave, h]
  cases nonEmpty? s.id with
  | none => exact ⟨_, rfl, rfl, rfl⟩
  | some id => exact ⟨_, rfl, rfl, rfl⟩

theorem exists_targetWithId {target : String × String}
    (h : s.target? = some target) (hid : nonEmpty? s.id ≠ none) :
    ∃ id, s.targetWithId? = some (target.1, target.2, id) := by
  obtain ⟨id, hid⟩ := Option.ne_none_iff_exists'.1 hid
  exact ⟨id, by simp [targetWithId?, h, hid]⟩

theorem prepare_update {target : String × String} (h : s.target? = some target)
    (hid : nonEmpty? s.id ≠ none) :
    ∃ prepared, s.prepare host .update = .ok prepared ∧
      prepared.verb.hasBody = true ∧ prepared.body = some (.object s.document) := by
  obtain ⟨id, hid⟩ := exists_targetWithId h hid
  rw [prepare, prepareUpdate, hid]
  exact ⟨_, rfl, rfl, rfl⟩

theorem prepare_bare {target : String × String} (h : s.target? = some target)
    (hid : nonEmpty? s.id ≠ none) {operation : Operation}
    (hop : operation = .get ∨ operation = .delete) :
    ∃ prepared, s.prepare host operation = .ok prepared ∧
      prepared.verb.hasBody = false := by
  obtain ⟨id, hid⟩ := exists_targetWithId h hid
  rcases hop with rfl | rfl <;> rw [prepare, prepareBare, hid] <;>
    exact ⟨_, rfl, rfl⟩

end Specification

namespace Session

variable {s : Session} {params : Params} {operation : Operation}

/-- What can be prepared is sent, once. -/
theorem sends_handOver (hcoherent : s.Coherent)
    (hallowed : s.Allows (.setParams params)) {spec : Specification}
    (hspec : params.resolve operation = .ok spec)
    {P : PreparedRequest → Prop}
    (hprepare : ∀ host, ∃ prepared,
      spec.prepare host operation = .ok prepared ∧ P prepared)
    (reply : Reply) :
    ∃ prepared, P prepared ∧
      (s.turns (handOver params operation reply)).flatMap (·.outcome.sent) =
        [prepared.wire s.timeout] := by
  have hstage : s.stage ≠ .unconfigured := by
    rcases hallowed with h | h <;> simp [h]
  obtain ⟨host, hhost⟩ := Option.ne_none_iff_exists'.1 (mt hcoherent.1.1 hstage)
  obtain ⟨prepared, hprepared, hP⟩ := hprepare host
  refine ⟨prepared, hP, ?_⟩
  rw [sent_handOver hallowed hhost]
  exact sent_execute_iff.2 ⟨spec, prepared, hspec, hprepared, rfl⟩

theorem sends_document (hcoherent : s.Coherent) {mapping : Json}
    (hallowed : s.Allows (.setParams (.mapping mapping)))
    (hop : operation.isSearch = false) {spec : Specification}
    (hspec : Specification.ofDocumentMapping mapping = .ok spec)
    {document : Json} (hdocument : document.WellFormed)
    (hprepare : ∀ host, ∃ prepared,
      spec.prepare host operation = .ok prepared ∧
        prepared.verb.hasBody = true ∧ prepared.body = some document)
    (reply : Reply) :
    ∃ request body,
      (s.turns (handOver (.mapping mapping) operation reply)).flatMap
        (·.outcome.sent) = [request] ∧
      request.body = some body ∧ body = Utf8.encode document.render.toList ∧
      Json.IsCompactText body document := by
  obtain ⟨prepared, ⟨hverb, hbody⟩, hsent⟩ := sends_handOver hcoherent hallowed
    (Params.resolve_of_not_search hop hspec) hprepare reply
  exact ⟨_, _, hsent, by simp [PreparedRequest.wire, hverb, hbody], rfl,
    Json.isCompactText_render hdocument⟩

/--
A document is sent as it was given.  Whatever else the mapping holds, a session
that takes it and is then told to save or update the document sends one request,
with the entries of the mapping but the four target keys in their order, in a
compact text that reads back to them; told to get or delete it, one request without
a body.  An id may be missing for saving only.
-/
theorem document_sent_intact {start : Session} (hstart : start.Initial)
    (events : List Event) {entries : Entries Json}
    (haddresses : Specification.Addresses entries)
    (hallowed :
      (start.after events).Allows (.setParams (.mapping (.object entries))))
    (reply : Reply) :
    let sent operation := ((start.after events).turns
      (handOver (.mapping (.object entries)) operation reply)).flatMap
        (·.outcome.sent)
    let document : Json := .object
      (entries.filter fun (key, _) => key ∉ ["index", "type", "id", "isEn"])
    (Specification.GivesId entries ∨ Specification.LacksId entries →
      ∃ request body, sent .save = [request] ∧ request.body = some body ∧
        body = Utf8.encode document.render.toList ∧
        Json.IsCompactText body document) ∧
    (Specification.GivesId entries →
      ∃ request body, sent .update = [request] ∧ request.body = some body ∧
        body = Utf8.encode document.render.toList ∧
        Json.IsCompactText body document) ∧
    ∀ operation, operation = .get ∨ operation = .delete →
      Specification.GivesId entries →
        ∃ request, sent operation = [request] ∧ request.body = none := by
  intro sent document
  have hcoherent := hstart.coherent.after events
  have hwellFormed : document.WellFormed := haddresses.wellFormed.filter _
  have hdocument :
      .object (Specification.documentOf (.object entries)) = document := by
    simp [Specification.documentOf, Specification.targetKeys, document,
      Json.object?]
  refine ⟨fun hid => ?_, fun hid => ?_, fun operation hop hid => ?_⟩
  · obtain ⟨id, hid⟩ := hid.elim
      (fun h => h.decode.imp fun _ => And.right) (fun h => h.decode)
    obtain ⟨spec, hspec, ⟨target, htarget⟩, -, hsame⟩ := haddresses.read hid
    rw [← hsame] at hdocument
    exact sends_document hcoherent hallowed rfl hspec hwellFormed
      (fun _ => hdocument ▸ Specification.prepare_save htarget) reply
  · obtain ⟨id, hne, hid⟩ := hid.decode
    obtain ⟨spec, hspec, ⟨target, htarget⟩, rfl, hsame⟩ := haddresses.read hid
    rw [← hsame] at hdocument
    exact sends_document hcoherent hallowed rfl hspec hwellFormed
      (fun _ => hdocument ▸ Specification.prepare_update htarget hne) reply
  · obtain ⟨id, hne, hid⟩ := hid.decode
    obtain ⟨spec, hspec, ⟨target, htarget⟩, rfl, -⟩ := haddresses.read hid
    have hsearch : operation.isSearch = false := by
      rcases hop with rfl | rfl <;> rfl
    obtain ⟨prepared, hverb, hsent⟩ := sends_handOver hcoherent hallowed
      (Params.resolve_of_not_search hsearch hspec)
      (fun _ => Specification.prepare_bare htarget hne hop) reply
    exact ⟨_, hsent, by simp [PreparedRequest.wire, hverb]⟩

/-- Entries that no search could use are part of the document. -/
theorem document_sent_intact_with_search_keys :
    let host : Endpoint :=
      ⟨{ scheme := "http", host := .name "h", path := [[]] }⟩
    let entries : Entries Json :=
      [("size", .string "XL"), ("index", .string "a"), ("isEn", .ofUInt64 2),
        ("type", .string "b"), ("filters", .array [.bool true]),
        ("id", .ofUInt64 7), ("_source", .object [("id", .null)])]
    let document : Json := .object
      [("size", .string "XL"), ("filters", .array [.bool true]),
        ("_source", .object [("id", .null)])]
    (ofHost host).Initial ∧ Specification.Addresses entries ∧
      (ofHost host).Allows (.setParams (.mapping (.object entries))) ∧
      Specification.GivesId entries ∧
      ∃ request body,
        ((ofHost host).turns (handOver (.mapping (.object entries)) .update
          (.ok []))).flatMap (·.outcome.sent) = [request] ∧
        request.body = some body ∧
        body = Utf8.encode
          "\x7b\"size\":\"XL\",\"filters\":[true],\"_source\":\x7b\"id\":null\x7d\x7d".toList ∧
        Json.IsCompactText body document := by
  intro host entries document
  have hwellFormed : (Json.object entries).WellFormed := by
    simp [entries, Json.WellFormed, Json.WellFormedFields, Json.WellFormedItems,
      Json.ofUInt64]
  have haddresses : Specification.Addresses entries :=
    ⟨hwellFormed, ⟨"a", by decide, rfl⟩, ⟨"b", by decide, rfl⟩⟩
  have hallowed : (ofHost host).Allows (.setParams (.mapping (.object entries))) :=
    .inl rfl
  have hid : Specification.GivesId entries := ⟨_, rfl, .number 7⟩
  obtain ⟨request, body, hsent, hbody, htext, hcompact⟩ :=
    (document_sent_intact (.ofHost host) [] haddresses hallowed (.ok [])).2.1 hid
  exact ⟨.ofHost host, haddresses, hallowed, hid, request, body, hsent, hbody, htext,
    hcompact⟩

end Session

end SearchClient

import SearchClient.Proofs.Except
import SearchClient.Proofs.Response.Agreement

/-!
# Pages of hits

A search shows all hits of the engine's answer or none.  What a document has
under each key is told by the hit as it is written: its id and its score, the
fragment for the highlight field, and whatever the stored document has under any
other key.
-/

namespace SearchClient

open Json Json.Tree

namespace Json.Tree

/-- What stands under a field of a record that is written as an object, or as an
array of its fields in the order of their names. -/
def part? (names : List String) (name : String) : Tree → Option Tree
  | .object fields => (keyed? fields).bind (·.lookup name)
  | .array items => items[names.idxOf name]?
  | _ => none

/-- The field is missing or null. -/
def Lacks (names : List String) (name : String) (tree : Tree) : Prop :=
  ∀ part, tree.part? names name = some part → part.isNull = true

theorem lookup_eq_of_single? {fields : List (String × Tree)} {name : String}
    {slot : Option Tree} (h : single? fields name = some slot) :
    fields.lookup name = slot := by
  induction fields with
  | nil => exact Option.some.inj h
  | cons field fields ih =>
      obtain ⟨key, value⟩ := field
      rw [List.lookup_cons]
      by_cases hkey : key = name
      · subst hkey
        unfold single? at h
        cases hrest : fields.filter (·.1 = key) with
        | nil => simpa [hrest] using h
        | cons _ _ => simp [hrest] at h
      · have hne : (name == key) = false := by simpa using Ne.symm hkey
        rw [hne]
        exact ih (by simpa [single?, hkey] using h)

/-- The fields that a record is read from are its parts. -/
theorem eq_parts_of_fields? {names : List String} (hnames : names.Nodup)
    {tree : Tree} {slots : List (Option Tree)} (h : tree.fields? names = some slots) :
    slots = names.map fun name => tree.part? names name := by
  cases tree with
  | object fields =>
      obtain ⟨keyed, hkeyed, h⟩ := Option.bind_eq_some_iff.1 h
      simp only [part?, hkeyed, Option.bind_some]
      have hslots := mapM_eq_some.1 h
      have heq : List.Forall₂ (fun name slot => slot = keyed.lookup name) names slots :=
        hslots.imp fun _ _ hslot => (lookup_eq_of_single? hslot).symm
      exact List.forall₂_eq_eq_eq ▸ (List.forall₂_map_right_iff.2 heq.flip)
  | array items =>
      simp only [fields?] at h
      split at h
      · next hle =>
        obtain rfl := Option.some.inj h
        refine List.ext_getElem (by simp; omega) fun i hi hi' => ?_
        have hlt : i < names.length := by simpa using hi'
        have hplace : names.idxOf names[i] = i := hnames.idxOf_getElem i hlt
        simp only [List.getElem_map, part?, hplace, List.getElem_append,
          List.length_map, List.getElem_replicate]
        split
        · next hlt => exact (List.getElem?_eq_getElem (by simpa using hlt)).symm
        · next hge => exact (List.getElem?_eq_none (by simpa using hge)).symm
      · contradiction
  | _ => contradiction

variable {room : Nat} {slot : Option Tree}

/-- The value in a slot, null where nothing is written. -/
def value (room : Nat) (slot : Option Tree) : Json := (slot.bind (toJson? room)).getD .null

theorem value_some {tree : Tree} {json : Json} (h : tree.toJson? room = some json) :
    value room (some tree) = json := by
  rw [value, Option.bind_some, h, Option.getD_some]

theorem isNull_of_toJson? {tree : Tree} {json : Json}
    (h : tree.toJson? room = some json) : json.isNull = tree.isNull := by
  cases tree with
  | null | bool => obtain rfl := Option.some.inj h; rfl
  | number | string => obtain ⟨_, -, rfl⟩ := Option.map_eq_some_iff.1 h; rfl
  | array | object =>
      rw [toJson?, valueBy?] at h
      split at h
      · contradiction
      · obtain ⟨_, -, rfl⟩ := Option.map_eq_some_iff.1 h
        rfl

theorem nodup_of_toJson? {tree : Tree} {fields : Entries Json}
    (h : tree.toJson? room = some (.object fields)) : fields.keys.Nodup := by
  cases tree with
  | object =>
      rw [toJson?, valueBy?] at h
      split at h
      · contradiction
      · obtain ⟨entries, -, hfields⟩ := Option.map_eq_some_iff.1 h
        exact Json.object.inj hfields ▸ Entries.nodup_keys_ofList entries
  | array =>
      rw [toJson?, valueBy?] at h
      split at h
      · contradiction
      · simp at h
  | _ => simp [toJson?, valueBy?] at h

theorem nodup_value : ((value room slot).object?.getD []).keys.Nodup := by
  cases slot with
  | none => exact List.nodup_nil
  | some tree =>
      cases hjson : tree.toJson? room with
      | none => simp [value, hjson, Json.object?, Entries.keys]
      | some json =>
          rw [value_some hjson]
          cases json with
          | object fields => exact nodup_of_toJson? hjson
          | _ => exact List.nodup_nil

theorem eq_of_orElse_toJson? {json : Json}
    (h : orElse .null (toJson? room) slot = some json) : json = value room slot := by
  cases slot with
  | none => exact (Option.some.inj h).symm
  | some tree => exact (value_some h).symm

theorem eq_of_orElse_object? {object : Entries Json}
    (h : orElse [] (object? room) slot = some object) :
    object = (value room slot).object?.getD [] := by
  cases slot with
  | none => exact (Option.some.inj h).symm
  | some tree =>
      obtain ⟨json, hjson, hobject⟩ := Option.bind_eq_some_iff.1 h
      rw [value_some hjson, hobject, Option.getD_some]

/-- An optional field has a value exactly where something other than null is
written. -/
theorem orNone_cases {α : Type} {read : Tree → Option α} {result : Option α}
    (h : orElse none (orNone read) slot = some result) :
    (result = none ∧ ∀ tree, slot = some tree → tree.isNull = true) ∨
      ∃ tree a, slot = some tree ∧ tree.isNull = false ∧ read tree = some a ∧
        result = some a := by
  cases slot with
  | none => exact .inl ⟨(Option.some.inj h).symm, fun _ hnone => nomatch hnone⟩
  | some tree =>
      simp only [orElse, orNone] at h
      split at h
      · next hnull =>
        refine .inl ⟨(Option.some.inj h).symm, fun other hother => ?_⟩
        exact Option.some.inj hother ▸ hnull
      · next hnull =>
        obtain ⟨a, ha, rfl⟩ := Option.map_eq_some_iff.1 h
        exact .inr ⟨tree, a, rfl, by simpa using hnull, ha, rfl⟩

theorem value_of_null (h : ∀ tree, slot = some tree → tree.isNull = true) :
    value room slot = .null := by
  cases slot with
  | none => rfl
  | some tree =>
      cases tree with
      | null => rfl
      | _ => exact nomatch h _ rfl

theorem eq_of_orNone_object? {object : Option (Entries Json)}
    (h : orElse none (orNone (object? room)) slot = some object) :
    object = (value room slot).object? := by
  obtain ⟨rfl, hnull⟩ | ⟨tree, fields, rfl, -, hfields, rfl⟩ := orNone_cases h
  · rw [value_of_null hnull]
    rfl
  · obtain ⟨json, hjson, hobject⟩ := Option.bind_eq_some_iff.1 hfields
    rw [value_some hjson, hobject]

theorem eq_of_orNone_toJson? {json : Option Json}
    (h : orElse none (orNone (toJson? room)) slot = some json) :
    json = if (value room slot).isNull then none else some (value room slot) := by
  obtain ⟨rfl, hnull⟩ | ⟨tree, json, rfl, hnull, hjson, rfl⟩ := orNone_cases h
  · rw [value_of_null hnull]
    rfl
  · rw [value_some hjson, isNull_of_toJson? hjson, hnull]
    rfl

end Json.Tree

namespace Hit

def names : List String := ["_id", "_score", "_source", "highlight", "sort"]

/-- The value of a field of a hit, null where the hit has none. -/
def written (item : Tree) (name : String) : Json :=
  value (roomInside 4) (item.part? names name)

/-- The stored document of a hit. -/
def stored (item : Tree) : Entries Json := (written item "_source").object?.getD []

/-- The first fragment that a hit has for the highlight field. -/
def fragmentIn? (s : Specification) (item : Tree) : Option (String × Json) :=
  s.highlightField?.bind fun field =>
    (((written item "highlight").field? field).bind (·.item? 0)).map (field, ·)

/-- The value that ranks a hit: what it was sorted by, where it was, and its
score otherwise. -/
def rank (s : Specification) (item : Tree) : Json :=
  if s.isSorted && !(written item "sort").isNull then written item "sort"
  else written item "_score"

variable {item : Tree} {hit : Hit}

theorem eq_of_ofTree? (h : Hit.ofTree? item = some hit) :
    hit = {
      id := written item "_id"
      score := written item "_score"
      source := stored item
      highlight := (written item "highlight").object?
      sort :=
        if (written item "sort").isNull then none else some (written item "sort") } := by
  obtain ⟨slots, hslots, h⟩ := Option.bind_eq_some_iff.1 h
  obtain rfl := eq_parts_of_fields? (by decide) hslots
  simp only [List.map_cons, List.map_nil] at h
  obtain ⟨id, hid, h⟩ := Option.bind_eq_some_iff.1 h
  obtain ⟨score, hscore, h⟩ := Option.bind_eq_some_iff.1 h
  obtain ⟨source, hsource, h⟩ := Option.bind_eq_some_iff.1 h
  obtain ⟨highlight, hhighlight, h⟩ := Option.bind_eq_some_iff.1 h
  obtain ⟨sort, hsort, h⟩ := Option.bind_eq_some_iff.1 h
  rw [← Option.some.inj h, eq_of_orElse_toJson? hid, eq_of_orElse_toJson? hscore,
    eq_of_orElse_object? hsource, eq_of_orNone_object? hhighlight,
    eq_of_orNone_toJson? hsort]
  rfl

theorem nodup_stored (item : Tree) : (stored item).keys.Nodup :=
  nodup_value

theorem fragment?_of_ofTree? (h : Hit.ofTree? item = some hit) (s : Specification) :
    hit.fragment? s = fragmentIn? s item := by
  rw [fragment?_eq, eq_of_ofTree? h]
  rfl

theorem shownScore_of_ofTree? (h : Hit.ofTree? item = some hit) (s : Specification) :
    hit.shownScore s = rank s item := by
  rw [eq_of_ofTree? h, shownScore, rank]
  cases (written item "sort").isNull <;> simp

theorem get?_document_of_fragment? {s : Specification} {field : String}
    {fragment : Json} (h : hit.fragment? s = some (field, fragment))
    (hid : field ≠ "_id") (hscore : field ≠ "_score") :
    (hit.document s).get? field = some fragment := by
  rw [fragment?_eq] at h
  obtain ⟨shown, hshown, h⟩ := Option.bind_eq_some_iff.1 h
  obtain ⟨first, hfirst, h⟩ := Option.map_eq_some_iff.1 h
  obtain ⟨rfl, rfl⟩ := Prod.mk.inj h
  rw [get?_document hid hscore, if_pos hshown, hfirst, Option.some_or]

theorem get?_document_of_ne {s : Specification} {key : String}
    (h : ∀ fragment, hit.fragment? s ≠ some (key, fragment))
    (hid : key ≠ "_id") (hscore : key ≠ "_score") :
    (hit.document s).get? key = hit.source.get? key := by
  rw [get?_document hid hscore]
  split
  · next hshown =>
    cases hfirst : hit.firstFragment? key with
    | none => rfl
    | some first =>
        refine absurd ?_ (h first)
        rw [fragment?_eq, hshown, Option.bind_some, hfirst, Option.map_some]
  · rfl

/-- Keys that are put into a stored document come after its own. -/
theorem exists_keys_document (s : Specification) (hit : Hit) :
    ∃ added, (hit.document s).keys = hit.source.keys ++ added ∧
      ∀ key ∈ added, key = "_id" ∨ key = "_score" ∨
        ∃ fragment, hit.fragment? s = some (key, fragment) := by
  have hnew : ∀ {key other : String} {present : Prop} [Decidable present],
      other ∈ (if present then [] else [key]) → other = key := by
    intro key other present _ hmem
    split at hmem
    · simp at hmem
    · exact List.mem_singleton.1 hmem
  cases hfragment : hit.fragment? s with
  | none =>
      simp only [document, hfragment, Entries.keys_insert, List.append_assoc]
      refine ⟨_, rfl, fun key hkey => ?_⟩
      rcases List.mem_append.1 hkey with hkey | hkey
      · exact .inl (hnew hkey)
      · exact .inr (.inl (hnew hkey))
  | some shown =>
      simp only [document, hfragment, Entries.keys_insert, List.append_assoc]
      refine ⟨_, rfl, fun key hkey => ?_⟩
      rcases List.mem_append.1 hkey with hkey | hkey
      · exact .inr (.inr ⟨shown.2, hnew hkey ▸ rfl⟩)
      · rcases List.mem_append.1 hkey with hkey | hkey
        · exact .inl (hnew hkey)
        · exact .inr (.inl (hnew hkey))

theorem nodup_document (s : Specification) (h : hit.source.keys.Nodup) :
    (hit.document s).keys.Nodup := by
  refine Entries.nodup_keys_insert _ _ _ (Entries.nodup_keys_insert _ _ _ ?_)
  split
  · exact Entries.nodup_keys_insert _ _ _ h
  · exact h

/-- How a document comes from the hit that it shows. -/
structure Shows (s : Specification) (item : Tree) (document : Entries Json) : Prop where
  id : document.get? "_id" = some (written item "_id")
  score : document.get? "_score" = some (rank s item)
  fragment : ∀ field fragment, fragmentIn? s item = some (field, fragment) →
    field ≠ "_id" → field ≠ "_score" → document.get? field = some fragment
  stored : ∀ key, key ≠ "_id" → key ≠ "_score" →
    (∀ fragment, fragmentIn? s item ≠ some (key, fragment)) →
      document.get? key = (stored item).get? key
  order : ∃ added, document.keys = (Hit.stored item).keys ++ added ∧
    ∀ key ∈ added, key = "_id" ∨ key = "_score" ∨
      ∃ fragment, fragmentIn? s item = some (key, fragment)
  nodup : document.keys.Nodup

theorem shows_document (h : Hit.ofTree? item = some hit) (s : Specification) :
    Shows s item (hit.document s) := by
  have hfragment := fragment?_of_ofTree? h s
  have hsource : hit.source = Hit.stored item := by rw [eq_of_ofTree? h]
  refine ⟨?_, ?_, fun field fragment hshown => ?_, fun key hid hscore hne => ?_, ?_, ?_⟩
  · rw [document, Entries.get?_insert, if_neg (by decide), Entries.get?_insert,
      if_pos rfl, eq_of_ofTree? h]
  · rw [document, Entries.get?_insert, if_pos rfl, shownScore_of_ofTree? h]
  · exact get?_document_of_fragment? (hfragment.trans hshown)
  · rw [get?_document_of_ne (hfragment ▸ hne) hid hscore, hsource]
  · exact hsource ▸ hfragment ▸ exists_keys_document s hit
  · exact nodup_document s (hsource ▸ nodup_stored item)

end Hit

namespace HitPage

def names : List String := ["total", "hits"]

/-- The number of hits, bare or as the `value` of an object. -/
def written? (count : Tree) : Option Json :=
  match count with
  | .object _ => (count.part? ["value"] "value").bind (toJson? 0)
  | _ => count.toJson? 0

variable {tree : Tree} {page : HitPage}

theorem toJson?_of_word64? {n : UInt64} (h : word64? tree = some n) :
    tree.toJson? 0 = some (.ofUInt64 n) := by
  cases tree with
  | number numeral =>
      simp only [word64?] at h
      split at h
      · next number hrange hnumber =>
        split at h
        · next hpos =>
          obtain rfl := Option.some.inj h
          have hvalue : ((UInt64.ofNat number.toNat).toNat : Int) = number := by
            have hlt : number.toNat < UInt64.size := by
              simp only [UInt64.size]
              omega
            rw [UInt64.toNat_ofNat_of_lt' hlt]
            omega
          rw [Numeral.number?] at hnumber
          simp only [toJson?, valueBy?, hnumber, Option.map_some, ofUInt64,
            Number.ofUInt64, hvalue]
        · contradiction
      · contradiction
  | _ => contradiction

theorem written?_of_total? {n : UInt64} (h : HitPage.total? tree = some n) :
    written? tree = some (.ofUInt64 n) := by
  obtain ⟨-, -, h⟩ := Option.bind_eq_some_iff.1 h
  cases tree with
  | object fields =>
      obtain ⟨keyed, hkeyed, h⟩ := Option.bind_eq_some_iff.1 h
      obtain ⟨slot, hslot, h⟩ := Option.bind_eq_some_iff.1 h
      obtain ⟨count, rfl, h⟩ := Option.bind_eq_some_iff.1 h
      rw [written?, part?, hkeyed, Option.bind_some, lookup_eq_of_single? hslot,
        Option.bind_some]
      exact toJson?_of_word64? h
  | _ => exact toJson?_of_word64? h

theorem parts_of_ofTree? (h : HitPage.ofTree? tree = some page) :
    orElse 0 HitPage.total? (tree.part? names "total") = some page.total ∧
    orElse none (orNone (list? Hit.ofTree?)) (tree.part? names "hits") = some page.hits := by
  obtain ⟨slots, hslots, h⟩ := Option.bind_eq_some_iff.1 h
  obtain rfl := eq_parts_of_fields? (by decide) hslots
  simp only [List.map_cons, List.map_nil] at h
  obtain ⟨total, htotal, h⟩ := Option.bind_eq_some_iff.1 h
  obtain ⟨hits, hhits, h⟩ := Option.bind_eq_some_iff.1 h
  obtain rfl := Option.some.inj h
  exact ⟨htotal, hhits⟩

end HitPage

namespace SearchResponse

def names : List String := ["took", "hits", "aggregations"]

/-- The answer has no page of hits, or the page has no list of them. -/
def LacksHits (answer : Tree) : Prop :=
  answer.Lacks names "hits" ∨
    ∃ page, answer.part? names "hits" = some page ∧ page.Lacks HitPage.names "hits"

/-- The page of hits in an answer, and the hits that are listed on it. -/
def Lists (answer page : Tree) (items : List Tree) : Prop :=
  answer.part? names "hits" = some page ∧
    page.part? HitPage.names "hits" = some (.array items)

variable {answer page : Tree} {items : List Tree} {response : SearchResponse}

theorem not_lacksHits (h : Lists answer page items) : ¬LacksHits answer := by
  obtain ⟨hpage, hitems⟩ := h
  rintro (hlacks | ⟨other, hother, hlacks⟩)
  · have hnull := hlacks page hpage
    cases page with
    | null => simp [part?] at hitems
    | _ => contradiction
  · obtain rfl := Option.some.inj (hother.symm.trans hpage)
    exact nomatch hlacks _ hitems

theorem lists_unique {other : Tree} {others : List Tree} (h : Lists answer page items)
    (hother : Lists answer other others) : page = other ∧ items = others := by
  obtain rfl := Option.some.inj (h.1.symm.trans hother.1)
  have hitems := Option.some.inj (h.2.symm.trans hother.2)
  exact ⟨rfl, Tree.array.inj hitems⟩

theorem page_of_ofTree? (h : SearchResponse.ofTree? answer = some response) :
    orElse none (orNone HitPage.ofTree?) (answer.part? names "hits") =
      some response.page := by
  obtain ⟨slots, hslots, h⟩ := Option.bind_eq_some_iff.1 h
  obtain rfl := eq_parts_of_fields? (by decide) hslots
  simp only [List.map_cons, List.map_nil] at h
  obtain ⟨took, -, h⟩ := Option.bind_eq_some_iff.1 h
  obtain ⟨page, hpage, h⟩ := Option.bind_eq_some_iff.1 h
  obtain ⟨aggregations, -, h⟩ := Option.bind_eq_some_iff.1 h
  obtain rfl := Option.some.inj h
  exact hpage

/-- An answer that can be read lacks hits, or all that it lists can be read. -/
theorem lacksHits_or_lists (h : SearchResponse.ofTree? answer = some response) :
    (LacksHits answer ∧ ∀ read, response.page = some read → read.hits = none) ∨
    ∃ page items read hits, Lists answer page items ∧
      response.page = some read ∧ read.hits = some hits ∧
      orElse 0 HitPage.total? (page.part? HitPage.names "total") = some read.total ∧
      List.Forall₂ (fun item hit => Hit.ofTree? item = some hit) items hits := by
  obtain ⟨hnone, hnull⟩ | ⟨page, read, hpage, -, hread, hsome⟩ :=
    orNone_cases (page_of_ofTree? h)
  · exact .inl ⟨.inl hnull, by simp [hnone]⟩
  obtain ⟨htotal, hhits⟩ := HitPage.parts_of_ofTree? hread
  obtain ⟨hnone, hnull⟩ | ⟨list, hits, hlist, -, hhits, hshown⟩ := orNone_cases hhits
  · refine .inl ⟨.inr ⟨page, hpage, hnull⟩, fun other hother => ?_⟩
    obtain rfl := Option.some.inj (hsome.symm.trans hother)
    exact hnone
  · cases list with
    | array items =>
        exact .inr ⟨page, items, read, hits, ⟨hpage, hlist⟩, hsome, hshown, htotal,
          mapM_eq_some.1 hhits⟩
    | _ => contradiction

theorem pageResults_of_hits {read : HitPage} {hits : List Hit}
    (hpage : response.page = some read) (hhits : read.hits = some hits)
    (s : Specification) :
    response.pageResults s =
      { total := read.total, time := response.took, data := hits.map (Hit.document s) } := by
  obtain ⟨total, shown⟩ := read
  obtain rfl : shown = some hits := hhits
  rw [pageResults, hpage]

theorem pageResults_of_no_hits
    (h : ∀ read, response.page = some read → read.hits = none) (s : Specification) :
    response.pageResults s = {} := by
  unfold pageResults
  split
  · next hpage => exact nomatch h _ hpage
  · rfl

/-- Groups are put beside what the page gives. -/
theorem results_eq (s : Specification) (response : SearchResponse) :
    response.results s =
      { response.pageResults s with groups := (response.results s).groups } := by
  rw [groups_results]
  unfold results
  split
  · rfl
  · unfold pageResults
    split <;> rfl

end SearchResponse

namespace Envelope

open SearchResponse

/--
A search shows the whole page of hits that the engine answers with, or nothing.
Where the answer can be read and lists hits, there is one document for each, in
their order, and the total is the number given with them; a document has what
its hit has under each key, and its keys are those of the stored document and
then the new ones.  An answer that cannot be read, and one without a page or
without a list of hits on it, has no documents, a total of zero and no time, and
there are no other answers.
-/
theorem hits_shown_whole (bytes : List UInt8) (mode : SearchMode) (s : Specification) :
    ∃ results, ofAnswer bytes (.search mode) s = .hits results ∧
      (∀ answer page items, Tree.ofBytes? bytes = some answer →
        (SearchResponse.ofTree? answer).isSome → Lists answer page items →
          List.Forall₂ (Hit.Shows s) items results.data ∧
          ∀ count, page.part? HitPage.names "total" = some count →
            HitPage.written? count = some (.ofUInt64 results.total)) ∧
      (SearchResponse.ofBytes? bytes = none ∨
          (∃ answer, Tree.ofBytes? bytes = some answer ∧ LacksHits answer) →
        results.total = 0 ∧ results.time = 0 ∧ results.data = []) ∧
      (SearchResponse.ofBytes? bytes = none ∨
        ∃ answer, Tree.ofBytes? bytes = some answer ∧
          (LacksHits answer ∨ ∃ page items, Lists answer page items)) := by
  cases hread : SearchResponse.ofBytes? bytes with
  | none =>
      refine ⟨{}, ?_, fun answer page items htree hsome hlists => ?_, fun _ => ⟨rfl, rfl, rfl⟩,
        .inl rfl⟩
      · simp [ofAnswer, Operation.isSearch, searchResults, hread]
      · rw [SearchResponse.ofBytes?, htree, Option.bind_some] at hread
        simp [hread] at hsome
  | some response =>
      obtain ⟨tree, htree, htreeRead⟩ := Option.bind_eq_some_iff.1 hread
      refine ⟨response.results s, ofAnswer_search hread mode s, ?_⟩
      rw [results_eq]
      obtain ⟨hlacks, hnone⟩ | ⟨page, items, read, hits, hlists, hpage, hhits, htotal, hitems⟩ :=
        lacksHits_or_lists htreeRead
      · rw [pageResults_of_no_hits hnone]
        refine ⟨fun answer page items hanswer _ hlists => ?_, fun _ => ⟨rfl, rfl, rfl⟩,
          .inr ⟨tree, htree, .inl hlacks⟩⟩
        obtain rfl := Option.some.inj (htree.symm.trans hanswer)
        exact absurd hlacks (not_lacksHits hlists)
      · rw [pageResults_of_hits hpage hhits]
        refine ⟨fun answer other others hanswer _ hothers => ?_, ?_,
          .inr ⟨tree, htree, .inr ⟨page, items, hlists⟩⟩⟩
        · obtain rfl := Option.some.inj (htree.symm.trans hanswer)
          obtain ⟨rfl, rfl⟩ := lists_unique hlists hothers
          refine ⟨List.forall₂_map_right_iff.2 ?_, fun count hcount => ?_⟩
          · exact hitems.imp fun _ _ hhit => Hit.shows_document hhit s
          · rw [hcount] at htotal
            exact HitPage.written?_of_total? htotal
        · rintro (hnone | ⟨answer, hanswer, hlacks⟩)
          · contradiction
          · obtain rfl := Option.some.inj (htree.symm.trans hanswer)
            exact absurd hlacks (not_lacksHits hlists)

set_option maxRecDepth 4000 in
theorem hits_shown_whole_on_stored_score :
    let s : Specification := {
      sort := [.ofField "year" "asc"]
      highlighted := true
      highlightClass := some "em"
      highlightFields := some [("t", .object [])] }
    let text := "\x7b\"hits\":\x7b\"total\":\x7b\"value\":2\x7d,\"hits\":[" ++
      "\x7b\"_id\":\"a\",\"_source\":\x7b\"_score\":\"x\",\"t\":\"y\"\x7d," ++
      "\"highlight\":\x7b\"t\":[\"z\"]\x7d,\"sort\":[]\x7d,\x7b\x7d]\x7d\x7d"
    let bytes := Utf8.encode text.toList
    ∃ results first second, ofAnswer bytes (.search .plain) s = .hits results ∧
      results.total = 2 ∧ results.data = [first, second] ∧
      first.get? "_id" = some (.string "a") ∧
      first.get? "_score" = some (.array []) ∧
      first.get? "t" = some (.string "z") ∧
      second.get? "_score" = some .null ∧ second.get? "t" = none := by
  intro s text bytes
  obtain ⟨results, hresults, hshown, -⟩ := hits_shown_whole bytes .plain s
  have hglyphs : Tree.ofBytes? bytes = Tree.ofGlyphs? (text.toList.map some) := by
    rw [Tree.ofBytes?, Utf8.glyphs_encode]
  simp only [text, String.toList_append, String.reduceToList, List.cons_append,
    List.nil_append, List.map_cons, List.map_nil] at hglyphs
  have htree : Tree.ofBytes? bytes = some _ := hglyphs.trans rfl
  obtain ⟨hdata, htotal⟩ := hshown _ _ _ htree rfl ⟨rfl, rfl⟩
  have hcount := htotal _ rfl
  obtain ⟨first, tail, hfirst, htail, hdata⟩ := List.forall₂_cons_left_iff.1 hdata
  obtain ⟨second, last, hsecond, hlast, rfl⟩ := List.forall₂_cons_left_iff.1 htail
  obtain rfl := List.forall₂_nil_left_iff.1 hlast
  refine ⟨results, first, second, hresults, ?_, hdata, hfirst.id, hfirst.score,
    hfirst.fragment "t" _ rfl (by decide) (by decide), hsecond.score, ?_⟩
  · have htwo : (2 : Int) = results.total.toNat := by
      injection hcount with hcount
      injection hcount with hcount
      injection hcount
    exact UInt64.toNat_inj.1 (Int.ofNat.inj htwo.symm)
  · have hnone : Hit.fragmentIn? s (.object []) = none := rfl
    exact hsecond.stored "t" (by decide) (by decide) (by simp [hnone])

end Envelope

end SearchClient

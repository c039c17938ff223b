import Mathlib.Data.List.Induction
import Mathlib.Data.List.Nodup
import Mathlib.Data.List.Pairwise
import SearchClient.Proofs.Entries
import SearchClient.Proofs.Json.Record

/-!
# Records as their parts

Each field of a record sets a part of its own.  So the order of the entries of an
object does not matter for what is read: a part is what the entry for its field
is read as, or, without such an entry, what it was at the start.
-/

namespace SearchClient

/-- A value of any type. -/
abbrev Part := Σ α : Type, α

namespace Field

variable {σ α : Type} {parts : σ → List Part} {place : Nat}

/--
The field reads `j` as `part` whatever the record is, and puts it into its place
among the parts.
-/
def Reads (parts : σ → List Part) (place : Nat) (field : Field σ) (j : Json)
    (part : Part) : Prop :=
  ∀ record, ∃ next, field.put j record = .ok next ∧
    parts next = (parts record).set place part

def Sets (parts : σ → List Part) (place : Nat) (field : Field σ) : Prop :=
  ∀ j record next, field.put j record = .ok next →
    ∃ part, field.Reads parts place j part

theorem Reads.orAlso {field : Field σ} {j : Json} {part : Part}
    (h : field.Reads parts place j part) (name : String) :
    (field.orAlso name).Reads parts place j part := h

theorem Sets.orAlso {field : Field σ} (h : field.Sets parts place)
    (name : String) : (field.orAlso name).Sets parts place := h

section Defaulted

variable {name : String} {decode : Decoder α} {store : σ → α → σ}

theorem reads_defaulted
    (h : ∀ record a, parts (store record a) = (parts record).set place ⟨α, a⟩)
    {j : Json} {a : α} (hread : decode j = .ok a) :
    (defaulted name decode store).Reads parts place j ⟨α, a⟩ :=
  fun record => ⟨store record a, Except.map_eq_ok.2 ⟨a, hread, rfl⟩, h record a⟩

theorem sets_defaulted
    (h : ∀ record a, parts (store record a) = (parts record).set place ⟨α, a⟩) :
    (defaulted name decode store).Sets parts place := by
  intro j record next hput
  obtain ⟨a, hread, -⟩ := put_defaulted hput
  exact ⟨_, reads_defaulted h hread⟩

/-- The part is what was given for the field, or as it was at the start. -/
def GivenBy (parts : σ → List Part) (start record : σ) (place : Nat)
    (field : Field σ) : Option Json → Prop
  | some j => ∃ part, field.Reads parts place j part ∧
      (parts record)[place]? = some part
  | none => (parts record)[place]? = (parts start)[place]?

theorem givenBy_defaulted {start record : σ} {default a : α} {given : Option Json}
    (h : ∀ record a, parts (store record a) = (parts record).set place ⟨α, a⟩)
    (hstart : (parts start)[place]? = some ⟨α, default⟩)
    (hrecord : (parts record)[place]? = some ⟨α, a⟩)
    (hread : Decode.orDefault default decode given = .ok a) :
    (defaulted name decode store).GivenBy parts start record place given := by
  cases given with
  | some j => exact ⟨_, reads_defaulted h hread, hrecord⟩
  | none =>
      obtain rfl : default = a := Except.ok.inj hread
      exact hrecord.trans hstart.symm

end Defaulted

end Field

namespace Shape

variable {σ : Type} {shape : Shape σ} {parts : σ → List Part}

/-- The place of the field that a key names. -/
def place? (shape : Shape σ) (key : String) : Option Nat :=
  shape.fields.findIdx? (·.isNamed key)

/-- No field is required, and each has a name and a part of its own. -/
structure HasParts (shape : Shape σ) (parts : σ → List Part) : Prop where
  named : ∀ place (field : Field σ), shape.fields[place]? = some field →
    shape.place? field.name = some place
  optional : ∀ field ∈ shape.fields, field.isRequired = false
  length : ∀ record, shape.fields.length ≤ (parts record).length
  injective : Function.Injective parts
  sets : ∀ place (field : Field σ), shape.fields[place]? = some field →
    field.Sets parts place

def ReadsAt (shape : Shape σ) (parts : σ → List Part) (place : Nat) (j : Json)
    (part : Part) : Prop :=
  ∃ field : Field σ, shape.fields[place]? = some field ∧
    field.Reads parts place j part

/--
No field is given twice, each part is what its entry is read as, and the parts
without one are as they were at the start.
-/
structure IsReadFrom (shape : Shape σ) (parts : σ → List Part)
    (entries : List (String × Json)) (record : σ) : Prop where
  once : (entries.filterMap fun entry => shape.place? entry.1).Nodup
  given : ∀ entry ∈ entries, ∀ place, shape.place? entry.1 = some place →
    ∃ part, shape.ReadsAt parts place entry.2 part ∧
      (parts record)[place]? = some part
  absent : ∀ place, (∀ entry ∈ entries, shape.place? entry.1 ≠ some place) →
    (parts record)[place]? = (parts shape.start)[place]?

theorem forall_of_zipIdx {P : Nat → Field σ → Prop}
    (h : ∀ field ∈ shape.fields.zipIdx, P field.2 field.1)
    (place : Nat) (field : Field σ) (hfield : shape.fields[place]? = some field) :
    P place field :=
  h (field, place) (List.mk_mem_zipIdx_iff_getElem?.2 hfield)

/-! ## Places -/

theorem find?_eq_none_of_place {key : String} (h : shape.place? key = none) :
    shape.fields.find? (·.isNamed key) = none := by
  rw [place?, List.findIdx?_eq_none_iff] at h
  simpa using h

theorem find?_of_place {key : String} {place : Nat}
    (h : shape.place? key = some place) :
    ∃ field, shape.fields[place]? = some field ∧
      shape.fields.find? (·.isNamed key) = some field := by
  obtain ⟨hlt, hnamed, hbefore⟩ := List.findIdx?_eq_some_iff_getElem.1 h
  refine ⟨shape.fields[place], List.getElem?_eq_getElem hlt, ?_⟩
  rw [List.find?_eq_some_iff_getElem]
  exact ⟨hnamed, place, hlt, rfl, by simpa using hbefore⟩

theorem HasParts.place_lt (h : shape.HasParts parts) {place : Nat}
    {field : Field σ} (hfield : shape.fields[place]? = some field) (record : σ) :
    place < (parts record).length :=
  Nat.lt_of_lt_of_le (List.getElem?_eq_some_iff.1 hfield).1 (h.length record)

theorem ReadsAt.unique (h : shape.HasParts parts) {place : Nat} {j : Json}
    {part other : Part} (hpart : shape.ReadsAt parts place j part)
    (hother : shape.ReadsAt parts place j other) : part = other := by
  obtain ⟨field, hfield, hreads⟩ := hpart
  obtain ⟨field', hfield', hreads'⟩ := hother
  obtain rfl : field = field' := Option.some.inj (hfield.symm.trans hfield')
  obtain ⟨next, hput, hnext⟩ := hreads shape.start
  obtain ⟨next', hput', hnext'⟩ := hreads' shape.start
  obtain rfl : next = next' := Except.ok.inj (hput.symm.trans hput')
  have hlt := h.place_lt hfield shape.start
  have hset := congrArg (·[place]?) (hnext.symm.trans hnext')
  simpa [hlt] using hset

/-- What is read from entries is determined by them. -/
theorem IsReadFrom.unique (h : shape.HasParts parts)
    {entries : List (String × Json)} {record other : σ}
    (hrecord : shape.IsReadFrom parts entries record)
    (hother : shape.IsReadFrom parts entries other) : record = other := by
  apply h.injective
  apply List.ext_getElem?
  intro place
  by_cases hplace : ∃ entry ∈ entries, shape.place? entry.1 = some place
  · obtain ⟨entry, hmem, hentry⟩ := hplace
    obtain ⟨part, hreads, hpart⟩ := hrecord.given entry hmem place hentry
    obtain ⟨part', hreads', hpart'⟩ := hother.given entry hmem place hentry
    rw [hpart, hpart', hreads.unique h hreads']
  · have hnone : ∀ entry ∈ entries, shape.place? entry.1 ≠ some place :=
      fun entry hmem heq => hplace ⟨entry, hmem, heq⟩
    rw [hrecord.absent place hnone, hother.absent place hnone]

/-- The value of a field is what stands under its name, decoded. -/
theorem IsReadFrom.read (h : shape.HasParts parts)
    {entries : List (String × Json)} {record : σ}
    (hrecord : shape.IsReadFrom parts entries record) {place : Nat}
    {field : Field σ} (hfield : shape.fields[place]? = some field) {α : Type}
    {decode : Decoder α} {store : σ → α → σ}
    (hput : field.put = Field.storing decode store)
    (hstore : ∀ record a,
      parts (store record a) = (parts record).set place ⟨α, a⟩)
    {a : α} (ha : (parts record)[place]? = some ⟨α, a⟩)
    {entry : String × Json} (hmem : entry ∈ entries)
    (hplace : shape.place? entry.1 = some place) : decode entry.2 = .ok a := by
  obtain ⟨part, hreads, hpart⟩ := hrecord.given entry hmem place hplace
  obtain rfl : ⟨α, a⟩ = part := Option.some.inj (ha.symm.trans hpart)
  obtain ⟨other, hother, hreads⟩ := hreads
  obtain rfl : field = other := Option.some.inj (hfield.symm.trans hother)
  obtain ⟨next, hnext, hset⟩ := hreads shape.start
  rw [hput] at hnext
  obtain ⟨read, hread, rfl⟩ := Except.map_eq_ok.1 hnext
  have hlt := h.place_lt hfield shape.start
  have hparts := congrArg (·[place]?) ((hstore shape.start read).symm.trans hset)
  have hsame : read = a := by simpa [hlt] using hparts
  rw [hread, hsame]

theorem eq_of_place {entries : List (String × Json)}
    (h : (entries.filterMap fun entry => shape.place? entry.1).Nodup)
    {entry other : String × Json} (hentry : entry ∈ entries)
    (hother : other ∈ entries) {place : Nat}
    (hplace : shape.place? entry.1 = some place)
    (hplace' : shape.place? other.1 = some place) : entry = other := by
  have hsymm : Std.Symm fun e o : String × Json =>
      ∀ k, shape.place? e.1 = some k → ∀ l, shape.place? o.1 = some l → k ≠ l :=
    ⟨fun _ _ hapart k hk l hl => (hapart l hl k hk).symm⟩
  by_contra hne
  exact (List.pairwise_filterMap.1 h).forall hentry hother hne
    place hplace place hplace' rfl

/-! ## Fields with one name each -/

theorem IsPlain.name_of_place (h : shape.IsPlain) {key : String} {place : Nat}
    (hplace : shape.place? key = some place) :
    ∃ field, shape.fields[place]? = some field ∧ field.name = key := by
  obtain ⟨field, hfield, hfind⟩ := find?_of_place hplace
  have hnamed := List.find?_some hfind
  have haliases := h.aliases field (List.mem_of_getElem? hfield)
  exact ⟨field, hfield, by simpa [Field.isNamed, haliases] using hnamed⟩

/-- Entries with different keys are read as what stands under each name. -/
theorem IsPlain.isReadFrom (h : shape.IsPlain) (hparts : shape.HasParts parts)
    {entries : Entries Json} (hkeys : entries.keys.Nodup) {record : σ}
    (hfields : ∀ (place : Nat) (field : Field σ),
      shape.fields[place]? = some field →
        field.GivenBy parts shape.start record place (entries.get? field.name))
    (hrest : ∀ place : Nat, shape.fields[place]? = none →
      (parts record)[place]? = (parts shape.start)[place]?) :
    shape.IsReadFrom parts entries record := by
  refine ⟨?_, fun entry hmem place hplace => ?_, fun place hplace => ?_⟩
  · refine List.pairwise_filterMap.2 ((List.pairwise_map.1 hkeys).imp ?_)
    rintro entry other hne place hplace place' hplace' rfl
    obtain ⟨field, hfield, hname⟩ := h.name_of_place hplace
    obtain ⟨field', hfield', hname'⟩ := h.name_of_place hplace'
    obtain rfl : field = field' := Option.some.inj (hfield.symm.trans hfield')
    exact hne (hname.symm.trans hname')
  · obtain ⟨field, hfield, hname⟩ := h.name_of_place hplace
    have hgiven := hfields place field hfield
    rw [hname, Entries.get?_of_mem hkeys hmem] at hgiven
    obtain ⟨part, hreads, hpart⟩ := hgiven
    exact ⟨part, ⟨field, hfield, hreads⟩, hpart⟩
  · cases hfield : shape.fields[place]? with
    | none => exact hrest place hfield
    | some field =>
        have hnone : entries.get? field.name = none := by
          rw [Entries.get?_eq_none_iff, Entries.mem_keys]
          rintro ⟨value, hmem⟩
          exact hplace _ hmem (hparts.named place field hfield)
        have habsent := hfields place field hfield
        rwa [hnone] at habsent

/-! ## One entry after the other -/

/-- Where the reading is after some entries. -/
structure Reached (shape : Shape σ) (parts : σ → List Part)
    (entries : List (String × Json)) (progress : Progress σ) : Prop where
  record : shape.IsReadFrom parts entries progress.record
  seen : ∀ place (field : Field σ), shape.fields[place]? = some field →
    (field.name ∈ progress.seen ↔
      ∃ entry ∈ entries, shape.place? entry.1 = some place)

theorem Reached.start (shape : Shape σ) (parts : σ → List Part) :
    shape.Reached parts [] ⟨shape.start, [], []⟩ :=
  ⟨⟨by simp, by simp, by simp⟩, by simp⟩

theorem HasParts.place_of_name (h : shape.HasParts parts) {place other : Nat}
    {field field' : Field σ} (hfield : shape.fields[place]? = some field)
    (hfield' : shape.fields[other]? = some field')
    (hname : field.name = field'.name) : place = other := by
  have hplace := h.named place field hfield
  rw [hname, h.named other field' hfield'] at hplace
  exact (Option.some.inj hplace).symm

theorem IsReadFrom.skip {entries : List (String × Json)} {record : σ}
    {entry : String × Json} (h : shape.IsReadFrom parts entries record)
    (hplace : shape.place? entry.1 = none) :
    shape.IsReadFrom parts (entries ++ [entry]) record := by
  obtain ⟨honce, hgiven, habsent⟩ := h
  refine ⟨?_, ?_, ?_⟩
  · simpa [List.filterMap_append, hplace] using honce
  · simpa [or_imp, forall_and, hplace] using hgiven
  · simpa [or_imp, forall_and, hplace] using habsent

theorem IsReadFrom.put {entries : List (String × Json)} {record next : σ}
    {entry : String × Json} {place : Nat} {part : Part}
    (h : shape.IsReadFrom parts entries record)
    (hplace : shape.place? entry.1 = some place)
    (hfirst : ∀ other ∈ entries, shape.place? other.1 ≠ some place)
    (hreads : shape.ReadsAt parts place entry.2 part)
    (hlt : place < (parts record).length)
    (hnext : parts next = (parts record).set place part) :
    shape.IsReadFrom parts (entries ++ [entry]) next := by
  obtain ⟨honce, hgiven, habsent⟩ := h
  refine ⟨?_, ?_, ?_⟩
  · simp only [List.filterMap_append, List.filterMap_cons, hplace,
      List.filterMap_nil]
    rw [List.nodup_append]
    refine ⟨honce, by simp, fun k hk last hlast heq => ?_⟩
    obtain ⟨other, hmem, hother⟩ := List.mem_filterMap.1 hk
    rw [heq, List.mem_singleton.1 hlast] at hother
    exact hfirst other hmem hother
  · intro other hmem k hk
    rw [hnext]
    rcases List.mem_append.1 hmem with hmem | hmem
    · have hne : place ≠ k := fun heq => hfirst other hmem (heq ▸ hk)
      rw [List.getElem?_set_ne hne]
      exact hgiven other hmem k hk
    · obtain rfl := List.mem_singleton.1 hmem
      obtain rfl : place = k := Option.some.inj (hplace.symm.trans hk)
      exact ⟨part, hreads, by simp [hlt]⟩
  · intro k hk
    simp only [List.forall_mem_append, List.forall_mem_singleton] at hk
    have hne : place ≠ k := fun heq => hk.2 (heq ▸ hplace)
    rw [hnext, List.getElem?_set_ne hne]
    exact habsent k hk.1

theorem Reached.take (h : shape.HasParts parts)
    {entries : List (String × Json)} {progress next : Progress σ}
    {entry : String × Json} (hreached : shape.Reached parts entries progress)
    (htake : shape.take progress entry = .ok next) :
    shape.Reached parts (entries ++ [entry]) next := by
  obtain ⟨hread, hseen⟩ := hreached
  cases hplace : shape.place? entry.1 with
  | none =>
      rcases take_eq_ok.1 htake with ⟨-, rfl⟩ | ⟨field, record, hfind, -⟩
      · refine ⟨hread.skip hplace, ?_⟩
        simpa [or_and_right, exists_or, hplace] using hseen
      · rw [find?_eq_none_of_place hplace] at hfind
        contradiction
  | some place =>
      obtain ⟨field, hfield, hfind⟩ := find?_of_place hplace
      rcases take_eq_ok.1 htake with
        ⟨hnone, -⟩ | ⟨field', record, hfind', hnew, hput, rfl⟩
      · rw [hfind] at hnone
        contradiction
      · obtain rfl : field = field' := Option.some.inj (hfind.symm.trans hfind')
        obtain ⟨part, hreads⟩ := h.sets place field hfield _ _ _ hput
        obtain ⟨record', hput', hparts⟩ := hreads progress.record
        obtain rfl : record = record' := Except.ok.inj (hput.symm.trans hput')
        have hfirst : ∀ other ∈ entries, shape.place? other.1 ≠ some place :=
          fun other hmem heq =>
            hnew ((hseen place field hfield).2 ⟨other, hmem, heq⟩)
        refine ⟨hread.put hplace hfirst ⟨field, hfield, hreads⟩
          (h.place_lt hfield _) hparts, fun k other hother => ?_⟩
        have hhead : other.name = field.name ↔ place = k := by
          constructor
          · exact fun heq => h.place_of_name hfield hother heq.symm
          · rintro rfl
            exact congrArg Field.name
              (Option.some.inj (hother.symm.trans hfield))
        rw [List.mem_cons, hseen k other hother, hhead, or_comm]
        simp [or_and_right, exists_or, hplace]

theorem Reached.of_foldlM (h : shape.HasParts parts)
    {entries : List (String × Json)} {progress : Progress σ}
    (hfold : entries.foldlM shape.take ⟨shape.start, [], []⟩ = .ok progress) :
    shape.Reached parts entries progress := by
  induction entries using List.reverseRecOn generalizing progress with
  | nil =>
      obtain rfl := Except.ok.inj hfold
      exact .start shape parts
  | append_singleton entries entry ih =>
      rw [List.foldlM_append] at hfold
      obtain ⟨middle, hmiddle, hlast⟩ := Except.bind_eq_ok.1 hfold
      obtain ⟨next, htake, hnext⟩ := Except.bind_eq_ok.1 hlast
      obtain rfl := Except.ok.inj hnext
      exact (ih hmiddle).take h htake

/-- Nothing stops the reading but a field given twice or a value that does not fit. -/
theorem exists_reached (h : shape.HasParts parts)
    {entries : List (String × Json)}
    (honce : (entries.filterMap fun entry => shape.place? entry.1).Nodup)
    (hreads : ∀ entry ∈ entries, ∀ place, shape.place? entry.1 = some place →
      ∃ part, shape.ReadsAt parts place entry.2 part) :
    ∃ progress,
      entries.foldlM shape.take ⟨shape.start, [], []⟩ = .ok progress ∧
      shape.Reached parts entries progress := by
  induction entries using List.reverseRecOn with
  | nil => exact ⟨_, rfl, .start shape parts⟩
  | append_singleton entries entry ih =>
      rw [List.filterMap_append, List.nodup_append] at honce
      rw [List.forall_mem_append] at hreads
      obtain ⟨progress, hfold, hreached⟩ := ih honce.1 hreads.1
      have htake : ∃ next, shape.take progress entry = .ok next := by
        cases hplace : shape.place? entry.1 with
        | none =>
            exact ⟨_, take_eq_ok.2 (.inl ⟨find?_eq_none_of_place hplace, rfl⟩)⟩
        | some place =>
            obtain ⟨field, hfield, hfind⟩ := find?_of_place hplace
            obtain ⟨part, field', hfield', hput⟩ :=
              hreads.2 entry List.mem_cons_self place hplace
            obtain rfl : field = field' :=
              Option.some.inj (hfield.symm.trans hfield')
            obtain ⟨record, hput, -⟩ := hput progress.record
            have hnew : field.name ∉ progress.seen := by
              rw [hreached.seen place field hfield]
              rintro ⟨other, hmem, hother⟩
              exact honce.2.2 place (List.mem_filterMap.2 ⟨other, hmem, hother⟩)
                place (by simp [hplace]) rfl
            exact ⟨_, take_eq_ok.2
              (.inr ⟨field, record, hfind, hnew, hput, rfl⟩)⟩
      obtain ⟨next, htake⟩ := htake
      refine ⟨next, ?_, hreached.take h htake⟩
      rw [List.foldlM_append, hfold, Except.ok_bind, List.foldlM_cons, htake]
      rfl

/-! ## Whole objects -/

theorem decode_object_eq (h : shape.HasParts parts)
    {entries : List (String × Json)} {progress : Progress σ}
    (hfold : entries.foldlM shape.take ⟨shape.start, [], []⟩ = .ok progress) :
    shape.decode (.object entries) = .ok progress.record := by
  have hmissing : shape.missing? progress.seen = none :=
    List.find?_eq_none.2 fun field hmem => by simp [h.optional field hmem]
  refine Except.map_eq_ok.2 ⟨(progress.record, progress.leftOver), ?_, rfl⟩
  rw [decodeEntries, hfold, Except.ok_bind, hmissing]

/-- What an object is read as does not depend on the order of its entries. -/
theorem decode_object_iff (h : shape.HasParts parts)
    {entries : List (String × Json)} {record : σ} :
    shape.decode (.object entries) = .ok record ↔
      shape.IsReadFrom parts entries record := by
  constructor
  · intro hread
    obtain ⟨⟨read, leftOver⟩, hentries, rfl⟩ := Except.map_eq_ok.1 hread
    obtain ⟨progress, hfold, hrest⟩ := Except.bind_eq_ok.1 hentries
    split at hrest
    · contradiction
    · obtain ⟨rfl, -⟩ := Prod.mk.inj (Except.ok.inj hrest)
      exact (Reached.of_foldlM h hfold).record
  · intro hrecord
    obtain ⟨progress, hfold, hreached⟩ := exists_reached h hrecord.once
      fun entry hmem place hplace =>
        (hrecord.given entry hmem place hplace).imp fun _ hpart => hpart.1
    rw [decode_object_eq h hfold, hreached.record.unique h hrecord]

theorem exists_repeated {entries : List (String × Json)}
    (h : ¬(entries.filterMap fun entry => shape.place? entry.1).Nodup) :
    ∃ before entry after place, entries = before ++ entry :: after ∧
      (before.filterMap fun entry => shape.place? entry.1).Nodup ∧
      shape.place? entry.1 = some place ∧
      ∃ other ∈ before, shape.place? other.1 = some place := by
  induction entries using List.reverseRecOn with
  | nil => simp at h
  | append_singleton entries last ih =>
      by_cases honce : (entries.filterMap fun entry => shape.place? entry.1).Nodup
      · refine ⟨entries, last, [], ?_⟩
        cases hplace : shape.place? last.1 with
        | none => simp [List.filterMap_append, hplace, honce] at h
        | some place =>
            refine ⟨place, rfl, honce, rfl, ?_⟩
            simpa [List.filterMap_append, hplace, List.nodup_append, honce] using h
      · obtain ⟨before, entry, after, place, rfl, hrest⟩ := ih honce
        exact ⟨before, entry, after ++ [last], place, by simp, hrest⟩

/-- Of entries that each can be read, two for one field are an error. -/
theorem decode_object_repeated (h : shape.HasParts parts)
    {entries : List (String × Json)}
    (hreads : ∀ entry ∈ entries, ∀ place, shape.place? entry.1 = some place →
      ∃ part, shape.ReadsAt parts place entry.2 part)
    (hrepeated : ¬(entries.filterMap fun entry => shape.place? entry.1).Nodup) :
    ∃ before entry after place field, entries = before ++ entry :: after ∧
      shape.place? entry.1 = some place ∧
      (∃ other ∈ before, shape.place? other.1 = some place) ∧
      shape.fields[place]? = some field ∧
      shape.decode (.object entries) = .error (.duplicateField field.name) := by
  obtain ⟨before, entry, after, place, rfl, honce, hplace, hother⟩ :=
    exists_repeated hrepeated
  obtain ⟨progress, hfold, hreached⟩ :=
    exists_reached h honce (List.forall_mem_append.1 hreads).1
  obtain ⟨field, hfield, hfind⟩ := find?_of_place hplace
  have htake : shape.take progress entry = .error (.duplicateField field.name) := by
    simp [Shape.take, hfind, (hreached.seen place field hfield).2 hother]
  refine ⟨before, entry, after, place, field, rfl, hplace, hother, hfield, ?_⟩
  change (shape.decodeEntries (before ++ entry :: after)).map Prod.fst = _
  rw [decodeEntries, List.foldlM_append, hfold, Except.ok_bind,
    List.foldlM_cons, htake]
  rfl

end Shape

end SearchClient

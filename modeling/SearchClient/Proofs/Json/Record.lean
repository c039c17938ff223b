import SearchClient.Json.Record
import SearchClient.Proofs.Except
import SearchClient.Proofs.Json.Collapse

/-!
# Reading written records

A record is written as entries for those of its fields that are given, in their
order.  Reading such entries puts each given value into its field, wherever the
entries under other keys stand.
-/

namespace SearchClient

/-- The entries of a record, of which some are left out. -/
def Json.entriesOf (slots : List (String × Option Json)) :
    List (String × Json) :=
  slots.flatMap fun (name, value) => (value.map (name, ·)).toList

namespace Json

theorem entriesOf_cons (name : String) (value : Option Json)
    (slots : List (String × Option Json)) :
    entriesOf ((name, value) :: slots) =
      (value.map (name, ·)).toList ++ entriesOf slots := rfl

theorem mem_entriesOf {slots : List (String × Option Json)} {name : String}
    {value : Json} :
    (name, value) ∈ entriesOf slots ↔ (name, some value) ∈ slots := by
  simp [entriesOf]

theorem keys_entriesOf (slots : List (String × Option Json)) :
    (entriesOf slots).map Prod.fst =
      (slots.filter fun slot => slot.2.isSome).map Prod.fst := by
  induction slots with
  | nil => rfl
  | cons slot slots ih =>
      obtain ⟨name, value⟩ := slot
      rw [entriesOf_cons, List.map_append, ih]
      cases value <;> rfl

theorem keys_entriesOf_sublist (slots : List (String × Option Json)) :
    ((entriesOf slots).map Prod.fst).Sublist (slots.map Prod.fst) := by
  rw [keys_entriesOf]
  exact List.filter_sublist.map Prod.fst

theorem collapse_entriesOf {slots : List (String × Option Json)}
    (h : (slots.map Prod.fst).Nodup) :
    (object (entriesOf slots)).collapse =
      .object (entriesOf (slots.map fun (name, value) =>
        (name, value.map collapse))) := by
  rw [collapse_object ((keys_entriesOf_sublist slots).nodup h)]
  congr 1
  clear h
  induction slots with
  | nil => rfl
  | cons slot slots ih =>
      obtain ⟨name, value⟩ := slot
      rw [entriesOf_cons, List.map_append, ih]
      cases value <;> rfl

theorem entryIfSome_eq {α : Type} (name : String) (encode : α → Json)
    (value : Option α) :
    entryIfSome name encode value =
      ((value.map encode).map (name, ·)).toList := by
  cases value <;> rfl

def valueIfAny {α : Type} (encode : List α → Json) : List α → Option Json
  | [] => none
  | items => some (encode items)

theorem valueIfAny_map {α : Type} (encode : α → Json) (items : List α) :
    valueIfAny (fun items => .array (items.map encode)) items =
      valueIfAny .array (items.map encode) := by
  cases items <;> rfl

theorem map_collapse_valueIfAny (items : List Json) :
    (valueIfAny .array items).map collapse =
      valueIfAny .array (items.map collapse) := by
  cases items with
  | nil => rfl
  | cons item items => exact congrArg some (collapse_array _)

theorem entryIfAny_eq {α : Type} (name : String) (encode : List α → Json)
    (items : List α) :
    entryIfAny name encode items =
      ((valueIfAny encode items).map (name, ·)).toList := by
  cases items <;> rfl

end Json

namespace Decode

def orDefault {α : Type} (default : α) (decode : Decoder α) :
    Option Json → Except DecodeError α
  | some value => decode value
  | none => .ok default

end Decode

namespace Field

variable {σ α : Type}

section Constructors

variable (name : String) (decode : Decoder α) (store : σ → α → σ)

@[simp] theorem required_name : (required name decode store).name = name := rfl

@[simp] theorem required_aliases :
    (required name decode store).aliases = [] := rfl

@[simp] theorem required_isRequired :
    (required name decode store).isRequired = true := rfl

@[simp] theorem required_isNamed (key : String) :
    (required name decode store).isNamed key = decide (name = key) := by
  change (decide (name = key) || [].contains key) = decide (name = key)
  simp

@[simp] theorem defaulted_name :
    (defaulted name decode store).name = name := rfl

@[simp] theorem defaulted_aliases :
    (defaulted name decode store).aliases = [] := rfl

@[simp] theorem defaulted_isRequired :
    (defaulted name decode store).isRequired = false := rfl

end Constructors

theorem put_defaulted {name : String} {decode : Decoder α} {store : σ → α → σ}
    {j : Json} {record next : σ}
    (h : (defaulted name decode store).put j record = .ok next) :
    ∃ a, decode j = .ok a ∧ next = store record a := by
  obtain ⟨a, hdecode, rfl⟩ := Except.map_eq_ok.1 h
  exact ⟨a, hdecode, rfl⟩

abbrev Slot (σ : Type) := Field σ × Option Json

def putSlot (record : σ) (slot : Slot σ) : Except DecodeError σ :=
  match slot.2 with
  | some value => slot.1.put value record
  | none => .ok record

theorem bind_required {ρ : Type} {name : String} {decode : Decoder α}
    {store : σ → α → σ} {value : Json} {record : σ}
    {next : σ → Except DecodeError ρ} {out : ρ} :
    (putSlot record (required name decode store, some value) >>= next) =
        .ok out ↔
      ∃ a, decode value = .ok a ∧ next (store record a) = .ok out := by
  change ((decode value).map (store record) >>= next) = .ok out ↔ _
  cases decode value <;> simp

theorem bind_defaulted {ρ : Type} (default : α) {name : String}
    {decode : Decoder α} {store : σ → α → σ} {value : Option Json} {record : σ}
    {next : σ → Except DecodeError ρ} {out : ρ}
    (h : store record default = record) :
    (putSlot record (defaulted name decode store, value) >>= next) = .ok out ↔
      ∃ a, Decode.orDefault default decode value = .ok a ∧
        next (store record a) = .ok out := by
  cases value with
  | none => simp [putSlot, Decode.orDefault, h]
  | some value =>
      change ((decode value).map (store record) >>= next) = .ok out ↔ _
      cases hread : decode value <;> simp [Decode.orDefault, hread]

end Field

namespace Shape

variable {σ α : Type}

theorem take_eq_ok {shape : Shape σ} {progress next : Progress σ}
    {entry : String × Json} :
    shape.take progress entry = .ok next ↔
      (shape.fields.find? (·.isNamed entry.1) = none ∧
        next = { progress with leftOver := progress.leftOver ++ [entry] }) ∨
      ∃ field record, shape.fields.find? (·.isNamed entry.1) = some field ∧
        field.name ∉ progress.seen ∧
        field.put entry.2 progress.record = .ok record ∧
        next =
          { progress with
            record := record
            seen := field.name :: progress.seen } := by
  unfold take
  cases hfind : shape.fields.find? (·.isNamed entry.1) with
  | none => simp [eq_comm]
  | some field =>
      by_cases hseen : field.name ∈ progress.seen
      · simp [hseen]
      · simp [hseen, Except.map_eq_ok]
        exact exists_congr fun record => and_congr_right fun _ => eq_comm

/-! ## Entries of fields -/

/-- No field is known by the name of a later one. -/
def HasNames (shape : Shape σ) : Prop :=
  shape.fields.Pairwise fun field later => field.isNamed later.name = false

instance (shape : Shape σ) : Decidable shape.HasNames :=
  inferInstanceAs (Decidable (List.Pairwise _ _))

theorem HasNames.nodup {shape : Shape σ} (h : shape.HasNames) :
    (shape.fields.map Field.name).Nodup := by
  refine List.pairwise_map.2 (List.Pairwise.imp ?_ h)
  intro field later hnamed heq
  simp [Field.isNamed, heq] at hnamed

theorem HasNames.find?_name {shape : Shape σ} (h : shape.HasNames)
    {field : Field σ} (hmem : field ∈ shape.fields) :
    shape.fields.find? (·.isNamed field.name) = some field := by
  unfold HasNames at h
  generalize shape.fields = fields at h hmem ⊢
  induction h with
  | nil => simp at hmem
  | cons hlater _ ih =>
      rcases List.mem_cons.1 hmem with rfl | hmem
      · simp [Field.isNamed]
      · rw [List.find?_cons_of_neg (by simp [hlater field hmem])]
        exact ih hmem

/-- The fields have different names and no others. -/
structure IsPlain (shape : Shape σ) : Prop where
  nodup : (shape.fields.map Field.name).Nodup
  aliases : ∀ field ∈ shape.fields, field.aliases = []

theorem IsPlain.hasNames {shape : Shape σ} (h : shape.IsPlain) :
    shape.HasNames := by
  refine List.Pairwise.imp_of_mem ?_ (List.pairwise_map.1 h.nodup)
  intro field later hfield _ hne
  simp [Field.isNamed, h.aliases field hfield, hne]

/-- The entries under which the values of the slots are written. -/
def slotEntries (slots : List (Field.Slot σ)) : List (String × Json) :=
  Json.entriesOf (slots.map fun slot => (slot.1.name, slot.2))

def given (slots : List (Field.Slot σ)) : List String :=
  (slotEntries slots).map Prod.fst

theorem slotEntries_cons (slot : Field.Slot σ) (slots : List (Field.Slot σ)) :
    slotEntries (slot :: slots) =
      (slot.2.map (slot.1.name, ·)).toList ++ slotEntries slots := rfl

theorem mem_given {slots : List (Field.Slot σ)} {name : String} :
    name ∈ given slots ↔
      ∃ slot ∈ slots, slot.1.name = name ∧ slot.2.isSome = true := by
  induction slots with
  | nil => simp [given, slotEntries, Json.entriesOf]
  | cons slot slots ih =>
      obtain ⟨field, value⟩ := slot
      rw [given, slotEntries_cons, List.map_append, List.mem_append]
      change _ ∨ name ∈ given slots ↔ _
      rw [ih]
      cases value with
      | none => simp
      | some value => simp [@eq_comm _ name]

theorem foldlM_take_slots {shape : Shape σ} (h : shape.HasNames)
    {slots : List (Field.Slot σ)} (hmem : ∀ slot ∈ slots, slot.1 ∈ shape.fields)
    (hnodup : (slots.map fun slot => slot.1.name).Nodup) (progress : Progress σ)
    (hseen : ∀ slot ∈ slots, slot.1.name ∉ progress.seen) :
    (slotEntries slots).foldlM shape.take progress =
      (slots.foldlM Field.putSlot progress.record).map fun record =>
        { progress with
          record := record
          seen := (given slots).reverse ++ progress.seen } := by
  induction slots generalizing progress with
  | nil => rfl
  | cons slot slots ih =>
      obtain ⟨field, value⟩ := slot
      simp only [List.forall_mem_cons, List.map_cons, List.nodup_cons]
        at hmem hnodup hseen
      cases value with
      | none => exact ih hmem.2 hnodup.2 progress hseen.2
      | some value =>
          have htake : shape.take progress (field.name, value) =
              (field.put value progress.record).map fun record =>
                { progress with
                  record := record
                  seen := field.name :: progress.seen } := by
            simp [take, h.find?_name hmem.1, hseen.1]
          have hput : Field.putSlot progress.record (field, some value) =
              field.put value progress.record := rfl
          simp only [slotEntries_cons, Option.map_some, Option.toList_some,
            List.singleton_append, List.foldlM_cons, htake, hput]
          cases field.put value progress.record with
          | error e => rfl
          | ok record =>
              simp only [Except.map_ok, Except.ok_bind]
              rw [ih hmem.2 hnodup.2]
              · simp [given, slotEntries_cons]
              · intro slot hslot
                simp only [List.mem_cons, not_or]
                refine ⟨?_, hseen.2 slot hslot⟩
                intro heq
                exact hnodup.1 (heq ▸ List.mem_map_of_mem hslot)

/-! ## Entries under other keys -/

theorem foldlM_take_others {shape : Shape σ} {others : List (String × Json)}
    (h : ∀ entry ∈ others, shape.fields.find? (·.isNamed entry.1) = none)
    (progress : Progress σ) :
    others.foldlM shape.take progress =
      .ok { progress with leftOver := progress.leftOver ++ others } := by
  induction others generalizing progress with
  | nil => simp [pure, Except.pure]
  | cons entry others ih =>
      simp only [List.forall_mem_cons] at h
      rw [List.foldlM_cons, take_eq_ok.2 (.inl ⟨h.1, rfl⟩), Except.ok_bind,
        ih h.2]
      simp

/-- What is left over is under no name of a field. -/
def LeavesOthers (shape : Shape σ) (progress : Progress σ) : Prop :=
  ∀ entry ∈ progress.leftOver, shape.fields.find? (·.isNamed entry.1) = none

theorem LeavesOthers.take {shape : Shape σ} {progress next : Progress σ}
    {entry : String × Json} (h : shape.LeavesOthers progress)
    (htake : shape.take progress entry = .ok next) :
    shape.LeavesOthers next := by
  rcases take_eq_ok.1 htake with ⟨hfind, rfl⟩ | ⟨field, record, -, -, -, rfl⟩
  · exact List.forall_mem_append.2 ⟨h, List.forall_mem_singleton.2 hfind⟩
  · exact h

theorem LeavesOthers.foldlM_take {shape : Shape σ} {progress last : Progress σ}
    {entries : List (String × Json)} (h : shape.LeavesOthers progress)
    (hfold : entries.foldlM shape.take progress = .ok last) :
    shape.LeavesOthers last := by
  induction entries generalizing progress with
  | nil => rwa [← Except.ok.inj hfold]
  | cons entry entries ih =>
      rw [List.foldlM_cons] at hfold
      obtain ⟨next, htake, hrest⟩ := Except.bind_eq_ok.1 hfold
      exact ih (h.take htake) hrest

theorem leftOver_not_named {shape : Shape σ}
    {entries leftOver : List (String × Json)} {record : σ}
    (h : shape.decodeEntries entries = .ok (record, leftOver)) :
    ∀ entry ∈ leftOver, shape.fields.find? (·.isNamed entry.1) = none := by
  have hstart : shape.LeavesOthers ⟨shape.start, [], []⟩ := by
    simp [LeavesOthers]
  obtain ⟨progress, hprogress, hrest⟩ := Except.bind_eq_ok.1 h
  split at hrest
  · contradiction
  · obtain ⟨rfl, rfl⟩ := Prod.mk.inj (Except.ok.inj hrest)
    exact hstart.foldlM_take hprogress

/-! ## Whole records -/

/--
The entries of some fields, then other entries, then those of the remaining
fields: the fields are put in their order, and the others are left over.
-/
theorem decodeEntries_around {shape : Shape σ} (h : shape.HasNames)
    (before after : List (Field.Slot σ))
    (hfields : (before ++ after).map Prod.fst = shape.fields)
    (hgiven : ∀ slot ∈ before ++ after,
      slot.1.isRequired = true → slot.2.isSome = true)
    (others : List (String × Json))
    (hothers : ∀ entry ∈ others,
      shape.fields.find? (·.isNamed entry.1) = none) :
    shape.decodeEntries (slotEntries before ++ others ++ slotEntries after) =
      ((before ++ after).foldlM Field.putSlot shape.start).map (·, others) := by
  have hmem : ∀ slot ∈ before ++ after, slot.1 ∈ shape.fields := by
    intro slot hslot
    rw [← hfields]
    exact List.mem_map_of_mem hslot
  have hnodup : ((before ++ after).map fun slot => slot.1.name).Nodup := by
    have hnames := h.nodup
    rwa [← hfields, List.map_map] at hnames
  simp only [List.forall_mem_append] at hmem
  rw [List.map_append, List.nodup_append] at hnodup
  have hmissing :
      shape.missing? ((given after).reverse ++ (given before).reverse) =
        none := by
    apply List.find?_eq_none.2
    intro field hfield
    rw [← hfields] at hfield
    obtain ⟨slot, hslot, rfl⟩ := List.mem_map.1 hfield
    cases hrequired : slot.1.isRequired with
    | false => simp
    | true =>
        have hsome := hgiven slot hslot hrequired
        have hin : slot.1.name ∈ given after ∨ slot.1.name ∈ given before := by
          cases List.mem_append.1 hslot with
          | inl hslot => exact .inr (mem_given.2 ⟨slot, hslot, rfl, hsome⟩)
          | inr hslot => exact .inl (mem_given.2 ⟨slot, hslot, rfl, hsome⟩)
        simpa [Decidable.or_iff_not_imp_left] using hin
  rw [decodeEntries, List.foldlM_append, List.foldlM_append, List.foldlM_append,
    foldlM_take_slots h hmem.1 hnodup.1 _ (by simp)]
  cases before.foldlM Field.putSlot shape.start with
  | error e => rfl
  | ok record =>
      have hseen : ∀ slot ∈ after, slot.1.name ∉ (given before).reverse := by
        intro slot hslot hin
        obtain ⟨other, hother, hname, -⟩ := mem_given.1 (List.mem_reverse.1 hin)
        exact hnodup.2.2 _ (List.mem_map_of_mem hother) _
          (List.mem_map_of_mem hslot) hname
      simp only [Except.map_ok, Except.ok_bind, List.append_nil]
      rw [foldlM_take_others hothers, Except.ok_bind,
        foldlM_take_slots h hmem.2 hnodup.2.1 _ hseen]
      cases after.foldlM Field.putSlot record with
      | error e => rfl
      | ok record => simp [hmissing]

theorem decode_named_slots {shape : Shape σ} (h : shape.HasNames)
    (slots : List (Field.Slot σ)) (hfields : slots.map Prod.fst = shape.fields)
    (hgiven : ∀ slot ∈ slots, slot.1.isRequired = true → slot.2.isSome = true) :
    shape.decode (.object (slotEntries slots)) =
      slots.foldlM Field.putSlot shape.start := by
  change (shape.decodeEntries (slotEntries slots)).map Prod.fst = _
  have hnil :
      slotEntries slots ++ [] ++ slotEntries ([] : List (Field.Slot σ)) =
        slotEntries slots := by
    simp [slotEntries, Json.entriesOf]
  rw [← hnil,
    decodeEntries_around h slots [] (by simpa using hfields)
      (by simpa using hgiven) [] (by simp),
    List.append_nil]
  cases slots.foldlM Field.putSlot shape.start <;> rfl

theorem decode_slots {shape : Shape σ} (h : shape.IsPlain)
    (slots : List (Field.Slot σ)) (hfields : slots.map Prod.fst = shape.fields)
    (hgiven : ∀ slot ∈ slots, slot.1.isRequired = true → slot.2.isSome = true) :
    shape.decode (.object (slotEntries slots)) =
      slots.foldlM Field.putSlot shape.start :=
  decode_named_slots h.hasNames slots hfields hgiven

/-- Where every field has a default, entries may stand in any order. -/
theorem decodeWith_slots {shape : Shape σ} (h : shape.IsPlain)
    (hdefaults : ∀ field ∈ shape.fields, field.isRequired = false)
    (slots : List (Field.Slot σ)) (hmem : ∀ slot ∈ slots, slot.1 ∈ shape.fields)
    (hnodup : (slots.map fun slot => slot.1.name).Nodup)
    (surplus : Option ExpectedLength) :
    shape.decodeWith surplus (.object (slotEntries slots)) =
      slots.foldlM Field.putSlot shape.start := by
  have hmissing (seen : List String) : shape.missing? seen = none := by
    refine List.find?_eq_none.2 fun field hfield => ?_
    simp [hdefaults field hfield]
  rw [decodeWith, decodeEntries,
    foldlM_take_slots h.hasNames hmem hnodup _ (by simp)]
  cases slots.foldlM Field.putSlot shape.start with
  | error e => rfl
  | ok record => simp [hmissing]

end Shape

end SearchClient

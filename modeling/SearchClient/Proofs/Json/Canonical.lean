import Mathlib.Data.List.Pairwise
import SearchClient.Proofs.Json.Decode
import SearchClient.Proofs.Number.Binary64

/-!
# Canonical forms

A decoder may accept many spellings of a value.  It settles on one of them when
what is written for any value it has read is read as that value again: then
writing what was read gives a canonical form, which reading and writing leave as
it is.

A record settles as its members do, whether it was read from an object, under any
of the names of its fields, or from an array.  It can be read from anything at all
only if each member is read back.
-/

namespace SearchClient

namespace Decode

variable {α β : Type} {decode : Decoder α} {encode : α → Json}

/-- What is written for a value that was read is read as that value. -/
def Settles (decode : Decoder α) (encode : α → Json) : Prop :=
  ∀ j a, decode j = .ok a → decode (encode a) = .ok a

/-- The values of a kind can be read, and no others.  What is written for one that
was read is read as it again, and is a form that reading and writing do not change
any more. -/
structure HasCanonicalForms (decode : Decoder α) (encode : α → Json)
    (IsReadable : α → Prop) : Prop where
  readable : ∀ a, (∃ j, decode j = .ok a) ↔ IsReadable a
  reads_back : ∀ j a, decode j = .ok a → decode (encode a) = .ok a
  fixed : ∀ j form, (decode j).map encode = .ok form →
    (decode form).map encode = .ok form

theorem Settles.hasCanonicalForms {IsReadable : α → Prop}
    (h : Settles decode encode)
    (hread : ∀ a, decode (encode a) = .ok a ↔ IsReadable a) :
    HasCanonicalForms decode encode IsReadable where
  readable a := by
    rw [← hread a]
    exact ⟨fun ⟨j, hj⟩ => h j a hj, fun ha => ⟨encode a, ha⟩⟩
  reads_back := h
  fixed j form hform := by
    obtain ⟨a, hj, rfl⟩ := Except.map_eq_ok.1 hform
    rw [h j a hj, Except.map_ok]

theorem hasCanonicalForms_of_decode_encode
    (h : ∀ a, decode (encode a) = .ok a) :
    HasCanonicalForms decode encode fun _ => True :=
  Settles.hasCanonicalForms (fun _ a _ => h a) fun a => iff_true_intro (h a)

/-- A number is never read as an infinity, whether it is written as an integer or
with a fraction. -/
theorem isFinite_of_double {j : Json} {x : Binary64} (h : double j = .ok x) :
    x.isFinite = true := by
  unfold double at h
  split at h
  · next n hrange =>
    obtain rfl := Except.ok.inj h
    exact Binary64.isFinite_ofInt (by omega)
  · next x hfinite =>
    obtain rfl := Except.ok.inj h
    exact hfinite
  · contradiction

/-! ## Choices -/

theorem firstOf_cons_eq_ok {choice : String} {first : Decoder α}
    {rest : List (Decoder α)} {j : Json} {a : α} :
    firstOf choice (first :: rest) j = .ok a ↔
      first j = .ok a ∨
        (∀ b, first j ≠ .ok b) ∧ firstOf choice rest j = .ok a := by
  cases h : first j with
  | ok b => simp [firstOf, h, Except.toOption]
  | error e => simp [firstOf, h, Except.toOption]

theorem variant_eq_ok {variants : List (Variant α)} {j : Json} {a : α}
    (h : variant variants j = .ok a) :
    ∃ choice ∈ variants, ∃ payload, choice.2 payload = .ok a := by
  have hpick : ∃ name payload, pick variants name payload = .ok a := by
    unfold variant at h
    split at h
    · exact ⟨_, _, h⟩
    · exact ⟨_, _, h⟩
    · contradiction
    · contradiction
  obtain ⟨name, payload, hpick⟩ := hpick
  unfold pick at hpick
  split at hpick
  · next read hread =>
    exact ⟨(name, read), Entries.mem_of_get? hread, payload, hpick⟩
  · contradiction

theorem carrying_eq_ok {name : String} {make : α → β} {decode : Decoder α}
    {payload : Option Json} {b : β}
    (h : (carrying name make decode).2 payload = .ok b) :
    ∃ j a, decode j = .ok a ∧ make a = b := by
  cases payload with
  | none => contradiction
  | some j =>
      obtain ⟨a, hread, hmake⟩ := Except.map_eq_ok.1 h
      exact ⟨j, a, hread, hmake⟩

end Decode

/-! ## Codecs -/

/-- A decoder with what is written for the values it has read. -/
structure Codec (α : Type) where
  decode : Decoder α
  encode : α → Json
  settles : Decode.Settles decode encode

namespace Codec

variable {α : Type}

def ReadsBack (c : Codec α) (a : α) : Prop := c.decode (c.encode a) = .ok a

def string : Codec String := ⟨Decode.string, .string, fun _ _ _ => rfl⟩

def bool : Codec Bool := ⟨Decode.bool, .bool, fun _ _ _ => rfl⟩

def value : Codec Json := ⟨Decode.value, id, fun _ _ _ => rfl⟩

@[simp] theorem value_encode (j : Json) : value.encode j = j := rfl

def object : Codec (Entries Json) := ⟨Decode.object, .object, fun _ _ _ => rfl⟩

def double : Codec Binary64 where
  decode := Decode.double
  encode := .ofBinary64
  settles _ _ h := Decode.double_ofBinary64 (Decode.isFinite_of_double h)

@[simp] theorem string_readsBack (text : String) : string.ReadsBack text := rfl

@[simp] theorem bool_readsBack (b : Bool) : bool.ReadsBack b := rfl

@[simp] theorem value_readsBack (j : Json) : value.ReadsBack j := rfl

@[simp] theorem double_readsBack_iff {x : Binary64} :
    double.ReadsBack x ↔ x.isFinite = true :=
  ⟨Decode.isFinite_of_double, Decode.double_ofBinary64⟩

/-! ## Values that may be absent -/

/-- No value that is read from anything but `null` may be written as `null`. -/
def optional (c : Codec α)
    (h : ∀ j a, j ≠ .null → c.decode j = .ok a → c.encode a ≠ .null) :
    Codec (Option α) where
  decode := Decode.optional c.decode
  encode := .orNull c.encode
  settles j value hread := by
    refine Decode.optional_orNull_iff.2 ?_
    rintro a rfl
    have hj : j ≠ .null := by
      rintro rfl
      cases hread
    rw [Decode.optional_of_ne_null hj] at hread
    obtain ⟨b, hb, hsome⟩ := Except.map_eq_ok.1 hread
    obtain rfl := Option.some.inj hsome
    exact ⟨h j b hj hb, c.settles j b hb⟩

theorem optional_readsBack_iff (c : Codec α)
    (h : ∀ j a, j ≠ .null → c.decode j = .ok a → c.encode a ≠ .null)
    {value : Option α} :
    (c.optional h).ReadsBack value ↔
      ∀ a, value = some a → c.encode a ≠ .null ∧ c.ReadsBack a :=
  Decode.optional_orNull_iff

def optionalString : Codec (Option String) :=
  string.optional fun _ _ _ _ => Json.noConfusion

def optionalObject : Codec (Option (Entries Json)) :=
  object.optional fun _ _ _ _ => Json.noConfusion

def optionalValue : Codec (Option Json) :=
  value.optional fun _ _ hj hread => Except.ok.inj hread ▸ hj

theorem double_encode_ne_null {j : Json} {x : Binary64} (h : double.decode j = .ok x) :
    double.encode x ≠ .null := by
  change Json.ofBinary64 x ≠ .null
  rw [Json.ofBinary64, dif_pos (Decode.isFinite_of_double h)]
  exact Json.noConfusion

def optionalDouble : Codec (Option Binary64) :=
  double.optional fun _ _ _ => double_encode_ne_null

@[simp] theorem optionalString_readsBack (text : Option String) :
    optionalString.ReadsBack text :=
  (string.optional_readsBack_iff _).2 fun _ _ => ⟨Json.noConfusion, rfl⟩

@[simp] theorem optionalObject_readsBack (fields : Option (Entries Json)) :
    optionalObject.ReadsBack fields :=
  (object.optional_readsBack_iff _).2 fun _ _ => ⟨Json.noConfusion, rfl⟩

@[simp] theorem optionalValue_readsBack_iff {j : Option Json} :
    optionalValue.ReadsBack j ↔ j ≠ some .null := by
  refine (value.optional_readsBack_iff _).trans ?_
  cases j <;> simp

@[simp] theorem optionalDouble_readsBack_iff {x : Option Binary64} :
    optionalDouble.ReadsBack x ↔ ∀ y, x = some y → y.isFinite = true := by
  refine (double.optional_readsBack_iff _).trans (forall₂_congr fun y _ => ?_)
  rw [double_readsBack_iff, and_iff_right_iff_imp]
  exact fun h => double_encode_ne_null (double_readsBack_iff.2 h)

end Codec

namespace Shape

variable {σ : Type} {shape : Shape σ}

/-! ## What every field keeps -/

theorem foldlM_take_keeps {P : σ → Prop}
    (hput : ∀ field ∈ shape.fields, ∀ j record next, P record →
      field.put j record = .ok next → P next)
    {entries : List (String × Json)} {progress last : Progress σ}
    (h : P progress.record) (hfold : entries.foldlM shape.take progress = .ok last) :
    P last.record := by
  induction entries generalizing progress with
  | nil => rwa [← Except.ok.inj hfold]
  | cons entry entries ih =>
      rw [List.foldlM_cons] at hfold
      obtain ⟨next, htake, hrest⟩ := Except.bind_eq_ok.1 hfold
      refine ih ?_ hrest
      rcases take_eq_ok.1 htake with ⟨-, rfl⟩ | ⟨field, record, hfind, -, hrecord, rfl⟩
      · exact h
      · exact hput field (List.mem_of_find?_eq_some hfind) _ _ _ h hrecord

theorem putItems_keeps {P : σ → Prop} {fields : List (Field σ)}
    (hput : ∀ field ∈ fields, ∀ j record next, P record →
      field.put j record = .ok next → P next)
    {place : Nat} {record last : σ} {items rest : List Json} (h : P record)
    (hitems : shape.putItems place record fields items = .ok (last, rest)) :
    P last := by
  induction fields generalizing place record items with
  | nil =>
      obtain ⟨rfl, -⟩ := Prod.mk.inj (Except.ok.inj hitems)
      exact h
  | cons field fields ih =>
      rw [List.forall_mem_cons] at hput
      cases items with
      | nil =>
          rw [putItems] at hitems
          split at hitems
          · contradiction
          · exact ih hput.2 h hitems
      | cons item items =>
          obtain ⟨next, hnext, hitems⟩ := Except.bind_eq_ok.1 hitems
          exact ih hput.2 (hput.1 _ _ _ h hnext) hitems

/-- What is true at the start and kept by every field is true of what is read. -/
theorem decode_keeps {P : σ → Prop} (hstart : P shape.start)
    (hput : ∀ field ∈ shape.fields, ∀ j record next, P record →
      field.put j record = .ok next → P next)
    {j : Json} {record : σ} (h : shape.decode j = .ok record) : P record := by
  cases j with
  | object entries =>
      obtain ⟨⟨read, leftOver⟩, hentries, rfl⟩ := Except.map_eq_ok.1 h
      obtain ⟨progress, hfold, hrest⟩ := Except.bind_eq_ok.1 hentries
      split at hrest
      · contradiction
      · obtain ⟨rfl, -⟩ := Prod.mk.inj (Except.ok.inj hrest)
        exact foldlM_take_keeps hput hstart hfold
  | array items =>
      obtain ⟨⟨read, remaining⟩, hitems, hrest⟩ := Except.bind_eq_ok.1 h
      have hread : P read := putItems_keeps hput hstart hitems
      simp only at hrest
      split at hrest
      · rwa [← Except.ok.inj hrest]
      · contradiction
  | _ => contradiction

/-! ## Records -/

/-- A field of a record with what it holds and how that is written. -/
structure Member (σ : Type) where
  Value : Type
  name : String
  codec : Codec Value
  get : σ → Value
  store : σ → Value → σ

namespace Member

def put (m : Member σ) : Json → σ → Except DecodeError σ :=
  Field.storing m.codec.decode m.store

def written (m : Member σ) (record : σ) : Json := m.codec.encode (m.get record)

/-- Storing the one leaves the other as it is. -/
def Spares (m other : Member σ) : Prop :=
  ∀ record value, other.get (m.store record value) = other.get record

def IsReadBack (m : Member σ) (record : σ) : Prop :=
  m.codec.ReadsBack (m.get record)

end Member

/-- Each member is that of the field in its place. -/
def AreOf (members : List (Member σ)) (fields : List (Field σ)) : Prop :=
  fields.map (fun field => (field.name, field.put)) =
    members.map fun m => (m.name, m.put)

/-- The members are those of the fields.  Together they are all of a record, and
each can be stored without the others. -/
structure HasMembers (shape : Shape σ) (members : List (Member σ)) : Prop where
  names : shape.HasNames
  fields : AreOf members shape.fields
  stored : ∀ m ∈ members, ∀ record value, m.get (m.store record value) = value
  spared : members.Pairwise fun m other => m.Spares other ∧ other.Spares m
  whole : ∀ record,
    members.foldl (fun r m => m.store r (m.get record)) shape.start = record
  start : ∀ m ∈ members, m.IsReadBack shape.start

variable {members : List (Member σ)}

theorem HasMembers.keeps (h : shape.HasMembers members) (field : Field σ)
    (hfield : field ∈ shape.fields) (j : Json) (record next : σ)
    (hread : ∀ m ∈ members, m.IsReadBack record)
    (hput : field.put j record = .ok next) :
    ∀ m ∈ members, m.IsReadBack next := by
  have hmem : (field.name, field.put) ∈ members.map fun m => (m.name, m.put) := by
    rw [← h.fields]
    exact List.mem_map_of_mem hfield
  obtain ⟨changed, hchanged, heq⟩ := List.mem_map.1 hmem
  rw [← (Prod.mk.inj heq).2] at hput
  obtain ⟨value, hvalue, rfl⟩ := Except.map_eq_ok.1 hput
  intro m hm
  -- what was stored has just been read; the other members are as they were
  by_cases hsame : changed = m
  · subst hsame
    rw [Member.IsReadBack, h.stored changed hchanged]
    exact changed.codec.settles j value hvalue
  · have hsymm : Std.Symm fun m other : Member σ => m.Spares other ∧ other.Spares m :=
      ⟨fun _ _ => And.symm⟩
    have hspares := (h.spared.forall hchanged hm hsame).1
    rw [Member.IsReadBack, hspares]
    exact hread m hm

/-- What is written for the members, as slots of the fields. -/
def memberSlots (fields : List (Field σ)) (members : List (Member σ)) (record : σ) :
    List (Field.Slot σ) :=
  fields.zip (members.map fun m => some (m.written record))

theorem slotEntries_members {record : σ} {fields : List (Field σ)}
    (h : AreOf members fields) :
    slotEntries (memberSlots fields members record) =
      members.map fun m => (m.name, m.written record) := by
  induction members generalizing fields with
  | nil =>
      rw [List.map_eq_nil_iff.1 h]
      rfl
  | cons m members ih =>
      cases fields with
      | nil => contradiction
      | cons field fields =>
          rw [AreOf, List.map_cons, List.map_cons, List.cons.injEq, Prod.mk.injEq] at h
          have hrest := ih h.2
          unfold memberSlots at hrest ⊢
          rw [List.map_cons, List.zip_cons_cons, slotEntries_cons, hrest, List.map_cons,
            ← h.1.1]
          rfl

/-- Members that are read back are stored one after the other. -/
theorem foldlM_memberSlots {record : σ} {fields : List (Field σ)}
    (h : AreOf members fields)
    (hread : ∀ m ∈ members, m.IsReadBack record) (start : σ) :
    (memberSlots fields members record).foldlM Field.putSlot start =
      .ok (members.foldl (fun r m => m.store r (m.get record)) start) := by
  induction members generalizing fields start with
  | nil =>
      rw [List.map_eq_nil_iff.1 h]
      rfl
  | cons m members ih =>
      cases fields with
      | nil => contradiction
      | cons field fields =>
          rw [AreOf, List.map_cons, List.map_cons, List.cons.injEq, Prod.mk.injEq] at h
          rw [List.forall_mem_cons] at hread
          have hput : Field.putSlot start (field, some (m.written record)) =
              .ok (m.store start (m.get record)) := by
            change field.put (m.written record) start = _
            rw [h.1.2]
            exact Except.map_eq_ok.2 ⟨_, hread.1, rfl⟩
          rw [memberSlots, List.map_cons, List.zip_cons_cons, List.foldlM_cons, hput,
            Except.ok_bind]
          exact ih h.2 hread.2 _

/-- The object that is written for a record. -/
def write (members : List (Member σ)) (record : σ) : Json :=
  .object (members.map fun m => (m.name, m.written record))

theorem decode_write (h : shape.HasMembers members) {record : σ}
    (hread : ∀ m ∈ members, m.IsReadBack record) :
    shape.decode (write members record) = .ok record := by
  have hlength : shape.fields.length = members.length := by
    simpa using congrArg List.length h.fields
  have hslots := decode_named_slots h.names (memberSlots shape.fields members record)
    (List.map_fst_zip (by simp [hlength])) fun slot hslot _ => by
      obtain ⟨m, -, hm⟩ := List.mem_map.1 (List.of_mem_zip hslot).2
      simp [← hm]
  rwa [slotEntries_members h.fields, foldlM_memberSlots h.fields hread, h.whole]
    at hslots

theorem readBack_of_decode (h : shape.HasMembers members) {j : Json} {record : σ}
    (hj : shape.decode j = .ok record) : ∀ m ∈ members, m.IsReadBack record :=
  decode_keeps h.start h.keeps hj

theorem settles (h : shape.HasMembers members) :
    Decode.Settles shape.decode (write members) :=
  fun _ _ hj => decode_write h (readBack_of_decode h hj)

theorem decode_write_iff (h : shape.HasMembers members) {record : σ} :
    shape.decode (write members record) = .ok record ↔
      ∀ m ∈ members, m.IsReadBack record :=
  ⟨readBack_of_decode h, decode_write h⟩

end Shape

end SearchClient

import SearchClient.Proofs.Json.Record
import SearchClient.Query.Encode

/-!
# Decoders and what is written for them

A decoder reads back what was written: for scalars always, for lists, optional
values and maps exactly when it does so for what stands in them.
-/

namespace SearchClient.Decode

variable {α β : Type}

/-! ## Scalars -/

theorem word64_ofUInt64 (n : UInt64) : word64 (.ofUInt64 n) = .ok n := by
  have hn := n.toNat_lt
  have hle : (n.toNat : Int) ≤ 0xFFFFFFFFFFFFFFFF := by omega
  simp [word64, integer, Json.ofUInt64, Number.ofUInt64, hle]

theorem word16_ofUInt64 (n : UInt16) : word16 (.ofUInt64 n.toUInt64) = .ok n := by
  have hlt := n.toNat_lt
  have hle : (n.toNat : Int) ≤ 0xFFFF := by omega
  simp [word16, integer, Json.ofUInt64, Number.ofUInt64, hle]

theorem size_ofUInt64 (n : UInt64) : size (.ofUInt64 n) = .ok n := by
  have hn := n.toNat_lt
  have hle : (n.toNat : Int) ≤ 0xFFFFFFFFFFFFFFFF := by omega
  simp [size, integer, Json.ofUInt64, Number.ofUInt64, hle]

theorem signed64_ofInt64 (n : Int64) : signed64 (.ofInt64 n) = .ok n := by
  have hlow := Int64.le_toInt n
  have hhigh := Int64.toInt_lt n
  have hle : n.toInt ≤ 0x7FFFFFFFFFFFFFFF := by omega
  have hge : -0x8000000000000000 ≤ n.toInt := by omega
  simp [signed64, integer, Json.ofInt64, Number.ofInt64, hle, hge]

theorem double_ofBinary64 {x : Binary64} (h : x.isFinite = true) :
    double (.ofBinary64 x) = .ok x := by
  rw [Json.ofBinary64, dif_pos h]
  rfl

/-! ## Lists and optional values -/

theorem list_map_iff {decode : Decoder α} {encode : α → Json} {items : List α} :
    list decode (.array (items.map encode)) = .ok items ↔
      ∀ item ∈ items, decode (encode item) = .ok item :=
  Except.mapM_map_eq_ok_self

theorem list_strings (items : List String) :
    list string (.strings items) = .ok items :=
  list_map_iff.2 fun _ _ => rfl

theorem orDefault_ifAny_iff {decode : Decoder α} {encode : α → Json}
    {items : List α} :
    orDefault [] (list decode) (Json.valueIfAny .array (items.map encode)) =
        .ok items ↔
      ∀ item ∈ items, decode (encode item) = .ok item := by
  cases items with
  | nil => simp [Json.valueIfAny, orDefault]
  | cons item items => exact list_map_iff

theorem optional_of_ne_null {decode : Decoder α} {j : Json} (h : j ≠ .null) :
    optional decode j = (decode j).map some := by
  cases j with
  | null => contradiction
  | _ => rfl

theorem orDefault_map_iff {decode : Decoder α} {encode : α → Json}
    (hnull : ∀ a, encode a ≠ .null) {value : Option α} :
    orDefault none (optional decode) (value.map encode) = .ok value ↔
      ∀ a, value = some a → decode (encode a) = .ok a := by
  cases value with
  | none => simp [orDefault]
  | some a => simp [orDefault, optional_of_ne_null (hnull a), Except.map_eq_ok]

/-- An absent value is `null`, so no other may be written as `null`. -/
theorem optional_orNull_iff {decode : Decoder α} {encode : α → Json}
    {value : Option α} :
    optional decode (.orNull encode value) = .ok value ↔
      ∀ a, value = some a → encode a ≠ .null ∧ decode (encode a) = .ok a := by
  cases value with
  | none => exact iff_of_true rfl nofun
  | some a =>
      change optional decode (encode a) = .ok (some a) ↔ _
      rcases eq_or_ne (encode a) .null with hnull | hnull
      · simp [hnull, optional]
      · simp [hnull, optional_of_ne_null hnull, Except.map_eq_ok]

/--
A value that is itself JSON is not told from an absent one when it is
`null`.
-/
theorem orDefault_value_iff {j : Option Json} :
    orDefault none (optional value) j = .ok j ↔ j ≠ some .null := by
  cases j with
  | none => simp [orDefault]
  | some j =>
      cases j with
      | null => simp [orDefault, optional]
      | _ => simp [orDefault, optional, value]

/-! ## Maps -/

theorem entry_eq_ok {decode : Decoder α} {key : String} {j : Json}
    {read : String × α} :
    entry decode (key, j) = .ok read ↔
      read.1 = key ∧ decode j = .ok read.2 := by
  obtain ⟨other, a⟩ := read
  simp [entry, Except.map_eq_ok, and_comm, eq_comm]

theorem keys_mapM_entry {decode : Decoder α} {entries : List (String × Json)}
    {read : List (String × α)} (h : entries.mapM (entry decode) = .ok read) :
    read.map Prod.fst = entries.map Prod.fst := by
  have hall := Except.mapM_eq_ok.1 h
  clear h
  induction hall with
  | nil => rfl
  | cons hentry _ ih =>
      rw [List.map_cons, List.map_cons, ih, (entry_eq_ok.1 hentry).1]

theorem mapM_entry_iff (decode : Decoder α) (encode : α → Json)
    (m : SortedMap α) :
    ((m.toList.map fun (key, a) => (key, encode a)).mapM
        (entry decode)).map .ofList = .ok m ↔
      ∀ entry ∈ m.toList, decode (encode entry.2) = .ok entry.2 := by
  have hself :
      (m.toList.map fun (key, a) => (key, encode a)).mapM (entry decode) =
          .ok m.toList ↔
        ∀ entry ∈ m.toList, decode (encode entry.2) = .ok entry.2 := by
    rw [Except.mapM_map_eq_ok_self]
    simp [entry_eq_ok]
  rw [← hself, Except.map_eq_ok]
  constructor
  · rintro ⟨read, hread, rfl⟩
    -- keys are read as they were written, so what was read is in order already
    have hkeys := keys_mapM_entry hread
    rw [List.map_map] at hkeys
    have hsorted : read.Pairwise (fun a b => a.1 < b.1) := by
      rw [← List.pairwise_map (f := Prod.fst) (R := (· < ·)), hkeys,
        List.pairwise_map]
      exact (SortedMap.ofList read).sorted
    rwa [SortedMap.toList_ofList hsorted] at hread ⊢
  · intro hread
    exact ⟨m.toList, hread, SortedMap.ofList_toList m⟩

theorem collapse_sortedMap (encode : α → Json) (m : SortedMap α) :
    (m.encode encode).collapse =
      .object (m.toList.map fun (key, a) => (key, (encode a).collapse)) := by
  rw [SortedMap.encode, SortedMap.encodeEntries, Json.collapse_object,
    List.map_map]
  · rfl
  · rw [List.map_map]
    exact m.nodup_keys

theorem sortedMap_iff {decode : Decoder α} {encode : α → Json}
    {m : SortedMap α} :
    sortedMap decode (m.encode encode).collapse = .ok m ↔
      ∀ entry ∈ m.toList, decode (encode entry.2).collapse = .ok entry.2 := by
  rw [collapse_sortedMap]
  exact mapM_entry_iff decode (fun a => (encode a).collapse) m

theorem sortedMap_value {m : SortedMap Json}
    (h : ∀ entry ∈ m.toList, entry.2.WellFormed) :
    sortedMap value (m.encode id).collapse = .ok m :=
  sortedMap_iff.2 fun entry hentry =>
    congrArg Except.ok (Json.collapse_of_wellFormed entry.2 (h entry hentry))

/-! ## Records that hold items -/

theorem items_not_named {shape : Shape α} {others : Decoder β} {γ : Type}
    {combine : α → SortedMap β → γ} {entries : List (String × Json)} {c : γ}
    (h : shape.decodeOpen others combine (.object entries) = .ok c) :
    ∃ record items, c = combine record items ∧
      ∀ key ∈ items.keys, shape.fields.find? (·.isNamed key) = none := by
  obtain ⟨⟨record, leftOver⟩, hentries, h⟩ := Except.bind_eq_ok.1 h
  obtain ⟨items, hitems, h⟩ := Except.bind_eq_ok.1 h
  refine ⟨record, .ofList items, (Except.ok.inj h).symm, ?_⟩
  intro key hkey
  have hleft := SortedMap.mem_keys_ofList.1 hkey
  rw [keys_mapM_entry hitems] at hleft
  obtain ⟨entry, hentry, rfl⟩ := List.mem_map.1 hleft
  exact Shape.leftOver_not_named hentries entry hentry

theorem decodeOpen_around {shape : Shape α} (h : shape.IsPlain)
    (before after : List (Field.Slot α))
    (hfields : (before ++ after).map Prod.fst = shape.fields)
    (hgiven : ∀ slot ∈ before ++ after,
      slot.1.isRequired = true → slot.2.isSome = true)
    {record : α}
    (hput : (before ++ after).foldlM Field.putSlot shape.start = .ok record)
    {others : Decoder β} {encode : β → Json} {items : SortedMap β}
    (hkeys : ∀ key ∈ items.keys, shape.fields.find? (·.isNamed key) = none)
    (hitems : ∀ entry ∈ items.toList, others (encode entry.2) = .ok entry.2)
    {γ : Type} (combine : α → SortedMap β → γ) :
    shape.decodeOpen others combine
        (.object (Shape.slotEntries before ++
          (items.toList.map fun (key, b) => (key, encode b)) ++
          Shape.slotEntries after)) =
      .ok (combine record items) := by
  have hentries := Shape.decodeEntries_around h.hasNames before after
    hfields hgiven (items.toList.map fun (key, b) => (key, encode b)) (by
      intro entry hentry
      obtain ⟨item, hitem, rfl⟩ := List.mem_map.1 hentry
      exact hkeys item.1 (List.mem_map_of_mem hitem))
  rw [hput] at hentries
  refine Except.bind_eq_ok.2 ⟨_, hentries, ?_⟩
  obtain ⟨read, hread, hmap⟩ :=
    Except.map_eq_ok.1 ((mapM_entry_iff others encode items).2 hitems)
  exact Except.bind_eq_ok.2 ⟨read, hread, by rw [hmap]; rfl⟩

/-! ## Choices -/

theorem variant_carrying_iff {variants : List (Variant β)} {name : String}
    {make : α → β} {decode : Decoder α}
    (h : variants.lookup name = some (carrying name make decode).2)
    (hinj : Function.Injective make) {payload : Json} {a : α} :
    variant variants (.object [(name, payload)]) = .ok (make a) ↔
      decode payload = .ok a := by
  have hpick :
      variant variants (.object [(name, payload)]) =
        (decode payload).map make := by
    simp [variant, pick, h, carrying]
  rw [hpick, Except.map_eq_ok]
  constructor
  · rintro ⟨other, hread, heq⟩
    rwa [← hinj heq]
  · intro hread
    exact ⟨a, hread, rfl⟩

end SearchClient.Decode

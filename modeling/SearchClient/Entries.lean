/-!
# Entries

Keyed entries in the order in which their keys first came.  Inserting under a
present key replaces the value and keeps the key's place; a new key goes to the
end.  `SortedMap` keeps its entries in increasing order of keys instead, one for
each key.
-/

namespace SearchClient

abbrev Entries (α : Type) := List (String × α)

namespace Entries

variable {α : Type}

def keys (entries : Entries α) : List String := entries.map Prod.fst

def get? (entries : Entries α) (key : String) : Option α := entries.lookup key

def insert (entries : Entries α) (key : String) (value : α) : Entries α :=
  match entries with
  | [] => [(key, value)]
  | (k, v) :: rest => if k = key then (k, value) :: rest else (k, v) :: insert rest key value

/-- The entries of `more` inserted one after the other. -/
def insertAll (entries more : Entries α) : Entries α :=
  more.foldl (fun acc (key, value) => acc.insert key value) entries

def ofList (entries : List (String × α)) : Entries α := insertAll [] entries

theorem mem_keys_insert (entries : Entries α) (key other : String) (value : α) :
    other ∈ (entries.insert key value).keys ↔ other = key ∨ other ∈ entries.keys := by
  induction entries with
  | nil => simp [insert, keys]
  | cons entry rest ih =>
    simp only [insert]
    split
    · next h => subst h; simp [keys]
    · simp only [keys, List.map_cons, List.mem_cons] at ih ⊢
      rw [ih]
      exact or_left_comm

theorem nodup_keys_insert (entries : Entries α) (key : String) (value : α)
    (h : entries.keys.Nodup) : (entries.insert key value).keys.Nodup := by
  induction entries with
  | nil => simp [insert, keys]
  | cons entry rest ih =>
    simp only [keys, List.map_cons, List.nodup_cons] at h
    simp only [insert]
    split
    · simpa [keys] using h
    · next hne =>
      simp only [keys, List.map_cons, List.nodup_cons]
      refine ⟨fun hmem => ?_, ih h.2⟩
      rcases (mem_keys_insert rest key entry.1 value).1 hmem with heq | hin
      · exact hne heq
      · exact h.1 hin

theorem get?_insert (entries : Entries α) (key other : String) (value : α) :
    (entries.insert key value).get? other =
      if other = key then some value else entries.get? other := by
  induction entries with
  | nil =>
    by_cases h : other = key
    · simp [insert, get?, h]
    · have hb : (other == key) = false := by simpa using h
      simp [insert, get?, List.lookup_cons, h, hb]
  | cons entry rest ih =>
    obtain ⟨k, v⟩ := entry
    simp only [insert]
    simp only [get?] at ih ⊢
    by_cases hk : k = key
    · subst hk
      by_cases h : other = k
      · simp [h]
      · have hb : (other == k) = false := by simpa using h
        simp [List.lookup_cons, h, hb]
    · rw [if_neg hk]
      by_cases h : other = k
      · subst h
        simp [hk]
      · have hb : (other == k) = false := by simpa using h
        simp [List.lookup_cons, hb, ih]

theorem insert_of_not_mem (entries : Entries α) (key : String) (value : α)
    (h : key ∉ entries.keys) : entries.insert key value = entries ++ [(key, value)] := by
  induction entries with
  | nil => rfl
  | cons entry rest ih =>
    simp only [keys, List.map_cons, List.mem_cons, not_or] at h
    simp only [insert, List.cons_append]
    rw [if_neg (fun e => h.1 e.symm), ih h.2]

theorem nodup_keys_insertAll (entries more : Entries α) (h : entries.keys.Nodup) :
    (entries.insertAll more).keys.Nodup := by
  induction more generalizing entries with
  | nil => exact h
  | cons entry rest ih => exact ih _ (nodup_keys_insert _ _ _ h)

theorem nodup_keys_ofList (entries : List (String × α)) : (ofList entries).keys.Nodup :=
  nodup_keys_insertAll _ _ (by simp [keys])

theorem insertAll_of_nodup (entries more : Entries α)
    (h : (entries.keys ++ more.keys).Nodup) : entries.insertAll more = entries ++ more := by
  induction more generalizing entries with
  | nil => simp [insertAll]
  | cons entry rest ih =>
    obtain ⟨k, v⟩ := entry
    have hk : k ∉ entries.keys := by
      simp only [keys, List.map_cons, List.nodup_append, List.mem_cons] at h
      intro hin
      exact h.2.2 k hin k (Or.inl rfl) rfl
    have step : entries.insertAll ((k, v) :: rest) = (entries.insert k v).insertAll rest := rfl
    rw [step, insert_of_not_mem _ _ _ hk, ih]
    · simp
    · simpa [keys, List.append_assoc] using h

theorem ofList_of_nodup (entries : List (String × α)) (h : (entries.map Prod.fst).Nodup) :
    ofList entries = entries := by
  simpa [ofList] using insertAll_of_nodup ([] : Entries α) entries (by simpa [keys] using h)

end Entries

/-! ## Sorted maps -/

structure SortedMap (α : Type) where
  entries : List (String × α)
  sorted : entries.Pairwise (fun a b => a.1 < b.1)

namespace SortedMap

variable {α : Type}

def insertSorted (key : String) (value : α) : List (String × α) → List (String × α)
  | [] => [(key, value)]
  | (k, v) :: rest =>
    if key < k then (key, value) :: (k, v) :: rest
    else if k = key then (key, value) :: rest
    else (k, v) :: insertSorted key value rest

theorem mem_insertSorted {key : String} {value : α} {entries : List (String × α)}
    {entry : String × α} (h : entry ∈ insertSorted key value entries) :
    entry = (key, value) ∨ entry ∈ entries := by
  induction entries with
  | nil => simpa [insertSorted] using h
  | cons first rest ih =>
    obtain ⟨k, v⟩ := first
    simp only [insertSorted] at h
    split at h
    · simpa using h
    · split at h
      · rcases List.mem_cons.1 h with h | h
        · exact .inl h
        · exact .inr (List.mem_cons_of_mem _ h)
      · rcases List.mem_cons.1 h with h | h
        · exact .inr (h ▸ List.mem_cons_self)
        · exact (ih h).imp id (List.mem_cons_of_mem _)

theorem sorted_insertSorted (key : String) (value : α) (entries : List (String × α))
    (h : entries.Pairwise (fun a b => a.1 < b.1)) :
    (insertSorted key value entries).Pairwise (fun a b => a.1 < b.1) := by
  induction entries with
  | nil => simp [insertSorted]
  | cons first rest ih =>
    obtain ⟨k, v⟩ := first
    rw [List.pairwise_cons] at h
    simp only [insertSorted]
    split
    · next hlt =>
      refine List.pairwise_cons.2 ⟨fun e he => ?_, List.pairwise_cons.2 h⟩
      rcases List.mem_cons.1 he with he | he
      · exact he ▸ hlt
      · exact String.lt_trans hlt (h.1 e he)
    · next hge =>
      split
      · next heq =>
        subst heq
        exact List.pairwise_cons.2 ⟨h.1, h.2⟩
      · next hne =>
        refine List.pairwise_cons.2 ⟨fun e he => ?_, ih h.2⟩
        rcases mem_insertSorted he with he | he
        · subst he
          rcases Classical.em (k < key) with hlt | hnlt
          · exact hlt
          · exact absurd (String.le_antisymm (String.not_lt.1 hge) (String.not_lt.1 hnlt)) hne
        · exact h.1 e he

def empty : SortedMap α := ⟨[], .nil⟩

def insert (m : SortedMap α) (key : String) (value : α) : SortedMap α :=
  ⟨insertSorted key value m.entries, sorted_insertSorted key value m.entries m.sorted⟩

def singleton (key : String) (value : α) : SortedMap α :=
  ⟨[(key, value)], List.pairwise_singleton _ _⟩

/-- A later value replaces an earlier one under the same key. -/
def ofList (entries : List (String × α)) : SortedMap α :=
  entries.foldl (fun m (key, value) => m.insert key value) empty

def toList (m : SortedMap α) : List (String × α) := m.entries

def keys (m : SortedMap α) : List String := m.entries.map Prod.fst

def get? (m : SortedMap α) (key : String) : Option α := m.entries.lookup key

theorem ext {m n : SortedMap α} (h : m.toList = n.toList) : m = n := by
  cases m
  cases n
  cases h
  rfl

@[simp] theorem toList_singleton (key : String) (value : α) :
    (singleton key value).toList = [(key, value)] := rfl

end SortedMap

end SearchClient

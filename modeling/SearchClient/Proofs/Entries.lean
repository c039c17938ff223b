import Mathlib.Data.List.Induction
import SearchClient.Entries

/-!
# Entries looked up

What stands under a key after entries were inserted one after the other, both in
the order in which they came and in the order of the keys.  A list whose keys
increase is the list of entries of the sorted map made from it.
-/

namespace SearchClient

variable {α : Type}

namespace Entries

theorem mem_keys {entries : Entries α} {key : String} :
    key ∈ entries.keys ↔ ∃ value, (key, value) ∈ entries := by
  simp [keys]

theorem get?_eq_none_iff {entries : Entries α} {key : String} :
    entries.get? key = none ↔ key ∉ entries.keys := by
  rw [get?, List.lookup_eq_none_iff, mem_keys]
  simp only [bne_iff_ne, Prod.forall, not_exists]
  constructor
  · intro h value hmem
    exact h key value hmem rfl
  · rintro h other value hmem rfl
    exact h value hmem

theorem get?_cons (key other : String) (value : α) (rest : Entries α) :
    get? ((key, value) :: rest) other =
      if other = key then some value else get? rest other := by
  rw [get?, List.lookup_cons]
  by_cases h : other = key
  · simp [h]
  · have hne : (other == key) = false := by simpa using h
    simp [hne, h, get?]

theorem get?_of_mem {entries : Entries α} (h : entries.keys.Nodup)
    {entry : String × α} (hmem : entry ∈ entries) :
    entries.get? entry.1 = some entry.2 := by
  induction entries with
  | nil => simp at hmem
  | cons first rest ih =>
      simp only [keys, List.map_cons, List.nodup_cons] at h
      rw [get?_cons]
      rcases List.mem_cons.1 hmem with rfl | hmem
      · simp
      · have hne : entry.1 ≠ first.1 := fun heq =>
          h.1 (heq ▸ List.mem_map_of_mem hmem)
        rw [if_neg hne]
        exact ih h.2 hmem

theorem get?_concat {entries : Entries α} {key : String} (h : key ∉ entries.keys)
    (value : α) : get? (entries ++ [(key, value)]) key = some value := by
  have hnone := get?_eq_none_iff.2 h
  rw [get?] at hnone
  rw [get?, List.lookup_append, hnone]
  simp

theorem insert_concat {entries : Entries α} {key : String} (h : key ∉ entries.keys)
    (old value : α) :
    insert (entries ++ [(key, old)]) key value = entries ++ [(key, value)] := by
  induction entries with
  | nil => simp [insert]
  | cons entry rest ih =>
      simp only [keys, List.map_cons, List.mem_cons, not_or] at h
      rw [List.cons_append, insert, if_neg (Ne.symm h.1), ih h.2, List.cons_append]

theorem mem_of_get? {entries : Entries α} {key : String} {value : α}
    (h : entries.get? key = some value) : (key, value) ∈ entries := by
  obtain ⟨before, after, rfl, -⟩ := List.lookup_eq_some_iff.1 h
  exact List.mem_append_right _ List.mem_cons_self

theorem get?_insertAll {entries more : Entries α} (h : more.keys.Nodup)
    (key : String) :
    (entries.insertAll more).get? key = (more.get? key).or (entries.get? key) := by
  induction more generalizing entries with
  | nil => rfl
  | cons entry rest ih =>
      obtain ⟨other, value⟩ := entry
      simp only [keys, List.map_cons, List.nodup_cons] at h
      have hstep : entries.insertAll ((other, value) :: rest) =
          (entries.insert other value).insertAll rest := rfl
      rw [hstep, ih h.2, get?_insert]
      rw [get?_cons]
      by_cases heq : key = other
      · subst heq
        have hnone : get? rest key = none := get?_eq_none_iff.2 h.1
        simp [hnone]
      · simp [heq]

theorem mem_keys_insertAll {entries more : Entries α} {key : String} :
    key ∈ (entries.insertAll more).keys ↔
      key ∈ entries.keys ∨ key ∈ more.keys := by
  induction more generalizing entries with
  | nil => simp [insertAll, keys]
  | cons entry rest ih =>
      have hstep : entries.insertAll (entry :: rest) =
          (entries.insert entry.1 entry.2).insertAll rest := rfl
      rw [hstep, ih, mem_keys_insert]
      simp only [keys, List.map_cons, List.mem_cons]
      rw [or_right_comm, or_comm, or_left_comm]

theorem keys_insert (entries : Entries α) (key : String) (value : α) :
    (entries.insert key value).keys =
      entries.keys ++ if key ∈ entries.keys then [] else [key] := by
  induction entries with
  | nil => rfl
  | cons entry rest ih =>
      obtain ⟨other, held⟩ := entry
      by_cases hkey : other = key
      · simp [insert, keys, hkey]
      · have hmem : key ∈ keys ((other, held) :: rest) ↔ key ∈ keys rest := by
          simp [keys, Ne.symm hkey]
        rw [if_congr hmem rfl rfl, insert, if_neg hkey]
        exact congrArg (other :: ·) ih

theorem mem_iff_get? {entries : Entries α} (h : entries.keys.Nodup)
    {entry : String × α} :
    entry ∈ entries ↔ entries.get? entry.1 = some entry.2 :=
  ⟨get?_of_mem h, mem_of_get?⟩

/-- Entries that are inserted later win. -/
theorem mem_insertAll_iff {entries more : Entries α} (h : entries.keys.Nodup)
    (hmore : more.keys.Nodup) {entry : String × α} :
    entry ∈ entries.insertAll more ↔
      entry ∈ more ∨ entry.1 ∉ more.keys ∧ entry ∈ entries := by
  rw [mem_iff_get? (nodup_keys_insertAll entries more h), get?_insertAll hmore,
    mem_iff_get? hmore, mem_iff_get? h, ← get?_eq_none_iff]
  cases more.get? entry.1 <;> simp

end Entries

namespace SortedMap

theorem ne_of_lt {a b : String} (h : a < b) : a ≠ b := by
  rintro rfl
  exact String.lt_irrefl a h

theorem nodup_keys (m : SortedMap α) : m.keys.Nodup := by
  rw [keys, List.nodup_iff_pairwise_ne, List.pairwise_map]
  exact m.sorted.imp ne_of_lt

theorem insertSorted_last {key : String} {value : α}
    {entries : List (String × α)} (h : ∀ entry ∈ entries, entry.1 < key) :
    insertSorted key value entries = entries ++ [(key, value)] := by
  induction entries with
  | nil => rfl
  | cons first rest ih =>
      obtain ⟨k, v⟩ := first
      simp only [List.forall_mem_cons] at h
      have hnot : ¬key < k := String.lt_asymm h.1
      have hne : k ≠ key := ne_of_lt h.1
      rw [insertSorted, if_neg hnot, if_neg hne, ih h.2, List.cons_append]

theorem toList_insertAll {m : SortedMap α} {entries : List (String × α)}
    (h : (m.toList ++ entries).Pairwise (fun a b => a.1 < b.1)) :
    (entries.foldl (fun m (key, value) => m.insert key value) m).toList =
      m.toList ++ entries := by
  induction entries generalizing m with
  | nil => simp
  | cons entry entries ih =>
      obtain ⟨key, value⟩ := entry
      have hlast :
          (m.insert key value).toList = m.toList ++ [(key, value)] := by
        apply insertSorted_last
        intro entry hentry
        exact (List.pairwise_append.1 h).2.2 entry hentry _ List.mem_cons_self
      rw [List.foldl_cons, ih, hlast, List.append_assoc, List.singleton_append]
      rwa [hlast, List.append_assoc, List.singleton_append]

theorem toList_ofList {entries : List (String × α)}
    (h : entries.Pairwise (fun a b => a.1 < b.1)) :
    (ofList entries).toList = entries :=
  toList_insertAll (m := empty) h

theorem ofList_toList (m : SortedMap α) :
    ofList m.toList = m := ext (toList_ofList m.sorted)

theorem lookup_insertSorted (key other : String) (value : α)
    (entries : Entries α) :
    Entries.get? (insertSorted key value entries) other =
      if other = key then some value else entries.get? other := by
  induction entries with
  | nil => rw [insertSorted, Entries.get?_cons]
  | cons first rest ih =>
      obtain ⟨k, v⟩ := first
      rw [insertSorted]
      split
      · rw [Entries.get?_cons]
      · split
        · next heq =>
          subst heq
          rw [Entries.get?_cons, Entries.get?_cons]
          split <;> rfl
        · next hne =>
          rw [Entries.get?_cons, ih, Entries.get?_cons]
          by_cases hother : other = k
          · subst hother
            simp [hne]
          · simp [hother]

theorem get?_insert (m : SortedMap α) (key other : String) (value : α) :
    (m.insert key value).get? other =
      if other = key then some value else m.get? other :=
  lookup_insertSorted key other value m.entries

theorem ofList_concat (entries : List (String × α)) (entry : String × α) :
    ofList (entries ++ [entry]) = (ofList entries).insert entry.1 entry.2 := by
  rw [ofList, List.foldl_append]
  rfl

/-- The last of the values that were given under a key stands there. -/
theorem get?_ofList (entries : List (String × α)) (key : String) :
    (ofList entries).get? key = Entries.get? entries.reverse key := by
  induction entries using List.reverseRecOn with
  | nil => rfl
  | append_singleton entries entry ih =>
      rw [ofList_concat, get?_insert, ih, List.reverse_append]
      exact (Entries.get?_cons ..).symm

theorem mem_keys_iff {m : SortedMap α} {key : String} :
    key ∈ m.keys ↔ m.get? key ≠ none :=
  (not_iff_comm.1 (@Entries.get?_eq_none_iff _ m.entries key).symm).symm

theorem mem_keys_ofList {entries : List (String × α)} {key : String} :
    key ∈ (ofList entries).keys ↔ key ∈ entries.map Prod.fst := by
  have hnone := @Entries.get?_eq_none_iff _ entries.reverse key
  rw [mem_keys_iff, get?_ofList, ne_eq, hnone, not_not, Entries.keys,
    List.map_reverse, List.mem_reverse]

end SortedMap

end SearchClient

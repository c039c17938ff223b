import SearchClient.Json.Basic
import SearchClient.Proofs.Entries

/-!
# Values without repeated keys

Collapsing goes through arrays and through objects whose keys are all different,
and what stands inside a value is less deep than the value.
-/

namespace SearchClient.Json

theorem collapseItems_eq_map (items : List Json) :
    collapseItems items = items.map collapse := by
  induction items with
  | nil => rfl
  | cons item items ih => rw [collapseItems, ih, List.map_cons]

theorem collapseFields_eq_map (fields : List (String × Json)) :
    collapseFields fields = fields.map fun (key, value) =>
      (key, value.collapse) := by
  induction fields with
  | nil => rfl
  | cons field fields ih =>
      obtain ⟨key, value⟩ := field
      rw [collapseFields, ih, List.map_cons]

@[simp] theorem collapse_array (items : List Json) :
    (array items).collapse = .array (items.map collapse) := by
  rw [collapse, collapseItems_eq_map]

theorem collapse_object {fields : List (String × Json)}
    (h : (fields.map Prod.fst).Nodup) :
    (object fields).collapse =
      .object (fields.map fun (key, value) => (key, value.collapse)) := by
  rw [collapse, collapseFields_eq_map, Entries.ofList_of_nodup]
  rw [List.map_map]
  exact h

@[simp] theorem collapse_single (key : String) (value : Json) :
    (object [(key, value)]).collapse = .object [(key, value.collapse)] :=
  collapse_object (by simp)

@[simp] theorem collapse_string (text : String) :
    (string text).collapse = .string text := rfl

@[simp] theorem collapse_ofUInt64 (n : UInt64) :
    (ofUInt64 n).collapse = .ofUInt64 n := rfl

@[simp] theorem collapse_ofBinary64 (x : Binary64) :
    (ofBinary64 x).collapse = .ofBinary64 x := by
  unfold ofBinary64
  split <;> rfl

@[simp] theorem collapse_strings (items : List String) :
    (strings items).collapse = strings items := by
  rw [strings, collapse_array, List.map_map]
  rfl

/-! ## Depth -/

theorem depth_pos (value : Json) : 0 < value.depth := by
  cases value <;> simp [depth]

theorem depth_le_depthItems {item : Json} {items : List Json}
    (h : item ∈ items) : item.depth ≤ depthItems items := by
  induction items with
  | nil => simp at h
  | cons first items ih =>
      rw [depthItems]
      rcases List.mem_cons.1 h with rfl | h
      · exact Nat.le_max_left _ _
      · exact Nat.le_trans (ih h) (Nat.le_max_right _ _)

theorem depth_lt_array {item : Json} {items : List Json} (h : item ∈ items) :
    item.depth < (array items).depth := by
  rw [depth]
  exact Nat.lt_succ_of_le (depth_le_depthItems h)

theorem depth_lt_object {value : Json} {fields : List (String × Json)}
    (h : value ∈ fields.map Prod.snd) :
    value.depth < (object fields).depth := by
  rw [depth]
  apply Nat.lt_succ_of_le
  induction fields with
  | nil => simp at h
  | cons first fields ih =>
      obtain ⟨key, other⟩ := first
      rw [depthFields]
      rcases List.mem_cons.1 h with rfl | h
      · exact Nat.le_max_left _ _
      · exact Nat.le_trans (ih h) (Nat.le_max_right _ _)

end SearchClient.Json

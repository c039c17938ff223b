import SearchClient.Proofs.Config.Store

/-!
# Created configurations

Loading a configuration and creating it where it is missing agree with loading
alone, before and after.  What is created is one file, with the directories above
it that were missing; all that was there stays.
-/

namespace SearchClient.Config

open FileTree

variable {c : Config} {tree saved : FileTree} {path : Path}

theorem loadOrCreate_eq_ok_iff : loadOrCreate tree path = (saved, .ok c) ↔
    (tree.exists? path = true ∧ saved = tree ∧ load tree path = .ok c) ∨
      (tree.exists? path = false ∧ c = {} ∧ save {} tree path = (saved, .ok ())) := by
  unfold loadOrCreate
  cases tree.exists? path with
  | true => simp [eq_comm]
  | false =>
      rcases save {} tree path with ⟨other, _ | _⟩
      · simp
      · simp [and_comm, eq_comm]

theorem load_of_not_exists (h : tree.exists? path = false) : load tree path = .ok {} := by
  rw [load, h]
  rfl

theorem prefix_dropLast_iff {other : Path} (hpath : path ≠ []) (h : other ≠ path) :
    other <+: path.dropLast ↔ other <+: path := by
  rw [← List.dropLast_append_getLast hpath] at h
  conv_rhs => rw [← List.dropLast_append_getLast hpath]
  rw [List.prefix_concat_iff, or_iff_right h]

/-! ## What saving adds -/

section Saved

variable (hsaved : c.save tree path = (saved, .ok ()))
include hsaved

theorem ne_nil_of_save : path ≠ [] := by
  obtain ⟨-, prepared, -, hwritten⟩ := save_eq_ok_iff.1 hsaved
  rintro rfl
  cases prepared <;> contradiction

theorem kind?_of_save (other : Path) :
    saved.kind? other =
      if other = path then some (.file (Utf8.encode c.render))
      else if other <+: path then some .directory
      else tree.kind? other := by
  obtain ⟨-, prepared, hprepared, hwritten⟩ := save_eq_ok_iff.1 hsaved
  rw [kind?_of_write? hwritten, kind?_of_makeDirectories? hprepared]
  split
  · rfl
  · next hother =>
    rw [if_congr (prefix_dropLast_iff (ne_nil_of_save hsaved) hother) rfl rfl]

/-- Where no file was replaced, all that was there stays. -/
theorem kept_of_save (hnew : tree.exists? path = false) (other : Path) :
    tree.kind? other = none ∨ saved.kind? other = tree.kind? other := by
  cases hkind : tree.kind? other with
  | none => exact .inl rfl
  | some kind =>
      have hne : other ≠ path := by
        rintro rfl
        rw [exists?_eq_false_iff.1 hnew] at hkind
        contradiction
      refine .inr ?_
      rw [kind?_of_save hsaved, if_neg hne, hkind]
      split
      · next hfront =>
        cases kind with
        | directory => rfl
        | file bytes =>
            -- a file in the way would have kept the directories from being made
            obtain ⟨-, prepared, hprepared, -⟩ := save_eq_ok_iff.1 hsaved
            rw [makeDirectories?_eq_none
              ((prefix_dropLast_iff (ne_nil_of_save hsaved) hne).2 hfront) hkind]
              at hprepared
            contradiction
      · rfl

theorem exists?_of_save : saved.exists? path = true := by
  rw [← Bool.not_eq_false, exists?_eq_false_iff, kind?_of_save hsaved, if_pos rfl]
  exact Option.some_ne_none _

end Saved

/--
A configuration that was loaded or created is the one that loading gives before and
after, and loading or creating it again gives it once more and changes nothing.
Where something was at the path nothing is changed at all.  Where nothing was, the
file of the default configuration is added, with the directories above it, and
whatever stood in the tree stays.
-/
theorem loadOrCreate_agrees (h : loadOrCreate tree path = (saved, .ok c)) :
    load tree path = .ok c ∧ load saved path = .ok c ∧
    loadOrCreate saved path = (saved, .ok c) ∧
    (tree.exists? path = true → saved = tree) ∧
    (tree.exists? path = false →
      (∀ other, saved.kind? other =
        if other = path then some (.file (Utf8.encode ({} : Config).render))
        else if other <+: path then some .directory
        else tree.kind? other) ∧
      ∀ other, tree.kind? other = none ∨ saved.kind? other = tree.kind? other) := by
  rcases loadOrCreate_eq_ok_iff.1 h with ⟨hexists, rfl, hload⟩ | ⟨hnew, rfl, hsaved⟩
  · refine ⟨hload, hload, h, fun _ => rfl, fun hnew => ?_⟩
    rw [hexists] at hnew
    contradiction
  · have hload : load saved path = .ok {} := by
      obtain ⟨hc, prepared, -, hwritten⟩ := save_eq_ok_iff.1 hsaved
      exact load_of_get? hc (get?_of_write? hwritten)
    refine ⟨load_of_not_exists hnew, hload,
      loadOrCreate_eq_ok_iff.2 (.inl ⟨exists?_of_save hsaved, rfl, hload⟩), ?_, fun _ =>
        ⟨kind?_of_save hsaved, kept_of_save hsaved hnew⟩⟩
    intro hexists
    rw [hnew] at hexists
    contradiction

/-- A configuration is created beside a file, and one that sets a single key is
loaded as it stands. -/
theorem loadOrCreate_agrees_beside_file :
    let tree : FileTree := .directory [("etc", .directory [
      ("hosts", .file []), ("debug.toml", .file (Utf8.encode "debug = true\n".toList))])]
    (∃ saved, loadOrCreate tree ["etc", "client", "client.toml"] = (saved, .ok {}) ∧
      load saved ["etc", "client", "client.toml"] = .ok {} ∧
      loadOrCreate saved ["etc", "client", "client.toml"] = (saved, .ok {}) ∧
      saved.kind? ["etc", "client"] = some .directory ∧
      saved.kind? ["etc", "hosts"] = some (.file [])) ∧
    loadOrCreate tree ["etc", "debug.toml"] = (tree, .ok { debug := true }) ∧
    load tree ["etc", "debug.toml"] = .ok { debug := true } := by
  intro tree
  have hcreated : loadOrCreate tree ["etc", "client", "client.toml"] = (_, .ok {}) := rfl
  obtain ⟨-, hload, hagain, -, hadded⟩ := loadOrCreate_agrees hcreated
  obtain ⟨hkind, hkept⟩ := hadded rfl
  have htext : ofText? "debug = true\n".toList = some { debug := true } := by
    decide +kernel
  have hloaded : loadOrCreate tree ["etc", "debug.toml"] =
      (tree, .ok { debug := true }) :=
    loadOrCreate_eq_ok_iff.2 (.inl ⟨rfl, rfl, load_of_text rfl htext⟩)
  refine ⟨⟨_, hcreated, hload, hagain, ?_, ?_⟩, hloaded, (loadOrCreate_agrees hloaded).1⟩
  · rw [hkind]
    rfl
  · exact (hkept ["etc", "hosts"]).resolve_left (by decide)

end SearchClient.Config

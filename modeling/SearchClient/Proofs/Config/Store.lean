import SearchClient.Config.Store
import SearchClient.Proofs.Config.Text
import SearchClient.Proofs.FileTree
import SearchClient.Proofs.Text.Utf8

/-!
# Saved configurations

A file that was written is there with its bytes, so a configuration that was
saved is the one that is loaded.
-/

namespace SearchClient

namespace Config

open FileTree

variable {c : Config} {tree saved : FileTree} {path : Path}

theorem load_of_text {text : List Char}
    (hfile : get? path tree = some (.file (Utf8.encode text)))
    (htext : ofText? text = some c) : load tree path = .ok c := by
  rw [load, exists?, read?, hfile]
  simp [htext]

theorem load_of_get? (hc : c.isWritable = true)
    (hfile : get? path tree = some (.file (Utf8.encode c.render))) :
    load tree path = .ok c :=
  load_of_text hfile (ofText?_render hc)

/-- What has to go well for a configuration to be saved. -/
theorem save_eq_ok_iff : c.save tree path = (saved, .ok ()) ↔
    c.isWritable = true ∧ ∃ prepared, tree.makeDirectories? path.dropLast = some prepared ∧
      prepared.write? (Utf8.encode c.render) path = some saved := by
  unfold save
  cases c.isWritable with
  | false => simp
  | true =>
      cases hprepared : tree.makeDirectories? path.dropLast with
      | none => simp
      | some prepared =>
          cases hwritten : prepared.write? (Utf8.encode c.render) path <;> simp [hwritten]

/--
A configuration survives being saved, whatever characters its texts have: where
saving it succeeds, loading from the same path gives the same configuration.  A
timeout that no signed integer holds makes saving fail before anything of the
tree, its directories included, is changed.
-/
theorem save_survives (c : Config) (tree : FileTree) (path : Path) :
    (∀ saved, c.save tree path = (saved, .ok ()) → load saved path = .ok c) ∧
    (0x7FFFFFFFFFFFFFFF < c.transport.connectTimeoutSecs.toNat ∨
        0x7FFFFFFFFFFFFFFF < c.transport.readTimeoutSecs.toNat →
      c.save tree path = (tree, .error .unprintable)) := by
  constructor
  · intro saved hsaved
    obtain ⟨hc, prepared, -, hwritten⟩ := save_eq_ok_iff.1 hsaved
    exact load_of_get? hc (get?_of_write? hwritten)
  · intro hlong
    have hc : c.isWritable = false := by
      simp only [isWritable, Bool.and_eq_false_iff, decide_eq_false_iff_not]
      omega
    rw [save, hc]
    rfl

theorem save_survives_with_quotes :
    let c : Config := {
      endpoint := { scheme := "'\"\"\"'''\\", host := "a\r\nb\x00", port := 0 }
      transport := { connectTimeoutSecs := 9223372036854775807 }
      logging := { format := "''' '", level := "\n\"\"" }
      debug := true }
    let long := { c with transport := { readTimeoutSecs := 9223372036854775808 } }
    ∃ saved, c.save .empty ["etc", "client.toml"] = (saved, .ok ()) ∧
      load saved ["etc", "client.toml"] = .ok c ∧
      long.save .empty ["etc", "client.toml"] = (.empty, .error .unprintable) := by
  intro c long
  have hsaved : c.save .empty ["etc", "client.toml"] = (_, .ok ()) := rfl
  exact ⟨_, hsaved, (save_survives c _ _).1 _ hsaved,
    (save_survives long _ _).2 (.inr (by decide))⟩

end Config

end SearchClient

import Mathlib.Data.List.Infix
import SearchClient.Entries
import SearchClient.FileTree

/-!
# What is added to a file tree

Seen from outside, a tree has a file, a directory or nothing at each path.
Making the directories of a path and writing a file add just these: all other
paths have what they had before.
-/

namespace SearchClient.FileTree

variable {tree made written node : FileTree} {path other : Path}
  {entries : List (String × FileTree)} {name : String} {bytes : List UInt8}

/-- What stands at a path, seen by itself. -/
inductive Kind where
  | file (bytes : List UInt8)
  | directory
  deriving DecidableEq

def kind : FileTree → Kind
  | .file bytes => .file bytes
  | .directory _ => .directory

def kind? (tree : FileTree) (path : Path) : Option Kind := (tree.get? path).map kind

theorem exists?_eq_false_iff : tree.exists? path = false ↔ tree.kind? path = none := by
  simp [exists?, kind?]

theorem get?_eq_file_iff :
    tree.get? path = some (.file bytes) ↔ tree.kind? path = some (.file bytes) := by
  rw [kind?]
  cases tree.get? path with
  | none => simp
  | some node => cases node <;> simp [kind]

theorem kind?_cons (entries : List (String × FileTree)) (name : String) (path : Path) :
    (directory entries).kind? (name :: path) =
      (entries.lookup name).bind fun node => node.kind? path := by
  rw [kind?, get?, entry?]
  cases entries.lookup name <;> rfl

/-! ## One entry -/

theorem setEntry_eq_insert (name : String) (node : FileTree)
    (entries : List (String × FileTree)) :
    setEntry name node entries = Entries.insert entries name node := by
  induction entries with
  | nil => rfl
  | cons entry entries ih =>
      obtain ⟨first, old⟩ := entry
      rw [setEntry, Entries.insert, ih]
      split
      · next h => rw [h]
      · rfl

theorem lookup_setEntry (name other : String) (node : FileTree)
    (entries : List (String × FileTree)) :
    (setEntry name node entries).lookup other =
      if other = name then some node else entries.lookup other := by
  rw [setEntry_eq_insert]
  exact Entries.get?_insert entries name other node

theorem kind?_setEntry_self (name : String) (node : FileTree)
    (entries : List (String × FileTree)) (path : Path) :
    (directory (setEntry name node entries)).kind? (name :: path) = node.kind? path := by
  rw [kind?_cons, lookup_setEntry, if_pos rfl, Option.bind_some]

theorem kind?_setEntry_of_ne {first : String} (h : first ≠ name) (node : FileTree)
    (entries : List (String × FileTree)) (path : Path) :
    (directory (setEntry name node entries)).kind? (first :: path) =
      (directory entries).kind? (first :: path) := by
  rw [kind?_cons, lookup_setEntry, if_neg h, kind?_cons]

/-! ## Directories -/

theorem kind?_of_makeDirectories? (h : makeDirectories? path tree = some made)
    (other : Path) :
    made.kind? other =
      if other <+: path then some .directory else tree.kind? other := by
  induction path generalizing tree made other with
  | nil =>
      cases tree with
      | file => contradiction
      | directory entries =>
          obtain rfl := Option.some.inj h
          cases other with
          | nil => rfl
          | cons => simp
  | cons name path ih =>
      cases tree with
      | file => contradiction
      | directory entries =>
          obtain ⟨node, hnode, rfl⟩ := Option.map_eq_some_iff.1 h
          cases other with
          | nil => rw [if_pos List.nil_prefix]; rfl
          | cons first other =>
              by_cases hfirst : first = name
              · subst hfirst
                rw [kind?_setEntry_self, ih hnode,
                  if_congr (List.cons_prefix_cons.trans (and_iff_right rfl)) rfl rfl,
                  kind?_cons]
                split
                · rfl
                · next hnot =>
                  cases entries.lookup first with
                  | some node => rfl
                  | none =>
                      -- a directory that is new has nothing in it
                      cases other with
                      | nil => exact absurd List.nil_prefix hnot
                      | cons => rfl
              · rw [kind?_setEntry_of_ne hfirst,
                  if_neg fun hfront => hfirst (List.cons_prefix_cons.1 hfront).1]

/-- No directory is made where a file is in the way. -/
theorem makeDirectories?_eq_none (hfront : other <+: path)
    (h : tree.kind? other = some (.file bytes)) :
    makeDirectories? path tree = none := by
  induction other generalizing tree path with
  | nil =>
      cases tree with
      | file => cases path <;> rfl
      | directory => cases h
  | cons name other ih =>
      cases tree with
      | file => contradiction
      | directory entries =>
          obtain ⟨rest, rfl⟩ := hfront
          rw [kind?_cons] at h
          obtain ⟨node, hnode, h⟩ := Option.bind_eq_some_iff.1 h
          rw [List.cons_append, makeDirectories?, hnode, Option.getD_some,
            ih (List.prefix_append other rest) h]
          rfl

/-! ## Files -/

/-- A file is written into an entry in which no directory stands, or further down
into an entry that is there. -/
theorem write?_cons
    (h : write? bytes (name :: path) (directory entries) = some written) :
    ∃ node, written = .directory (setEntry name node entries) ∧
      ((path = [] ∧ node = .file bytes ∧
          ∀ nodes, entries.lookup name ≠ some (.directory nodes)) ∨
        ∃ old, entries.lookup name = some old ∧ write? bytes path old = some node) := by
  cases path with
  | nil =>
      rw [write?] at h
      split at h
      · contradiction
      · next hnot => exact ⟨_, (Option.some.inj h).symm, .inl ⟨rfl, rfl, hnot⟩⟩
  | cons next path =>
      rw [write?] at h
      · split at h
        · next old hold =>
          obtain ⟨node, hnode, rfl⟩ := Option.map_eq_some_iff.1 h
          exact ⟨node, rfl, .inr ⟨old, hold, hnode⟩⟩
        · contradiction
      · simp

theorem kind?_cons_of_not_directory
    (h : ∀ nodes, entries.lookup name ≠ some (.directory nodes)) (first : String)
    (path : Path) : (directory entries).kind? (name :: first :: path) = none := by
  rw [kind?_cons]
  cases hnode : entries.lookup name with
  | none => rfl
  | some node =>
      cases node with
      | file => rfl
      | directory nodes => exact absurd hnode (h nodes)

theorem kind?_of_write? (h : write? bytes path tree = some written) (other : Path) :
    written.kind? other =
      if other = path then some (.file bytes) else tree.kind? other := by
  induction path generalizing tree written other with
  | nil => cases tree <;> contradiction
  | cons name path ih =>
      cases tree with
      | file => contradiction
      | directory entries =>
          obtain ⟨node, rfl, hnode⟩ := write?_cons h
          cases other with
          | nil => rfl
          | cons first other =>
              by_cases hfirst : first = name
              · subst hfirst
                rw [kind?_setEntry_self, if_congr (List.cons_inj_right first) rfl rfl]
                rcases hnode with ⟨rfl, rfl, hnot⟩ | ⟨old, hold, hnode⟩
                · cases other with
                  | nil => rfl
                  | cons second other =>
                      rw [kind?_cons_of_not_directory hnot,
                        if_neg (List.cons_ne_nil second other)]
                      rfl
                · rw [ih hnode, kind?_cons, hold, Option.bind_some]
              · rw [kind?_setEntry_of_ne hfirst,
                  if_neg fun heq => hfirst (List.cons.inj heq).1]

/-- A file that was written is at its path. -/
theorem get?_of_write? (h : write? bytes path tree = some written) :
    written.get? path = some (.file bytes) := by
  rw [get?_eq_file_iff, kind?_of_write? h, if_pos rfl]

end SearchClient.FileTree

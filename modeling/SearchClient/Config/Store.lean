import SearchClient.Config.Text
import SearchClient.FileTree
import SearchClient.Text.Utf8

/-!
# Stored configurations

Loading and saving configurations as files of a tree.  A configuration that is
not there is the default one; saving makes the directories that are missing, but
not before the text is known to be writable.
-/

namespace SearchClient

inductive StoreError where
  | unreadable
  | unwritable
  | malformed
  | unprintable
  deriving DecidableEq

namespace Config

def load (tree : FileTree) (path : FileTree.Path) : Except StoreError Config :=
  if tree.exists? path then
    match (tree.read? path).bind Utf8.decode? with
    | none => .error .unreadable
    | some text =>
      match ofText? text with
      | some config => .ok config
      | none => .error .malformed
  else .ok {}

/-- The tree after saving.  Directories that were made stay when the file itself
cannot be written. -/
def save (c : Config) (tree : FileTree) (path : FileTree.Path) :
    FileTree × Except StoreError Unit :=
  if c.isWritable then
    match tree.makeDirectories? path.dropLast with
    | none => (tree, .error .unwritable)
    | some prepared =>
      match prepared.write? (Utf8.encode c.render) path with
      | none => (prepared, .error .unwritable)
      | some written => (written, .ok ())
  else (tree, .error .unprintable)

def loadOrCreate (tree : FileTree) (path : FileTree.Path) :
    FileTree × Except StoreError Config :=
  if tree.exists? path then (tree, load tree path)
  else
    match save {} tree path with
    | (tree, .ok ()) => (tree, .ok {})
    | (tree, .error e) => (tree, .error e)

end Config

end SearchClient

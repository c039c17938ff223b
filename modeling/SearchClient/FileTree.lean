/-!
# File trees

Files and directories under one root.  A path is a list of names.  Writing a
file needs its directory to be there, and neither writes over a directory nor
into a file.
-/

namespace SearchClient

inductive FileTree where
  | file (bytes : List UInt8)
  | directory (entries : List (String × FileTree))

namespace FileTree

abbrev Path := List String

def empty : FileTree := .directory []

def ofSlashes (text : String) : Path :=
  ((text.splitOn "/").filter fun name => name ≠ "" && name ≠ ".")

def entry? (name : String) : FileTree → Option FileTree
  | .file _ => none
  | .directory entries => entries.lookup name

def setEntry (name : String) (node : FileTree) :
    List (String × FileTree) → List (String × FileTree)
  | [] => [(name, node)]
  | (other, old) :: entries =>
    if other = name then (name, node) :: entries else (other, old) :: setEntry name node entries

/-- What is at a path. -/
def get? : Path → FileTree → Option FileTree
  | [], tree => some tree
  | name :: path, tree => (tree.entry? name).bind (get? path)

def exists? (tree : FileTree) (path : Path) : Bool := (tree.get? path).isSome

def read? (tree : FileTree) (path : Path) : Option (List UInt8) :=
  match tree.get? path with
  | some (.file bytes) => some bytes
  | _ => none

/-- The tree with all directories of a path, unless a file is in the way. -/
def makeDirectories? : Path → FileTree → Option FileTree
  | _, .file _ => none
  | [], .directory entries => some (.directory entries)
  | name :: path, .directory entries =>
    (makeDirectories? path ((entries.lookup name).getD empty)).map fun node =>
      .directory (setEntry name node entries)

/-- The tree with a file at a path whose directory is there. -/
def write? (bytes : List UInt8) : Path → FileTree → Option FileTree
  | _, .file _ => none
  | [], .directory _ => none
  | [name], .directory entries =>
    match entries.lookup name with
    | some (.directory _) => none
    | _ => some (.directory (setEntry name (.file bytes) entries))
  | name :: path, .directory entries =>
    match entries.lookup name with
    | some node => (write? bytes path node).map fun node =>
        .directory (setEntry name node entries)
    | none => none

end FileTree

end SearchClient

import SearchClient.Json.Basic

/-!
# TOML documents

A document is a tree of tables.  How a table came about decides what may still
be added to it: a table under a header may not be given a second header, a table
implied by a longer header may get its own once, and a table made by dotted keys
may grow by dotted keys only.  Inline tables and arrays are closed.
-/

namespace SearchClient.Toml

inductive TableKind where
  | header
  | implied
  | dotted
  deriving DecidableEq

inductive Scalar where
  | string (text : String)
  | int (value : Int)
  | float (value : Binary64)
  | bool (value : Bool)
  | dateTime (text : String)
  deriving DecidableEq

inductive Node where
  | scalar (value : Scalar)
  | array (items : List Node)
  | inline (entries : List (String × Node))
  | table (kind : TableKind) (entries : List (String × Node))
  | tables (items : List (List (String × Node)))

abbrev Table := Entries Node

namespace Table

/-- The last of a list and those before it. -/
def splitLast? {α : Type} (items : List α) : Option (List α × α) :=
  items.getLast?.map fun last => (items.dropLast, last)

/-- Changes the part of the table under a path of headers; of several tables
under one header, the last. -/
def modify? (change : Table → Option Table) : List String → Table → Option Table
  | [], table => change table
  | key :: path, table =>
    match table.get? key with
    | some (.table kind entries) =>
      (modify? change path entries).map fun entries => table.insert key (.table kind entries)
    | some (.tables items) => do
      let (before, last) ← splitLast? items
      let last ← modify? change path last
      pure (table.insert key (.tables (before ++ [last])))
    | some _ => none
    | none =>
      (modify? change path []).map fun entries => table.insert key (.table .implied entries)

/-- Puts an entry under a dotted key.  Tables with a header of their own are
closed to dotted keys, and the table that the entry goes into must be `grows`:
the table the key starts from, or one that dotted keys made. -/
def insertDotted? (key : String) (node : Node) (grows : Bool) :
    List String → Table → Option Table
  | [], table =>
    if grows && (table.get? key).isNone then some (table.insert key node) else none
  | part :: path, table =>
    match table.get? part with
    | some (.table .header _) => none
    | some (.table kind entries) =>
      (insertDotted? key node (kind = .dotted) path entries).map fun entries =>
        table.insert part (.table kind entries)
    | some (.tables items) => do
      let (before, last) ← splitLast? items
      let last ← insertDotted? key node false path last
      pure (table.insert part (.tables (before ++ [last])))
    | some _ => none
    | none =>
      (insertDotted? key node true path []).map fun entries =>
        table.insert part (.table .dotted entries)

def addHeader? (key : String) (table : Table) : Option Table :=
  match table.get? key with
  | none => some (table.insert key (.table .header []))
  | some (.table .implied entries) => some (table.insert key (.table .header entries))
  | some _ => none

def addItem? (key : String) (table : Table) : Option Table :=
  match table.get? key with
  | none => some (table.insert key (.tables [[]]))
  | some (.tables items) => some (table.insert key (.tables (items ++ [[]])))
  | some _ => none

end Table

/-! ## As JSON values -/

def Scalar.toJson : Scalar → Json
  | .string text => .string text
  | .int value =>
    if h : -0x8000000000000000 ≤ value ∧ value < 0x10000000000000000 then
      .number (.int value h)
    else .null
  | .float value => .ofBinary64 value
  | .bool value => .bool value
  | .dateTime text => .object [("datetime", .string text)]

mutual

/-- Tables of every kind are objects, and so is a date, under a key of its own. -/
def Node.toJson : Node → Json
  | .scalar value => value.toJson
  | .array items => .array (Node.itemsToJson items)
  | .inline entries => .object (Node.entriesToJson entries)
  | .table _ entries => .object (Node.entriesToJson entries)
  | .tables items => .array (Node.tablesToJson items)

def Node.itemsToJson : List Node → List Json
  | [] => []
  | item :: items => item.toJson :: Node.itemsToJson items

def Node.entriesToJson : List (String × Node) → List (String × Json)
  | [] => []
  | (key, node) :: entries => (key, node.toJson) :: Node.entriesToJson entries

def Node.tablesToJson : List (List (String × Node)) → List Json
  | [] => []
  | entries :: items => .object (Node.entriesToJson entries) :: Node.tablesToJson items

end

end SearchClient.Toml

import SearchClient.Json.Reader

/-!
# Search responses

What a search reads out of the engine's answer.  The answer is read as it is
written: a known key may not come twice, and what stands under an unknown key
need only follow the grammar.  Records may be given as arrays of their fields,
and every field has a default.
-/

namespace SearchClient

structure Hit where
  id : Json := .null
  score : Json := .null
  source : Entries Json := []
  highlight : Option (Entries Json) := none
  sort : Option Json := none

structure HitPage where
  total : UInt64 := 0
  hits : Option (List Hit) := none

structure SearchResponse where
  took : UInt64 := 0
  page : Option HitPage := none
  aggregations : Option (Entries Json) := none

namespace Json.Tree

def isNull : Tree → Bool
  | .null => true
  | _ => false

def keyed? (fields : List (List Piece × Tree)) : Option (List (String × Tree)) :=
  fields.mapM fun (key, value) => (Piece.text? key).map (·, value)

/-- What stands under a key; `none` inside for an absent key, outside for a
repeated one. -/
def single? (fields : List (String × Tree)) (name : String) : Option (Option Tree) :=
  match fields.filter (·.1 = name) with
  | [] => some none
  | [(_, value)] => some (some value)
  | _ => none

/-- The fields of a record in the order of their names. -/
def fields? (names : List String) : Tree → Option (List (Option Tree))
  | .object fields => do
    let fields ← keyed? fields
    names.mapM (single? fields)
  | .array items =>
    if items.length ≤ names.length then
      some (items.map some ++ List.replicate (names.length - items.length) none)
    else none
  | _ => none

/-- A field that is absent has its default. -/
def orElse {α : Type} (default : α) (read : Tree → Option α) : Option Tree → Option α
  | none => some default
  | some tree => read tree

def orNone {α : Type} (read : Tree → Option α) (tree : Tree) : Option (Option α) :=
  if tree.isNull then some none else (read tree).map some

def word64? : Tree → Option UInt64
  | .number n =>
    match n.number? with
    | some (.int value _) => if 0 ≤ value then some (.ofNat value.toNat) else none
    | _ => none
  | _ => none

def object? (room : Nat) (tree : Tree) : Option (Entries Json) :=
  (tree.toJson? room).bind Json.object?

def list? {α : Type} (read : Tree → Option α) : Tree → Option (List α)
  | .array items => items.mapM read
  | _ => none

end Json.Tree

open Json Json.Tree

/-- Levels that remain inside the given number of arrays and objects. -/
def roomInside (levels : Nat) : Nat := maxDepth - levels

def Hit.ofTree? (tree : Tree) : Option Hit := do
  match ← tree.fields? ["_id", "_score", "_source", "highlight", "sort"] with
  | [id, score, source, highlight, sort] =>
    pure {
      id := ← orElse .null (toJson? (roomInside 4)) id
      score := ← orElse .null (toJson? (roomInside 4)) score
      source := ← orElse [] (object? (roomInside 4)) source
      highlight := ← orElse none (orNone (object? (roomInside 4))) highlight
      sort := ← orElse none (orNone (toJson? (roomInside 4))) sort }
  | _ => none

/-- A bare count, or an object that has one as its `value`. -/
def HitPage.total? (tree : Tree) : Option UInt64 := do
  let _ ← tree.toJson? (roomInside 2)
  match tree with
  | .object fields =>
    let fields ← keyed? fields
    let value ← single? fields "value"
    word64? (← value)
  | tree => word64? tree

def HitPage.ofTree? (tree : Tree) : Option HitPage := do
  match ← tree.fields? ["total", "hits"] with
  | [total, hits] =>
    pure {
      total := ← orElse 0 HitPage.total? total
      hits := ← orElse none (orNone (list? Hit.ofTree?)) hits }
  | _ => none

def SearchResponse.ofTree? (tree : Tree) : Option SearchResponse := do
  match ← tree.fields? ["took", "hits", "aggregations"] with
  | [took, page, aggregations] =>
    pure {
      took := ← orElse 0 word64? took
      page := ← orElse none (orNone HitPage.ofTree?) page
      aggregations := ← orElse none (orNone (object? (roomInside 1))) aggregations }
  | _ => none

def SearchResponse.ofBytes? (bytes : List UInt8) : Option SearchResponse :=
  (Tree.ofBytes? bytes).bind SearchResponse.ofTree?

end SearchClient

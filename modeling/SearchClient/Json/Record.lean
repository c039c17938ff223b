import SearchClient.Json.Decode

/-!
# Decoding records

A record is given as an object or as the array of its fields in their order.
Entries are read in the order of the document, so the first fault in it is the
one reported; after them, the first required field that no entry gave.  Entries
under other keys are left over.  In an array every field that is not required
may be missing at the end, and unless it is ignored, nothing may follow the last
field.
-/

namespace SearchClient

/-- A field of a record that is read into `σ`.  `put` decodes a value and stores
it; a field that is never put keeps its value from the start. -/
structure Field (σ : Type) where
  name : String
  aliases : List String
  isRequired : Bool
  put : Json → σ → Except DecodeError σ

/-- A record type's name, its fields in order, and the value with no field put. -/
structure Shape (σ : Type) where
  name : String
  fields : List (Field σ)
  start : σ

namespace Field

variable {σ α : Type}

def storing (decode : Decoder α) (store : σ → α → σ) (j : Json) (record : σ) :
    Except DecodeError σ :=
  (decode j).map (store record)

def required (name : String) (decode : Decoder α) (store : σ → α → σ) : Field σ :=
  ⟨name, [], true, storing decode store⟩

def defaulted (name : String) (decode : Decoder α) (store : σ → α → σ) : Field σ :=
  ⟨name, [], false, storing decode store⟩

/-- The same field, known by one more name. -/
def orAlso (field : Field σ) (name : String) : Field σ :=
  ⟨field.name, name :: field.aliases, field.isRequired, field.put⟩

def isNamed (field : Field σ) (key : String) : Bool :=
  field.name = key || field.aliases.contains key

end Field

namespace Shape

variable {σ : Type}

/-- How far the entries of an object have been read. -/
structure Progress (σ : Type) where
  record : σ
  seen : List String
  leftOver : List (String × Json)

def take (shape : Shape σ) (progress : Progress σ) (entry : String × Json) :
    Except DecodeError (Progress σ) :=
  match shape.fields.find? (·.isNamed entry.1) with
  | none => .ok { progress with leftOver := progress.leftOver ++ [entry] }
  | some field =>
    if progress.seen.contains field.name then .error (.duplicateField field.name)
    else
      (field.put entry.2 progress.record).map fun record =>
        { progress with record := record, seen := field.name :: progress.seen }

def missing? (shape : Shape σ) (seen : List String) : Option (Field σ) :=
  shape.fields.find? fun field => field.isRequired && !seen.contains field.name

/-- The record, and the entries that are not of its fields. -/
def decodeEntries (shape : Shape σ) (entries : List (String × Json)) :
    Except DecodeError (σ × List (String × Json)) := do
  let progress ← entries.foldlM shape.take ⟨shape.start, [], []⟩
  match shape.missing? progress.seen with
  | some field => .error (.missingField field.name)
  | none => .ok (progress.record, progress.leftOver)

/-- The fields from an array, and the items that remain after the last one. -/
def putItems (shape : Shape σ) (place : Nat) (record : σ) :
    List (Field σ) → List Json → Except DecodeError (σ × List Json)
  | [], items => .ok (record, items)
  | field :: fields, [] =>
    if field.isRequired then
      .error (.wrongLength place (.record shape.name shape.fields.length))
    else putItems shape (place + 1) record fields []
  | field :: fields, item :: items => do
    let record ← field.put item record
    putItems shape (place + 1) record fields items

/-- Items that remain are an error of the given wording, or are ignored. -/
def decodeItems (shape : Shape σ) (surplus : Option ExpectedLength) (items : List Json) :
    Except DecodeError σ := do
  let (record, remaining) ← putItems shape 0 shape.start shape.fields items
  match surplus with
  | some expected =>
    if remaining.isEmpty then .ok record else .error (.wrongLength items.length expected)
  | none => .ok record

def decodeWith (shape : Shape σ) (surplus : Option ExpectedLength) : Decoder σ
  | .object entries => (shape.decodeEntries entries).map Prod.fst
  | .array items => shape.decodeItems surplus items
  | other => other.wrongType (.record shape.name)

def decode (shape : Shape σ) : Decoder σ := shape.decodeWith (some .fewer)

/-- Reads an object whose other entries are items of the record too; it has no
array form. -/
def decodeOpen {α τ : Type} (shape : Shape σ) (others : Decoder α)
    (combine : σ → SortedMap α → τ) : Decoder τ
  | .object entries => do
    let (record, leftOver) ← shape.decodeEntries entries
    let points ← leftOver.mapM (Decode.entry others)
    pure (combine record (.ofList points))
  | other => other.wrongType (.record shape.name)

end Shape

/-! ## Encoding -/

namespace Json

/-- An entry that is left out when the value is absent. -/
def entryIfSome {α : Type} (name : String) (encode : α → Json) :
    Option α → List (String × Json)
  | some a => [(name, encode a)]
  | none => []

/-- An entry that is left out when the list is empty. -/
def entryIfAny {α : Type} (name : String) (encode : List α → Json) :
    List α → List (String × Json)
  | [] => []
  | items => [(name, encode items)]

end Json

end SearchClient

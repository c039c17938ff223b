import SearchClient.Json.DecodeError

/-!
# Decoding JSON values

A decoder takes a value or says why it does not fit.  Numbers are never read
from text and text never from numbers; a double may be written as an integer,
but an integer not as a double.
-/

namespace SearchClient

abbrev Decoder (α : Type) := Json → Except DecodeError α

namespace Json

def found : Json → Found
  | .null => .null
  | .bool value => .bool value
  | .number (.int value _) => .int value
  | .number (.float value _) => .float value
  | .string value => .string value
  | .array _ => .sequence
  | .object _ => .map

def wrongType {α : Type} (value : Json) (expected : Expected) : Except DecodeError α :=
  .error (.wrongType value.found expected)

end Json

namespace Decode

open Json (wrongType)

def value : Decoder Json := .ok

def string : Decoder String
  | .string text => .ok text
  | other => wrongType other .string

def bool : Decoder Bool
  | .bool b => .ok b
  | other => wrongType other .boolean

/-- An integer within bounds. -/
def integer (expected : Expected) (low high : Int) : Decoder Int
  | .number (.int n _) =>
    if low ≤ n ∧ n ≤ high then .ok n else .error (.wrongValue (.int n) expected)
  | other => wrongType other expected

def word64 : Decoder UInt64 := fun j =>
  (integer .word64 0 0xFFFFFFFFFFFFFFFF j).map fun n => .ofNat n.toNat

def size : Decoder UInt64 := fun j =>
  (integer .size 0 0xFFFFFFFFFFFFFFFF j).map fun n => .ofNat n.toNat

def word16 : Decoder UInt16 := fun j =>
  (integer .word16 0 0xFFFF j).map fun n => .ofNat n.toNat

def signed64 : Decoder Int64 := fun j =>
  (integer .signed64 (-0x8000000000000000) 0x7FFFFFFFFFFFFFFF j).map Int64.ofInt

def double : Decoder Binary64
  | .number (.int n _) => .ok (.ofInt n)
  | .number (.float x _) => .ok x
  | other => wrongType other .double

/-- `null` is an absent value. -/
def optional {α : Type} (decode : Decoder α) : Decoder (Option α)
  | .null => .ok none
  | other => (decode other).map some

def list {α : Type} (decode : Decoder α) : Decoder (List α)
  | .array items => items.mapM decode
  | other => wrongType other .sequence

def object : Decoder (Entries Json)
  | .object fields => .ok fields
  | other => wrongType other .map

def entry {α : Type} (decode : Decoder α) : String × Json → Except DecodeError (String × α)
  | (key, value) => (decode value).map fun value => (key, value)

def sortedMap {α : Type} (decode : Decoder α) : Decoder (SortedMap α)
  | .object fields => (fields.mapM (entry decode)).map .ofList
  | other => wrongType other .map

/-! ## Choices -/

/-- A variant's name and how what stands with it is read; `none` when the name
stands alone. -/
abbrev Variant (α : Type) := String × (Option Json → Except DecodeError α)

/-- A variant that carries a value. -/
def carrying {α β : Type} (name : String) (make : α → β) (decode : Decoder α) : Variant β :=
  (name, fun
    | some payload => (decode payload).map make
    | none => .error (.wrongType .bareVariant .variantPayload))

/-- A variant that carries nothing, or `null`. -/
def bare {α : Type} (name : String) (a : α) : Variant α :=
  (name, fun
    | none => .ok a
    | some .null => .ok a
    | some other => wrongType other .nothing)

def pick {α : Type} (variants : List (Variant α)) (name : String) (payload : Option Json) :
    Except DecodeError α :=
  match variants.lookup name with
  | some read => read payload
  | none => .error (.unknownVariant name (variants.map Prod.fst))

/-- A variant's name, alone or as the only key of an object. -/
def variant {α : Type} (variants : List (Variant α)) : Decoder α
  | .string name => pick variants name none
  | .object [(name, payload)] => pick variants name (some payload)
  | .object _ => .error (.wrongValue .map .singleEntry)
  | other => wrongType other .choice

/-- The first alternative that fits. -/
def firstOf {α : Type} (choice : String) (alternatives : List (Decoder α)) : Decoder α := fun j =>
  match alternatives.findSome? fun decode => (decode j).toOption with
  | some a => .ok a
  | none => .error (.noVariant choice)

end Decode

end SearchClient

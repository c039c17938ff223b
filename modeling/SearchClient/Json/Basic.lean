import SearchClient.Entries
import SearchClient.Number.Shortest

/-!
# JSON values

A number is a whole number of 64 bits, signed or unsigned, or a finite double.
The entries of an object keep their order.  `collapse` leaves one entry for each
key, with the key's first place and its last value; `WellFormed` values, which
reading a text yields, have no more than that to begin with.
-/

namespace SearchClient

inductive Number where
  | int (value : Int) (inRange : -0x8000000000000000 ≤ value ∧ value < 0x10000000000000000)
  | float (value : Binary64) (finite : value.isFinite = true)
  deriving DecidableEq

inductive Json where
  | null
  | bool (value : Bool)
  | number (value : Number)
  | string (value : String)
  | array (items : List Json)
  | object (fields : List (String × Json))

instance : Inhabited Json := ⟨.null⟩

namespace Number

def ofUInt64 (n : UInt64) : Number :=
  .int n.toNat ⟨by omega, by have := n.toNat_lt; omega⟩

def ofInt64 (n : Int64) : Number :=
  .int n.toInt ⟨by have := Int64.le_toInt n; omega, by have := Int64.toInt_lt n; omega⟩

end Number

namespace Json

def ofUInt64 (n : UInt64) : Json := .number (.ofUInt64 n)

def ofInt64 (n : Int64) : Json := .number (.ofInt64 n)

/-- JSON has no spelling for infinities and NaN, which become `null`. -/
def ofBinary64 (x : Binary64) : Json :=
  if h : x.isFinite = true then .number (.float x h) else .null

def strings (items : List String) : Json := .array (items.map .string)

/-- An absent value is `null`. -/
def orNull {α : Type} (encode : α → Json) : Option α → Json
  | some value => encode value
  | none => .null

def isNull : Json → Bool
  | .null => true
  | _ => false

def array? : Json → Option (List Json)
  | .array items => some items
  | _ => none

def object? : Json → Option (Entries Json)
  | .object fields => some fields
  | _ => none

/-- The value under a key of an object. -/
def field? (value : Json) (key : String) : Option Json :=
  value.object?.bind (·.get? key)

/-- The item at a place of an array. -/
def item? (value : Json) (i : Nat) : Option Json := value.array?.bind (·[i]?)

/-! ## Depth -/

mutual

/-- One for a scalar, and one more for each array or object around it. -/
def depth : Json → Nat
  | .array items => depthItems items + 1
  | .object fields => depthFields fields + 1
  | _ => 1

def depthItems : List Json → Nat
  | [] => 0
  | item :: items => max item.depth (depthItems items)

def depthFields : List (String × Json) → Nat
  | [] => 0
  | (_, value) :: fields => max value.depth (depthFields fields)

end

/-! ## Repeated keys -/

mutual

def collapse : Json → Json
  | .array items => .array (collapseItems items)
  | .object fields => .object (Entries.ofList (collapseFields fields))
  | value => value

def collapseItems : List Json → List Json
  | [] => []
  | item :: items => item.collapse :: collapseItems items

def collapseFields : List (String × Json) → List (String × Json)
  | [] => []
  | (key, value) :: fields => (key, value.collapse) :: collapseFields fields

end

mutual

/-- No object in the value has a key twice. -/
def WellFormed : Json → Prop
  | .array items => WellFormedItems items
  | .object fields => (fields.map Prod.fst).Nodup ∧ WellFormedFields fields
  | _ => True

def WellFormedItems : List Json → Prop
  | [] => True
  | item :: items => item.WellFormed ∧ WellFormedItems items

def WellFormedFields : List (String × Json) → Prop
  | [] => True
  | (_, value) :: fields => value.WellFormed ∧ WellFormedFields fields

end

mutual

theorem collapse_of_wellFormed : (value : Json) → value.WellFormed → value.collapse = value
  | .null, _ => rfl
  | .bool _, _ => rfl
  | .number _, _ => rfl
  | .string _, _ => rfl
  | .array items, h => by
    rw [collapse, collapseItems_of_wellFormed items (by simpa [WellFormed] using h)]
  | .object fields, h => by
    rw [WellFormed] at h
    rw [collapse, collapseFields_of_wellFormed fields h.2, Entries.ofList_of_nodup fields h.1]

theorem collapseItems_of_wellFormed :
    (items : List Json) → WellFormedItems items → collapseItems items = items
  | [], _ => rfl
  | item :: items, h => by
    rw [WellFormedItems] at h
    rw [collapseItems, collapse_of_wellFormed item h.1, collapseItems_of_wellFormed items h.2]

theorem collapseFields_of_wellFormed :
    (fields : List (String × Json)) → WellFormedFields fields → collapseFields fields = fields
  | [], _ => rfl
  | (key, value) :: fields, h => by
    rw [WellFormedFields] at h
    rw [collapseFields, collapse_of_wellFormed value h.1, collapseFields_of_wellFormed fields h.2]

end

end Json

end SearchClient

import SearchClient.Json.Basic
import SearchClient.Text.Quoted

/-!
# Decoding errors

Why a JSON value does not fit the type it is read as, and the wording of each
cause.
-/

namespace SearchClient

/-- What a decoder met. -/
inductive Found where
  | null
  | bool (value : Bool)
  | int (value : Int)
  | float (value : Binary64)
  | string (value : String)
  | sequence
  | map
  | bareVariant
  deriving DecidableEq

/-- What a decoder asked for. -/
inductive Expected where
  | string
  | boolean
  | word16
  | word64
  | signed64
  | size
  | double
  | sequence
  | map
  | record (name : String)
  | choice
  | singleEntry
  | nothing
  | variantPayload
  deriving DecidableEq

/-- How many items a decoder asked for. -/
inductive ExpectedLength where
  | record (name : String) (fields : Nat)
  | fewer
  | exactly (count : Nat)
  deriving DecidableEq

inductive DecodeError where
  | wrongType (found : Found) (expected : Expected)
  | wrongValue (found : Found) (expected : Expected)
  | wrongLength (length : Nat) (expected : ExpectedLength)
  | missingField (name : String)
  | duplicateField (name : String)
  | unknownVariant (name : String) (known : List String)
  | noVariant (choice : String)
  deriving DecidableEq

namespace DecodeError

def inBackticks (text : String) : String := "\x60" ++ text ++ "\x60"

def describeFound : Found → String
  | .null => "null"
  | .bool value => "boolean " ++ inBackticks (if value then "true" else "false")
  | .int value => "integer " ++ inBackticks (toString value)
  | .float value => "floating point " ++ inBackticks value.numeral
  | .string value => "string " ++ Text.quoted value
  | .sequence => "sequence"
  | .map => "map"
  | .bareVariant => "unit variant"

def describeExpected : Expected → String
  | .string => "a string"
  | .boolean => "a boolean"
  | .word16 => "u16"
  | .word64 => "u64"
  | .signed64 => "i64"
  | .size => "usize"
  | .double => "f64"
  | .sequence => "a sequence"
  | .map => "a map"
  | .record name => "struct " ++ name
  | .choice => "string or map"
  | .singleEntry => "map with a single key"
  | .nothing => "unit"
  | .variantPayload => "newtype variant"

def countOf (count : Nat) : String :=
  Nat.repr count ++ (if count = 1 then " element" else " elements")

def describeLength : ExpectedLength → String
  | .record name fields => "struct " ++ name ++ " with " ++ countOf fields
  | .fewer => "fewer elements in array"
  | .exactly count => countOf count ++ " in sequence"

def message : DecodeError → String
  | .wrongType found expected =>
    "invalid type: " ++ describeFound found ++ ", expected " ++ describeExpected expected
  | .wrongValue found expected =>
    "invalid value: " ++ describeFound found ++ ", expected " ++ describeExpected expected
  | .wrongLength length expected =>
    "invalid length " ++ Nat.repr length ++ ", expected " ++ describeLength expected
  | .missingField name => "missing field " ++ inBackticks name
  | .duplicateField name => "duplicate field " ++ inBackticks name
  | .unknownVariant name known =>
    "unknown variant " ++ inBackticks name ++ ", expected one of " ++
      ", ".intercalate (known.map inBackticks)
  | .noVariant choice => "data did not match any variant of untagged enum " ++ choice

end DecodeError

end SearchClient

import SearchClient.Json.Decode
import SearchClient.Text.Blank
import SearchClient.Text.Lowercase

/-!
# Filter operators

An operator is written as a token, in any case and with blanks around it.  Any
other token is kept as it was given; it is no error before the filter it stands
in is compiled.
-/

namespace SearchClient

inductive FilterOp where
  | between
  | notBetween
  | greater
  | less
  | equal
  | notEqual
  | oneOf
  | noneOf
  | unsupported (token : String)
  deriving DecidableEq

namespace FilterOp

def parse (token : String) : FilterOp :=
  match Text.lowercase (Text.trim token) with
  | "between" => .between
  | "not_between" => .notBetween
  | ">" => .greater
  | "<" => .less
  | "=" => .equal
  | "!=" => .notEqual
  | "in" => .oneOf
  | "not in" => .noneOf
  | "not_in" => .noneOf
  | _ => .unsupported token

def token : FilterOp → String
  | .between => "between"
  | .notBetween => "not_between"
  | .greater => ">"
  | .less => "<"
  | .equal => "="
  | .notEqual => "!="
  | .oneOf => "in"
  | .noneOf => "not in"
  | .unsupported token => token

def decode : Decoder FilterOp := fun j => (Decode.string j).map parse

def encode (op : FilterOp) : Json := .string op.token

end FilterOp

end SearchClient

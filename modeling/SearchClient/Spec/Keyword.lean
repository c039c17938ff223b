import SearchClient.Json.Decode

/-!
# Keywords

What a caller searches for: one text, or a list of them.
-/

namespace SearchClient

inductive Keyword where
  | one (term : String)
  | many (terms : List String)
  deriving DecidableEq

namespace Keyword

def terms : Keyword → List String
  | .one term => [term]
  | .many terms => terms

def count (keyword : Keyword) : Nat := keyword.terms.length

def decode : Decoder Keyword :=
  Decode.firstOf "Keyword" [
    fun j => (Decode.string j).map .one,
    fun j => (Decode.list Decode.string j).map .many]

def encode : Keyword → Json
  | .one term => .string term
  | .many terms => .strings terms

end Keyword

end SearchClient

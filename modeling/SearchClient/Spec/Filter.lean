import SearchClient.Json.Record
import SearchClient.Spec.FilterOp

/-!
# Filter predicates

A predicate compares one field with a value.  With `termQuery` an equality is a
full-text clause instead, of the kind that `matchType` names.
-/

namespace SearchClient

structure FilterPredicate where
  field : String
  operator : FilterOp
  value : Json
  termQuery : Bool := false
  matchType : Option String := none

namespace FilterPredicate

def fullText (field : String) (value : Json) (matchType : String) : FilterPredicate :=
  ⟨field, .equal, value, true, some matchType⟩

def shape : Shape FilterPredicate where
  name := "FilterPredicate"
  start := ⟨"", .equal, .null, false, none⟩
  fields := [
    .required "field" Decode.string fun p x => { p with field := x },
    (Field.required "operator" FilterOp.decode fun p x => { p with operator := x }).orAlso "type",
    .defaulted "value" Decode.value fun p x => { p with value := x },
    .defaulted "termQuery" Decode.bool fun p x => { p with termQuery := x },
    .defaulted "match_type" (Decode.optional Decode.string) fun p x => { p with matchType := x }]

def decode : Decoder FilterPredicate := shape.decode

def encode (p : FilterPredicate) : Json :=
  .object [
    ("field", .string p.field),
    ("operator", p.operator.encode),
    ("value", p.value),
    ("termQuery", .bool p.termQuery),
    ("match_type", .orNull .string p.matchType)]

end FilterPredicate

end SearchClient

import SearchClient.Json.Record
import SearchClient.Spec.FilterOp

/-!
# Score rules

A rule of a scored search: documents that compare with `value` as the operator
says gain `weight`.
-/

namespace SearchClient

structure ScoreRule where
  field : Option String := none
  operator : Option FilterOp := none
  value : Option Json := none
  weight : Option Binary64 := none

namespace ScoreRule

def shape : Shape ScoreRule where
  name := "ScoreRule"
  start := {}
  fields := [
    .defaulted "field" (Decode.optional Decode.string) fun r x => { r with field := x },
    (Field.defaulted "operator" (Decode.optional FilterOp.decode) fun r x =>
      { r with operator := x }).orAlso "type",
    .defaulted "value" (Decode.optional Decode.value) fun r x => { r with value := x },
    .defaulted "weight" (Decode.optional Decode.double) fun r x => { r with weight := x }]

def decode : Decoder ScoreRule := shape.decode

def encode (r : ScoreRule) : Json :=
  .object [
    ("field", .orNull .string r.field),
    ("operator", .orNull FilterOp.encode r.operator),
    ("value", .orNull id r.value),
    ("weight", .orNull .ofBinary64 r.weight)]

end ScoreRule

end SearchClient

import SearchClient.Json.Record

/-!
# Group columns

A column whose values the hits are grouped by, and how its groups are ordered.
-/

namespace SearchClient

structure GroupColumn where
  column : String
  orderField : Option String := none
  direction : Option String := none
  deriving DecidableEq

namespace GroupColumn

def shape : Shape GroupColumn where
  name := "AggColumn"
  start := ⟨"", none, none⟩
  fields := [
    .required "aggColumns" Decode.string fun c x => { c with column := x },
    .defaulted "groupOrderField" (Decode.optional Decode.string) fun c x =>
      { c with orderField := x },
    .defaulted "direction" (Decode.optional Decode.string) fun c x => { c with direction := x }]

def decode : Decoder GroupColumn := shape.decode

def encode (c : GroupColumn) : Json :=
  .object [
    ("aggColumns", .string c.column),
    ("groupOrderField", .orNull .string c.orderField),
    ("direction", .orNull .string c.direction)]

end GroupColumn

end SearchClient

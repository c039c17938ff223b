import SearchClient.Json.Record

/-!
# Sort directives

A directive sorts by a stored field, by a script, or by the distance from a
point.  The order of a list of directives is the order of tie-breaking.
-/

namespace SearchClient

def ascending : String := "asc"

structure FieldDirective where
  field : String
  order : String := ascending
  deriving DecidableEq

structure ScriptDirective where
  script : Option String := none
  order : Option String := none
  params : Option (Entries Json) := none

structure DistanceDirective where
  attr : Option String := none
  lat : Option Binary64 := none
  lon : Option Binary64 := none
  unit : Option String := none
  order : Option String := none
  deriving DecidableEq

inductive SortDirective where
  | field (directive : FieldDirective)
  | script (directive : ScriptDirective)
  | distance (directive : DistanceDirective)

namespace FieldDirective

def shape : Shape FieldDirective where
  name := "PublicSort"
  start := ⟨"", ascending⟩
  fields := [
    .required "sortField" Decode.string fun s x => { s with field := x },
    .defaulted "order" Decode.string fun s x => { s with order := x }]

def encode (s : FieldDirective) : Json :=
  .object [("sortField", .string s.field), ("order", .string s.order)]

end FieldDirective

namespace ScriptDirective

def shape : Shape ScriptDirective where
  name := "DynamicSort"
  start := {}
  fields := [
    .defaulted "script" (Decode.optional Decode.string) fun s x => { s with script := x },
    .defaulted "order" (Decode.optional Decode.string) fun s x => { s with order := x },
    .defaulted "params" (Decode.optional Decode.object) fun s x => { s with params := x }]

def encode (s : ScriptDirective) : Json :=
  .object [
    ("script", .orNull .string s.script),
    ("order", .orNull .string s.order),
    ("params", .orNull .object s.params)]

end ScriptDirective

namespace DistanceDirective

def shape : Shape DistanceDirective where
  name := "GeoSort"
  start := {}
  fields := [
    .defaulted "attr" (Decode.optional Decode.string) fun s x => { s with attr := x },
    .defaulted "lat" (Decode.optional Decode.double) fun s x => { s with lat := x },
    .defaulted "lon" (Decode.optional Decode.double) fun s x => { s with lon := x },
    .defaulted "unit" (Decode.optional Decode.string) fun s x => { s with unit := x },
    .defaulted "sort" (Decode.optional Decode.string) fun s x => { s with order := x }]

def encode (s : DistanceDirective) : Json :=
  .object [
    ("attr", .orNull .string s.attr),
    ("lat", .orNull .ofBinary64 s.lat),
    ("lon", .orNull .ofBinary64 s.lon),
    ("unit", .orNull .string s.unit),
    ("sort", .orNull .string s.order)]

end DistanceDirective

namespace SortDirective

def ofField (field order : String) : SortDirective := .field ⟨field, order⟩

def variants : List (Decode.Variant SortDirective) := [
  Decode.carrying "public" .field FieldDirective.shape.decode,
  Decode.carrying "dynamic" .script ScriptDirective.shape.decode,
  Decode.carrying "geo" .distance DistanceDirective.shape.decode]

def decode : Decoder SortDirective := Decode.variant variants

def encode : SortDirective → Json
  | .field s => .object [("public", s.encode)]
  | .script s => .object [("dynamic", s.encode)]
  | .distance s => .object [("geo", s.encode)]

end SortDirective

end SearchClient

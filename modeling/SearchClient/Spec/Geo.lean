import SearchClient.Json.Record
import SearchClient.Text.Blank

/-!
# Geo constraints

A constraint is a radius around a point, or with `needBox` a rectangle given by
two of its corners.  A distance is a number or a text such as `5`.
-/

namespace SearchClient

inductive Distance where
  | number (value : Binary64)
  | text (value : String)
  deriving DecidableEq

namespace Distance

/-- A number in positional notation, a text without the blanks around it. -/
def render : Distance → String
  | .number value => value.plain
  | .text value => Text.trim value

def decode : Decoder Distance :=
  Decode.firstOf "Distance" [
    fun j => (Decode.double j).map .number,
    fun j => (Decode.string j).map .text]

def encode : Distance → Json
  | .number value => .ofBinary64 value
  | .text value => .string value

end Distance

structure GeoParameter where
  attr : Option String := none
  lat : Option Binary64 := none
  lon : Option Binary64 := none
  distance : Option Distance := none
  unit : Option String := none
  needBox : Bool := false
  leftTopLat : Option Binary64 := none
  leftTopLon : Option Binary64 := none
  rightBottomLat : Option Binary64 := none
  rightBottomLon : Option Binary64 := none

namespace GeoParameter

def radius (attr : String) (lat lon distance : Binary64) (unit : String) : GeoParameter :=
  { attr := some attr, lat := some lat, lon := some lon, distance := some (.number distance),
    unit := some unit }

def boundingBox (attr : String) (topLeft bottomRight : Binary64 × Binary64) : GeoParameter :=
  { attr := some attr, needBox := true,
    leftTopLat := some topLeft.1, leftTopLon := some topLeft.2,
    rightBottomLat := some bottomRight.1, rightBottomLon := some bottomRight.2 }

def shape : Shape GeoParameter where
  name := "GeoParameter"
  start := {}
  fields := [
    .defaulted "attr" (Decode.optional Decode.string) fun g x => { g with attr := x },
    .defaulted "lat" (Decode.optional Decode.double) fun g x => { g with lat := x },
    .defaulted "lon" (Decode.optional Decode.double) fun g x => { g with lon := x },
    .defaulted "distance" (Decode.optional Distance.decode) fun g x => { g with distance := x },
    .defaulted "unit" (Decode.optional Decode.string) fun g x => { g with unit := x },
    .defaulted "needBox" Decode.bool fun g x => { g with needBox := x },
    .defaulted "leftTopLat" (Decode.optional Decode.double) fun g x => { g with leftTopLat := x },
    .defaulted "leftTopLon" (Decode.optional Decode.double) fun g x => { g with leftTopLon := x },
    .defaulted "rightBottomLat" (Decode.optional Decode.double) fun g x =>
      { g with rightBottomLat := x },
    .defaulted "rightBottomLon" (Decode.optional Decode.double) fun g x =>
      { g with rightBottomLon := x }]

def decode : Decoder GeoParameter := shape.decode

def encode (g : GeoParameter) : Json :=
  .object [
    ("attr", .orNull .string g.attr),
    ("lat", .orNull .ofBinary64 g.lat),
    ("lon", .orNull .ofBinary64 g.lon),
    ("distance", .orNull Distance.encode g.distance),
    ("unit", .orNull .string g.unit),
    ("needBox", .bool g.needBox),
    ("leftTopLat", .orNull .ofBinary64 g.leftTopLat),
    ("leftTopLon", .orNull .ofBinary64 g.leftTopLon),
    ("rightBottomLat", .orNull .ofBinary64 g.rightBottomLat),
    ("rightBottomLon", .orNull .ofBinary64 g.rightBottomLon)]

end GeoParameter

end SearchClient

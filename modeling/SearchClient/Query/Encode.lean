import SearchClient.Json.Record
import SearchClient.Query.Basic

/-!
# Queries as JSON

Each clause is an object whose only key names its kind.  Entries that are unset,
and empty lists of clauses, are left out.  A field name may coincide with a key
of its own clause; the object then has that key twice.
-/

namespace SearchClient

open Json (entryIfSome entryIfAny)

namespace GeoPoint

def encode (p : GeoPoint) : Json :=
  .object [("lat", .ofBinary64 p.lat), ("lon", .ofBinary64 p.lon)]

end GeoPoint

def SortedMap.encodeEntries {α : Type} (encode : α → Json) (m : SortedMap α) :
    List (String × Json) :=
  m.toList.map fun (key, value) => (key, encode value)

def SortedMap.encode {α : Type} (encode : α → Json) (m : SortedMap α) : Json :=
  .object (m.encodeEntries encode)

def RangeBounds.encode (b : RangeBounds) : Json :=
  .object (entryIfSome "gt" id b.greater ++ entryIfSome "lt" id b.less)

def BoundingBox.encode (b : BoundingBox) : Json :=
  .object [("top_left", b.topLeft.encode), ("bottom_right", b.bottomRight.encode)]

def MultiMatch.encode (m : MultiMatch) : Json :=
  .object ([("query", .string m.query)] ++ entryIfSome "type" .string m.matchType ++
    [("fields", .strings m.fields)])

def GeoDistance.encode (g : GeoDistance) : Json :=
  .object (("distance", .string g.distance) :: g.point.encodeEntries GeoPoint.encode)

def MatchKind.name : MatchKind → String
  | .words => "match"
  | .phrase => "match_phrase"
  | .phrasePrefix => "match_phrase_prefix"
  | .boolPrefix => "match_bool_prefix"

namespace Query

mutual

def encode : Query → Json
  | .bool must should mustNot minimum =>
    .object [("bool", .object (
      entryIfAny "must" .array (encodeAll must) ++
      entryIfAny "should" .array (encodeAll should) ++
      entryIfAny "must_not" .array (encodeAll mustNot) ++
      entryIfSome "minimum_should_match" .ofInt64 minimum))]
  | .term values => .object [("term", values.encode id)]
  | .range bounds => .object [("range", bounds.encode RangeBounds.encode)]
  | .fullText kind values => .object [(kind.name, values.encode id)]
  | .multiMatch clause => .object [("multi_match", clause.encode)]
  | .geoDistance clause => .object [("geo_distance", clause.encode)]
  | .geoBoundingBox boxes => .object [("geo_bounding_box", boxes.encode BoundingBox.encode)]
  | .filtered query filter =>
    .object [("filtered", .object (
      entryIfSome "query" id (encodeOption query) ++
      entryIfSome "filter" id (encodeOption filter)))]
  | .functionScore query filter functions scoreMode =>
    .object [("function_score", .object (
      entryIfSome "query" id (encodeOption query) ++
      entryIfSome "filter" id (encodeOption filter) ++
      [("functions", .array (encodeFunctions functions))] ++
      entryIfSome "score_mode" .string scoreMode))]

def encodeAll : List Query → List Json
  | [] => []
  | q :: qs => q.encode :: encodeAll qs

def encodeOption : Option Query → Option Json
  | none => none
  | some q => some q.encode

def encodeFunctions : List (Binary64 × Query) → List Json
  | [] => []
  | (weight, filter) :: rest =>
    .object [("weight", .ofBinary64 weight), ("filter", filter.encode)] :: encodeFunctions rest

end

end Query

def BoolQuery.encode (b : BoolQuery) : Json :=
  .object (
    entryIfAny "must" .array (Query.encodeAll b.must) ++
    entryIfAny "should" .array (Query.encodeAll b.should) ++
    entryIfAny "must_not" .array (Query.encodeAll b.mustNot) ++
    entryIfSome "minimum_should_match" .ofInt64 b.minimum)

/-! ## Search bodies -/

def Highlight.encode (h : Highlight) : Json :=
  .object [("pre_tags", .strings h.preTags), ("post_tags", .strings h.postTags),
    ("fields", .object h.fields)]

def FieldSort.encode (s : FieldSort) : Json :=
  .object [("order", .string s.order), ("ignore_unmapped", .bool s.ignoreUnmapped)]

def Script.encode (s : Script) : Json :=
  .object ([("inline", .string s.inline)] ++ entryIfSome "params" .object s.params)

def ScriptSort.encode (s : ScriptSort) : Json :=
  .object [("type", .string s.sortType), ("script", s.script.encode), ("order", .string s.order)]

def GeoDistanceSort.encode (s : GeoDistanceSort) : Json :=
  .object ([("order", .string s.order), ("unit", .string s.unit)] ++
    s.point.encodeEntries GeoPoint.encode ++
    [("distance_type", .string s.distanceType), ("mode", .string s.mode)])

def SortClause.encode : SortClause → Json
  | .script clause => .object [("_script", clause.encode)]
  | .geoDistance clause => .object [("_geo_distance", clause.encode)]
  | .field clauses => clauses.encode FieldSort.encode

def Aggregation.encode (a : Aggregation) : Json :=
  .object [("terms", .object [
    ("field", .string a.field),
    ("order", a.order.encode .string),
    ("size", .ofUInt64 a.size)])]

def SearchBody.encode (b : SearchBody) : Json :=
  .object (
    entryIfSome "query" Query.encode b.query ++
    entryIfSome "highlight" Highlight.encode b.highlight ++
    entryIfSome "aggs" (SortedMap.encode Aggregation.encode) b.aggregations ++
    entryIfSome "from" .ofUInt64 b.offset ++
    entryIfAny "sort" (fun clauses => .array (clauses.map SortClause.encode)) b.sort ++
    entryIfSome "size" .ofUInt64 b.size ++
    entryIfSome "_source" .strings b.projection)

end SearchClient

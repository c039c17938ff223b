import SearchClient.Json.Record
import SearchClient.Query.Encode

/-!
# Queries from JSON

The inverse of encoding, open to more spellings: lists and unset entries may be
written out, records may be arrays, and `null` stands for an unset entry.  A
query is never nested more deeply than the value that it is read from, which
bounds the recursion.
-/

namespace SearchClient

namespace GeoPoint

def shape : Shape GeoPoint where
  name := "GeoPoint"
  start := ⟨default, default⟩
  fields := [
    .required "lat" Decode.double fun p x => { p with lat := x },
    .required "lon" Decode.double fun p x => { p with lon := x }]

def decode : Decoder GeoPoint := shape.decode

/-- A point that is read after the record around it. -/
def decodeHeld : Decoder GeoPoint := shape.decodeWith (some (.exactly 2))

end GeoPoint

namespace RangeBounds

def shape : Shape RangeBounds where
  name := "RangeParams"
  start := {}
  fields := [
    .defaulted "gt" (Decode.optional Decode.value) fun b x => { b with greater := x },
    .defaulted "lt" (Decode.optional Decode.value) fun b x => { b with less := x }]

def decode : Decoder RangeBounds := shape.decode

end RangeBounds

namespace BoundingBox

def shape : Shape BoundingBox where
  name := "BoundingBox"
  start := ⟨⟨default, default⟩, ⟨default, default⟩⟩
  fields := [
    .required "top_left" GeoPoint.decode fun b x => { b with topLeft := x },
    .required "bottom_right" GeoPoint.decode fun b x => { b with bottomRight := x }]

def decode : Decoder BoundingBox := shape.decode

end BoundingBox

namespace MultiMatch

def shape : Shape MultiMatch where
  name := "MultiMatchQuery"
  start := ⟨"", none, []⟩
  fields := [
    .required "query" Decode.string fun m x => { m with query := x },
    .defaulted "type" (Decode.optional Decode.string) fun m x => { m with matchType := x },
    .required "fields" (Decode.list Decode.string) fun m x => { m with fields := x }]

def decode : Decoder MultiMatch := shape.decode

end MultiMatch

namespace GeoDistance

def shape : Shape String where
  name := "GeoDistanceQuery"
  start := ""
  fields := [.required "distance" Decode.string fun _ x => x]

def decode : Decoder GeoDistance := shape.decodeOpen GeoPoint.decodeHeld .mk

end GeoDistance

namespace BoolQuery

def shape (inner : Decoder Query) : Shape BoolQuery where
  name := "BoolQuery"
  start := {}
  fields := [
    .defaulted "must" (Decode.list inner) fun b x => { b with must := x },
    .defaulted "should" (Decode.list inner) fun b x => { b with should := x },
    .defaulted "must_not" (Decode.list inner) fun b x => { b with mustNot := x },
    .defaulted "minimum_should_match" (Decode.optional Decode.signed64) fun b x =>
      { b with minimum := x }]

end BoolQuery

/-- The parts of a `filtered` clause. -/
structure FilteredParts where
  query : Option Query := none
  filter : Option Query := none

namespace FilteredParts

def shape (inner : Decoder Query) : Shape FilteredParts where
  name := "FilteredQuery"
  start := {}
  fields := [
    .defaulted "query" (Decode.optional inner) fun p x => { p with query := x },
    .defaulted "filter" (Decode.optional inner) fun p x => { p with filter := x }]

def toQuery (p : FilteredParts) : Query := .filtered p.query p.filter

end FilteredParts

/-- A document's score function: a weight for what a filter accepts. -/
def scoreFunctionShape (inner : Decoder Query) : Shape (Binary64 × Query) where
  name := "ScoreFunction"
  start := (default, default)
  fields := [
    .required "weight" Decode.double fun f x => (x, f.2),
    .required "filter" inner fun f x => (f.1, x)]

/-- The parts of a `function_score` clause. -/
structure FunctionScoreParts where
  query : Option Query := none
  filter : Option Query := none
  functions : List (Binary64 × Query) := []
  scoreMode : Option String := none

namespace FunctionScoreParts

def shape (inner : Decoder Query) : Shape FunctionScoreParts where
  name := "FunctionScoreQuery"
  start := {}
  fields := [
    .defaulted "query" (Decode.optional inner) fun p x => { p with query := x },
    .defaulted "filter" (Decode.optional inner) fun p x => { p with filter := x },
    .required "functions" (Decode.list (scoreFunctionShape inner).decode) fun p x =>
      { p with functions := x },
    .defaulted "score_mode" (Decode.optional Decode.string) fun p x => { p with scoreMode := x }]

def toQuery (p : FunctionScoreParts) : Query :=
  .functionScore p.query p.filter p.functions p.scoreMode

end FunctionScoreParts

namespace Query

def fullTextVariant (kind : MatchKind) : Decode.Variant Query :=
  Decode.carrying kind.name (.fullText kind) (Decode.sortedMap Decode.value)

def variants (inner : Decoder Query) : List (Decode.Variant Query) := [
  Decode.carrying "bool" BoolQuery.toQuery (BoolQuery.shape inner).decode,
  Decode.carrying "term" .term (Decode.sortedMap Decode.value),
  Decode.carrying "range" .range (Decode.sortedMap RangeBounds.decode),
  fullTextVariant .words,
  fullTextVariant .phrase,
  fullTextVariant .phrasePrefix,
  fullTextVariant .boolPrefix,
  Decode.carrying "multi_match" .multiMatch MultiMatch.decode,
  Decode.carrying "geo_distance" .geoDistance GeoDistance.decode,
  Decode.carrying "geo_bounding_box" .geoBoundingBox (Decode.sortedMap BoundingBox.decode),
  Decode.carrying "filtered" FilteredParts.toQuery (FilteredParts.shape inner).decode,
  Decode.carrying "function_score" FunctionScoreParts.toQuery
    (FunctionScoreParts.shape inner).decode]

/-- Reads a query with at most `levels` queries inside each other. -/
def decodeWithin : Nat → Decoder Query
  | 0 => fun j => j.wrongType .choice
  | levels + 1 => Decode.variant (variants (decodeWithin levels))

def decode : Decoder Query := fun j => decodeWithin j.depth j

end Query

/-! ## Search bodies -/

namespace Highlight

def shape : Shape Highlight where
  name := "Highlight"
  start := ⟨[], [], []⟩
  fields := [
    .required "pre_tags" (Decode.list Decode.string) fun h x => { h with preTags := x },
    .required "post_tags" (Decode.list Decode.string) fun h x => { h with postTags := x },
    .required "fields" Decode.object fun h x => { h with fields := x }]

def decode : Decoder Highlight := shape.decode

end Highlight

namespace FieldSort

def shape : Shape FieldSort where
  name := "FieldSort"
  start := ⟨"", false⟩
  fields := [
    .required "order" Decode.string fun s x => { s with order := x },
    .required "ignore_unmapped" Decode.bool fun s x => { s with ignoreUnmapped := x }]

end FieldSort

namespace Script

def shape : Shape Script where
  name := "Script"
  start := ⟨"", none⟩
  fields := [
    .required "inline" Decode.string fun s x => { s with inline := x },
    .defaulted "params" (Decode.optional Decode.object) fun s x => { s with params := x }]

end Script

namespace ScriptSort

def shape : Shape ScriptSort where
  name := "ScriptSort"
  start := ⟨"", ⟨"", none⟩, ""⟩
  fields := [
    .required "type" Decode.string fun s x => { s with sortType := x },
    .required "script" Script.shape.decode fun s x => { s with script := x },
    .required "order" Decode.string fun s x => { s with order := x }]

end ScriptSort

namespace GeoDistanceSort

def shape : Shape GeoDistanceSort where
  name := "GeoDistanceSort"
  start := ⟨"", "", .empty, "", ""⟩
  fields := [
    .required "order" Decode.string fun s x => { s with order := x },
    .required "unit" Decode.string fun s x => { s with unit := x },
    .required "distance_type" Decode.string fun s x => { s with distanceType := x },
    .required "mode" Decode.string fun s x => { s with mode := x }]

def decode : Decoder GeoDistanceSort :=
  shape.decodeOpen GeoPoint.decodeHeld fun s points => { s with point := points }

end GeoDistanceSort

namespace SortClause

/-- A clause under a key of its own, beside which other keys are ignored. -/
def decodeUnder {α : Type} (key : String) (decode : Decoder α) (make : α → SortClause) :
    Decoder SortClause := fun j =>
  match j.field? key with
  | some payload => (decode payload).map make
  | none => .error (.missingField key)

def decode : Decoder SortClause :=
  Decode.firstOf "SortClause" [
    decodeUnder "_script" ScriptSort.shape.decode .script,
    decodeUnder "_geo_distance" GeoDistanceSort.decode .geoDistance,
    fun j => (Decode.sortedMap FieldSort.shape.decode j).map .field]

end SortClause

namespace Aggregation

def termsShape : Shape Aggregation where
  name := "TermsAgg"
  start := ⟨"", .empty, 0⟩
  fields := [
    .required "field" Decode.string fun a x => { a with field := x },
    .required "order" (Decode.sortedMap Decode.string) fun a x => { a with order := x },
    .required "size" Decode.size fun a x => { a with size := x }]

def shape : Shape Aggregation where
  name := "Aggregation"
  start := termsShape.start
  fields := [.required "terms" termsShape.decode fun _ x => x]

def decode : Decoder Aggregation := shape.decode

end Aggregation

namespace SearchBody

def shape : Shape SearchBody where
  name := "SearchBody"
  start := {}
  fields := [
    .defaulted "query" (Decode.optional Query.decode) fun b x => { b with query := x },
    .defaulted "highlight" (Decode.optional Highlight.decode) fun b x => { b with highlight := x },
    .defaulted "aggs" (Decode.optional (Decode.sortedMap Aggregation.decode)) fun b x =>
      { b with aggregations := x },
    .defaulted "from" (Decode.optional Decode.word64) fun b x => { b with offset := x },
    .defaulted "sort" (Decode.list SortClause.decode) fun b x => { b with sort := x },
    .defaulted "size" (Decode.optional Decode.word64) fun b x => { b with size := x },
    .defaulted "_source" (Decode.optional (Decode.list Decode.string)) fun b x =>
      { b with projection := x }]

def decode : Decoder SearchBody := shape.decode

end SearchBody

end SearchClient

import SearchClient.Entries
import SearchClient.Json.Basic

/-!
# Queries

The part of the engine's query language that searches are compiled to.  A
`Query` is a clause; the clauses of a `bool` are themselves queries, and
`BoolQuery` is the same node as a record while it is being put together.
Clauses keyed by a field hold a sorted map, whose only key is that field.
-/

namespace SearchClient

structure RangeBounds where
  greater : Option Json := none
  less : Option Json := none

structure GeoPoint where
  lat : Binary64
  lon : Binary64
  deriving DecidableEq

structure BoundingBox where
  topLeft : GeoPoint
  bottomRight : GeoPoint
  deriving DecidableEq

structure MultiMatch where
  query : String
  matchType : Option String
  fields : List String
  deriving DecidableEq

/-- A distance with its unit, such as `5km`, from a point under its field. -/
structure GeoDistance where
  distance : String
  point : SortedMap GeoPoint

/-- How a full-text clause matches its terms. -/
inductive MatchKind where
  | words
  | phrase
  | phrasePrefix
  | boolPrefix
  deriving DecidableEq

inductive Query where
  | bool (must should mustNot : List Query) (minimum : Option Int64)
  | term (values : SortedMap Json)
  | range (bounds : SortedMap RangeBounds)
  | fullText (kind : MatchKind) (values : SortedMap Json)
  | multiMatch (clause : MultiMatch)
  | geoDistance (clause : GeoDistance)
  | geoBoundingBox (boxes : SortedMap BoundingBox)
  | filtered (query filter : Option Query)
  | functionScore (query filter : Option Query) (functions : List (Binary64 × Query))
      (scoreMode : Option String)

instance : Inhabited Query := ⟨.bool [] [] [] none⟩

/-- What a document must meet, what it should, and what it must not; `minimum`
is how many of `should` have to hold. -/
structure BoolQuery where
  must : List Query := []
  should : List Query := []
  mustNot : List Query := []
  minimum : Option Int64 := none

namespace BoolQuery

def toQuery (b : BoolQuery) : Query := .bool b.must b.should b.mustNot b.minimum

def isEmpty (b : BoolQuery) : Bool := b.must.isEmpty && b.should.isEmpty && b.mustNot.isEmpty

end BoolQuery

namespace Query

def ofTerm (field : String) (value : Json) : Query := .term (.singleton field value)

def greaterThan (field : String) (value : Json) : Query :=
  .range (.singleton field { greater := some value })

def lessThan (field : String) (value : Json) : Query :=
  .range (.singleton field { less := some value })

/-- Holds when any of the clauses does. -/
def anyOf (clauses : List Query) : Query := .bool [] clauses [] none

end Query

/-! ## Search bodies -/

structure Highlight where
  preTags : List String
  postTags : List String
  fields : Entries Json

structure FieldSort where
  order : String
  ignoreUnmapped : Bool
  deriving DecidableEq

structure Script where
  inline : String
  params : Option (Entries Json)

structure ScriptSort where
  sortType : String
  script : Script
  order : String

structure GeoDistanceSort where
  order : String
  unit : String
  point : SortedMap GeoPoint
  distanceType : String
  mode : String

inductive SortClause where
  | script (clause : ScriptSort)
  | geoDistance (clause : GeoDistanceSort)
  | field (clauses : SortedMap FieldSort)

structure Aggregation where
  field : String
  order : SortedMap String
  size : UInt64

structure SearchBody where
  query : Option Query := none
  highlight : Option Highlight := none
  aggregations : Option (SortedMap Aggregation) := none
  offset : Option UInt64 := none
  sort : List SortClause := []
  size : Option UInt64 := none
  projection : Option (List String) := none

end SearchClient

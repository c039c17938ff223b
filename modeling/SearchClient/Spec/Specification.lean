import SearchClient.Spec.Filter
import SearchClient.Spec.Geo
import SearchClient.Spec.GroupColumn
import SearchClient.Spec.Keyword
import SearchClient.Spec.ScoreRule
import SearchClient.Spec.Sort

/-!
# Specifications

A specification is what a caller hands over for one request: where it goes, what
is searched for and how, and for a write the document.  `ofMapping` reads every
search key of a mapping strictly; `ofDocumentMapping` reads the three addressing
keys only and takes all else for document data.  In both the document is the
mapping without its target keys.
-/

namespace SearchClient

structure Specification where
  index : Option String := none
  docType : Option String := none
  id : Option String := none
  filters : List FilterPredicate := []
  minMatch : Option Int64 := none
  geo : Option GeoParameter := none
  sort : List SortDirective := []
  keyword : Option Keyword := none
  columns : Option (List String) := none
  searchType : Option String := none
  phrasePrefix : Bool := false
  rules : Option (List ScoreRule) := none
  scoreMode : Option String := none
  grouped : Bool := false
  groupColumns : Option (List GroupColumn) := none
  groupSize : Option UInt64 := none
  highlighted : Bool := false
  highlightClass : Option String := none
  highlightFields : Option (Entries Json) := none
  offset : Option UInt64 := none
  limit : Option UInt64 := none
  projection : Option (List String) := none
  document : Entries Json := []

namespace Specification

/-! ## Reading -/

/-- A text, or an unsigned number standing for its digits. -/
def decodeId : Decoder String :=
  Decode.firstOf "IdRepr" [
    Decode.string,
    fun j => (Decode.word64 j).map fun n => Nat.repr n.toNat]

def shape : Shape Specification where
  name := "QuerySpecification"
  start := {}
  fields := [
    .defaulted "index" (Decode.optional Decode.string) fun s x => { s with index := x },
    .defaulted "type" (Decode.optional Decode.string) fun s x => { s with docType := x },
    .defaulted "id" (Decode.optional decodeId) fun s x => { s with id := x },
    .defaulted "filters" (Decode.list FilterPredicate.decode) fun s x => { s with filters := x },
    .defaulted "minNum" (Decode.optional Decode.signed64) fun s x => { s with minMatch := x },
    .defaulted "geo" (Decode.optional GeoParameter.decode) fun s x => { s with geo := x },
    .defaulted "sort" (Decode.list SortDirective.decode) fun s x => { s with sort := x },
    .defaulted "keyword" (Decode.optional Keyword.decode) fun s x => { s with keyword := x },
    .defaulted "columns" (Decode.optional (Decode.list Decode.string)) fun s x =>
      { s with columns := x },
    .defaulted "searchType" (Decode.optional Decode.string) fun s x => { s with searchType := x },
    .defaulted "isEn" Decode.bool fun s x => { s with phrasePrefix := x },
    .defaulted "rules" (Decode.optional (Decode.list ScoreRule.decode)) fun s x =>
      { s with rules := x },
    .defaulted "scoreMode" (Decode.optional Decode.string) fun s x => { s with scoreMode := x },
    .defaulted "needGroupBy" Decode.bool fun s x => { s with grouped := x },
    .defaulted "aggColumns" (Decode.optional (Decode.list GroupColumn.decode)) fun s x =>
      { s with groupColumns := x },
    .defaulted "aggSize" (Decode.optional Decode.size) fun s x => { s with groupSize := x },
    .defaulted "highLight" Decode.bool fun s x => { s with highlighted := x },
    .defaulted "highClass" (Decode.optional Decode.string) fun s x =>
      { s with highlightClass := x },
    .defaulted "highFields" (Decode.optional Decode.object) fun s x =>
      { s with highlightFields := x },
    .defaulted "from" (Decode.optional Decode.word64) fun s x => { s with offset := x },
    .defaulted "size" (Decode.optional Decode.word64) fun s x => { s with limit := x },
    (Field.defaulted "source" (Decode.optional (Decode.list Decode.string)) fun s x =>
      { s with projection := x }).orAlso "_source"]

/-- The addressing part of a mapping. -/
def targetShape : Shape Specification where
  name := "Target"
  start := {}
  fields := [
    .defaulted "index" (Decode.optional Decode.string) fun s x => { s with index := x },
    .defaulted "type" (Decode.optional Decode.string) fun s x => { s with docType := x },
    .defaulted "id" (Decode.optional decodeId) fun s x => { s with id := x }]

/-- Keys that address a document or steer a search, and are never part of the
document. -/
def targetKeys : List String := ["index", "type", "id", "isEn"]

def documentOf (mapping : Json) : Entries Json :=
  (mapping.object?.getD []).filter fun (key, _) => !targetKeys.contains key

def ofMapping (mapping : Json) : Except DecodeError Specification :=
  (shape.decode mapping).map fun s => { s with document := documentOf mapping }

def ofDocumentMapping (mapping : Json) : Except DecodeError Specification :=
  (targetShape.decode mapping).map fun s => { s with document := documentOf mapping }

/-! ## Building -/

def target (index docType : String) : Specification :=
  { index := some index, docType := some docType }

def withId (s : Specification) (id : String) : Specification := { s with id := some id }

def withFilter (s : Specification) (p : FilterPredicate) : Specification :=
  { s with filters := s.filters ++ [p] }

def withSort (s : Specification) (d : SortDirective) : Specification :=
  { s with sort := s.sort ++ [d] }

def withField (s : Specification) (key : String) (value : Json) : Specification :=
  { s with document := s.document.insert key value }

/-! ## Views -/

/-- The search keys in their order, with `null` for each that is unset. -/
def searchEntries (s : Specification) : List (String × Json) := [
  ("index", .orNull .string s.index),
  ("type", .orNull .string s.docType),
  ("id", .orNull .string s.id),
  ("filters", .array (s.filters.map FilterPredicate.encode)),
  ("minNum", .orNull .ofInt64 s.minMatch),
  ("geo", .orNull GeoParameter.encode s.geo),
  ("sort", .array (s.sort.map SortDirective.encode)),
  ("keyword", .orNull Keyword.encode s.keyword),
  ("columns", .orNull .strings s.columns),
  ("searchType", .orNull .string s.searchType),
  ("isEn", .bool s.phrasePrefix),
  ("rules", .orNull (fun rules => .array (rules.map ScoreRule.encode)) s.rules),
  ("scoreMode", .orNull .string s.scoreMode),
  ("needGroupBy", .bool s.grouped),
  ("aggColumns", .orNull (fun columns => .array (columns.map GroupColumn.encode)) s.groupColumns),
  ("aggSize", .orNull .ofUInt64 s.groupSize),
  ("highLight", .bool s.highlighted),
  ("highClass", .orNull .string s.highlightClass),
  ("highFields", .orNull .object s.highlightFields),
  ("from", .orNull .ofUInt64 s.offset),
  ("size", .orNull .ofUInt64 s.limit),
  ("source", .orNull .strings s.projection)]

/-- The mapping that a specification reports: the search keys that are set, then
the document, whose values win where both have a key. -/
def mapping (s : Specification) : Json :=
  .object (Entries.insertAll (s.searchEntries.filter fun (_, value) => !value.isNull) s.document)

def hasFilters (s : Specification) : Bool := !s.filters.isEmpty || s.geo.isSome

def isSorted (s : Specification) : Bool := !s.sort.isEmpty

def minShouldMatch (s : Specification) : Int64 := s.minMatch.getD 1

/-- Highlighting needs the flag, a class and the fields, be they none. -/
def wantsHighlight (s : Specification) : Bool :=
  s.highlighted && s.highlightClass.isSome && s.highlightFields.isSome

/-- The one field whose fragment takes the place of the stored value. -/
def highlightField? (s : Specification) : Option String :=
  if s.wantsHighlight then s.highlightFields.bind fun fields => fields.keys.head? else none

def nonEmpty? (text : Option String) : Option String := text.filter fun t => !t.isEmpty

def target? (s : Specification) : Option (String × String) := do
  pure (← nonEmpty? s.index, ← nonEmpty? s.docType)

def targetWithId? (s : Specification) : Option (String × String × String) := do
  let (index, docType) ← s.target?
  pure (index, docType, ← nonEmpty? s.id)

end Specification

end SearchClient

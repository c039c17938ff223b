import SearchClient.Query.OfColumns
import SearchClient.Query.OfFilters
import SearchClient.Query.OfKeyword
import SearchClient.Query.OfSort
import SearchClient.Spec.Specification

/-!
# Search bodies

The query of a search has one of three shapes; highlighting, grouping, paging,
sorting and projection are the same for all of them.
-/

namespace SearchClient

/-- `plain` searches a keyword under filters, `scored` ranks by score rules, and
`multiKeyword` searches for each of several keywords. -/
inductive SearchMode where
  | plain
  | scored
  | multiKeyword
  deriving DecidableEq

namespace SearchMode

def name : SearchMode → String
  | .plain => "plain"
  | .scored => "scored"
  | .multiKeyword => "multi_keyword"

def variants : List (Decode.Variant SearchMode) :=
  [.plain, .scored, .multiKeyword].map fun mode => Decode.bare mode.name mode

def decode : Decoder SearchMode := Decode.variant variants

def encode (mode : SearchMode) : Json := .string mode.name

end SearchMode

def ScoreRule.scoreFunction (r : ScoreRule) : Except SpecError (Binary64 × Query) :=
  match r.field, r.operator, r.value, r.weight with
  | some field, some operator, some value, some weight =>
    match operator with
    | .greater => .ok (weight, .greaterThan field value)
    | .less => .ok (weight, .lessThan field value)
    | .equal => .ok (weight, .ofTerm field value)
    | _ => .error .invalidRuleOperator
  | _, _, _, _ => .error .ruleMissingFields

namespace Specification

/-- The filters and the geo constraint, when there are any. -/
def filterTree (s : Specification) : Except SpecError (Option BoolQuery) :=
  if s.hasFilters then (BoolQuery.ofFilters s.filters s.geo s.minShouldMatch).map some
  else .ok none

def keywordClause? (s : Specification) : Option Query :=
  s.keyword.bind fun keyword =>
    Query.ofKeyword? keyword s.columns s.searchType s.phrasePrefix

def plainQuery (s : Specification) : Except SpecError (Option Query) := do
  let tree ← s.filterTree
  match s.keywordClause?, tree with
  | none, none => pure none
  | query, tree => pure (some (.filtered query (tree.map BoolQuery.toQuery)))

/-- A scored search takes a keyword only with a search type and columns. -/
def scoredQuery (s : Specification) : Except SpecError Query := do
  let query := if s.searchType.isSome && s.columns.isSome then s.keywordClause? else none
  let tree ← s.filterTree
  match s.rules with
  | none => .error .rulesRequired
  | some rules =>
    let functions ← rules.mapM ScoreRule.scoreFunction
    pure (.functionScore query (tree.map BoolQuery.toQuery) functions s.scoreMode)

/-- A single keyword must match; of several keywords as many as the tree's
minimum asks for, or at least one when it asks for nothing. -/
def addTerms (s : Specification) (tree : BoolQuery) : BoolQuery :=
  match s.keyword, s.columns with
  | some keyword, some columns =>
    let clauses := Query.ofTerms keyword columns s.searchType s.phrasePrefix
    if keyword.count = 1 then { tree with must := tree.must ++ clauses }
    else if clauses.isEmpty then tree
    else { tree with
      should := tree.should ++ clauses
      minimum := tree.minimum.or (some (max s.minShouldMatch 1)) }
  | _, _ => tree

def multiKeywordQuery (s : Specification) : Except SpecError Query := do
  let tree ← s.filterTree
  pure (s.addTerms (tree.getD {})).toQuery

def modeQuery (s : Specification) : SearchMode → Except SpecError (Option Query)
  | .plain => s.plainQuery
  | .scored => s.scoredQuery.map some
  | .multiKeyword => s.multiKeywordQuery.map some

/-- A span of the class around each fragment, when highlighting is on and both
the class and the fields are given. -/
def highlight? (s : Specification) : Option Highlight :=
  match s.highlighted, s.highlightClass, s.highlightFields with
  | true, some tagClass, some fields => some {
    preTags := ["<span class=\"" ++ tagClass ++ "\">"]
    postTags := ["</span>"]
    fields := fields }
  | _, _, _ => none

def aggregations (s : Specification) : Except SpecError (Option (SortedMap Aggregation)) :=
  if s.grouped then (Aggregation.ofColumns (s.groupColumns.getD []) s.groupSize).map some
  else .ok none

/-- The body of a search. -/
def searchBody (s : Specification) (mode : SearchMode) : Except SpecError SearchBody := do
  let query ← s.modeQuery mode
  let aggregations ← s.aggregations
  let sort ← SortClause.ofDirectives s.sort
  pure {
    query := query
    highlight := s.highlight?
    aggregations := aggregations
    offset := s.offset
    sort := sort
    size := s.limit
    projection := s.projection.filter fun columns => !columns.isEmpty }

end Specification

end SearchClient

import SearchClient.Request
import SearchClient.Response.Decoded
import SearchClient.Response.Envelope

/-!
# Normalized responses

A search answer becomes its total, its time, one document for each hit, and the
buckets of the columns that were grouped by.  An answer that cannot be read, or
has no page of hits, becomes an empty result; there is no partial page.
-/

namespace SearchClient

namespace Hit

/-- The first highlighted fragment of the specification's highlight field. -/
def fragment? (s : Specification) (hit : Hit) : Option (String × Json) := do
  let field ← s.highlightField?
  let fragments ← (← hit.highlight).get? field
  pure (field, ← fragments.item? 0)

/-- The sort values of a sorted search, the score of any other. -/
def shownScore (s : Specification) (hit : Hit) : Json :=
  match hit.sort with
  | some sort => if s.isSorted then sort else hit.score
  | none => hit.score

/-- The stored document with its fragment, its id and its score put in. -/
def document (s : Specification) (hit : Hit) : Entries Json :=
  let stored := hit.source
  let highlighted := match hit.fragment? s with
    | some (field, fragment) => stored.insert field fragment
    | none => stored
  (highlighted.insert "_id" hit.id).insert "_score" (hit.shownScore s)

end Hit

namespace SearchResponse

def buckets (aggregations : Entries Json) (column : String) : List Json :=
  (((aggregations.get? column).bind (·.field? "buckets")).bind Json.array?).getD []

/-- The buckets of every requested column, empty where the answer has none. -/
def groups (s : Specification) (aggregations : Entries Json) : SortedMap (List Json) :=
  .ofList ((s.groupColumns.getD []).map fun c => (c.column, buckets aggregations c.column))

def pageResults (s : Specification) (response : SearchResponse) : SearchResults :=
  match response.page with
  | some { total := total, hits := some hits } =>
    { total := total, time := response.took, data := hits.map (Hit.document s) }
  | _ => {}

def results (s : Specification) (response : SearchResponse) : SearchResults :=
  if s.grouped then
    { response.pageResults s with groups := response.aggregations.map (groups s) }
  else response.pageResults s

end SearchResponse

namespace Envelope

def searchResults (s : Specification) (bytes : List UInt8) : SearchResults :=
  match SearchResponse.ofBytes? bytes with
  | some response => response.results s
  | none => {}

/-- The value of an answer, `null` when it is not JSON. -/
def answer (bytes : List UInt8) : Json := (Json.ofBytes? bytes).getD .null

def ofAnswer (bytes : List UInt8) (operation : Operation) (s : Specification) : Envelope :=
  if operation.isSearch then .hits (searchResults s bytes) else .document (answer bytes)

/-- The raw answer with the debug information under a key of its own; an answer
that is no object counts as an empty one. -/
def ofDebug (bytes : List UInt8) (info : DebugInfo) : Envelope :=
  let fields : Entries Json := (answer bytes).object?.getD []
  .debug (.object (fields.insert "debugInfo" info.encode))

end Envelope

end SearchClient

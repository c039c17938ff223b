import SearchClient.Json.Record

/-!
# Result envelopes

What a caller gets back: the hits of a search, the engine's answer to a document
operation, the raw answer with debug information, or an error.  An error has the
keys of a search result too, so both can be read alike.
-/

namespace SearchClient

structure SearchResults where
  total : UInt64 := 0
  time : UInt64 := 0
  data : List (Entries Json) := []
  groups : Option (SortedMap (List Json)) := none

/-- The caller's mapping and the document made from it. -/
structure DebugInfo where
  params : Json
  compiledDocument : Json

structure ErrorReport where
  debugInfo : DebugInfo
  total : UInt64 := 0
  time : UInt64 := 0
  data : List (Entries Json) := []
  message : String

inductive Envelope where
  | hits (results : SearchResults)
  | document (answer : Json)
  | debug (answer : Json)
  | error (report : ErrorReport)

namespace SearchResults

def shape : Shape SearchResults where
  name := "SearchResults"
  start := {}
  fields := [
    .required "total" Decode.word64 fun r x => { r with total := x },
    .required "time" Decode.word64 fun r x => { r with time := x },
    .required "data" (Decode.list Decode.object) fun r x => { r with data := x },
    .defaulted "groups" (Decode.optional (Decode.sortedMap (Decode.list Decode.value))) fun r x =>
      { r with groups := x }]

def decode : Decoder SearchResults := shape.decode

def encodeGroups (groups : SortedMap (List Json)) : Json :=
  .object (groups.toList.map fun (name, buckets) => (name, .array buckets))

def encode (r : SearchResults) : Json :=
  .object ([
    ("total", .ofUInt64 r.total),
    ("time", .ofUInt64 r.time),
    ("data", .array (r.data.map .object))] ++
    Json.entryIfSome "groups" encodeGroups r.groups)

end SearchResults

namespace DebugInfo

def shape : Shape DebugInfo where
  name := "DebugInfo"
  start := ⟨.null, .null⟩
  fields := [
    .required "params" Decode.value fun i x => { i with params := x },
    .required "compiledDocument" Decode.value fun i x => { i with compiledDocument := x }]

def decode : Decoder DebugInfo := shape.decode

def encode (i : DebugInfo) : Json :=
  .object [("params", i.params), ("compiledDocument", i.compiledDocument)]

end DebugInfo

namespace ErrorReport

def shape : Shape ErrorReport where
  name := "ErrorEnvelope"
  start := { debugInfo := ⟨.null, .null⟩, message := "" }
  fields := [
    .required "debugInfo" DebugInfo.decode fun e x => { e with debugInfo := x },
    .required "total" Decode.word64 fun e x => { e with total := x },
    .required "time" Decode.word64 fun e x => { e with time := x },
    .required "data" (Decode.list Decode.object) fun e x => { e with data := x },
    .required "errorMsg" Decode.string fun e x => { e with message := x }]

def decode : Decoder ErrorReport := shape.decode

def encode (e : ErrorReport) : Json :=
  .object [
    ("debugInfo", e.debugInfo.encode),
    ("total", .ofUInt64 e.total),
    ("time", .ofUInt64 e.time),
    ("data", .array (e.data.map .object)),
    ("errorMsg", .string e.message)]

end ErrorReport

namespace Envelope

def ofError (message : String) (info : DebugInfo) : Envelope :=
  .error { debugInfo := info, message := message }

def encode : Envelope → Json
  | .hits results => results.encode
  | .document answer => answer
  | .debug answer => answer
  | .error report => report.encode

def errorMessage? : Envelope → Option String
  | .error report => some report.message
  | _ => none

def isError (e : Envelope) : Bool := e.errorMessage?.isSome

/-- The number of hits, zero for anything but a search result. -/
def total : Envelope → UInt64
  | .hits results => results.total
  | _ => 0

def data : Envelope → List (Entries Json)
  | .hits results => results.data
  | .error report => report.data
  | _ => []

def groups? : Envelope → Option (SortedMap (List Json))
  | .hits results => results.groups
  | _ => none

end Envelope

end SearchClient

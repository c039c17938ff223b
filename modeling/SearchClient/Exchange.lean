import SearchClient.Duration
import SearchClient.Json.Printer
import SearchClient.Request

/-!
# Exchanges

One exchange with the engine: the request as it goes over the wire, and what can
go wrong on the way.
-/

namespace SearchClient

structure WireRequest where
  verb : Verb
  address : String
  headers : List (String × String)
  body : Option (List UInt8)
  connectTimeout : Duration
  readTimeout : Duration
  deriving DecidableEq

def jsonContentType : String := "application/json"

/-- The document as compact text, for verbs that carry one. -/
def PreparedRequest.wire (r : PreparedRequest) (timeout : Duration) : WireRequest where
  verb := r.verb
  address := r.address
  headers := [("Content-Type", jsonContentType)]
  body := if r.verb.hasBody then r.body.map fun body => Utf8.encode body.render.toList else none
  connectTimeout := timeout
  readTimeout := timeout

def defaultTimeout : Duration := .ofSeconds 30

inductive TransportError where
  | connect (reason : String)
  | timeout (after : Duration)
  | status (code : Nat) (body : String)
  | invalidRequest (reason : String)
  | other (reason : String)
  deriving DecidableEq

def TransportError.message : TransportError → String
  | .connect reason => "Connection failed: " ++ reason
  | .timeout after => "Request timed out after " ++ after.render
  | .status code body => "Unexpected status " ++ Nat.repr code ++ ": " ++ body
  | .invalidRequest reason => "Invalid request: " ++ reason
  | .other reason => reason

/-- What the engine's side answers: the bytes of a response, or a failure. -/
abbrev Reply := Except TransportError (List UInt8)

end SearchClient

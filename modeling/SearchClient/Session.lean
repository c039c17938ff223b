import SearchClient.Config.Basic
import SearchClient.Exchange
import SearchClient.Response.Normalize

/-!
# Sessions

A session walks one request at a time from a host over a specification and an
operation to a call, and `clear` brings it back to the host.  Steps out of order
are refused and change nothing.  `step` is pure: the requests that go out are
part of its outcome, and the reply to them is given to it.
-/

namespace SearchClient

inductive Stage where
  | unconfigured
  | idle
  | configured
  | selected (operation : Operation)
  | executed
  deriving DecidableEq

def Stage.name : Stage → String
  | .unconfigured => "unconfigured"
  | .idle => "idle"
  | .configured => "configured"
  | .selected _ => "selected"
  | .executed => "executed"

/-- A specification as the caller gave it.  A mapping is read when it is called
for: strictly by a search, and for its target alone by a document operation. -/
inductive Params where
  | typed (spec : Specification)
  | mapping (value : Json)

namespace Params

def report : Params → Json
  | .typed spec => spec.mapping
  | .mapping value => value

def resolve (params : Params) (operation : Operation) : Except SpecError Specification :=
  match params with
  | .typed spec => .ok spec
  | .mapping value =>
    (if operation.isSearch then Specification.ofMapping value
      else Specification.ofDocumentMapping value).mapError .malformed

end Params

structure Session where
  host : Option Endpoint := none
  timeout : Duration := defaultTimeout
  debug : Bool := false
  params : Option Params := none
  stage : Stage := .unconfigured

inductive Step where
  | setHost (host : Endpoint)
  | setParams (params : Params)
  | setTimeout (timeout : Duration)
  | setDebug (debug : Bool)
  | select (operation : Operation)
  | call
  | clear

inductive SessionError where
  | illegal (stage : Stage) (action : String)
  | transport (cause : TransportError)
  deriving DecidableEq

def SessionError.message : SessionError → String
  | .illegal stage action => "cannot " ++ action ++ " while session is " ++ stage.name
  | .transport cause => cause.message

/-- What a step gives back: the requests it sent, and its result, which is an
envelope for a call and nothing otherwise. -/
structure Outcome where
  sent : List WireRequest := []
  result : Except SessionError (Option Envelope)

namespace Session

def ofHost (host : Endpoint) : Session := { host := some host, stage := .idle }

def ofConfig (c : Config) : Except SpecError Session :=
  c.host.map fun host =>
    { ofHost host with timeout := c.transport.timeout, debug := c.debug }

def done : Outcome := { result := .ok none }

def refuse (s : Session) (action : String) : Session × Outcome :=
  (s, { result := .error (.illegal s.stage action) })

def setHost (s : Session) (host : Endpoint) : Session × Outcome :=
  match s.stage with
  | .unconfigured | .idle => ({ s with host := some host, stage := .idle }, done)
  | _ => s.refuse "set_host"

def setParams (s : Session) (params : Params) : Session × Outcome :=
  match s.stage with
  | .idle | .configured => ({ s with params := some params, stage := .configured }, done)
  | _ => s.refuse "set_params"

/-- Selecting again before the call replaces the earlier choice. -/
def select (s : Session) (operation : Operation) : Session × Outcome :=
  match s.stage with
  | .configured | .selected _ => ({ s with stage := .selected operation }, done)
  | _ => s.refuse operation.name

def clear (s : Session) : Session :=
  { s with
    params := none
    debug := false
    stage := if s.host.isSome then .idle else .unconfigured }

/-- The specification for an operation and the request it makes. -/
def request (host : Endpoint) (params : Params) (operation : Operation) :
    Except SpecError (Specification × PreparedRequest) := do
  let spec ← params.resolve operation
  let prepared ← spec.prepare host operation
  pure (spec, prepared)

/-- What becomes of an answer: in debug mode it is returned raw, with the mapping
and the document that was sent. -/
def receive (debug : Bool) (params : Params) (operation : Operation) (spec : Specification)
    (prepared : PreparedRequest) (answer : List UInt8) : Envelope :=
  if debug then .ofDebug answer ⟨params.report, prepared.body.getD .null⟩
  else .ofAnswer answer operation spec

/-- A faulty specification sends nothing and comes back as an error envelope; a
failure of the transport is an error of the call. -/
def execute (s : Session) (host : Endpoint) (params : Params) (operation : Operation)
    (reply : Reply) : Outcome :=
  match request host params operation with
  | .error e => { result := .ok (some (.ofError e.message ⟨params.report, .null⟩)) }
  | .ok (spec, prepared) => {
      sent := [prepared.wire s.timeout]
      result :=
        match reply with
        | .error cause => .error (.transport cause)
        | .ok answer => .ok (some (receive s.debug params operation spec prepared answer)) }

def call (s : Session) (reply : Reply) : Session × Outcome :=
  match s.stage with
  | .selected operation =>
    match s.host, s.params with
    | some host, some params =>
      ({ s with stage := .executed }, s.execute host params operation reply)
    | _, _ => s.refuse "call"
  | _ => s.refuse "call"

/-- One step; the reply is for the request of a call. -/
def step (s : Session) (reply : Reply) : Step → Session × Outcome
  | .setHost host => s.setHost host
  | .setParams params => s.setParams params
  | .setTimeout timeout => ({ s with timeout := timeout }, done)
  | .setDebug debug => ({ s with debug := debug }, done)
  | .select operation => s.select operation
  | .call => s.call reply
  | .clear => (s.clear, done)

end Session

end SearchClient

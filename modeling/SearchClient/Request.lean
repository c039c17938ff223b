import SearchClient.Endpoint
import SearchClient.Query.Assemble
import SearchClient.Query.Encode

/-!
# Requests

What an operation on a specification sends: a verb, an address and a document.
`prepare` checks the target first, so a search without index and type reports
that before anything else.
-/

namespace SearchClient

inductive Verb where
  | get
  | post
  | put
  | delete
  | update
  deriving DecidableEq

namespace Verb

def name : Verb → String
  | .get => "GET"
  | .post => "POST"
  | .put => "PUT"
  | .delete => "DELETE"
  | .update => "UPDATE"

def hasBody : Verb → Bool
  | .get => false
  | .delete => false
  | _ => true

end Verb

inductive Operation where
  | save
  | update
  | delete
  | get
  | search (mode : SearchMode)
  deriving DecidableEq

namespace Operation

def name : Operation → String
  | .save => "save"
  | .update => "update"
  | .delete => "delete"
  | .get => "get"
  | .search .plain => "search"
  | .search .scored => "scored_search"
  | .search .multiKeyword => "multi_keyword_search"

def all : List Operation :=
  [.save, .update, .delete, .get, .search .plain, .search .scored, .search .multiKeyword]

def ofName? (name : String) : Option Operation := all.find? fun op => op.name = name

def isSearch : Operation → Bool
  | .search _ => true
  | _ => false

end Operation

structure PreparedRequest where
  verb : Verb
  address : String
  body : Option Json

namespace Specification

/-- The document that a search sends; an empty one is not sent. -/
def searchDocument (body : SearchBody) : Option Json :=
  match body.encode.collapse with
  | .object [] => none
  | document => some document

def prepareSave (host : Endpoint) (s : Specification) : Except SpecError PreparedRequest :=
  match s.target? with
  | none => .error .createTargetRequired
  | some (index, docType) =>
    match nonEmpty? s.id with
    | some id => .ok ⟨.put, (host.resource [index, docType, id]).render, some (.object s.document)⟩
    | none => .ok ⟨.post, (host.resource [index, docType]).render, some (.object s.document)⟩

def prepareUpdate (host : Endpoint) (s : Specification) : Except SpecError PreparedRequest :=
  match s.targetWithId? with
  | none => .error .updateTargetRequired
  | some (index, docType, id) =>
    .ok ⟨.update, (host.resource [index, docType, id, "_update"]).render,
      some (.object s.document)⟩

/-- A request on one document that carries nothing. -/
def prepareBare (host : Endpoint) (s : Specification) (verb : Verb) (missing : SpecError) :
    Except SpecError PreparedRequest :=
  match s.targetWithId? with
  | none => .error missing
  | some (index, docType, id) => .ok ⟨verb, (host.resource [index, docType, id]).render, none⟩

def prepareSearch (host : Endpoint) (s : Specification) (mode : SearchMode) :
    Except SpecError PreparedRequest :=
  match s.target? with
  | none => .error .indexTypeRequired
  | some (index, docType) =>
    (s.searchBody mode).map fun body =>
      ⟨.post, (host.resource [index, docType, "_search"]).render, searchDocument body⟩

def prepare (host : Endpoint) (s : Specification) : Operation → Except SpecError PreparedRequest
  | .save => s.prepareSave host
  | .update => s.prepareUpdate host
  | .delete => s.prepareBare host .delete .deleteTargetRequired
  | .get => s.prepareBare host .get .getTargetRequired
  | .search mode => s.prepareSearch host mode

end Specification

end SearchClient

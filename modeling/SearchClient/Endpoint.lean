import SearchClient.Spec.Error
import SearchClient.Url.Parse

/-!
# Endpoints

The base address of the engine.  Every resource address is derived from it.
-/

namespace SearchClient

structure Endpoint where
  base : Url
  deriving DecidableEq

namespace Endpoint

def parse (raw : String) : Except SpecError Endpoint :=
  match Url.parse raw with
  | .ok (some url) => .ok ⟨url⟩
  | .ok none => .error (.invalidHost raw none)
  | .error cause => .error (.invalidHost raw (some cause))

def ofParts (scheme host : String) (port : UInt16) : Except SpecError Endpoint :=
  parse (scheme ++ "://" ++ host ++ ":" ++ Nat.repr port.toNat ++ "/")

def ofHost (host : String) (port : UInt16) : Except SpecError Endpoint := ofParts "http" host port

/-- The address of a resource below the base. -/
def resource (e : Endpoint) (segments : List String) : Url := e.base.resource segments

def render (e : Endpoint) : String := e.base.render

end Endpoint

end SearchClient

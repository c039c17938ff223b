import SearchClient.Url.Host
import SearchClient.Url.Path

/-!
# URLs

An absolute URL with a host.  Its parts are held in the form in which they are
written: escaped, the scheme in lower case, and without the scheme's own port.
-/

namespace SearchClient

structure Url where
  scheme : String
  username : String := ""
  password : String := ""
  host : Host
  port : Option UInt16 := none
  path : UrlPath.Segments := []
  query : Option String := none
  fragment : Option String := none
  deriving DecidableEq

namespace Url

/-- Schemes whose URLs have a host and a path in any case, with their ports. -/
def specialSchemes : List (String × Option UInt16) := [
  ("http", some 80),
  ("https", some 443),
  ("ws", some 80),
  ("wss", some 443),
  ("ftp", some 21),
  ("file", none)]

def isSpecialScheme (scheme : String) : Bool := (specialSchemes.lookup scheme).isSome

def defaultPort? (scheme : String) : Option UInt16 := (specialSchemes.lookup scheme).join

def isSpecial (url : Url) : Bool := isSpecialScheme url.scheme

def isFile (url : Url) : Bool := url.scheme = "file"

/-- The port a connection is made to. -/
def effectivePort? (url : Url) : Option UInt16 := url.port.or (defaultPort? url.scheme)

def renderUserInfo (url : Url) : String :=
  let password := if url.password.isEmpty then "" else ":" ++ url.password
  let info := url.username ++ password
  if info.isEmpty then "" else info ++ "@"

def renderPath (url : Url) : String := String.ofList (UrlPath.render url.path)

def render (url : Url) : String :=
  url.scheme ++ "://" ++ url.renderUserInfo ++ url.host.render ++
    (url.port.elim "" fun port => ":" ++ Nat.repr port.toNat) ++ url.renderPath ++
    (url.query.elim "" ("?" ++ ·)) ++ (url.fragment.elim "" ("#" ++ ·))

/-- The URL with segments put after its path. -/
def resource (url : Url) (segments : List String) : Url :=
  { url with path := UrlPath.resource url.isSpecial url.isFile url.path segments }

end Url

end SearchClient

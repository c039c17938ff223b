import SearchClient.Url.Basic

/-!
# Reading URLs

Controls and spaces around the text do not count, nor do tabs and line ends
anywhere in it.  Special schemes take a backslash for a slash, any number of
slashes before the host, and never lack a path; other schemes have a host only
after exactly two slashes.  `parse` gives `none` for a URL that has no host.
-/

namespace SearchClient.Url

def isOuterBlank (c : Char) : Bool := c.toNat ≤ 0x20

def strip (text : List Char) : List Char :=
  let trimmed := ((text.dropWhile isOuterBlank).reverse.dropWhile isOuterBlank).reverse
  trimmed.filter (!UrlPath.isStripped ·)

def isSchemeChar (c : Char) : Bool := c.isAlphanum || c = '+' || c = '-' || c = '.'

/-- The scheme in lower case, and the text after its colon. -/
def splitScheme? (text : List Char) : Option (String × List Char) :=
  match text.head?, text.dropWhile isSchemeChar with
  | some first, ':' :: rest =>
    if first.isAlpha then
      some (String.ofList ((text.takeWhile isSchemeChar).map Char.toLower), rest)
    else none
  | _, _ => none

def isSlash (special : Bool) (c : Char) : Bool := c = '/' || (special && c = '\\')

def endsAuthority (special : Bool) (c : Char) : Bool := isSlash special c || c = '?' || c = '#'

/-! ## Authority -/

def isReservedInUserInfo (c : Char) : Bool :=
  UrlPath.isReserved c || "/:;=@[\\]^|".toList.contains c

/-- The text before the last `@` and the text after it. -/
def splitUserInfo (authority : List Char) : Option (List Char) × List Char :=
  let after := (authority.reverse.takeWhile (· ≠ '@')).reverse
  if after.length = authority.length then (none, authority)
  else (some (authority.take (authority.length - after.length - 1)), after)

def userInfo (text : List Char) : String × String :=
  let username := text.takeWhile (· ≠ ':')
  let password := text.drop (username.length + 1)
  (String.ofList (Percent.encode isReservedInUserInfo username),
    String.ofList (Percent.encode isReservedInUserInfo password))

/-- The host and what follows it: a colon ends it, but not inside brackets. -/
def splitHost (inBrackets : Bool) : List Char → List Char × List Char
  | [] => ([], [])
  | c :: rest =>
    if c = ':' && !inBrackets then ([], c :: rest)
    else
      let (host, after) := splitHost ((inBrackets || c = '[') && c ≠ ']') rest
      (c :: host, after)

def parsePort (text : List Char) : Except UrlError (Option UInt16) :=
  if text.isEmpty then .ok none
  else
    match Ipv4.value? 10 text with
    | some port => if port < 65536 then .ok (some (.ofNat port)) else .error .invalidPort
    | none => .error .invalidPort

/-! ## Path, query and fragment -/

def isReservedInFragment (c : Char) : Bool :=
  Percent.isControl c || " \"<>\x60".toList.contains c

def isReservedInQuery (special : Bool) (c : Char) : Bool :=
  Percent.isControl c || " \"#<>".toList.contains c || (special && c = '\'')

def isSuffixMark (c : Char) : Bool := c = '?' || c = '#'

/-- The segments of a path; that of a scheme that is not special may be empty. -/
def parsePath (special file : Bool) (text : List Char) : UrlPath.Segments :=
  if text.isEmpty && !special then []
  else
    let rest :=
      match text with
      | c :: rest => if isSlash special c then rest else text
      | [] => []
    let segments := (UrlPath.splitAt (isSlash special) rest).map (Percent.encode UrlPath.isReserved)
    UrlPath.pushAll file [] segments

def parseFragment (text : List Char) : Option String :=
  match text with
  | '#' :: rest => some (String.ofList (Percent.encode isReservedInFragment rest))
  | _ => none

def parseQuery (special : Bool) (text : List Char) : Option String × Option String :=
  match text with
  | '?' :: rest =>
    let query := rest.takeWhile (· ≠ '#')
    (some (String.ofList (Percent.encode (isReservedInQuery special) query)),
      parseFragment (rest.dropWhile (· ≠ '#')))
  | text => (none, parseFragment text)

/-- A URL with all that follows its authority. -/
def withRest (url : Url) (text : List Char) : Url :=
  let (query, fragment) := parseQuery url.isSpecial (text.dropWhile (!isSuffixMark ·))
  { url with
    path := parsePath url.isSpecial url.isFile (text.takeWhile (!isSuffixMark ·))
    query := query
    fragment := fragment }

/-! ## Whole URLs -/

def parseSpecial (scheme : String) (text : List Char) : Except UrlError (Option Url) := do
  let authority := text.takeWhile (!endsAuthority true ·)
  let rest := text.dropWhile (!endsAuthority true ·)
  let (info, hostAndPort) := splitUserInfo authority
  let (hostText, after) := splitHost false hostAndPort
  if hostText.isEmpty then throw .emptyHost
  let host ← Host.parseSpecial hostText
  let port ← parsePort (after.drop 1)
  let (username, password) := userInfo (info.getD [])
  let url : Url := {
    scheme := scheme
    username := username
    password := password
    host := host
    port := port.filter fun p => defaultPort? scheme ≠ some p }
  pure (some (url.withRest rest))

/-- After a port that a backslash ends, the backslash begins the path. -/
def parseOther (scheme : String) (text : List Char) : Except UrlError (Option Url) := do
  let authority := text.takeWhile (!endsAuthority false ·)
  let rest := text.dropWhile (!endsAuthority false ·)
  let (info, hostAndPort) := splitUserInfo authority
  let (hostText, after) := splitHost false hostAndPort
  let (username, password) := userInfo (info.getD [])
  if info = some [] ∧ hostAndPort.isEmpty ∧ ¬rest.isEmpty then throw .emptyHost
  let host ← Host.parseOpaque hostText
  if hostText.isEmpty then
    if after.isEmpty ∧ username.isEmpty ∧ password.isEmpty then pure none
    else throw .emptyHost
  else
    let portText := (after.drop 1).takeWhile (· ≠ '\\')
    let port ← parsePort portText
    let url : Url := {
      scheme := scheme, username := username, password := password, host := host, port := port }
    pure (some (url.withRest (after.drop (portText.length + 1) ++ rest)))

/-- The host of a file reaches up to the path; the local host is no host, and
neither is one before a drive. -/
def parseFile (scheme : String) (text : List Char) : Except UrlError (Option Url) := do
  let hostText := text.takeWhile (!endsAuthority true ·)
  let rest := text.dropWhile (!endsAuthority true ·)
  if hostText.isEmpty || UrlPath.isDrive hostText then pure none
  else
    let host ← Host.parseSpecial hostText
    let url := ({ scheme := scheme, host := host } : Url).withRest rest
    if host = .name "localhost" || url.path.head?.any UrlPath.isPlainDrive then pure none
    else pure (some { url with path := UrlPath.dropLeadingEmpty url.path })

def parse (raw : String) : Except UrlError (Option Url) :=
  match splitScheme? (strip raw.toList) with
  | none => .error .relative
  | some ("file", rest) =>
    match rest with
    | a :: b :: rest =>
      if isSlash true a && isSlash true b then parseFile "file" rest else .ok none
    | _ => .ok none
  | some (scheme, rest) =>
    if isSpecialScheme scheme then parseSpecial scheme (rest.dropWhile (isSlash true))
    else
      match rest with
      | '/' :: '/' :: rest => parseOther scheme rest
      | _ => .ok none

end SearchClient.Url

import SearchClient.Text.Percent

/-!
# URL paths

A path is the list of its segments, each written after a slash; a path without
any segment is the empty text.  A segment that is one dot, plain or escaped,
names its place and one that is two dots the place above, so neither is ever
kept; at the end of a path they leave an empty segment.
-/

namespace SearchClient.UrlPath

def isReserved (c : Char) : Bool :=
  Percent.isControl c || " \"<>\x60#?\x7b\x7d".toList.contains c

/-- What is escaped in a segment that is given as it is: separators and the
escape sign itself are escaped too. -/
def isReservedInSegment (special : Bool) (c : Char) : Bool :=
  isReserved c || c = '/' || c = '%' || (special && c = '\\')

def lower (segment : List Char) : List Char := segment.map Char.toLower

def isSingleDot (segment : List Char) : Bool :=
  [".", "%2e"].contains (String.ofList (lower segment))

def isDoubleDot (segment : List Char) : Bool :=
  ["..", ".%2e", "%2e.", "%2e%2e"].contains (String.ofList (lower segment))

/-- A letter and a colon or a bar, which begin the path of a file on a drive. -/
def isDrive : List Char → Bool
  | [letter, mark] => letter.isAlpha && (mark = ':' || mark = '|')
  | _ => false

def isPlainDrive (segment : List Char) : Bool :=
  isDrive segment && segment.getLast? = some ':'

abbrev Segments := List (List Char)

/-- The path above; a drive has none. -/
def parent (file : Bool) (path : Segments) : Segments :=
  match path with
  | [segment] => if file && isPlainDrive segment then path else []
  | path => path.dropLast

/-- A path with one more segment, already escaped.  `last` is unset when a slash
follows it. -/
def push (file : Bool) (path : Segments) (segment : List Char) (last : Bool) : Segments :=
  let closing : Segments := if last then [[]] else []
  if isDoubleDot segment then parent file path ++ closing
  else if isSingleDot segment then path ++ closing
  else if file && path.isEmpty && isDrive segment then
    [segment.take 1 ++ [':']]
  else path ++ [segment]

def pushAll (file : Bool) (path : Segments) : Segments → Segments
  | [] => path
  | [segment] => push file path segment true
  | segment :: rest => pushAll file (push file path segment false) rest

/-- The segments of a path between slashes, from the text after the first one. -/
def splitAt (isSlash : Char → Bool) : List Char → Segments
  | [] => [[]]
  | c :: rest =>
    if isSlash c then [] :: splitAt isSlash rest
    else
      match splitAt isSlash rest with
      | segment :: segments => (c :: segment) :: segments
      | [] => [[c]]

/-- Paths of files begin with one slash only. -/
def dropLeadingEmpty (path : Segments) : Segments :=
  match path.dropWhile List.isEmpty with
  | [] => [[]]
  | path => path

/-! ## Appending -/

/-- A path without the empty segment at its end; the root keeps it. -/
def popEmpty (path : Segments) : Segments :=
  match path with
  | [_] => path
  | path => if path.getLast? = some [] then path.dropLast else path

def isStripped (c : Char) : Bool := c = '\t' || c = '\n' || c = '\r'

/-- A segment put after a path, in the place of the root's empty one.  Dots are
skipped; tabs and line ends are dropped before the rest is escaped. -/
def extend (special file : Bool) (path : Segments) (segment : String) : Segments :=
  if segment = "." ∨ segment = ".." then path
  else
    let text := segment.toList.filter (!isStripped ·)
    let escaped := Percent.encode (isReservedInSegment special) text
    let path := push file (if path = [[]] then [] else path) escaped true
    if file then dropLeadingEmpty path else path

def resource (special file : Bool) (path : Segments) (segments : List String) : Segments :=
  segments.foldl (extend special file) (popEmpty path)

def render (path : Segments) : List Char := path.flatMap ('/' :: ·)

end SearchClient.UrlPath

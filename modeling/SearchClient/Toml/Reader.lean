import SearchClient.Toml.Node
import SearchClient.Toml.Number

/-!
# Reading TOML documents

A document is a sequence of lines: headers, key and value pairs, comments, and
nothing.  Line ends are a line feed, alone or after a carriage return, and a byte
order mark may come first.  `State` holds the document so far and the header
that pairs go under.  Fewer than eighty arrays and inline tables may stand
inside each other, and as many parts in a key.
-/

namespace SearchClient.Toml

def maxLevels : Nat := 79

def skipBlanks (text : List Char) : List Char := text.dropWhile Text.isBlank

/-- The text after blanks, line ends and comments. -/
def skipLines (inComment : Bool) : List Char → Option (List Char)
  | [] => if inComment then none else some []
  | c :: rest =>
    if c = '\n' then skipLines false rest
    else if c = '\r' then
      if rest.head? = some '\n' then skipLines inComment rest else none
    else if inComment then
      if Text.isPlain c then skipLines true rest else none
    else if Text.isBlank c then skipLines false rest
    else if c = '#' then skipLines true rest
    else some (c :: rest)

/-- The text of the next line, when nothing but a comment is left on this one. -/
def endLine (text : List Char) : Option (List Char) :=
  let rest :=
    match skipBlanks text with
    | '#' :: comment => comment.dropWhile Text.isPlain
    | rest => rest
  match rest with
  | [] => some []
  | '\n' :: rest => some rest
  | '\r' :: '\n' :: rest => some rest
  | _ => none

/-! ## Keys -/

def isBareChar (c : Char) : Bool := c.isAlphanum || c = '_' || c = '-'

def readSimpleKey (text : List Char) : Option (String × List Char) :=
  match text with
  | '"' :: rest => (Text.readBasic rest).map fun (key, rest) => (String.ofList key, rest)
  | '\'' :: rest => (Text.readLiteral rest).map fun (key, rest) => (String.ofList key, rest)
  | text =>
    let key := text.takeWhile isBareChar
    if key.isEmpty then none else some (String.ofList key, text.dropWhile isBareChar)

/-- The parts of a dotted key, with blanks around each. -/
def readKey : Nat → List Char → Option (List String × List Char)
  | 0, _ => none
  | parts + 1, text => do
    let (key, rest) ← readSimpleKey (skipBlanks text)
    match skipBlanks rest with
    | '.' :: rest => do
      let (keys, rest) ← readKey parts rest
      pure (key :: keys, rest)
    | rest => pure ([key], rest)

/-! ## Values -/

def expectWord (word : List Char) (text : List Char) : Option (List Char) :=
  if word.isPrefixOf text then some (text.drop word.length) else none

def readScalar (text : List Char) : Option (Scalar × List Char) :=
  match text with
  | '"' :: _ | '\'' :: _ =>
    (Text.read? text).map fun (value, rest) => (.string (String.ofList value), rest)
  | 't' :: rest => (expectWord ['r', 'u', 'e'] rest).map (.bool true, ·)
  | 'f' :: rest => (expectWord ['a', 'l', 's', 'e'] rest).map (.bool false, ·)
  | text =>
    match readDateTime text with
    | some (value, rest) => some (.dateTime value, rest)
    | none =>
      match readNumeral text with
      | some (.int value, rest) => some (.int value, rest)
      | some (.float value, rest) => some (.float value, rest)
      | none => none

mutual

/-- A value with at most `levels` arrays and inline tables inside each other. -/
def readValue : Nat → Nat → List Char → Option (Node × List Char)
  | 0, _, _ => none
  | fuel + 1, levels, text =>
    match text, levels with
    | '[' :: _, 0 => none
    | '{' :: _, 0 => none
    | '[' :: rest, levels + 1 => readItems fuel levels [] rest
    | '{' :: rest, levels + 1 =>
      match skipBlanks rest with
      | '}' :: rest => some (.inline [], rest)
      | rest => readPairs fuel levels [] rest
    | text, _ => (readScalar text).map fun (value, rest) => (.scalar value, rest)

/-- Items up to the closing bracket; a comma may follow the last one. -/
def readItems : Nat → Nat → List Node → List Char → Option (Node × List Char)
  | 0, _, _, _ => none
  | fuel + 1, levels, items, text =>
    match skipLines false text with
    | some (']' :: rest) => some (.array items, rest)
    | some text =>
      match readValue fuel levels text with
      | none => none
      | some (item, rest) =>
        match skipLines false rest with
        | some (',' :: rest) => readItems fuel levels (items ++ [item]) rest
        | some (']' :: rest) => some (.array (items ++ [item]), rest)
        | _ => none
    | none => none

/-- Pairs up to the closing brace, all on one line. -/
def readPairs : Nat → Nat → Table → List Char → Option (Node × List Char)
  | 0, _, _, _ => none
  | fuel + 1, levels, table, text =>
    match readKey maxLevels text with
    | some (path, '=' :: rest) =>
      match readValue fuel levels (skipBlanks rest) with
      | none => none
      | some (value, rest) =>
        match path.getLast?.bind fun key =>
            table.insertDotted? key value true path.dropLast with
        | none => none
        | some table =>
          match skipBlanks rest with
          | ',' :: rest => readPairs fuel levels table rest
          | '}' :: rest => some (.inline table, rest)
          | _ => none
    | _ => none

end

/-! ## Lines -/

structure State where
  root : Table
  header : List String

def State.openTable? (state : State) (path : List String) : Option State := do
  let key ← path.getLast?
  let root ← state.root.modify? (Table.addHeader? key) path.dropLast
  pure ⟨root, path⟩

def State.openItem? (state : State) (path : List String) : Option State := do
  let key ← path.getLast?
  let root ← state.root.modify? (Table.addItem? key) path.dropLast
  pure ⟨root, path⟩

def State.insert? (state : State) (path : List String) (value : Node) : Option State := do
  let key ← path.getLast?
  let root ← state.root.modify? (Table.insertDotted? key value true path.dropLast) state.header
  pure { state with root := root }

def readLine (state : State) (text : List Char) : Option (State × List Char) :=
  match skipBlanks text with
  | '[' :: '[' :: rest => do
    let (path, rest) ← readKey maxLevels rest
    let rest ← expectWord [']', ']'] rest
    let state ← state.openItem? path
    pure (state, ← endLine rest)
  | '[' :: rest => do
    let (path, rest) ← readKey maxLevels rest
    let rest ← expectWord [']'] rest
    let state ← state.openTable? path
    pure (state, ← endLine rest)
  | text =>
    match endLine text with
    | some rest => some (state, rest)
    | none => do
      let (path, rest) ← readKey maxLevels text
      let rest ← expectWord ['='] rest
      let (value, rest) ← readValue (rest.length + 1) maxLevels (skipBlanks rest)
      let state ← state.insert? path value
      pure (state, ← endLine rest)

/-- Every line takes a character, so the length of the text bounds their number. -/
def readLines : Nat → State → List Char → Option State
  | _, state, [] => some state
  | 0, _, _ :: _ => none
  | fuel + 1, state, text =>
    match readLine state text with
    | some (state, rest) => readLines fuel state rest
    | none => none

def dropMark : List Char → List Char
  | '\uFEFF' :: rest => rest
  | text => text

def parse? (text : List Char) : Option Table :=
  (readLines (text.length + 1) ⟨[], []⟩ (dropMark text)).map State.root

end SearchClient.Toml

import SearchClient.Toml.Node
import SearchClient.Toml.Text

/-!
# Printing TOML documents

A document is printed as its plain pairs, then each table under its header, with
an empty line before a header.  Keys are bare.
-/

namespace SearchClient.Toml

/-- What a printed document holds. -/
inductive Plain where
  | string (text : String)
  | int (value : Int)
  | bool (value : Bool)
  deriving DecidableEq

def Plain.render : Plain → List Char
  | .string text => Text.encode text.toList
  | .int value => (toString value).toList
  | .bool value => (if value then "true" else "false").toList

def renderPair (pair : String × Plain) : List Char :=
  pair.1.toList ++ [' ', '=', ' '] ++ pair.2.render ++ ['\n']

def renderPairs (pairs : List (String × Plain)) : List Char := pairs.flatMap renderPair

def renderTable (table : String × List (String × Plain)) : List Char :=
  ['\n', '['] ++ table.1.toList ++ [']', '\n'] ++ renderPairs table.2

def renderDocument (pairs : List (String × Plain))
    (tables : List (String × List (String × Plain))) : List Char :=
  renderPairs pairs ++ tables.flatMap renderTable

end SearchClient.Toml

import SearchClient.Query.Basic
import SearchClient.Spec.Keyword
import SearchClient.Text.Percent

/-!
# Keywords as queries

The text of a keyword is form-encoded.  `ofKeyword?` searches for all terms in
one clause: over the given columns with a search type, over the default field
without one, and not at all with a search type but no columns.  `ofTerms` makes
one clause for each term.
-/

namespace SearchClient

def defaultField : String := "_all"

def phrasePrefixType : String := "phrase_prefix"

/-- The flag overrides the search type. -/
def MultiMatch.ofText (text : String) (columns : List String) (searchType : Option String)
    (phrasePrefix : Bool) : MultiMatch where
  query := text
  matchType := if phrasePrefix then some phrasePrefixType else searchType
  fields := columns

def Query.ofKeyword? (keyword : Keyword) (columns : Option (List String))
    (searchType : Option String) (phrasePrefix : Bool) : Option Query :=
  let text := Percent.decodeForm (" ".intercalate keyword.terms)
  match searchType, columns with
  | some searchType, some columns =>
    some (.multiMatch (.ofText text columns (some searchType) phrasePrefix))
  | none, _ => some (.fullText .words (.singleton defaultField (.string text)))
  | some _, none => none

def Query.ofTerms (keyword : Keyword) (columns : List String) (searchType : Option String)
    (phrasePrefix : Bool) : List Query :=
  keyword.terms.map fun term =>
    .multiMatch (.ofText (Percent.decodeForm term) columns searchType phrasePrefix)

end SearchClient

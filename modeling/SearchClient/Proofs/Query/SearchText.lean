import SearchClient.Proofs.Text.Form
import SearchClient.Query.OfKeyword

/-!
# The text of a keyword search

A keyword is searched for as the text that its form stands for.  Whether the
terms of a keyword are searched for together or each on its own, they are
decoded alike: no escape and no sequence of bytes reaches from one term into the
next.
-/

namespace SearchClient.Query

/-- The text that a clause looks for. -/
def searchText? : Query → Option String
  | .multiMatch clause => some clause.query
  | .fullText _ values =>
      match values.toList with
      | [(_, .string text)] => some text
      | _ => none
  | _ => none

/-- Only a search type without columns leaves a keyword without a clause. -/
theorem ofKeyword?_eq (keyword : Keyword) (columns : Option (List String))
    (searchType : Option String) (phrasePrefix : Bool) :
    (ofKeyword? keyword columns searchType phrasePrefix).map searchText? =
      if searchType.isSome && columns.isNone then none
      else some (some (" ".intercalate (keyword.terms.map Percent.decodeForm)))
    := by
  rw [← Percent.decodeForm_intercalate]
  cases searchType <;> cases columns <;> rfl

theorem ofTerms_eq (keyword : Keyword) (columns : List String)
    (searchType : Option String) (phrasePrefix : Bool) :
    ofTerms keyword columns searchType phrasePrefix =
      (keyword.terms.map Percent.decodeForm).map fun text =>
        .multiMatch (.ofText text columns searchType phrasePrefix) := by
  rw [ofTerms, List.map_map]
  rfl

/--
A term that is a form of a text is searched for as that text, in the one clause
of a keyword that has no other term and in the clause of its own that it gets
among others.
-/
theorem reads_every_form {text written : String}
    (h : Percent.IsForm text written) (searchType : Option String)
    (phrasePrefix : Bool) :
    (∀ (keyword : Keyword) (columns : Option (List String)),
      keyword.terms = [written] →
      (ofKeyword? keyword columns searchType phrasePrefix).map searchText? =
        if searchType.isSome && columns.isNone then none
        else some (some text)) ∧
    ∀ (keyword : Keyword) (columns : List String) (i : Nat),
      keyword.terms[i]? = some written →
      (ofTerms keyword columns searchType phrasePrefix)[i]?.map searchText? =
        some (some text) := by
  have hread := Percent.decodeForm_of_isForm h
  constructor
  · intro keyword columns hterms
    rw [ofKeyword?_eq, hterms, List.map_singleton, hread,
      String.intercalate_singleton]
  · intro keyword columns i hterm
    rw [ofTerms_eq, List.getElem?_map, List.getElem?_map, hterm]
    exact congrArg (fun text => some (some text)) hread

theorem reads_every_form_of_mixed :
    Percent.IsForm "éé +%" "é%c3%A9+%2b%25" ∧
      (ofKeyword? (.one "é%c3%A9+%2b%25") none none false).map searchText? =
        some (some "éé +%") ∧
      (ofTerms (.many ["%C3", "é%c3%A9+%2b%25"]) ["title"] (some "phrase")
        true)[1]?.map searchText? = some (some "éé +%") := by
  have hform : Percent.IsForm "éé +%" "é%c3%A9+%2b%25" :=
    ⟨[['é'], ['%', 'c', '3', '%', 'A', '9'], ['+'], ['%', '2', 'b'],
      ['%', '2', '5']],
      .cons (.itself (by decide) (by decide)) (.cons (.escapes (by decide))
        (.cons .plus (.cons (.escapes (by decide))
          (.cons (.escapes (by decide)) .nil)))),
      rfl⟩
  exact ⟨hform, (reads_every_form hform none false).1 _ none rfl,
    (reads_every_form hform (some "phrase") true).2 _ ["title"] 1 rfl⟩

/--
The clause for all terms of a keyword looks for the texts of their own clauses,
with single spaces between them; with a search type it has their type and their
columns, and without one it looks in the default field.
-/
theorem joined_text_agrees (keyword : Keyword) (columns : List String)
    (searchType : Option String) (phrasePrefix : Bool) :
    ∃ (texts : List String) (matchType : Option String),
      ofTerms keyword columns searchType phrasePrefix =
        texts.map (fun text => .multiMatch ⟨text, matchType, columns⟩) ∧
      ofKeyword? keyword (some columns) searchType phrasePrefix = some (
        if searchType.isSome then
          .multiMatch ⟨" ".intercalate texts, matchType, columns⟩
        else
          .fullText .words
            (.singleton defaultField (.string (" ".intercalate texts)))) := by
  refine ⟨keyword.terms.map Percent.decodeForm,
    if phrasePrefix then some phrasePrefixType else searchType,
    ofTerms_eq keyword columns searchType phrasePrefix, ?_⟩
  rw [← Percent.decodeForm_intercalate]
  cases searchType <;> rfl

end SearchClient.Query

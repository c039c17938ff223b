import Mathlib.Data.List.Forall2
import SearchClient.Proofs.Query.Assembled
import SearchClient.Proofs.Text.Utf8
import SearchClient.Response.Normalize

/-!
# Answers and what was asked for

What a search makes of the engine's answer is told by the body that was sent:
the groups are those of the requested aggregations, the fragment that is shown
is one for the first highlighted field, and sort values are shown when the body
sorts.
-/

namespace SearchClient

namespace Hit

/-- The first fragment that the hit has for a field. -/
def firstFragment? (hit : Hit) (field : String) : Option Json :=
  (hit.highlight.bind (·.get? field)).bind (·.item? 0)

theorem fragment?_eq (s : Specification) (hit : Hit) :
    hit.fragment? s = s.highlightField?.bind fun field =>
      (hit.firstFragment? field).map (field, ·) := by
  unfold fragment? firstFragment?
  cases s.highlightField? with
  | none => rfl
  | some field =>
      cases hit.highlight with
      | none => rfl
      | some highlight =>
          cases hget : highlight.get? field with
          | none => simp [hget]
          | some fragments => cases hitem : fragments.item? 0 <;> simp [hget, hitem]

theorem get?_document {s : Specification} {hit : Hit} {key : String}
    (hid : key ≠ "_id") (hscore : key ≠ "_score") :
    (hit.document s).get? key =
      if s.highlightField? = some key then
        (hit.firstFragment? key).or (hit.source.get? key)
      else hit.source.get? key := by
  rw [document, Entries.get?_insert, if_neg hscore, Entries.get?_insert,
    if_neg hid, fragment?_eq]
  cases s.highlightField? with
  | none => simp
  | some field =>
      by_cases hfield : field = key
      · subst hfield
        cases hfirst : hit.firstFragment? field <;>
          simp [hfirst, Entries.get?_insert]
      · have hne : key ≠ field := fun h => hfield h.symm
        cases hfirst : hit.firstFragment? field <;>
          simp [hfirst, Entries.get?_insert, hfield, hne]

end Hit

namespace Specification

variable {s : Specification} {mode : SearchMode} {body : SearchBody}

theorem Assembled.highlightField? (h : s.Assembled mode body) :
    s.highlightField? = body.highlight.bind fun shown => shown.fields.keys.head? := by
  rw [h.highlight, highlightField?_eq_bind]

theorem Assembled.isSorted (h : s.Assembled mode body) :
    s.isSorted = !body.sort.isEmpty := by
  rw [h.sort_isEmpty, Specification.isSorted]

end Specification

namespace SearchResponse

theorem groups_results (s : Specification) (response : SearchResponse) :
    (response.results s).groups =
      if s.grouped then response.aggregations.map (groups s) else none := by
  unfold results
  split
  · rfl
  · unfold pageResults
    split <;> rfl

end SearchResponse

namespace Envelope

open Specification

theorem ofAnswer_search {bytes : List UInt8} {response : SearchResponse}
    (hread : SearchResponse.ofBytes? bytes = some response) (mode : SearchMode)
    (s : Specification) :
    ofAnswer bytes (.search mode) s = .hits (response.results s) := by
  simp [ofAnswer, Operation.isSearch, searchResults, hread]

end Envelope

end SearchClient

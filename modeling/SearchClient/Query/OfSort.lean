import SearchClient.Query.Basic
import SearchClient.Spec.Error
import SearchClient.Spec.Sort
import SearchClient.Text.Lowercase

/-!
# Sort clauses

One clause for each directive, in their order.  A directive that lacks what its
kind needs fails the whole list.
-/

namespace SearchClient

def FieldDirective.clause (s : FieldDirective) : SortClause :=
  .field (.singleton s.field ⟨Text.lowercase s.order, true⟩)

def ScriptDirective.clause (s : ScriptDirective) : Except SpecError SortClause :=
  match s.script with
  | none => .error .scriptSortMissingScript
  | some inline => .ok (.script {
      sortType := "number"
      script := ⟨inline, s.params.filter fun params => !params.isEmpty⟩
      order := s.order.getD ascending })

def DistanceDirective.clause (s : DistanceDirective) : Except SpecError SortClause :=
  match s.attr, s.lat, s.lon, s.unit with
  | some attr, some lat, some lon, some unit => .ok (.geoDistance {
      order := s.order.getD ascending
      unit := unit
      point := .singleton attr ⟨lat, lon⟩
      distanceType := "sloppy_arc"
      mode := "min" })
  | _, _, _, _ => .error .geoSortMissingFields

def SortDirective.clause : SortDirective → Except SpecError SortClause
  | .field s => .ok s.clause
  | .script s => s.clause
  | .distance s => s.clause

def SortClause.ofDirectives (directives : List SortDirective) :
    Except SpecError (List SortClause) :=
  directives.mapM SortDirective.clause

end SearchClient

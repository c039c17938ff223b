import SearchClient.Query.Basic
import SearchClient.Spec.Error
import SearchClient.Spec.Filter
import SearchClient.Spec.Geo

/-!
# Filters as a bool query

Each predicate adds clauses to the three lists of one `bool`, in the order of
the predicates; a geo constraint adds the last clause that must hold.  Ranges
leave their bound out, so a predicate that admits its bound has it as an
alternative among the clauses that should hold.  The alternatives of all
predicates share that one list, and only `oneOf` sets the count of them that
must hold.
-/

namespace SearchClient

namespace FilterPredicate

def bounds (value : Json) : Except SpecError (Json × Json) :=
  match value with
  | .array [low, high] => .ok (low, high)
  | _ => .error .betweenRequiresPair

/-- The items of an array that has any. -/
def items (value : Json) (error : SpecError) : Except SpecError (List Json) :=
  match value with
  | .array (item :: rest) => .ok (item :: rest)
  | _ => .error error

def matchKind (name : Option String) : Except SpecError MatchKind :=
  match name.getD "match" with
  | "match" => .ok .words
  | "match_phrase" => .ok .phrase
  | "match_phrase_prefix" => .ok .phrasePrefix
  | "match_bool_prefix" => .ok .boolPrefix
  | other => .error (.unsupportedMatchType other)

def equalClause (p : FilterPredicate) : Except SpecError Query :=
  if p.termQuery then
    (matchKind p.matchType).map fun kind => .fullText kind (.singleton p.field p.value)
  else .ok (.ofTerm p.field p.value)

end FilterPredicate

namespace GeoParameter

def clause (g : GeoParameter) : Except SpecError Query :=
  match g.attr with
  | none => .error .missingGeoFields
  | some attr =>
    if g.needBox then
      match g.leftTopLat, g.leftTopLon, g.rightBottomLat, g.rightBottomLon with
      | some top, some left, some bottom, some right =>
        .ok (.geoBoundingBox (.singleton attr ⟨⟨top, left⟩, ⟨bottom, right⟩⟩))
      | _, _, _, _ => .error .missingGeoFields
    else
      match g.lat, g.lon, g.distance, g.unit with
      | some lat, some lon, some distance, some unit =>
        .ok (.geoDistance ⟨distance.render ++ unit, .singleton attr ⟨lat, lon⟩⟩)
      | _, _, _, _ => .error .missingGeoFields

end GeoParameter

namespace BoolQuery

/-- Puts the clauses of a predicate at the ends of the tree's lists. -/
def addPredicate (minimum : Int64) (tree : BoolQuery) (p : FilterPredicate) :
    Except SpecError BoolQuery :=
  match p.operator with
  | .between => do
    let (low, high) ← FilterPredicate.bounds p.value
    pure { tree with
      must := tree.must ++ [.greaterThan p.field low, .lessThan p.field high]
      should := tree.should ++ [.anyOf [.ofTerm p.field low]] }
  | .notBetween => do
    let (low, high) ← FilterPredicate.bounds p.value
    pure { tree with
      should := tree.should ++ [.anyOf [.lessThan p.field low, .greaterThan p.field high]] }
  | .greater => .ok { tree with
      must := tree.must ++ [.greaterThan p.field p.value]
      should := tree.should ++ [.anyOf [.ofTerm p.field p.value]] }
  | .less => .ok { tree with must := tree.must ++ [.lessThan p.field p.value] }
  | .equal => do
    let clause ← p.equalClause
    pure { tree with must := tree.must ++ [clause] }
  | .notEqual => .ok { tree with mustNot := tree.mustNot ++ [.ofTerm p.field p.value] }
  | .oneOf => do
    let values ← FilterPredicate.items p.value .oneOfRequiresArray
    pure { tree with
      should := tree.should ++ [.anyOf (values.map (.ofTerm p.field))]
      minimum := some minimum }
  | .noneOf => do
    let values ← FilterPredicate.items p.value .noneOfRequiresArray
    pure { tree with mustNot := tree.mustNot ++ values.map (.ofTerm p.field) }
  | .unsupported token => .error (.unsupportedOperator token)

def addGeo (tree : BoolQuery) (geo : Option GeoParameter) : Except SpecError BoolQuery :=
  match geo with
  | none => .ok tree
  | some g => g.clause.map fun clause => { tree with must := tree.must ++ [clause] }

def ofFilters (predicates : List FilterPredicate) (geo : Option GeoParameter) (minimum : Int64) :
    Except SpecError BoolQuery := do
  let tree ← predicates.foldlM (addPredicate minimum) {}
  tree.addGeo geo

end BoolQuery

end SearchClient

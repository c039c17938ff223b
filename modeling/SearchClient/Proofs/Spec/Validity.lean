import SearchClient.Proofs.FirstFault
import SearchClient.Query.Assemble
import SearchClient.Query.Encode

/-!
# Valid specifications

What each part of a specification has to look like for a search to be made of
it, and what is reported of a part that does not.  Making the part of the search
fails with the first of its faults, and succeeds when it has none.
-/

namespace SearchClient

namespace MatchKind

def all : List MatchKind := [.words, .phrase, .phrasePrefix, .boolPrefix]

def names : List String := all.map name

end MatchKind

namespace FilterPredicate

def hasPair (p : FilterPredicate) : Bool :=
  match p.value with
  | .array [_, _] => true
  | _ => false

def hasItems (p : FilterPredicate) : Bool :=
  match p.value with
  | .array (_ :: _) => true
  | _ => false

def hasMatchKind (p : FilterPredicate) : Bool :=
  p.matchType.all MatchKind.names.contains

/-- The operator is known, and the value is what it asks for. -/
def isValid (p : FilterPredicate) : Bool :=
  match p.operator with
  | .between | .notBetween => p.hasPair
  | .oneOf | .noneOf => p.hasItems
  | .equal => !p.termQuery || p.hasMatchKind
  | .greater | .less | .notEqual => true
  | .unsupported _ => false

def faults (p : FilterPredicate) : List SpecError :=
  if p.isValid then []
  else match p.operator with
    | .between | .notBetween => [.betweenRequiresPair]
    | .oneOf => [.oneOfRequiresArray]
    | .noneOf => [.noneOfRequiresArray]
    | .equal => p.matchType.toList.map .unsupportedMatchType
    | .unsupported token => [.unsupportedOperator token]
    | .greater | .less | .notEqual => []

theorem faults_eq_nil_iff {p : FilterPredicate} :
    p.faults = [] ↔ p.isValid = true := by
  cases hvalid : p.isValid with
  | true => simp [faults, hvalid]
  | false =>
      cases hop : p.operator with
      | equal =>
          have htype : p.matchType ≠ none := by
            rintro hnone
            simp [isValid, hop, hasMatchKind, hnone] at hvalid
          simpa [faults, hvalid, hop] using htype
      | greater => simp [isValid, hop] at hvalid
      | less => simp [isValid, hop] at hvalid
      | notEqual => simp [isValid, hop] at hvalid
      | _ => simp [faults, hvalid, hop]

theorem bounds_failsFirst (p : FilterPredicate) :
    FailsFirst (bounds p.value)
      (if p.hasPair then [] else [.betweenRequiresPair]) := by
  unfold bounds hasPair
  cases p.value with
  | array items =>
      match items with
      | [] => exact .error _
      | [_] => exact .error _
      | [_, _] => exact .ok _
      | _ :: _ :: _ :: _ => exact .error _
  | _ => exact .error _

theorem items_failsFirst (p : FilterPredicate) (e : SpecError) :
    FailsFirst (items p.value e) (if p.hasItems then [] else [e]) := by
  unfold items hasItems
  cases p.value with
  | array items =>
      cases items with
      | nil => exact .error _
      | cons first rest => exact .ok _
  | _ => exact .error _

/-- A kind goes by the name that it is sent under. -/
theorem matchKind_eq_ok_iff {name : Option String} {kind : MatchKind} :
    matchKind name = .ok kind ↔ name.getD "match" = kind.name := by
  unfold matchKind
  split
  all_goals cases kind <;> simp_all [MatchKind.name]

theorem matchKind_failsFirst (p : FilterPredicate) :
    FailsFirst (matchKind p.matchType)
      (if p.hasMatchKind then []
        else p.matchType.toList.map .unsupportedMatchType) := by
  unfold hasMatchKind
  cases htype : p.matchType with
  | none => exact .ok MatchKind.words
  | some name =>
      simp only [matchKind, Option.getD_some, Option.all_some]
      split
      · exact .ok _
      · exact .ok _
      · exact .ok _
      · exact .ok _
      · next hwords hphrase hprefix hbool =>
        have hnot : MatchKind.names.contains name = false := by
          simp only [MatchKind.names, MatchKind.all, MatchKind.name,
            List.map_cons, List.map_nil, List.contains_eq_mem, List.mem_cons,
            List.not_mem_nil, or_false, decide_eq_false_iff_not, not_or]
          exact ⟨hwords, hphrase, hprefix, hbool⟩
        rw [if_neg (Bool.eq_false_iff.1 hnot)]
        exact .error _

theorem equalClause_failsFirst (p : FilterPredicate) :
    FailsFirst p.equalClause
      (if !p.termQuery || p.hasMatchKind then []
        else p.matchType.toList.map .unsupportedMatchType) := by
  unfold equalClause
  cases p.termQuery with
  | true => exact (matchKind_failsFirst p).map _
  | false => exact .ok _

end FilterPredicate

/-- A predicate is at fault whatever the tree it is added to. -/
theorem BoolQuery.addPredicate_failsFirst (minimum : Int64) (tree : BoolQuery)
    (p : FilterPredicate) : FailsFirst (addPredicate minimum tree p) p.faults := by
  unfold addPredicate FilterPredicate.faults FilterPredicate.isValid
  cases p.operator with
  | between => exact p.bounds_failsFirst.bind_ok fun _ => rfl
  | notBetween => exact p.bounds_failsFirst.bind_ok fun _ => rfl
  | greater => exact .ok _
  | less => exact .ok _
  | equal => exact p.equalClause_failsFirst.bind_ok fun _ => rfl
  | notEqual => exact .ok _
  | oneOf => exact (p.items_failsFirst _).bind_ok fun _ => rfl
  | noneOf => exact (p.items_failsFirst _).bind_ok fun _ => rfl
  | unsupported token => exact .error _

namespace GeoParameter

/-- The field, and either two corners or a point, a distance and its unit. -/
def isComplete (g : GeoParameter) : Bool :=
  g.attr.isSome &&
    if g.needBox then
      g.leftTopLat.isSome && g.leftTopLon.isSome &&
        g.rightBottomLat.isSome && g.rightBottomLon.isSome
    else g.lat.isSome && g.lon.isSome && g.distance.isSome && g.unit.isSome

def faults (g : GeoParameter) : List SpecError :=
  if g.isComplete then [] else [.missingGeoFields]

theorem faults_eq_nil_iff {g : GeoParameter} :
    g.faults = [] ↔ g.isComplete = true := by
  cases hcomplete : g.isComplete <;> simp [faults, hcomplete]

theorem clause_failsFirst (g : GeoParameter) : FailsFirst g.clause g.faults := by
  unfold clause faults isComplete
  cases g.attr with
  | none => exact .error _
  | some attr =>
      cases g.needBox with
      | true =>
          cases g.leftTopLat <;> cases g.leftTopLon <;>
            cases g.rightBottomLat <;> cases g.rightBottomLon <;> rfl
      | false =>
          cases g.lat <;> cases g.lon <;> cases g.distance <;> cases g.unit <;>
            rfl

end GeoParameter

namespace ScoreRule

def isComplete (r : ScoreRule) : Bool :=
  r.field.isSome && r.operator.isSome && r.value.isSome && r.weight.isSome

/-- The operator is one that ranks documents. -/
def isComparison (r : ScoreRule) : Bool :=
  r.operator.any fun op => op = .greater || op = .less || op = .equal

def isValid (r : ScoreRule) : Bool := r.isComplete && r.isComparison

def faults (r : ScoreRule) : List SpecError :=
  (if r.isComplete then [] else [.ruleMissingFields]) ++
    if r.isComparison then [] else [.invalidRuleOperator]

theorem faults_eq_nil_iff {r : ScoreRule} :
    r.faults = [] ↔ r.isValid = true := by
  simp [faults, isValid]

theorem scoreFunction_failsFirst (r : ScoreRule) :
    FailsFirst r.scoreFunction r.faults := by
  unfold scoreFunction faults isComplete isComparison
  cases r.operator with
  | none => cases r.field <;> cases r.value <;> cases r.weight <;> rfl
  | some op =>
      cases op <;> cases r.field <;> cases r.value <;> cases r.weight <;> rfl

end ScoreRule

namespace SortDirective

def isComplete : SortDirective → Bool
  | .field _ => true
  | .script s => s.script.isSome
  | .distance s => s.attr.isSome && s.lat.isSome && s.lon.isSome && s.unit.isSome

def faults (d : SortDirective) : List SpecError :=
  if d.isComplete then []
  else match d with
    | .field _ => []
    | .script _ => [.scriptSortMissingScript]
    | .distance _ => [.geoSortMissingFields]

theorem faults_eq_nil_iff {d : SortDirective} :
    d.faults = [] ↔ d.isComplete = true := by
  cases hcomplete : d.isComplete with
  | true => simp [faults, hcomplete]
  | false =>
      cases d with
      | field s => contradiction
      | _ => simp [faults, hcomplete]

theorem clause_failsFirst (d : SortDirective) : FailsFirst d.clause d.faults := by
  cases d with
  | field s => exact .ok _
  | script s =>
      obtain ⟨script, order, params⟩ := s
      cases script <;> rfl
  | distance s =>
      obtain ⟨attr, lat, lon, unit, order⟩ := s
      cases attr <;> cases lat <;> cases lon <;> cases unit <;> rfl

end SortDirective

end SearchClient

import SearchClient.Json.DecodeError
import SearchClient.Url.Error

/-!
# Specification errors

What can be wrong with a specification or with the host it is sent to.  None of
these reaches the engine.
-/

namespace SearchClient

inductive SpecError where
  | unsupportedOperator (token : String)
  | unsupportedMatchType (name : String)
  | oneOfRequiresArray
  | noneOfRequiresArray
  | betweenRequiresPair
  | missingGeoFields
  | geoSortMissingFields
  | scriptSortMissingScript
  | groupColumnsRequired
  | rulesRequired
  | ruleMissingFields
  | invalidRuleOperator
  | createTargetRequired
  | updateTargetRequired
  | deleteTargetRequired
  | getTargetRequired
  | indexTypeRequired
  | malformed (cause : DecodeError)
  | invalidHost (raw : String) (cause : Option UrlError)
  deriving DecidableEq

def SpecError.message : SpecError → String
  | .unsupportedOperator _ => "unsupported operator"
  | .unsupportedMatchType name => "unsupported match type: " ++ name
  | .oneOfRequiresArray => "IN requires array value"
  | .noneOfRequiresArray => "NOT IN requires array value"
  | .betweenRequiresPair => "BETWEEN requires two-element array value"
  | .missingGeoFields => "missing geo fields"
  | .geoSortMissingFields => "geo sort missing fields"
  | .scriptSortMissingScript => "dynamic sort missing script"
  | .groupColumnsRequired => "aggColumns required"
  | .rulesRequired => "rules required"
  | .ruleMissingFields => "rule missing fields"
  | .invalidRuleOperator => "invalid rule operator"
  | .createTargetRequired => "index/type required for create"
  | .updateTargetRequired => "index/type/id required for update"
  | .deleteTargetRequired => "index/type/id required for delete"
  | .getTargetRequired => "index/type/id required for get"
  | .indexTypeRequired => "index/type required"
  | .malformed cause => "invalid specification: " ++ cause.message
  | .invalidHost raw none => "invalid host: " ++ raw
  | .invalidHost raw (some cause) => "invalid host: " ++ raw ++ ": " ++ cause.message

end SearchClient

/-!
What can be wrong with a field line.
-/

namespace EntityScaffold.Line

/-- the arguments of a relation clause that hold a list of names -/
inductive ListKey
  | fields
  | references
deriving DecidableEq, Repr

def ListKey.word : ListKey → String
  | .fields => "fields"
  | .references => "references"

/-- the reason a field line or a relation clause is refused -/
inductive LineError
  | missingType (field : String)
  | invalidName (token : String)
  | unbalancedBrackets
  | expectedList (key : ListKey)
  | unterminatedString
deriving DecidableEq, Repr

def LineError.message : LineError → String
  | .missingType field => "Missing type for field `" ++ field ++ "`"
  | .invalidName token => "Invalid field name: " ++ token
  | .unbalancedBrackets => "Unbalanced brackets in relation clause"
  | .expectedList key => "Expected `[` after `" ++ key.word ++ ":`"
  | .unterminatedString => "Unterminated string"

end EntityScaffold.Line

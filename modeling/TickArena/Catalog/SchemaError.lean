/-!
# Why a definition is refused
-/

namespace TickArena

/-- A definition is not valid in a catalog. -/
inductive SchemaError where
  | missingId
  | duplicateId (id : String)
  | abilityMismatch (id type ability : String)
  | invalidRequirement (id : String) (index : Nat) (kind reason : String)
  | invalidStat (id stat : String)
  deriving DecidableEq

def SchemaError.message : SchemaError → String
  | missingId => "definition is missing an id"
  | duplicateId id => s!"component '{id}' is defined twice"
  | abilityMismatch id type ability =>
    s!"component '{id}' is a {type} but its ability is {ability}"
  | invalidRequirement id index kind reason =>
    s!"component '{id}' requirement #{index} ({kind}): {reason}"
  | invalidStat id stat => s!"component '{id}' has non-finite base stat '{stat}'"

end TickArena

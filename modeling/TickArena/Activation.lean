import TickArena.Catalog.Condition

/-!
# Activation

A component acts only if the sequence meets all its requirements.  A neighbour
past either end is no match and never an error; a custom condition that breaks
counts as not met.
-/

namespace TickArena

namespace Requirement

def broken (placement : Placement) (reason : String) : Except Failure Bool :=
  .error (.requirement placement.componentId reason)

def checkCustom (conditions : Conditions) (name : String) (placement : Placement)
    (context : Context) : Except Failure Bool :=
  match conditions.get? name with
  | none => broken placement s!"condition '{name}' is not registered"
  | some condition =>
    match condition placement context with
    | .answer holds => .ok holds
    | .gaveUp reason => broken placement reason
    | .crashed payload =>
      broken placement s!"condition '{name}' panicked: {crashReason payload}"

def check (conditions : Conditions) (placement : Placement) (context : Context) :
    Requirement → Except Failure Bool
  | position rule => .ok (rule.admits placement.position context.size)
  | adjacentTag tag direction =>
    .ok ((context.neighbors placement.position direction).any (·.component.hasTag tag))
  | adjacentType type direction =>
    .ok ((context.neighbors placement.position direction).any (·.type = type))
  | sandwich previous next =>
    match context.previous? placement.position, context.next? placement.position with
    | some before, some after => .ok (before.matchedBy previous && after.matchedBy next)
    | _, _ => .ok false
  | sequenceCount criteria minimum => .ok (minimum ≤ context.countMatching criteria)
  | tagDiversity minimum => .ok (minimum ≤ context.distinctTags.size)
  | globalPresence criteria =>
    .ok (context.anyOtherMatching placement.position criteria)
  | evolutionStage minimum => .ok (minimum ≤ placement.evolutionLevel)
  | custom name => checkCustom conditions name placement context

def failure? (conditions : Conditions) (placement : Placement) (context : Context)
    (requirement : Requirement) : Option String :=
  match requirement.check conditions placement context with
  | .ok true => none
  | .ok false => some requirement.lack
  | .error failure => some s!"custom condition errored: {failure.message}"

/-- Why the first requirement of a list is not met that is not. -/
def firstFailure? (conditions : Conditions) (placement : Placement) (context : Context)
    (requirements : List Requirement) : Option String :=
  requirements.findSome? (failure? conditions placement context)

def allMet (conditions : Conditions) (placement : Placement) (context : Context)
    (requirements : List Requirement) : Bool :=
  (firstFailure? conditions placement context requirements).isNone

end Requirement

end TickArena

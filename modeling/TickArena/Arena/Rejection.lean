/-!
# Why a submission is refused
-/

namespace TickArena

def participantName (participant : Nat) : String :=
  s!"participant#{participant}"

/-- A submitted sequence is not accepted, and nothing is stored. -/
inductive Rejection where
  | sequenceTooLong (length max : Nat)
  | emptySequence
  | emptySlot (slot : Nat)
  | unknownComponent (slot : Nat) (id : String)
  | notOwned (participant slot : Nat) (id : String)
  | invalidEvolution (slot level max : Nat)
  deriving DecidableEq

def Rejection.message : Rejection → String
  | sequenceTooLong length max => s!"sequence has {length} slots, at most {max} allowed"
  | emptySequence => "sequence contains no components"
  | emptySlot slot => s!"slot {slot} is empty and empty slots are not permitted"
  | unknownComponent slot id => s!"slot {slot} references unknown component '{id}'"
  | notOwned participant slot id =>
    s!"{participantName participant} does not own component '{id}' (slot {slot})"
  | invalidEvolution slot level max =>
    s!"slot {slot} has evolution level {level}, above the maximum {max}"

end TickArena

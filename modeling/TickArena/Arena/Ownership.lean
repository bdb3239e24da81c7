/-!
# Ownership

Which participants may field which components.  An inventory is a list of grants.
Where it sets no limit everything is owned by everyone, whatever has been granted.
-/

namespace TickArena

/-- The grants, and whether they limit what participants may field. -/
structure Ownership where
  limited : Bool
  grants : List (Nat × String)
  deriving DecidableEq

namespace Ownership

def everyone : Ownership :=
  ⟨false, []⟩

def inventory (grants : List (Nat × String)) : Ownership :=
  ⟨true, grants⟩

/-- Whether a component is in the inventory of a participant. -/
def granted (ownership : Ownership) (participant : Nat) (id : String) : Bool :=
  ownership.grants.contains (participant, id)

def owns (ownership : Ownership) (participant : Nat) (id : String) : Bool :=
  !ownership.limited || ownership.granted participant id

/-- Adds a component to the inventory of a participant. -/
def grant (participant : Nat) (id : String) (ownership : Ownership) : Ownership :=
  { ownership with grants := ownership.grants.insert (participant, id) }

/-- Takes a component out of the inventory of a participant. -/
def revoke (participant : Nat) (id : String) (ownership : Ownership) : Ownership :=
  { ownership with grants := ownership.grants.filter fun entry => entry ≠ (participant, id) }

def forget (participant : Nat) (ownership : Ownership) : Ownership :=
  { ownership with grants := ownership.grants.filter fun entry => entry.1 ≠ participant }

end Ownership

end TickArena

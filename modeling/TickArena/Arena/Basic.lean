import TickArena.Arena.Ownership
import TickArena.Arena.Standing
import TickArena.Catalog.Basic
import TickArena.Failure
import TickArena.Random.Draw
import TickArena.Settings.Basic
import TickArena.Simulation.Run

/-!
# The arena

The arena holds what participants have submitted, the results of the last tick, and
the performance of everyone who still takes part.  Participants are numbers.
-/

namespace TickArena

/-- A stored sequence with the hash its sender gave it. -/
structure Submission where
  slots : Slots
  hash : String
  deriving DecidableEq

structure Arena where
  catalog : Catalog
  settings : Settings
  ownership : Ownership
  submissions : Table Nat Submission
  standings : Table Nat Standing
  performances : Table Nat Performance
  highestDamage : Float
  ticksProcessed : Nat

namespace Arena

def create (catalog : Catalog) (settings : Settings) (ownership : Ownership) : Arena :=
  { catalog, settings, ownership
    submissions := ∅
    standings := ∅
    performances := ∅
    highestDamage := 0
    ticksProcessed := 0 }

/-! ### Submissions -/

def slotProblem? (arena : Arena) (participant number : Nat) : Option Slot → Option Rejection
  | none => if arena.settings.allowEmptySlots then none else some (.emptySlot number)
  | some slot =>
    if !arena.catalog.contains slot.componentId then
      some (.unknownComponent number slot.componentId)
    else if arena.settings.maxEvolutionLevel < slot.evolutionLevel then
      some (.invalidEvolution number slot.evolutionLevel arena.settings.maxEvolutionLevel)
    else if arena.settings.enforceOwnership
        && !arena.ownership.owns participant slot.componentId then
      some (.notOwned participant number slot.componentId)
    else none

/-- Why a submission is refused: its length, then the first bad slot, and last that it
holds nothing.  Empty slots are something where they are allowed. -/
def problem? (arena : Arena) (participant : Nat) (slots : Slots) : Option Rejection :=
  if maxSequenceLength < slots.length then some (.sequenceTooLong slots.length maxSequenceLength)
  else
    match (slots.zipIdx 1).findSome? fun (slot, number) =>
        arena.slotProblem? participant number slot with
    | some problem => some problem
    | none =>
      if slots.any Option.isSome || (arena.settings.allowEmptySlots && !slots.isEmpty) then none
      else some .emptySequence

/-- Stores a valid submission.  One with the stored hash is accepted and changes
nothing. -/
def submit (arena : Arena) (participant : Nat) (submission : Submission) :
    Except Rejection Arena :=
  if (arena.submissions.get? participant).any (·.hash = submission.hash) then .ok arena
  else
    match arena.problem? participant submission.slots with
    | some problem => .error problem
    | none =>
      .ok { arena with submissions := arena.submissions.insert participant submission }

def holds (arena : Arena) (participant : Nat) : Bool :=
  arena.submissions.contains participant || arena.standings.contains participant
    || arena.performances.contains participant

def depart (arena : Arena) (participant : Nat) : Arena :=
  { arena with
    submissions := arena.submissions.erase participant
    standings := arena.standings.erase participant
    performances := arena.performances.erase participant }

/-! ### Questions -/

def size (arena : Arena) : Nat :=
  arena.submissions.size

def ranking (arena : Arena) : List Standing :=
  (arena.standings.rows.map (·.2)).mergeSort fun a b => a.rank ≤ b.rank

def display (arena : Arena) : String :=
  s!"EvaluationService \x7b catalog_size: {arena.catalog.size}, participants: {arena.size} \x7d"

def draws (arena : Arena) (participant tick : Nat) : Random.Units :=
  Random.unitsOfSeed <| Random.participantSeed (.ofNat arena.settings.seed) (.ofNat tick)
    (.ofNat participant)

/-- The report of a sequence, which depends on nothing but the seed, the tick, the
participant and the slots. -/
def evaluate (arena : Arena) (participant tick : Nat) (slots : Slots) : Report :=
  arena.catalog.simulate (arena.draws participant tick) slots

end Arena

end TickArena

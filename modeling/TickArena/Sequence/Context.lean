import TickArena.Failure
import TickArena.Sequence.Ledger
import TickArena.Sequence.Slot

/-!
# Sequence contexts

A context is one participant's sequence during one evaluation.  Empty slots and
unknown components take no position, so positions count only what is there: of
the slots `[_, A, _, B]` the first position holds `A` and the second `B`.
-/

namespace TickArena

/-- A component as it stands in a sequence: the slot it was submitted in and the
position it takes, both counted from one. -/
structure Placement where
  componentId : String
  slot : Nat
  position : Nat
  rarity : Rarity
  evolutionLevel : Nat

/-- A populated position with the definition it refers to. -/
structure Entry where
  placement : Placement
  component : Component

namespace Entry

def position (entry : Entry) : Nat :=
  entry.placement.position

def type (entry : Entry) : ComponentType :=
  entry.component.type

def matchedBy (entry : Entry) (criteria : Criteria) : Bool :=
  criteria.describes entry.component entry.placement.rarity

end Entry

/-- The entries in position order, the positions of the slots by their numbers, what has
been written so far, and the damage of each strike so far by position. -/
structure Context where
  entries : List Entry
  slotPositions : List (Option Nat)
  ledger : Ledger
  strikes : Table Nat Float
  diagnostics : List String

namespace Context

instance : EmptyCollection Context :=
  ⟨{ entries := []
     slotPositions := .replicate (maxSequenceLength + 1) none
     ledger := ∅
     strikes := ∅
     diagnostics := [] }⟩

instance : Inhabited Context := ⟨∅⟩

def note (context : Context) (diagnostic : String) : Context :=
  { context with diagnostics := context.diagnostics ++ [diagnostic] }

def size (context : Context) : Nat :=
  context.entries.length

/-! ### Building -/

def place (context : Context) (number : Nat) (slot : Slot) (component : Component) : Context :=
  let position := context.size + 1
  let placement : Placement :=
    { componentId := slot.componentId
      slot := number
      position
      rarity := slot.rarity.getD component.rarity
      evolutionLevel := slot.evolutionLevel }
  { context with
    entries := context.entries ++ [⟨placement, component⟩]
    slotPositions := context.slotPositions.set number (some position) }

/-- Takes in the slot of a number.  Slots beyond the limit and unknown components
leave a diagnostic instead of an entry. -/
def takeIn (lookup : String → Option Component) (context : Context) (number : Nat) :
    Option Slot → Context
  | none => context
  | some slot =>
    if maxSequenceLength < number then
      context.note
        s!"slot {number} ('{slot.componentId}') is beyond the sequence limit and was ignored"
    else
      match lookup slot.componentId with
      | none =>
        let failure := Failure.unknownComponent slot.componentId
        context.note s!"slot {number}: {failure.message}"
      | some component => context.place number slot component

/-- The context of submitted slots, whose numbers count from one. -/
def build (lookup : String → Option Component) (slots : Slots) : Context :=
  (slots.zipIdx 1).foldl (fun context (slot, number) => context.takeIn lookup number slot) ∅

/-! ### Positions -/

/-- The entry at a position; position zero and positions past the end hold none. -/
def entry? (context : Context) : Nat → Option Entry
  | 0 => none
  | index + 1 => context.entries[index]?

def previous? (context : Context) (position : Nat) : Option Entry :=
  context.entry? (position - 1)

def next? (context : Context) (position : Nat) : Option Entry :=
  context.entry? (position + 1)

/-- The neighbours in a direction, the previous one first. -/
def neighbors (context : Context) (position : Nat) : Direction → List Entry
  | .previous => (context.previous? position).toList
  | .next => (context.next? position).toList
  | .either => (context.previous? position).toList ++ (context.next? position).toList

/-- The position that the component of a slot has taken, if it has taken one. -/
def positionOfSlot? (context : Context) (slot : Nat) : Option Nat :=
  context.slotPositions[slot]?.join

/-! ### Questions about the whole sequence -/

def distinctTags (context : Context) : TagSet :=
  ⟨fun tag => context.entries.any fun entry => entry.component.hasTag tag⟩

/-- How many components match, the asking one included. -/
def countMatching (context : Context) (criteria : Criteria) : Nat :=
  context.entries.countP (·.matchedBy criteria)

/-- Whether a component matches that stands at another position. -/
def anyOtherMatching (context : Context) (position : Nat) (criteria : Criteria) : Bool :=
  context.entries.any fun entry => entry.position ≠ position && entry.matchedBy criteria

def countOfType (context : Context) (type : ComponentType) : Nat :=
  context.entries.countP (·.type = type)

def contains (context : Context) (id : String) : Bool :=
  context.entries.any (·.component.id = id)

/-! ### Writing -/

/-- Writes one bonus.  A bonus for a position outside the sequence is dropped with
a diagnostic. -/
def commitOne (context : Context) (bonus : Bonus) : Context :=
  if bonus.target = 0 ∨ context.size < bonus.target then
    context.note
      s!"dropped bonus from position {bonus.source} to missing position {bonus.target}"
  else { context with ledger := context.ledger.push bonus }

def commit (context : Context) (bonuses : List Bonus) : Context :=
  bonuses.foldl commitOne context

/-- Records the damage of the strike at a position of the sequence. -/
def recordStrike (context : Context) (position : Nat) (damage : Float) : Context :=
  if position = 0 ∨ context.size < position then context
  else { context with strikes := context.strikes.insert position damage }

def strikeAt? (context : Context) (position : Nat) : Option Float :=
  context.strikes.get? position

/-- The nearest earlier position with a strike, and its damage. -/
def lastStrikeBefore? (context : Context) : Nat → Option (Nat × Float)
  | 0 => none
  | position + 1 =>
    match context.strikeAt? position with
    | some damage => some (position, damage)
    | none => context.lastStrikeBefore? position

end Context

end TickArena

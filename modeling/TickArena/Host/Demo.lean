import TickArena.Arena.Basic

/-!
# Demo participants

A demo fills the arena with participants that field random sequences of two to five
different components.
-/

namespace TickArena.Host

/-- A random sequence for a participant, and the cursor behind its draws. -/
def demoSlots (words : Random.Words) (ids : List String) (participant cursor : Nat) :
    Slots × Nat :=
  let (length, cursor) := Random.between words 2 maxSequenceLength cursor
  let (chosen, cursor) := Random.sample words ids.length length cursor
  let slots := (chosen.filterMap (ids[·]?)).map fun id =>
    some { Slot.plain id with evolutionLevel := participant % 4 }
  (slots, cursor)

/-- Lets one participant after another submit; a refused submission is passed over. -/
def seatAll (words : Random.Words) : List Nat → Nat → Arena → Arena
  | [], _, arena => arena
  | participant :: rest, cursor, arena =>
    let (slots, cursor) := demoSlots words arena.catalog.ids participant cursor
    let submission : Submission := ⟨slots, s!"demo-{participant}"⟩
    let arena :=
      match arena.submit participant submission with
      | .ok arena => arena
      | .error _ => arena
    seatAll words rest cursor arena

/-- Fills an arena with a number of demo participants, counted from one. -/
def seatDemo (arena : Arena) (count seed : Nat) : Arena :=
  seatAll (Random.ofSeed (.ofNat seed)) (List.range' 1 count) 0 arena

end TickArena.Host

import TickArena.Component.Form

/-!
# Submitted slots

A participant submits a list of slots, each empty or naming a component.
-/

namespace TickArena

/-- A filled slot.  Its rarity overrides that of the component when set. -/
structure Slot where
  componentId : String
  rarity : Option Rarity
  evolutionLevel : Nat
  deriving DecidableEq

/-- A sequence as submitted; an empty slot is nothing. -/
abbrev Slots :=
  List (Option Slot)

def maxSequenceLength : Nat :=
  5

namespace Slot

/-- A slot at the component's own rarity and without evolution. -/
def plain (componentId : String) : Slot :=
  ⟨componentId, none, 0⟩

def encode (slot : Slot) : Data :=
  .record
    [("componentId", .text slot.componentId),
      ("rarity", .ofOption Vocabulary.encode slot.rarity),
      ("evolutionLevel", .ofNat slot.evolutionLevel)]

def decode? (dialect : Dialect) (tree : Data) : Option Slot := do
  let parts ← tree.toParts? dialect ["componentId", "rarity", "evolutionLevel"]
  let componentId ← Data.required "componentId" Data.toText? parts
  let rarity ← Data.optional "rarity" (Vocabulary.decode? dialect) parts
  let evolutionLevel ← Data.withDefault "evolutionLevel" 0 Data.toHalfWord? parts
  return { componentId, rarity, evolutionLevel }

end Slot

namespace Slots

def encode (slots : Slots) : Data :=
  .ofList (Data.ofOption Slot.encode) slots

def decode? (dialect : Dialect) (tree : Data) : Option Slots :=
  tree.toList? (Data.toOption? (Slot.decode? dialect))

end Slots

end TickArena

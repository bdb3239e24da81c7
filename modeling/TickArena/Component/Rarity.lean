import TickArena.Vocabulary

/-!
# Rarity tiers

A higher tier multiplies damage and drops less often.
-/

namespace TickArena

inductive Rarity where
  | common
  | uncommon
  | rare
  | epic
  | legendary
  | mythical
  deriving DecidableEq, Repr

namespace Rarity

def name : Rarity → String
  | common => "common"
  | uncommon => "uncommon"
  | rare => "rare"
  | epic => "epic"
  | legendary => "legendary"
  | mythical => "mythical"

instance : Vocabulary Rarity where
  all := [common, uncommon, rare, epic, legendary, mythical]
  name := name
  mem_all a := by cases a <;> simp
  name_injective a b h := by cases a <;> cases b <;> simp_all [name]

/-- The tiers count from one. -/
def level : Rarity → Nat
  | common => 1
  | uncommon => 2
  | rare => 3
  | epic => 4
  | legendary => 5
  | mythical => 6

def multiplier : Rarity → Float
  | common => 1
  | uncommon => 1.25
  | rare => 1.5
  | epic => 2
  | legendary => 3
  | mythical => 5

def dropWeight : Rarity → Float
  | common => 50
  | uncommon => 25
  | rare => 15
  | epic => 7
  | legendary => 2.5
  | mythical => 0.5

def outranks (a b : Rarity) : Bool :=
  b.level < a.level

end Rarity

end TickArena

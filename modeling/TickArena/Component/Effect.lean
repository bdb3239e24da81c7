import TickArena.Vocabulary

/-!
# Damage types and side effects
-/

namespace TickArena

inductive DamageType where
  | physical
  | fire
  | frost
  | lightning
  | arcane
  | void
  deriving DecidableEq, Repr

namespace DamageType

def name : DamageType → String
  | physical => "physical"
  | fire => "fire"
  | frost => "frost"
  | lightning => "lightning"
  | arcane => "arcane"
  | void => "void"

instance : Vocabulary DamageType where
  all := [physical, fire, frost, lightning, arcane, void]
  name := name
  mem_all a := by cases a <;> simp
  name_injective a b h := by cases a <;> cases b <;> simp_all [name]

end DamageType

inductive EffectKind where
  | burn
  | slow
  | shock
  | weaken
  | empower
  deriving DecidableEq, Repr

namespace EffectKind

def name : EffectKind → String
  | burn => "burn"
  | slow => "slow"
  | shock => "shock"
  | weaken => "weaken"
  | empower => "empower"

instance : Vocabulary EffectKind where
  all := [burn, slow, shock, weaken, empower]
  name := name
  mem_all a := by cases a <;> simp
  name_injective a b h := by cases a <;> cases b <;> simp_all [name]

end EffectKind

/-- A side effect, which lasts a number of turns. -/
structure Effect where
  kind : EffectKind
  power : Float
  duration : Nat

end TickArena

import TickArena.Vocabulary

/-!
# Types of components

Cores and artifacts deal damage; modifiers and chains shape the web of bonuses
between their siblings.
-/

namespace TickArena

inductive ComponentType where
  | core
  | modifier
  | chain
  | artifact
  deriving DecidableEq, Repr

namespace ComponentType

def name : ComponentType → String
  | core => "core"
  | modifier => "modifier"
  | chain => "chain"
  | artifact => "artifact"

instance : Vocabulary ComponentType where
  all := [core, modifier, chain, artifact]
  name := name
  mem_all a := by cases a <;> simp
  name_injective a b h := by cases a <;> cases b <;> simp_all [name]

/-- Whether components of this type act in damage resolution. -/
def dealsDamage : ComponentType → Bool
  | core | artifact => true
  | modifier | chain => false

/-- Whether components of this type act in web shaping. -/
def shapesWeb : ComponentType → Bool
  | modifier | chain => true
  | core | artifact => false

/-- Every type acts in exactly one of the two phases. -/
theorem shapesWeb_eq_not_dealsDamage (type : ComponentType) :
    type.shapesWeb = !type.dealsDamage := by
  cases type <;> rfl

end ComponentType

end TickArena

import TickArena.Component.Ability
import TickArena.Component.Requirement
import TickArena.Table

/-!
# Component definitions

A component is static data: what it is, the numbers its ability uses, and what it
requires of the sequence it stands in.
-/

namespace TickArena

structure Component where
  id : String
  label : String
  description : String
  type : ComponentType
  rarity : Rarity
  baseStats : Table String Float
  tags : TagSet
  requirements : List Requirement
  ability : Ability

namespace Component

/-- A number of the ability, with a value for components that do not set it. -/
def stat (component : Component) (name : String) (default : Float) : Float :=
  (component.baseStats.get? name).getD default

def hasTag (component : Component) (tag : Tag) : Bool :=
  component.tags.has tag

/-- The label, or the id of a component without one. -/
def displayName (component : Component) : String :=
  if component.label.isEmpty then component.id else component.label

end Component

def Criteria.agrees {α : Type} [DecidableEq α] (wanted : Option α) (value : α) : Bool :=
  wanted.all (· = value)

/-- Whether the criteria describes a component at its effective rarity. -/
def Criteria.describes (criteria : Criteria) (component : Component) (rarity : Rarity) : Bool :=
  agrees criteria.type component.type
    && criteria.tag.all component.hasTag
    && agrees criteria.rarity rarity
    && agrees criteria.id component.id

end TickArena

import TickArena.Component.Rarity
import TickArena.Component.Tag
import TickArena.Component.Type

/-!
# Activation requirements

A requirement is a predicate on the place of a component in its sequence.  A
criteria describes components by any of four properties; every property that is
set must match.
-/

namespace TickArena

inductive PositionRule where
  | first
  | second
  | fourth
  | last
  | middle
  | any
  deriving DecidableEq, Repr

namespace PositionRule

def name : PositionRule → String
  | first => "first"
  | second => "second"
  | fourth => "fourth"
  | last => "last"
  | middle => "middle"
  | any => "any"

instance : Vocabulary PositionRule where
  all := [first, second, fourth, last, middle, any]
  name := name
  mem_all a := by cases a <;> simp
  name_injective a b h := by cases a <;> cases b <;> simp_all [name]

/-- Whether the rule admits a position in a sequence of a length.  Positions count
from one, and the fourth of five stands for the last but one of any length. -/
def admits (rule : PositionRule) (position length : Nat) : Bool :=
  if position = 0 ∨ length < position then false
  else
    match rule with
    | first => position = 1
    | second => position = 2
    | fourth => 2 ≤ length && position + 1 = length
    | last => position = length
    | middle => 2 ≤ position && position < length
    | any => true

end PositionRule

inductive Direction where
  | previous
  | next
  | either
  deriving DecidableEq, Repr

namespace Direction

def name : Direction → String
  | previous => "previous"
  | next => "next"
  | either => "either"

instance : Vocabulary Direction where
  all := [previous, next, either]
  name := name
  mem_all a := by cases a <;> simp
  name_injective a b h := by cases a <;> cases b <;> simp_all [name]

def phrase : Direction → String
  | previous => "previous"
  | next => "next"
  | either => "either side"

end Direction

/-- A description of components by the properties that are set. -/
structure Criteria where
  type : Option ComponentType
  tag : Option Tag
  rarity : Option Rarity
  id : Option String
  deriving DecidableEq

namespace Criteria

def unset : Criteria :=
  ⟨none, none, none, none⟩

instance : Inhabited Criteria := ⟨unset⟩

def ofType (type : ComponentType) : Criteria :=
  { unset with type }

def ofTag (tag : Tag) : Criteria :=
  { unset with tag }

def ofId (id : String) : Criteria :=
  { unset with id }

def isEmpty (criteria : Criteria) : Bool :=
  criteria.type.isNone && criteria.tag.isNone && criteria.rarity.isNone && criteria.id.isNone

end Criteria

inductive Requirement where
  | position (rule : PositionRule)
  | adjacentTag (tag : Tag) (direction : Direction)
  | adjacentType (type : ComponentType) (direction : Direction)
  | sandwich (previous next : Criteria)
  | sequenceCount (criteria : Criteria) (minimum : Nat)
  | tagDiversity (minimum : Nat)
  | globalPresence (criteria : Criteria)
  | evolutionStage (minimum : Nat)
  | custom (condition : String)
  deriving DecidableEq

namespace Requirement

/-- The kind of the predicate, as data and errors name it. -/
def kind : Requirement → String
  | position _ => "position"
  | adjacentTag _ _ => "adjacent_tag"
  | adjacentType _ _ => "adjacent_type"
  | sandwich _ _ => "sandwich"
  | sequenceCount _ _ => "sequence_count"
  | tagDiversity _ => "tag_diversity"
  | globalPresence _ => "global_presence"
  | evolutionStage _ => "evolution_stage"
  | custom _ => "custom"

def lack : Requirement → String
  | position rule => s!"needs position {Vocabulary.title rule}"
  | adjacentTag tag direction =>
    s!"needs a {Vocabulary.title tag} neighbor ({direction.phrase})"
  | adjacentType type direction =>
    s!"needs a {Vocabulary.title type} neighbor ({direction.phrase})"
  | sandwich _ _ => "needs matching neighbors on both sides"
  | sequenceCount _ minimum => s!"needs at least {minimum} matching components"
  | tagDiversity minimum => s!"needs {minimum} distinct tags"
  | globalPresence _ => "needs a matching component elsewhere"
  | evolutionStage minimum => s!"needs evolution level {minimum}"
  | custom condition => s!"condition '{condition}' not met"

end Requirement

end TickArena

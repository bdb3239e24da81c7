import TickArena.Vocabulary

/-!
# Tags

Elemental, mechanical and conceptual labels.  A set of tags is the question which
of them it has, so two sets with the same tags are the same set, and its listing
follows the declared order.
-/

namespace TickArena

inductive Tag where
  | fire
  | water
  | earth
  | air
  | lightning
  | void
  | light
  | shadow
  | mechanical
  | kinetic
  | resonant
  | arcane
  | temporal
  | ancient
  | primal
  deriving DecidableEq, Repr

namespace Tag

def name : Tag → String
  | fire => "fire"
  | water => "water"
  | earth => "earth"
  | air => "air"
  | lightning => "lightning"
  | void => "void"
  | light => "light"
  | shadow => "shadow"
  | mechanical => "mechanical"
  | kinetic => "kinetic"
  | resonant => "resonant"
  | arcane => "arcane"
  | temporal => "temporal"
  | ancient => "ancient"
  | primal => "primal"

instance : Vocabulary Tag where
  all := [fire, water, earth, air, lightning, void, light, shadow, mechanical, kinetic,
    resonant, arcane, temporal, ancient, primal]
  name := name
  mem_all a := by cases a <;> simp
  name_injective a b h := by cases a <;> cases b <;> simp_all [name]

end Tag

/-- A set of tags. -/
@[ext]
structure TagSet where
  has : Tag → Bool

namespace TagSet

instance : EmptyCollection TagSet := ⟨⟨fun _ => false⟩⟩

instance : Inhabited TagSet := ⟨∅⟩

def toList (set : TagSet) : List Tag :=
  (Vocabulary.all : List Tag).filter set.has

def ofList (tags : List Tag) : TagSet :=
  ⟨fun tag => tags.contains tag⟩

def size (set : TagSet) : Nat :=
  set.toList.length

def meets (a b : TagSet) : Bool :=
  (Vocabulary.all : List Tag).any fun tag => a.has tag && b.has tag

@[simp]
theorem mem_toList (set : TagSet) (tag : Tag) : tag ∈ set.toList ↔ set.has tag = true := by
  simp [toList, Vocabulary.mem_all]

@[simp]
theorem ofList_toList (set : TagSet) : ofList set.toList = set := by
  ext tag
  by_cases h : set.has tag <;> simp [ofList, h]

end TagSet

end TickArena

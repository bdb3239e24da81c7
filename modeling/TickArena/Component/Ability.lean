import TickArena.Component.Type

/-!
# Abilities

Every component has one ability: a strike, which produces damage and effects, or
a weave, which writes bonuses onto siblings.  The two behaviours below are names;
what they do is defined with the sequence they act in.
-/

namespace TickArena

/-- How a component deals damage. -/
inductive StrikeBehavior where
  | vanguard
  | ember
  | frost
  | storm
  | echo
  | prism
  | genesis
  | kindling
  | relic
  | voidShard
  deriving DecidableEq, Repr

namespace StrikeBehavior

def name : StrikeBehavior → String
  | vanguard => "vanguard"
  | ember => "ember"
  | frost => "frost"
  | storm => "storm"
  | echo => "echo"
  | prism => "prism"
  | genesis => "genesis"
  | kindling => "kindling"
  | relic => "relic"
  | voidShard => "void_shard"

instance : Vocabulary StrikeBehavior where
  all := [vanguard, ember, frost, storm, echo, prism, genesis, kindling, relic, voidShard]
  name := name
  mem_all a := by cases a <;> simp
  name_injective a b h := by cases a <;> cases b <;> simp_all [name]

end StrikeBehavior

/-- How a component shapes the web of bonuses. -/
inductive WeaveBehavior where
  | amplify
  | catalyze
  | resonate
  | overclock
  | chainLink
  | conduit
  | seed
  deriving DecidableEq, Repr

namespace WeaveBehavior

def name : WeaveBehavior → String
  | amplify => "amplify"
  | catalyze => "catalyze"
  | resonate => "resonate"
  | overclock => "overclock"
  | chainLink => "chain_link"
  | conduit => "conduit"
  | seed => "seed"

instance : Vocabulary WeaveBehavior where
  all := [amplify, catalyze, resonate, overclock, chainLink, conduit, seed]
  name := name
  mem_all a := by cases a <;> simp
  name_injective a b h := by cases a <;> cases b <;> simp_all [name]

end WeaveBehavior

inductive Ability where
  | strike (behavior : StrikeBehavior)
  | weave (behavior : WeaveBehavior)
  deriving DecidableEq, Repr

namespace Ability

/-- Strikes belong to damage dealers and weaves to web shapers. -/
def fits (ability : Ability) (type : ComponentType) : Bool :=
  match ability with
  | strike _ => type.dealsDamage
  | weave _ => type.shapesWeb

def display : Ability → String
  | strike behavior => "execute:" ++ Vocabulary.title behavior
  | weave behavior => "modify_web:" ++ Vocabulary.title behavior

end Ability

end TickArena

import TickArena.Ability.Strike

/-!
# Weaves

A weave writes one bonus, always of the same kind and value, onto each of the
siblings it reaches.
-/

namespace TickArena

namespace Stance

def onto (stance : Stance) (entries : List Entry) (op : BonusOp) (kind : BonusKind)
    (value : Float) : List Bonus :=
  entries.map fun entry =>
    { source := stance.position, target := entry.position, kind, op, value }

def siblings (stance : Stance) : List Entry :=
  stance.context.neighbors stance.position .either

def damageDealers (entries : List Entry) : List Entry :=
  entries.filter (·.type.dealsDamage)

def cores (stance : Stance) : List Entry :=
  stance.context.entries.filter (·.type = .core)

def kin (stance : Stance) : List Entry :=
  stance.context.entries.filter fun entry =>
    entry.position ≠ stance.position && entry.component.tags.meets stance.component.tags

def bonuses (stance : Stance) : WeaveBehavior → List Bonus
  | .amplify =>
    stance.onto (damageDealers stance.siblings) .mul .damageMultiplier (stance.stat "amplify" 1)
  | .catalyze =>
    stance.onto (stance.context.next? stance.position).toList .add .damageAdditive
      (stance.stat "catalyst_damage" 0 * stance.rarity)
  | .resonate =>
    stance.onto stance.kin .mul .effectPowerMultiplier (stance.stat "effect_power" 1)
  | .overclock => stance.onto stance.cores .add .critChance (stance.stat "crit_bonus" 0)
  | .chainLink => stance.onto stance.siblings .mul .chainResonance (stance.stat "link_bonus" 1)
  | .conduit =>
    stance.onto (damageDealers stance.context.entries) .mul .damageMultiplier
      (stance.stat "conduit_bonus" 1)
  | .seed => stance.onto stance.cores .add genesisCharge (stance.stat "seed_charge" 0)

def readings (stance : Stance) : WeaveBehavior → Telemetry
  | .chainLink => .ofList [("link_bonus", stance.stat "link_bonus" 1)]
  | _ => ∅

def weave (stance : Stance) (behavior : WeaveBehavior) : WeaveOutcome :=
  ⟨stance.readings behavior, stance.bonuses behavior⟩

end Stance

end TickArena

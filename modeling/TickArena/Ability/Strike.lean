import TickArena.Ability.Outcome
import TickArena.Random.Draw

/-!
# Strikes

Each behaviour has its own formula.  The terms stand in the order in which they
are computed: with doubles another order may give another number.
-/

namespace TickArena

/-- The key of the charge that other components give to a genesis core. -/
def genesisCharge : BonusKind :=
  .custom "genesis_charge"

/-- What a strike may read: its definition and place, the sequence around it, and
what it has received. -/
structure Stance where
  component : Component
  placement : Placement
  context : Context

namespace Stance

def position (stance : Stance) : Nat :=
  stance.placement.position

def stat (stance : Stance) (name : String) (default : Float) : Float :=
  stance.component.stat name default

def base (stance : Stance) : Float :=
  stance.stat "base_damage" 0

def rarity (stance : Stance) : Float :=
  stance.placement.rarity.multiplier

def incoming (stance : Stance) : Incoming :=
  Incoming.ofLedger stance.context.ledger stance.position

def bare (damage : Float) (damageType : DamageType) : StrikeOutcome :=
  { damage, damageType, critical := false, effects := [], telemetry := ∅, emitted := [] }

/-- An effect of a power stat, raised by the received effect power. -/
def effect (stance : Stance) (kind : EffectKind) (stat : String) (duration : Nat) : Effect :=
  ⟨kind, stance.stat stat 0 * stance.incoming.effectPower, duration⟩

/-! ### The formulas -/

def vanguard (stance : Stance) : StrikeOutcome :=
  let received := stance.incoming
  let first := if stance.position = 1 then stance.stat "first_position_bonus" 1.5 else 1
  { bare (stance.base * first * stance.rarity * received.damageMultiplier
      + received.damageAdditive) .physical with
    telemetry := .ofList [("first_position_bonus", first)] }

def ember (stance : Stance) : StrikeOutcome :=
  let received := stance.incoming
  { bare ((stance.base * stance.rarity + received.damageAdditive)
      * received.damageMultiplier * received.chainResonance) .fire with
    effects := [stance.effect .burn "burn_power" 3]
    telemetry := .ofList [("chain_resonance", received.chainResonance)] }

def frost (stance : Stance) : StrikeOutcome :=
  let received := stance.incoming
  let water := Double.ofCount <|
    (stance.context.neighbors stance.position .either).countP (·.component.hasTag .water)
  let factor := 1 + stance.stat "water_bonus" 0 * water
  { bare (stance.base * stance.rarity * received.damageMultiplier * factor
      + received.damageAdditive) .frost with
    effects := [stance.effect .slow "slow_power" 2]
    telemetry := .ofList [("water_neighbors", water)] }

def storm (stance : Stance) : StrikeOutcome :=
  let received := stance.incoming
  { bare (stance.base * stance.rarity * received.damageMultiplier
      + received.damageAdditive) .lightning with
    effects := [stance.effect .shock "shock_power" 1] }

/-- Repeats a share of the nearest earlier strike; without one it deals nothing. -/
def echo (stance : Stance) : StrikeOutcome :=
  let received := stance.incoming
  let (position, damage) := (stance.context.lastStrikeBefore? stance.position).getD (0, 0)
  { bare (stance.stat "echo_ratio" 0.5 * damage * stance.rarity * received.damageMultiplier)
      .arcane with
    telemetry := .ofList
      [("echoed_position", Double.ofCount position), ("echoed_damage", damage)] }

def prism (stance : Stance) : StrikeOutcome :=
  let received := stance.incoming
  let distinct := Double.ofCount stance.context.distinctTags.size
  { bare (stance.base * (1 + stance.stat "diversity_scaling" 0 * distinct) * stance.rarity
      * received.damageMultiplier + received.damageAdditive) .arcane with
    telemetry := .ofList [("distinct_tags", distinct)] }

/-- Charged by evolution, by the artifacts around it and by seeds. -/
def genesis (stance : Stance) : StrikeOutcome :=
  let received := stance.incoming
  let seeded := stance.context.ledger.additive stance.position genesisCharge
  let artifacts := Double.ofCount (stance.context.countOfType .artifact)
  let charge := Double.ofCount stance.placement.evolutionLevel
    * stance.stat "charge_per_level" 0 + artifacts + seeded
  { bare (stance.base * (1 + charge) * stance.rarity * received.damageMultiplier
      + received.damageAdditive) .arcane with
    effects := [⟨.empower, charge * received.effectPower, 1⟩]
    telemetry := .ofList [("charge", charge)] }

/-- Stokes the next component if that deals damage. -/
def kindling (stance : Stance) : StrikeOutcome :=
  let received := stance.incoming
  let stoked := (stance.context.next? stance.position).toList.filter (·.type.dealsDamage)
  { bare ((stance.base * stance.rarity + received.damageAdditive) * received.damageMultiplier)
      .fire with
    effects := [stance.effect .burn "burn_power" 2]
    emitted := stoked.map fun next =>
      { source := stance.position
        target := next.position
        kind := .damageAdditive
        op := .add
        value := stance.stat "kindle_amount" 0 } }

def relic (stance : Stance) : StrikeOutcome :=
  let received := stance.incoming
  let cores := Double.ofCount <| stance.context.entries.countP fun entry =>
    entry.position ≠ stance.position && entry.type = .core
  { bare (stance.base * stance.rarity * (1 + stance.stat "per_core_bonus" 0 * cores)
      * received.damageMultiplier + received.damageAdditive) .physical with
    telemetry := .ofList [("watched_cores", cores)] }

def voidShard (stance : Stance) : StrikeOutcome :=
  let received := stance.incoming
  { bare (stance.base * stance.rarity * received.damageMultiplier
      + received.damageAdditive) .void with
    effects := [stance.effect .weaken "weaken_power" 2] }

def swing (stance : Stance) : StrikeBehavior → StrikeOutcome
  | .vanguard => stance.vanguard
  | .ember => stance.ember
  | .frost => stance.frost
  | .storm => stance.storm
  | .echo => stance.echo
  | .prism => stance.prism
  | .genesis => stance.genesis
  | .kindling => stance.kindling
  | .relic => stance.relic
  | .voidShard => stance.voidShard

/-! ### Critical hits -/

/-- The chance of a critical hit, if the strike can be one: only cores can, and
echoes copy and do not strike themselves.  Without a chance nothing is drawn. -/
def critChance? (stance : Stance) (behavior : StrikeBehavior) : Option Float :=
  if stance.component.type = .core ∧ behavior ≠ .echo then
    let chance := stance.stat "crit_chance" 0 + stance.incoming.critChance
    if 0 < chance then some chance else none
  else none

/-- A critical hit, when the draw is below the chance. -/
def critical (stance : Stance) (chance draw : Float) (outcome : StrikeOutcome) : StrikeOutcome :=
  let outcome := { outcome with telemetry := outcome.telemetry.insert "crit_chance" chance }
  if draw < chance then
    { outcome with
      critical := true
      damage := outcome.damage * stance.stat "crit_multiplier" 1.5 }
  else outcome

/-- The strike of a behaviour; the next unit draw decides a critical hit.  Damage is
never negative. -/
def strike (stance : Stance) (behavior : StrikeBehavior) (draw : Float) : StrikeOutcome :=
  let outcome := stance.swing behavior
  let outcome :=
    match stance.critChance? behavior with
    | some chance => stance.critical chance draw outcome
    | none => outcome
  { outcome with damage := Double.clampAtZero outcome.damage }

end Stance

end TickArena

import TickArena.Component.Effect
import TickArena.Sequence.Context

/-!
# Outcomes of abilities

A strike deals damage and a weave touches siblings; both may write bonuses, and
both keep a table of the numbers that led to the result.
-/

namespace TickArena

/-- The bonuses that a position has received. -/
structure Incoming where
  damageMultiplier : Float
  damageAdditive : Float
  effectPower : Float
  critChance : Float
  chainResonance : Float

def Incoming.ofLedger (ledger : Ledger) (position : Nat) : Incoming :=
  { damageMultiplier := ledger.multiplier position .damageMultiplier
    damageAdditive := ledger.additive position .damageAdditive
    effectPower := ledger.multiplier position .effectPowerMultiplier
    critChance := ledger.additive position .critChance
    chainResonance := ledger.multiplier position .chainResonance }

abbrev Telemetry :=
  Table String Float

structure StrikeOutcome where
  damage : Float
  damageType : DamageType
  critical : Bool
  effects : List Effect
  telemetry : Telemetry
  emitted : List Bonus

structure WeaveOutcome where
  telemetry : Telemetry
  emitted : List Bonus

/-- How many positions a weave has touched, each counted once. -/
def WeaveOutcome.touched (outcome : WeaveOutcome) : Nat :=
  (outcome.emitted.map Bonus.target).eraseDups.length

inductive Outcome where
  | strike (outcome : StrikeOutcome)
  | weave (outcome : WeaveOutcome)

namespace Outcome

def damage : Outcome → Float
  | strike outcome => outcome.damage
  | weave _ => 0

def emitted : Outcome → List Bonus
  | strike outcome => outcome.emitted
  | weave outcome => outcome.emitted

end Outcome

end TickArena

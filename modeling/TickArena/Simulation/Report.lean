import TickArena.Ability.Outcome

/-!
# Simulation reports

One row for every populated position, and the totals of the sequence.
-/

namespace TickArena

/-- What became of one component. -/
structure Row where
  componentId : String
  position : Nat
  slot : Nat
  type : ComponentType
  rarity : Rarity
  active : Bool
  reason : Option String
  damage : Float
  damageType : Option DamageType
  critical : Bool
  effects : List Effect
  touched : Nat
  telemetry : Telemetry

namespace Row

def ofEntry (entry : Entry) : Row :=
  { componentId := entry.placement.componentId
    position := entry.position
    slot := entry.placement.slot
    type := entry.type
    rarity := entry.placement.rarity
    active := false
    reason := none
    damage := 0
    damageType := none
    critical := false
    effects := []
    touched := 0
    telemetry := ∅ }

def fail (row : Row) (reason : String) : Row :=
  { row with reason := some reason }

def settle (row : Row) : Outcome → Row
  | .strike outcome =>
    { row with
      active := true
      damage := outcome.damage
      damageType := some outcome.damageType
      critical := outcome.critical
      effects := outcome.effects
      telemetry := outcome.telemetry }
  | .weave outcome =>
    { row with active := true, touched := outcome.touched, telemetry := outcome.telemetry }

end Row

/-- The outcome of one sequence.  The effects are those of all strikes, in the order
in which they happened. -/
structure Report where
  rows : List Row
  totalDamage : Float
  effects : List Effect
  diagnostics : List String

namespace Report

def activeComponents (report : Report) : Nat :=
  report.rows.countP (·.active)

/-- The better of the best row so far and the next; the earlier one wins a tie. -/
def better (best : Option Row) (row : Row) : Option Row :=
  match best with
  | some leader => if row.damage ≤ leader.damage then some leader else some row
  | none => some row

/-- The active row with the most damage, if one has dealt any. -/
def best? (report : Report) : Option Row :=
  (report.rows.filter fun row => row.active && 0 < row.damage).foldl better none

end Report

end TickArena

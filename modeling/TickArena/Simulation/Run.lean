import TickArena.Ability.Action
import TickArena.Activation
import TickArena.Catalog.Basic
import TickArena.Simulation.Report

/-!
# Resolving a sequence

A sequence is resolved in two phases, each in position order: first every web
shaper acts, then every damage dealer.  So a bonus reaches a damage dealer from
anywhere in the sequence, and within a phase later components see what earlier
ones have done.
-/

namespace TickArena

/-- A sequence while it is being resolved.  `taken` counts the unit draws so far. -/
structure Resolution where
  context : Context
  rows : List Row
  effects : List Effect
  totalDamage : Float
  taken : Nat

namespace Resolution

def start (context : Context) : Resolution :=
  { context, rows := context.entries.map Row.ofEntry, effects := [], totalDamage := 0, taken := 0 }

def editRow (resolution : Resolution) (position : Nat) (edit : Row → Row) : Resolution :=
  { resolution with
    rows := resolution.rows.map fun row => if row.position = position then edit row else row }

/-- Adds what a strike has done to the totals, and its damage to the context. -/
def tally (resolution : Resolution) (position : Nat) : Outcome → Resolution
  | .strike outcome =>
    { resolution with
      context := resolution.context.recordStrike position outcome.damage
      effects := resolution.effects ++ outcome.effects
      totalDamage := resolution.totalDamage + outcome.damage }
  | .weave _ => resolution

/-- Commits the bonuses of an outcome, tallies it and settles its row. -/
def settle (resolution : Resolution) (position : Nat) (outcome : Outcome) : Resolution :=
  let resolution :=
    { resolution with context := resolution.context.commit outcome.emitted }
  (resolution.tally position outcome).editRow position (·.settle outcome)

def turn (conditions : Conditions) (draws : Random.Units) (resolution : Resolution)
    (entry : Entry) : Resolution :=
  match Requirement.firstFailure? conditions entry.placement resolution.context
      entry.component.requirements with
  | some reason => resolution.editRow entry.position (·.fail reason)
  | none =>
    let stance : Stance := ⟨entry.component, entry.placement, resolution.context⟩
    let outcome := stance.act (draws resolution.taken)
    let taken := if stance.draws then resolution.taken + 1 else resolution.taken
    { resolution with taken }.settle entry.position outcome

def toReport (resolution : Resolution) : Report :=
  { rows := resolution.rows
    totalDamage := resolution.totalDamage
    effects := resolution.effects
    diagnostics := resolution.context.diagnostics }

end Resolution

/-- The entries in the order of their turns: web shapers, then damage dealers. -/
def Context.turns (context : Context) : List Entry :=
  context.entries.filter (·.type.shapesWeb) ++ context.entries.filter (·.type.dealsDamage)

/-- Resolves a context, which may already hold bonuses and strikes. -/
def Context.resolve (conditions : Conditions) (draws : Random.Units) (context : Context) :
    Report :=
  (context.turns.foldl (Resolution.turn conditions draws) (.start context)).toReport

def Catalog.simulate (catalog : Catalog) (draws : Random.Units) (slots : Slots) : Report :=
  (Context.build catalog.get? slots).resolve catalog.conditions draws

end TickArena

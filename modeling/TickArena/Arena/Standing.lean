import TickArena.Simulation.Report

/-!
# Standings

The evaluated participants of a tick in the order of their ranks, and what is kept
of them over many ticks.
-/

namespace TickArena

/-- What the scheduler asks of an evaluation.  The multiplier is that of the moment
of dispatch and holds for every participant. -/
structure Request where
  tick : Nat
  hourly : Bool
  multiplier : Float

namespace Request

def regular (tick : Nat) : Request :=
  ⟨tick, false, 1⟩

def duringHour (tick : Nat) (multiplier : Float) : Request :=
  ⟨tick, true, multiplier⟩

end Request

/-- The published result of one participant. -/
structure Standing where
  participant : Nat
  tick : Nat
  rank : Nat
  baseDamage : Float
  totalDamage : Float
  multiplier : Float
  hourly : Bool
  report : Report

abbrev Evaluated :=
  Nat × Report

namespace Standing

/-- Whether the first of two stands no lower: more damage first, then the smaller
number of the participant. -/
def precedes (a b : Evaluated) : Bool :=
  let damageA := Double.orderKey a.2.totalDamage
  let damageB := Double.orderKey b.2.totalDamage
  damageB < damageA || (damageA = damageB && a.1 ≤ b.1)

def ofEvaluated (request : Request) (evaluated : Evaluated) (rank : Nat) : Standing :=
  { participant := evaluated.1
    tick := request.tick
    rank
    baseDamage := evaluated.2.totalDamage
    totalDamage := evaluated.2.totalDamage * request.multiplier
    multiplier := request.multiplier
    hourly := request.hourly
    report := evaluated.2 }

end Standing

/-- The standings of a tick, which count their ranks from one. -/
def rankAll (request : Request) (evaluated : List Evaluated) : List Standing :=
  ((evaluated.mergeSort Standing.precedes).zipIdx 1).map fun (evaluated, rank) =>
    .ofEvaluated request evaluated rank

/-- What is kept of one participant over all ticks. -/
structure Performance where
  ticks : Nat
  bestDamage : Float
  cumulativeDamage : Float
  lastRank : Option Nat

namespace Performance

def none : Performance :=
  ⟨0, 0, 0, .none⟩

def average (performance : Performance) : Float :=
  if performance.ticks = 0 then 0
  else performance.cumulativeDamage / Double.ofCount performance.ticks

def record (performance : Performance) (standing : Standing) : Performance :=
  { ticks := performance.ticks + 1
    bestDamage := Double.larger performance.bestDamage standing.totalDamage
    cumulativeDamage := performance.cumulativeDamage + standing.totalDamage
    lastRank := some standing.rank }

end Performance

/-- A place on the leaderboard. -/
structure Leader where
  participant : Nat
  totalDamage : Float
  rank : Nat

/-- The summary of a tick for everyone. -/
structure Summary where
  tick : Nat
  totalDamage : Float
  players : Nat
  averageDamage : Float
  topDamage : Float
  leaders : List Leader
  timedOut : Bool

namespace Summary

def empty (tick : Nat) : Summary :=
  ⟨tick, 0, 0, 0, 0, [], false⟩

/-- The summary of standings with a leaderboard of limited length. -/
def ofStandings (tick limit : Nat) (timedOut : Bool) (standings : List Standing) : Summary :=
  let total := Double.leftSum (standings.map Standing.totalDamage)
  { tick
    totalDamage := total
    players := standings.length
    averageDamage := if standings.isEmpty then 0 else total / Double.ofCount standings.length
    topDamage := (standings.head?.map Standing.totalDamage).getD 0
    leaders := (standings.take limit).map fun standing =>
      ⟨standing.participant, standing.totalDamage, standing.rank⟩
    timedOut }

end Summary

end TickArena

import TickArena.Clock.Phase
import TickArena.Settings.Basic

/-!
# The phase clock

Each phase is timed from its own start.  A poll walks through every boundary that
has been reached, so a late poll catches up and no tick is skipped.  If all three
phases have no length at all the boundaries never lie ahead, and a poll cannot end.
-/

namespace TickArena

/-- How a catch-up ends: everything due is done, the clock has left its range on
the way, or there is no end. -/
inductive Ending where
  | settled
  | faulted (fault : TimeFault)
  | endless
  deriving DecidableEq, Repr

structure PhaseClock where
  phase : Phase
  tick : Nat
  phaseStarted : Instant
  building : Duration
  evaluating : Duration
  results : Duration
  deriving DecidableEq, Repr

namespace PhaseClock

/-- The clock starts with the building phase of the first tick. -/
def start (settings : Settings) (now : Instant) : Except TimeFault PhaseClock := do
  let building ← settings.building
  let evaluating ← settings.evaluating
  let results ← settings.results
  return { phase := .building, tick := 1, phaseStarted := now, building, evaluating, results }

def lengthOf (clock : PhaseClock) : Phase → Duration
  | .building => clock.building
  | .evaluating => clock.evaluating
  | .results => clock.results

def cycle (clock : PhaseClock) : Duration :=
  clock.building + clock.evaluating + clock.results

/-- The length of a tick, if it is in range. -/
def tickLength (clock : PhaseClock) : Except TimeFault Duration := do
  Time.sum (← Time.sum clock.building clock.evaluating) clock.results

/-! ### Time left -/

def phaseRemaining (clock : PhaseClock) (now : Instant) : Duration :=
  clock.lengthOf clock.phase - (now - clock.phaseStarted)

/-- The phases that follow the current one in its tick. -/
def phasesLeft (clock : PhaseClock) : List Phase :=
  match clock.phase with
  | .building => [.evaluating, .results]
  | .evaluating => [.results]
  | .results => []

def remaining (clock : PhaseClock) (now : Instant) : Except TimeFault Duration :=
  clock.phasesLeft.foldlM (fun total phase => Time.sum total (clock.lengthOf phase))
    (clock.phaseRemaining now)

/-! ### Moving on -/

/-- Leaves the current phase at an instant.  Only the end of the results advances
the tick. -/
def advance (clock : PhaseClock) (at_ : Instant) : PhaseTransition × PhaseClock :=
  match clock.phase with
  | .building =>
    (.evaluationStarted clock.tick, { clock with phase := .evaluating, phaseStarted := at_ })
  | .evaluating =>
    (.resultsStarted clock.tick, { clock with phase := .results, phaseStarted := at_ })
  | .results =>
    (.tickCompleted clock.tick (clock.tick + 1),
      { clock with phase := .building, tick := clock.tick + 1, phaseStarted := at_ })

def boundary (clock : PhaseClock) : Except TimeFault Instant :=
  Time.after clock.phaseStarted (clock.lengthOf clock.phase)

/-- What a poll has done: the boundaries it crossed, the clock it left, and how it
ended. -/
structure Poll where
  transitions : List PhaseTransition
  clock : PhaseClock
  ending : Ending

/-- Crosses the boundaries at or before an instant, a limited number of them. -/
def pollFor (now : Instant) : Nat → PhaseClock → Poll
  | 0, clock => ⟨[], clock, .endless⟩
  | steps + 1, clock =>
    match clock.boundary with
    | .error fault => ⟨[], clock, .faulted fault⟩
    | .ok boundary =>
      if now < boundary then ⟨[], clock, .settled⟩
      else
        let (transition, next) := clock.advance boundary
        let rest := pollFor now steps next
        { rest with transitions := transition :: rest.transitions }

/-- More steps than a poll with a positive cycle can take: three for each cycle since
the start of the phase, and those of one more. -/
def stepBound (clock : PhaseClock) (now : Instant) : Nat :=
  3 * ((now - clock.phaseStarted) / clock.cycle + 2)

/-- Crosses every boundary at or before an instant. -/
def poll (clock : PhaseClock) (now : Instant) : Poll :=
  pollFor now (clock.stepBound now) clock

end PhaseClock

end TickArena

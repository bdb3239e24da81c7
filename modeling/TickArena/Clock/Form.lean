import TickArena.Clock.HourlyTimer

/-!
# Clocks and transitions as data

A count of nanoseconds that does not fit a 64-bit word is written as a text.
-/

namespace TickArena

def Time.encode (length : Duration) : Data :=
  if length < twoPow 64 then .ofNat length else .text (toString length)

def PhaseTransition.parts : PhaseTransition → List (String × Data)
  | evaluationStarted tick => [("kind", .text "evaluationStarted"), ("tick", .ofNat tick)]
  | resultsStarted tick => [("kind", .text "resultsStarted"), ("tick", .ofNat tick)]
  | tickCompleted completed next =>
    [("kind", .text "tickCompleted"), ("completed", .ofNat completed), ("next", .ofNat next)]

def PhaseTransition.encode (transition : PhaseTransition) : Data :=
  .record (transition.parts ++ [("entered", transition.entered.encode)])

def HourlyTransition.encode : HourlyTransition → Data
  | warningRaised startsIn => .record [("warning", Time.encode startsIn)]
  | eventStarted => .text "event"

def PhaseClock.parts (clock : PhaseClock) (now : Instant) :
    Except TimeFault (List (String × Data)) := do
  let remaining ← clock.remaining now
  let tickLength ← clock.tickLength
  return [("tick", .ofNat clock.tick), ("phase", clock.phase.encode),
    ("phaseStarted", Time.encode clock.phaseStarted),
    ("phaseDuration", Time.encode (clock.lengthOf clock.phase)),
    ("phaseRemaining", Time.encode (clock.phaseRemaining now)),
    ("remaining", Time.encode remaining), ("tickDuration", Time.encode tickLength)]

def HourlyTimer.parts (timer : HourlyTimer) (now : Instant) : List (String × Data) :=
  [("armed", .bool timer.armed), ("warning", .bool timer.warning),
    ("active", .bool timer.active), ("multiplier", .ofFloat timer.currentMultiplier),
    ("untilNext", .ofOption Time.encode (timer.untilNext? now))]

end TickArena

import TickArena.Arena.Standing
import TickArena.Clock.HourlyTimer

/-!
# Scheduler events

What observers of a scheduler are told about.
-/

namespace TickArena

inductive Event where
  | phaseChanged (tick : Nat) (phase : Phase)
  | evaluationStarted (request : Request)
  | resultsStarted (tick : Nat)
  | tickCompleted (completed next : Nat)
  | hourlyWarning (startsIn : Duration)
  | hourlyEventStarted (multiplier : Float)

end TickArena

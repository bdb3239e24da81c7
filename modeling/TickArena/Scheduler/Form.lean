import TickArena.Clock.Form
import TickArena.Scheduler.Event

/-!
# Scheduler events as data
-/

namespace TickArena

def Event.encode : Event → Data
  | phaseChanged tick phase =>
    .record [("kind", .text "phaseChanged"), ("tick", .ofNat tick), ("phase", phase.encode)]
  | evaluationStarted request =>
    .record
      [("kind", .text "evaluationStarted"), ("tick", .ofNat request.tick),
        ("hourlyEvent", .bool request.hourly), ("damageMultiplier", .ofFloat request.multiplier)]
  | resultsStarted tick => .record [("kind", .text "resultsStarted"), ("tick", .ofNat tick)]
  | tickCompleted completed next =>
    .record
      [("kind", .text "tickCompleted"), ("completed", .ofNat completed), ("next", .ofNat next)]
  | hourlyWarning startsIn =>
    .record [("kind", .text "hourlyWarning"), ("startsIn", Time.encode startsIn)]
  | hourlyEventStarted multiplier =>
    .record [("kind", .text "hourlyEventStarted"), ("damageMultiplier", .ofFloat multiplier)]

end TickArena

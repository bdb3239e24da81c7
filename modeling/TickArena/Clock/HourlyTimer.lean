import TickArena.Clock.PhaseClock

/-!
# The hourly timer

The timer runs beside the phase clock.  A warning goes up a fixed lead before each
event.  An event stays active until an evaluation has taken it up and that tick has
completed, so an event that starts after the dispatch carries over to the next tick.
-/

namespace TickArena

inductive HourlyTransition where
  | warningRaised (startsIn : Duration)
  | eventStarted
  deriving DecidableEq, Repr

structure HourlyTimer where
  interval : Duration
  lead : Duration
  multiplier : Float
  nextEvent : Instant
  armed : Bool
  warning : Bool
  active : Bool
  applied : Bool

namespace HourlyTimer

/-- The timer starts armed, with the first event after one interval. -/
def start (settings : Settings) (now : Instant) : Except TimeFault HourlyTimer := do
  let interval ← settings.hourlyInterval
  let lead ← settings.hourlyWarning
  let nextEvent ← Time.after now interval
  return {
    interval, lead, nextEvent
    multiplier := settings.hourlyMultiplier
    armed := true
    warning := false
    active := false
    applied := false }

def currentMultiplier (timer : HourlyTimer) : Float :=
  if timer.active then timer.multiplier else 1

def untilNext? (timer : HourlyTimer) (now : Instant) : Option Duration :=
  if timer.armed then some (timer.nextEvent - now) else none

/-- No more events are scheduled; an active one stays. -/
def disarm (timer : HourlyTimer) : HourlyTimer :=
  { timer with armed := false, warning := false }

/-- Moves the next event to one interval from now, if that is in range. -/
def restart (timer : HourlyTimer) (now : Instant) : HourlyTimer × Ending :=
  match Time.after now timer.interval with
  | .ok nextEvent => ({ timer with nextEvent }, .settled)
  | .error fault => (timer, .faulted fault)

def arm (timer : HourlyTimer) (now : Instant) : HourlyTimer × Ending :=
  { timer with armed := true }.restart now

/-- The flags of an event that no evaluation has taken up yet. -/
def fire (timer : HourlyTimer) : HourlyTimer :=
  { timer with warning := false, active := true, applied := false }

/-- Starts an event at once; the schedule starts again from now. -/
def trigger (timer : HourlyTimer) (now : Instant) : HourlyTimer × Ending :=
  timer.fire.restart now

/-- Hands the multiplier of an active event to an evaluation. -/
def apply (timer : HourlyTimer) : HourlyTimer × Option Float :=
  if timer.active then ({ timer with applied := true }, some timer.multiplier) else (timer, none)

/-- Ends an event at the end of a tick, if an evaluation has taken it up. -/
def clear (timer : HourlyTimer) : HourlyTimer × Bool :=
  if timer.active && timer.applied then ({ timer with active := false, applied := false }, true)
  else (timer, false)

/-- How many intervals the next event has to move to lie after an instant. -/
def missed (timer : HourlyTimer) (now : Instant) : Nat :=
  (now - timer.nextEvent) / timer.interval + 1

/-- Moves the next event, by whole intervals, behind an instant.  An event whose
move leaves the range of the clock stays at the last place before. -/
def catchUp (timer : HourlyTimer) (now : Instant) : HourlyTimer × Ending :=
  if timer.interval = 0 then (timer, .endless)
  else
    let last := timer.nextEvent + (timer.missed now - 1) * timer.interval
    match Time.after last timer.interval with
    | .ok nextEvent => ({ timer with nextEvent }, .settled)
    | .error fault => ({ timer with nextEvent := last }, .faulted fault)

structure Poll where
  transitions : List HourlyTransition
  timer : HourlyTimer
  ending : Ending

def warningDue (timer : HourlyTimer) (now : Instant) : Bool :=
  !timer.warning && timer.nextEvent - now ≤ timer.lead

/-- Looks at an armed timer at an instant.  An event that is due fires once, however
late; before it the warning is raised once. -/
def poll (timer : HourlyTimer) (now : Instant) : Poll :=
  if !timer.armed then ⟨[], timer, .settled⟩
  else if timer.nextEvent ≤ now then
    match timer.catchUp now with
    | (timer, .settled) => ⟨[.eventStarted], timer.fire, .settled⟩
    | (timer, ending) => ⟨[], timer, ending⟩
  else if timer.warningDue now then
    ⟨[.warningRaised (timer.nextEvent - now)], { timer with warning := true }, .settled⟩
  else ⟨[], timer, .settled⟩

end HourlyTimer

end TickArena

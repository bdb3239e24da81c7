import TickArena.Arena.Message
import TickArena.Scheduler.Event

/-!
# The scheduler

The scheduler drives the phase clock and the hourly timer.  Entering the evaluating
phase dispatches an evaluation with the multiplier of that moment; the scheduler
itself never waits for one.
-/

namespace TickArena

structure Scheduler where
  timerInterval : Duration
  clock : PhaseClock
  hourly : HourlyTimer
  lastTimer : Instant

/-- A scheduler with what it has done so far in one call: the events, the messages,
the evaluations it has dispatched, and whether it had to stop. -/
structure Turn where
  scheduler : Scheduler
  events : List Event
  sent : List Message
  dispatched : List Request
  ending : Ending

namespace Turn

def start (scheduler : Scheduler) : Turn :=
  ⟨scheduler, [], [], [], .settled⟩

def emit (turn : Turn) (event : Event) : Turn :=
  { turn with events := turn.events ++ [event] }

def send (turn : Turn) (message : Message) : Turn :=
  { turn with sent := turn.sent ++ [message] }

def withHourly (turn : Turn) (hourly : HourlyTimer) : Turn :=
  { turn with scheduler := { turn.scheduler with hourly } }

/-- Dispatches the evaluation of a tick and hands it an active hourly event. -/
def dispatch (turn : Turn) (tick : Nat) : Turn :=
  let (hourly, multiplier) := turn.scheduler.hourly.apply
  let request :=
    match multiplier with
    | some multiplier => Request.duringHour tick multiplier
    | none => Request.regular tick
  { turn.withHourly hourly with dispatched := turn.dispatched ++ [request] }.emit
    (.evaluationStarted request)

def crossed (turn : Turn) : PhaseTransition → Turn
  | .evaluationStarted tick => turn.dispatch tick
  | .resultsStarted tick => turn.emit (.resultsStarted tick)
  | .tickCompleted completed next =>
    (turn.withHourly turn.scheduler.hourly.clear.1).emit (.tickCompleted completed next)

/-- Handles a boundary.  The change of phase is announced with the tick that the
clock shows after the whole call. -/
def cross (turn : Turn) (transition : PhaseTransition) : Turn :=
  let tick := turn.scheduler.clock.tick
  let phase := transition.entered
  ((turn.crossed transition).send (.phaseChanged tick phase)).emit (.phaseChanged tick phase)

def announce (turn : Turn) : HourlyTransition → Turn
  | .warningRaised startsIn =>
    (turn.send (.hourlyWarning (Time.toSeconds startsIn))).emit (.hourlyWarning startsIn)
  | .eventStarted =>
    let multiplier := turn.scheduler.hourly.currentMultiplier
    (turn.send (.hourlyEvent multiplier)).emit (.hourlyEventStarted multiplier)

end Turn

namespace Scheduler

def start (settings : Settings) (now : Instant) : Except TimeFault Scheduler := do
  let clock ← PhaseClock.start settings now
  let hourly ← HourlyTimer.start settings now
  return { timerInterval := settings.timerInterval, clock, hourly, lastTimer := now }

def countdown (scheduler : Scheduler) (now : Instant) : Except TimeFault TimerUpdate := do
  let remaining ← scheduler.clock.remaining now
  let tickTotal ← scheduler.clock.tickLength
  return {
    remaining := Time.toSeconds remaining
    tickTotal := Time.toSeconds tickTotal
    tick := scheduler.clock.tick
    phase := scheduler.clock.phase
    hourly := scheduler.hourly.active
    warning := scheduler.hourly.warning
    nextHourly := (scheduler.hourly.untilNext? now).map Time.toSeconds }

def sendCountdown (turn : Turn) (now : Instant) : Turn :=
  let scheduler := { turn.scheduler with lastTimer := now }
  match scheduler.countdown now with
  | .ok update => { turn with scheduler }.send (.timer update)
  | .error fault => { turn with scheduler, ending := .faulted fault }

/-- The countdown is sent after every boundary and otherwise in intervals. -/
def countdownDue (scheduler : Scheduler) (now : Instant) (changed : Bool) : Bool :=
  changed || scheduler.timerInterval ≤ now - scheduler.lastTimer

/-- Lets the hourly timer catch up, and then sends the countdown if it is due. -/
def stepHourly (turn : Turn) (now : Instant) (changed : Bool) : Turn :=
  let poll := turn.scheduler.hourly.poll now
  let turn := { turn.withHourly poll.timer with ending := poll.ending }
  match poll.ending with
  | .settled =>
    let turn := poll.transitions.foldl Turn.announce turn
    if turn.scheduler.countdownDue now changed then sendCountdown turn now else turn
  | _ => turn

def step (scheduler : Scheduler) (now : Instant) : Turn :=
  let poll := scheduler.clock.poll now
  let turn := Turn.start { scheduler with clock := poll.clock }
  match poll.ending with
  | .settled =>
    stepHourly (poll.transitions.foldl Turn.cross turn) now (!poll.transitions.isEmpty)
  | ending => { turn with ending }

def forceAdvance (scheduler : Scheduler) (now : Instant) : Turn :=
  let (transition, clock) := scheduler.clock.advance now
  sendCountdown ((Turn.start { scheduler with clock }).cross transition) now

def triggerHourly (scheduler : Scheduler) (now : Instant) : Turn :=
  let (hourly, ending) := scheduler.hourly.trigger now
  let turn := Turn.start { scheduler with hourly }
  match ending with
  | .settled => turn.announce .eventStarted
  | ending => { turn with ending }

def display (scheduler : Scheduler) : String :=
  let tick := scheduler.clock.tick
  s!"TickScheduler \x7b tick: {tick}, phase: {scheduler.clock.phase.label} \x7d"

end Scheduler

end TickArena

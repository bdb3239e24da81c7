import TickArena.Arena.Task
import TickArena.Scheduler.Basic

/-!
# Timelines

A timeline runs a scheduler, its evaluations and its clock loops on a virtual clock.
What is due takes turns, the earliest alarm first, and computing takes no time.  A
dispatched evaluation is queued; a later dispatch drops the one before.
-/

namespace TickArena

/-- What takes turns on a timeline: a loop that steps the scheduler and has no deadline
before its first turn, or an evaluation with the number of its dispatch. -/
inductive Actor where
  | clockLoop (deadline : Option Instant) (alarm : Nat)
  | evaluation (number : Nat) (task : Task)

namespace Actor

/-- The alarm of an actor that has something left to do. -/
def alarm? : Actor → Option Nat
  | clockLoop _ alarm => some alarm
  | evaluation _ task => task.alarm?

def isLoop : Actor → Bool
  | clockLoop _ _ => true
  | evaluation _ _ => false

def task? (number : Nat) : Actor → Option Task
  | clockLoop _ _ => none
  | evaluation own task => if own = number then some task else none

def batchesLeft (arena : Arena) : Actor → Nat
  | clockLoop _ _ => 0
  | evaluation _ task => task.batchesLeft arena

end Actor

/-- An observer and how many events it has been given. -/
structure Observer where
  name : String
  events : Nat

structure Timeline where
  arena : Arena
  scheduler : Scheduler
  clock : VirtualClock
  /-- Those who have waited longest come first. -/
  actors : List Actor
  /-- The number of the latest dispatch, unless somebody waits for it. -/
  latest : Option Nat
  dispatches : Nat
  observers : List Observer
  sent : List Message

namespace Timeline

def start (arena : Arena) : Except TimeFault Timeline := do
  let scheduler ← Scheduler.start arena.settings 0
  return {
    arena, scheduler
    clock := .start
    actors := []
    latest := none
    dispatches := 0
    observers := []
    sent := [] }

/-! ### Calls of the scheduler -/

/-- The evaluation of a dispatch, as long as it is kept. -/
def task? (timeline : Timeline) (number : Nat) : Option Task :=
  timeline.actors.findSome? (Actor.task? number)

def drop (timeline : Timeline) (number : Nat) : Timeline :=
  { timeline with actors := timeline.actors.filter fun actor => (actor.task? number).isNone }

def dropLatest (timeline : Timeline) : Timeline :=
  timeline.latest.elim timeline timeline.drop

/-- Queues an evaluation in the place of the latest one. -/
def dispatch (timeline : Timeline) (request : Request) : Timeline :=
  let cleared := timeline.dropLatest
  let task := Task.queued request timeline.clock.rung
  { cleared with
    actors := cleared.actors ++ [.evaluation timeline.dispatches task]
    latest := some timeline.dispatches
    dispatches := timeline.dispatches + 1 }

/-- Takes over the outcome of a call.  Observers are given the events of calls that
have come to their end. -/
def absorb (timeline : Timeline) (turn : Turn) : Timeline :=
  let observers :=
    match turn.ending with
    | .settled =>
      timeline.observers.map fun observer =>
        { observer with events := observer.events + turn.events.length }
    | _ => timeline.observers
  let called :=
    { timeline with scheduler := turn.scheduler, observers, sent := timeline.sent ++ turn.sent }
  turn.dispatched.foldl dispatch called

/-- What a call answers: the events, or the fault that ended it. -/
def answer (turn : Turn) : Except Ending (List Event) :=
  match turn.ending with
  | .settled => .ok turn.events
  | ending => .error ending

def call (timeline : Timeline) (turn : Turn) : Timeline × Except Ending (List Event) :=
  (timeline.absorb turn, answer turn)

def step (timeline : Timeline) (instant : Instant) : Timeline × Except Ending (List Event) :=
  timeline.call (timeline.scheduler.step instant)

def forceAdvance (timeline : Timeline) : Timeline × Except Ending (List Event) :=
  timeline.call (timeline.scheduler.forceAdvance timeline.clock.now)

def triggerHourly (timeline : Timeline) : Timeline × Except Ending (List Event) :=
  timeline.call (timeline.scheduler.triggerHourly timeline.clock.now)

def observe (timeline : Timeline) (name : String) : Timeline :=
  { timeline with observers := timeline.observers ++ [⟨name, 0⟩] }

/-- How many events the observers of each name have been given. -/
def tallies (timeline : Timeline) : List (String × Nat) :=
  (timeline.observers.map Observer.name).eraseDups.map fun name =>
    (name, ((timeline.observers.filter (·.name = name)).map Observer.events).foldl (· + ·) 0)

def takeSent (timeline : Timeline) : Timeline × List Message :=
  ({ timeline with sent := [] }, timeline.sent)

/-! ### Turns -/

/-- The deadline after a step.  A loop that is much too late starts a new rhythm. -/
def nextDeadline (quantum : Duration) (deadline now : Instant) : Instant :=
  if deadline + 5 * Time.millisecond < now then now + quantum else deadline + quantum

/-- Steps the scheduler for a loop whose alarm has gone off, a limited number of times,
and lets the loop sleep again.  A step that does not come to its end ends the loop. -/
def runLoop : Nat → Instant → Timeline → Timeline
  | 0, deadline, timeline =>
    let actor := Actor.clockLoop (some deadline) (VirtualClock.alarmAt deadline)
    { timeline with actors := timeline.actors ++ [actor] }
  | steps + 1, deadline, timeline =>
    if timeline.clock.hasRung (VirtualClock.alarmAt deadline) then
      let now := timeline.clock.now
      let quantum := timeline.arena.settings.clockQuantum
      let turn := timeline.scheduler.step now
      match turn.ending with
      | .settled => runLoop steps (nextDeadline quantum deadline now) (timeline.absorb turn)
      | _ => timeline.absorb turn
    else runLoop 0 deadline timeline

/-- A late loop makes up for at most five milliseconds, and a quantum is not shorter
than one. -/
def loopSteps : Nat :=
  8

def runActor (timeline : Timeline) : Actor → Timeline
  | .clockLoop deadline _ => timeline.runLoop loopSteps (deadline.getD timeline.clock.now)
  | .evaluation number task =>
    let (arena, sent, task) := task.run timeline.arena timeline.clock
    { timeline with
      arena
      actors := timeline.actors ++ [.evaluation number task]
      sent := timeline.sent ++ sent }

def nextAlarm? (timeline : Timeline) : Option Nat :=
  (timeline.actors.filterMap Actor.alarm?).min?

/-- Gives a turn to the actor with the earliest alarm, if it has gone off; of several
actors to the one that has waited longest. -/
def turn? (timeline : Timeline) : Option Timeline := do
  let alarm ← timeline.nextAlarm?
  if timeline.clock.hasRung alarm then
    let next (actor : Actor) : Bool := actor.alarm? = some alarm
    let actor ← timeline.actors.find? next
    return { timeline with actors := timeline.actors.eraseP next }.runActor actor
  else none

/-- Gives turns until nothing is due, a limited number of them. -/
def drainFor : Nat → Timeline → Timeline
  | 0, timeline => timeline
  | turns + 1, timeline =>
    match timeline.turn? with
    | some after => drainFor turns after
    | none => timeline

/-- Gives turns until nothing is due.  Nobody has two, and each loop may dispatch one
evaluation. -/
def drain (timeline : Timeline) : Timeline :=
  timeline.drainFor (2 * timeline.actors.length + 1)

end Timeline

end TickArena

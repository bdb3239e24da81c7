import TickArena.Scheduler.Timeline

/-!
# The passage of time

Time passes only while somebody waits and nothing is due.  Who sleeps up to an alarm
goes on before all others whose alarm it is; they have their turns when time is given
to them again.
-/

namespace TickArena

namespace Timeline

/-- Lets time pass from alarm to alarm, a limited number of them, until somebody has
got what he waits for or the target is reached. -/
def pass (arrived : Timeline → Bool) (target : Option Nat) : Nat → Timeline → Timeline
  | 0, timeline => timeline
  | alarms + 1, timeline =>
    let timeline := timeline.drain
    if arrived timeline then timeline
    else
      match (timeline.nextAlarm?.toList ++ target.toList).min? with
      | none => timeline
      | some alarm =>
        let moved := { timeline with clock := timeline.clock.moveTo alarm }
        if some alarm = target then moved else pass arrived target alarms moved

/-- Lets a duration pass, unless its alarm has already gone off. -/
def sleep (timeline : Timeline) (length : Duration) : Timeline :=
  let target := timeline.clock.alarmAfter length
  if timeline.clock.hasRung target then timeline
  else timeline.pass (fun _ => false) (some target) (target - timeline.clock.rung + 1)

/-- Moves the clock at once and gives turns to those who were due before. -/
def advance (timeline : Timeline) (length : Duration) : Timeline :=
  let drained := { timeline with clock := timeline.clock.push length }.drain
  { drained with clock := drained.clock.ring }

/-! ### Evaluations -/

def isOver (number : Nat) (timeline : Timeline) : Bool :=
  (timeline.task? number).all fun task => task.alarm?.isNone

def batchesLeft (timeline : Timeline) : Nat :=
  (timeline.actors.map (Actor.batchesLeft timeline.arena)).foldl (· + ·) 0

/-- An evaluation sleeps at most once for each batch, and every other alarm lies in one
of the milliseconds between. -/
def waitBound (timeline : Timeline) : Nat :=
  (timeline.batchesLeft + 1) * (timeline.arena.settings.batchDelayMs + 2)

/-- Waits for the evaluation of the latest dispatch, which then is no longer the
latest, and gives its summary if it has one. -/
def wait (timeline : Timeline) : Timeline × Option Summary :=
  match timeline.latest with
  | none => (timeline, none)
  | some number =>
    let held := { timeline with latest := none }
    let after :=
      if held.isOver number then held else held.pass (isOver number) none held.waitBound
    (after.drop number, (after.task? number).bind Task.summary?)

/-! ### Loops -/

/-- Starts a clock loop; one without a quantum ends before its first turn. -/
def startLoop (timeline : Timeline) : Except TimeFault Timeline := do
  let _ ← timeline.arena.settings.tick
  if timeline.arena.settings.clockQuantumMs = 0 then return timeline
  let actor := Actor.clockLoop none timeline.clock.rung
  return { timeline with actors := timeline.actors ++ [actor] }

/-- Ends all loops and drops the latest evaluation, even a finished one; an evaluation
that somebody waits for goes on.  The answer tells whether there was a loop. -/
def stop (timeline : Timeline) : Timeline × Bool :=
  let dropped := timeline.dropLatest
  ({ dropped with
      actors := dropped.actors.filter (!·.isLoop)
      latest := none },
    timeline.actors.any Actor.isLoop)

end Timeline

end TickArena

import TickArena.Arena.Evaluation
import TickArena.Clock.Virtual

/-!
# Evaluations as tasks

A task is an evaluation on a virtual clock: queued until it is given a turn, then
asleep between its batches, and at last finished.  The clock stands still during a
batch, and a sleep whose alarm has gone off before it begins is none.  An evaluation that
cannot even set its deadline crashes.  A live tick is an arena with one such task, and
other operations on the arena may fall between its batches.
-/

namespace TickArena

inductive Task where
  | queued (request : Request) (alarm : Nat)
  | sleeping (evaluation : Evaluation) (alarm : Nat)
  | finished (summary : Summary)
  | crashed

namespace Task

/-- The alarm of a task that has something left to do. -/
def alarm? : Task → Option Nat
  | queued _ alarm | sleeping _ alarm => some alarm
  | finished _ | crashed => none

def summary? : Task → Option Summary
  | finished summary => some summary
  | _ => none

def batchesLeft (arena : Arena) : Task → Nat
  | queued _ _ => arena.batches.length
  | sleeping evaluation _ => evaluation.pending.length
  | finished _ | crashed => 0

/-- The steps of an evaluation up to the next sleep, a limited number of them. -/
def runSteps (clock : VirtualClock) : Nat → Arena → Evaluation → Arena × List Message × Task
  | 0, arena, evaluation =>
    (arena, [], sleeping evaluation (clock.alarmAfter arena.settings.batchDelay))
  | steps + 1, arena, evaluation =>
    let stepped := arena.step evaluation fun _ => clock.now
    match stepped.progress with
    | .finished summary => (stepped.arena, stepped.sent, finished summary)
    | .waiting evaluation =>
      let alarm := clock.alarmAfter arena.settings.batchDelay
      if clock.hasRung alarm then
        let (arena, sent, task) := runSteps clock steps stepped.arena evaluation
        (arena, stepped.sent ++ sent, task)
      else (stepped.arena, stepped.sent, sleeping evaluation alarm)

/-- Every step but the last one takes a batch. -/
def runEvaluation (clock : VirtualClock) (arena : Arena) (evaluation : Evaluation) :
    Arena × List Message × Task :=
  runSteps clock (evaluation.pending.length + 1) arena evaluation

def run (arena : Arena) (clock : VirtualClock) : Task → Arena × List Message × Task
  | queued request _ =>
    match arena.openEvaluation request clock.now with
    | .ok evaluation => runEvaluation clock arena evaluation
    | .error _ => (arena, [], crashed)
  | sleeping evaluation _ => runEvaluation clock arena evaluation
  | task => (arena, [], task)

end Task

/-- An arena while one of its ticks is evaluated. -/
structure LiveTick where
  arena : Arena
  clock : VirtualClock
  task : Task
  sent : List Message

namespace LiveTick

def run (tick : LiveTick) : LiveTick :=
  let (arena, sent, task) := tick.task.run tick.arena tick.clock
  { tick with arena, task, sent := tick.sent ++ sent }

def start (arena : Arena) (clock : VirtualClock) (request : Request) : LiveTick :=
  run { arena, clock, task := .queued request clock.rung, sent := [] }

/-- Runs the batches up to an alarm, a limited number of them. -/
def runFor (limit : Option Nat) : Nat → LiveTick → LiveTick
  | 0, tick => tick
  | steps + 1, tick =>
    match tick.task.alarm? with
    | none => tick
    | some alarm =>
      if limit.all (alarm ≤ ·) then
        runFor limit steps { tick with clock := tick.clock.moveTo alarm }.run
      else tick

def batchesLeft (tick : LiveTick) : Nat :=
  tick.task.batchesLeft tick.arena

/-- Lets time pass up to an alarm, batches at that time included. -/
def moveTo (tick : LiveTick) (alarm : Nat) : LiveTick :=
  let tick := tick.runFor (some alarm) tick.batchesLeft
  { tick with clock := tick.clock.moveTo alarm }

def finish (tick : LiveTick) : LiveTick :=
  tick.runFor none tick.batchesLeft

end LiveTick

end TickArena

import TickArena.Arena.Basic
import TickArena.Arena.Message

/-!
# Evaluating a tick

An evaluation works on a snapshot of the submissions, batch after batch in the order
of the participants, with a pause between batches.  A large batch is evaluated at once,
and a small one participant after participant.  When the time is used up before a batch
or before one of these participants, what has been computed is published.  Participants
who left in the meantime are published too, but nothing is stored for them.
-/

namespace TickArena

/-- A list in pieces of at most a size; the step count is at least its length. -/
def pieces {α : Type} (size : Nat) : Nat → List α → List (List α)
  | 0, _ => []
  | _, [] => []
  | steps + 1, items => items.take size :: pieces size steps (items.drop size)

/-- An evaluation between two batches.  `total` counts the whole snapshot. -/
structure Evaluation where
  request : Request
  deadline : Instant
  total : Nat
  pending : List (List (Nat × Submission))
  computed : List Evaluated
  lastProgress : Option Instant

/-- What the clock shows during one step, reading after reading. -/
abbrev Readings :=
  Nat → Instant

/-- Where an evaluation stands after a step. -/
inductive Progress where
  | waiting (evaluation : Evaluation)
  | finished (summary : Summary)

/-- An arena after a step of an evaluation, with what the step has sent. -/
structure Stepped where
  arena : Arena
  sent : List Message
  progress : Progress

namespace Arena

def batches (arena : Arena) : List (List (Nat × Submission)) :=
  pieces (max arena.settings.batchSize 1) arena.submissions.size arena.submissions.rows

def openEvaluation (arena : Arena) (request : Request) (now : Instant) :
    Except TimeFault Evaluation := do
  let deadline ← Time.after now (← arena.settings.timeout)
  return {
    request, deadline
    total := arena.submissions.size
    pending := arena.batches
    computed := []
    lastProgress := none }

/-! ### Publishing -/

/-- Stores a standing, unless the participant has left. -/
def store (arena : Arena) (standing : Standing) : Arena :=
  if arena.submissions.contains standing.participant then
    let performance := (arena.performances.get? standing.participant).getD .none
    { arena with
      performances :=
        arena.performances.insert standing.participant (performance.record standing)
      standings := arena.standings.insert standing.participant standing }
  else arena

/-- Puts the standings of a tick in place of those of the tick before. -/
def storeAll (arena : Arena) (standings : List Standing) : Arena :=
  standings.foldl store { arena with standings := ∅ }

/-- Ranks, stores and announces what an evaluation has computed. -/
def publish (arena : Arena) (evaluation : Evaluation) (timedOut : Bool) :
    Arena × List Message × Summary :=
  let standings := rankAll evaluation.request evaluation.computed
  let summary :=
    Summary.ofStandings evaluation.request.tick arena.settings.topPerformers timedOut standings
  let results := standings.map FinalResult.ofStanding
  let stored := arena.storeAll standings
  ({ stored with
      ticksProcessed := stored.ticksProcessed + 1
      highestDamage := Double.larger stored.highestDamage summary.topDamage },
    results.map .finalResult ++ [.tickSummary summary], summary)

def publishEmpty (arena : Arena) (tick : Nat) : Stepped :=
  let summary := Summary.empty tick
  { arena := { arena with standings := ∅, ticksProcessed := arena.ticksProcessed + 1 }
    sent := [.tickSummary summary]
    progress := .finished summary }

/-! ### Batches -/

def done (evaluation : Evaluation) : Float :=
  Double.ofCount evaluation.computed.length / Double.ofCount evaluation.total

/-- Publishes at the end, after a last notice of progress. -/
def finish (arena : Arena) (evaluation : Evaluation) (timedOut : Bool) : Stepped :=
  let (arena, sent, summary) := arena.publish evaluation timedOut
  { arena, sent := .progress (done evaluation) 0 :: sent, progress := .finished summary }

/-- Whether progress is announced at an instant: at first, and then whenever the
interval has passed. -/
def progressDue (arena : Arena) (evaluation : Evaluation) (now : Instant) : Bool :=
  evaluation.lastProgress.all fun last => arena.settings.progressInterval ≤ now - last

def liveUpdate (request : Request) (evaluated : Evaluated) : Message :=
  .liveUpdate evaluated.1 (evaluated.2.totalDamage * request.multiplier)
    evaluated.2.activeComponents (evaluated.2.best?.map (·.componentId))

def evaluateOne (arena : Arena) (request : Request) (entrant : Nat × Submission) : Evaluated :=
  (entrant.1, arena.evaluate entrant.1 request.tick entrant.2.slots)

/-- One participant after another while time is left, and whether it has been used up.
The clock is read before each of them, from a reading of a number on. -/
def evaluateInTurn (arena : Arena) (evaluation : Evaluation) (readings : Readings) :
    Nat → List (Nat × Submission) → List Evaluated × Bool
  | _, [] => ([], false)
  | number, entrant :: rest =>
    if evaluation.deadline ≤ readings number then ([], true)
    else
      let (evaluated, timedOut) := arena.evaluateInTurn evaluation readings (number + 1) rest
      (arena.evaluateOne evaluation.request entrant :: evaluated, timedOut)

/-- The reports of a batch, and whether the time was used up in the middle of it.  A batch
that reaches the threshold is evaluated at once and does not look at the clock. -/
def reportBatch (arena : Arena) (evaluation : Evaluation) (readings : Readings) (number : Nat)
    (batch : List (Nat × Submission)) : List Evaluated × Bool :=
  if arena.settings.parallelThreshold ≤ batch.length then
    (batch.map (arena.evaluateOne evaluation.request), false)
  else arena.evaluateInTurn evaluation readings number batch

/-- Takes a batch; the last part says whether the time was used up in it. -/
def evaluateBatch (arena : Arena) (evaluation : Evaluation) (readings : Readings)
    (batch : List (Nat × Submission)) (rest : List (List (Nat × Submission))) :
    Evaluation × List Message × Bool :=
  let now := readings 1
  let due := arena.progressDue evaluation now
  let (evaluated, timedOut) := arena.reportBatch evaluation readings 2 batch
  ({ evaluation with
      pending := rest
      computed := evaluation.computed ++ evaluated
      lastProgress := if due then some now else evaluation.lastProgress },
    (if due then [.progress (done evaluation) batch.length] else [])
      ++ evaluated.map (liveUpdate evaluation.request),
    timedOut)

/-- The next step of an evaluation: a batch, and the end after the last one or when
the time is used up. -/
def step (arena : Arena) (evaluation : Evaluation) (readings : Readings) : Stepped :=
  if evaluation.total = 0 then arena.publishEmpty evaluation.request.tick
  else
    match evaluation.pending with
    | [] => arena.finish evaluation false
    | batch :: rest =>
      if evaluation.deadline ≤ readings 0 then arena.finish evaluation true
      else
        let (evaluation, sent, timedOut) := arena.evaluateBatch evaluation readings batch rest
        if timedOut || rest.isEmpty then
          let last := arena.finish evaluation timedOut
          { last with sent := sent ++ last.sent }
        else { arena, sent, progress := .waiting evaluation }

end Arena

end TickArena

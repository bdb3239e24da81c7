import TickArena.Proofs.Lists
import TickArena.Proofs.Publishing
import TickArena.Proofs.TickAgreement

/-!
# Runs of an arena

Submissions and departures come at any time, also while a tick is evaluated.  A run is a
list of such moves, in which every batch of an evaluation is a move of its own.  What
happened that a table cannot show later stands in the history: who has departed, and what
each tick has published.
-/

namespace TickArena

inductive Incident where
  | departed (participant : Nat)
  | published (publication : Publication)

def Incident.publication? : Incident → Option Publication
  | departed _ => none
  | published publication => some publication

/-- A tick is opened with a snapshot of the submissions, then takes batch after batch, and
publishes with the last one.  It can also be given up before. -/
inductive Move where
  | submit (participant : Nat) (submission : Submission)
  | depart (participant : Nat)
  | openTick (request : Request) (now : Instant)
  | takeBatch (readings : Readings)
  | abandon

/-- An arena with the tick that it evaluates, if any. -/
structure LiveArena where
  arena : Arena
  running : Option Evaluation
  history : List Incident

namespace LiveArena

def idle (arena : Arena) : LiveArena :=
  ⟨arena, none, []⟩

def submit (live : LiveArena) (participant : Nat) (submission : Submission) : LiveArena :=
  match live.arena.submit participant submission with
  | .ok arena => { live with arena }
  | .error _ => live

def depart (live : LiveArena) (participant : Nat) : LiveArena :=
  { live with
    arena := live.arena.depart participant
    history := live.history ++ [.departed participant] }

/-- Opens a tick, if there is none already and its deadline is in range. -/
def openTick (live : LiveArena) (request : Request) (now : Instant) : LiveArena :=
  match live.running, live.arena.openEvaluation request now with
  | none, .ok evaluation => { live with running := some evaluation }
  | _, _ => live

def takeBatch (live : LiveArena) (readings : Readings) : LiveArena :=
  match live.running with
  | none => live
  | some evaluation =>
    let stepped := live.arena.step evaluation readings
    match stepped.progress with
    | .waiting following => { live with arena := stepped.arena, running := some following }
    | .finished summary =>
      { arena := stepped.arena
        running := none
        history := live.history ++
          [.published (live.arena.publication evaluation readings summary)] }

def move (live : LiveArena) : Move → LiveArena
  | .submit participant submission => live.submit participant submission
  | .depart participant => live.depart participant
  | .openTick request now => live.openTick request now
  | .takeBatch readings => live.takeBatch readings
  | .abandon => { live with running := none }

def run (live : LiveArena) (moves : List Move) : LiveArena :=
  moves.foldl move live

theorem run_concat (live : LiveArena) (moves : List Move) (last : Move) :
    live.run (moves ++ [last]) = (live.run moves).move last :=
  List.foldl_concat ..

/-- What a move sends.  Nothing but the batches of a tick does. -/
def sentBy (live : LiveArena) : Move → List Message
  | .takeBatch readings =>
    live.running.elim [] fun evaluation => (live.arena.step evaluation readings).sent
  | _ => []

def sentDuring (live : LiveArena) : List Move → List Message
  | [] => []
  | move :: later => live.sentBy move ++ (live.move move).sentDuring later

theorem sentDuring_concat (live : LiveArena) (moves : List Move) (last : Move) :
    live.sentDuring (moves ++ [last]) = live.sentDuring moves ++ (live.run moves).sentBy last := by
  induction moves generalizing live with
  | nil => simp [sentDuring, run]
  | cons move later ih =>
    rw [List.cons_append, sentDuring, ih, sentDuring, List.append_assoc]
    rfl

/-- What the ticks of a run have published, in their order. -/
def publications (live : LiveArena) : List Publication :=
  live.history.filterMap Incident.publication?

theorem publications_published (live : LiveArena) (after : Arena) (publication : Publication) :
    (LiveArena.mk after none (live.history ++ [.published publication])).publications =
      live.publications ++ [publication] := by
  simp [publications, Incident.publication?]

/-! ## What a move can do -/

theorem submit_cases (live : LiveArena) (participant : Nat) (submission : Submission) :
    live.submit participant submission = live ∨
      live.submit participant submission =
        { live with arena := { live.arena with
            submissions := live.arena.submissions.insert participant submission } } := by
  unfold submit Arena.submit
  by_cases hagain :
      (live.arena.submissions.get? participant).any (·.hash = submission.hash) = true
  · rw [if_pos hagain]
    exact .inl rfl
  · rw [if_neg hagain]
    cases live.arena.problem? participant submission.slots with
    | some problem => exact .inl rfl
    | none => exact .inr rfl

theorem openTick_cases (live : LiveArena) (request : Request) (now : Instant) :
    live.openTick request now = live ∨
      live.running = none ∧ ∃ deadline, live.openTick request now =
        { live with running := some (live.arena.opened request deadline) } := by
  unfold openTick
  cases hrunning : live.running with
  | some evaluation => exact .inl rfl
  | none =>
    cases hopen : live.arena.openEvaluation request now with
    | error fault => exact .inl rfl
    | ok evaluation =>
      obtain ⟨deadline, rfl⟩ := Arena.openEvaluation_eq_ok hopen
      exact .inr ⟨rfl, deadline, rfl⟩

theorem arena_openTick (live : LiveArena) (request : Request) (now : Instant) :
    (live.openTick request now).arena = live.arena := by
  rcases live.openTick_cases request now with hsame | ⟨-, deadline, hopened⟩
  · rw [hsame]
  · rw [hopened]

theorem arena_takeBatch (live : LiveArena) (readings : Readings) :
    let after := (live.takeBatch readings).arena
    after = { live.arena with
      standings := after.standings
      performances := after.performances
      highestDamage := after.highestDamage
      ticksProcessed := after.ticksProcessed } := by
  unfold takeBatch
  cases live.running with
  | none => rfl
  | some evaluation =>
    have hstep := live.arena.step_eq evaluation readings
    dsimp only
    split <;> exact hstep

/-- The evaluation of a live arena has reports for everyone once at most. -/
def Distinct (live : LiveArena) : Prop :=
  ∀ evaluation, live.running = some evaluation →
    ((live.arena.reports evaluation).map Prod.fst).Nodup

theorem takeBatch_of_idle {live : LiveArena} (readings : Readings) (h : live.running = none) :
    live.takeBatch readings = live := by
  unfold takeBatch
  rw [h]

theorem takeBatch_cases {live : LiveArena} {evaluation : Evaluation} (readings : Readings)
    (hrunning : live.running = some evaluation)
    (hdistinct : ((live.arena.reports evaluation).map Prod.fst).Nodup) :
    (∃ following, live.takeBatch readings = { live with running := some following } ∧
      live.arena.Continues evaluation following) ∨
    ∃ publication after, live.takeBatch readings =
        ⟨after, none, live.history ++ [.published publication]⟩ ∧
      live.arena.Publishes evaluation publication after := by
  unfold takeBatch
  rw [hrunning]
  dsimp only
  cases hprogress : (live.arena.step evaluation readings).progress with
  | waiting following =>
    obtain ⟨harena, hcontinues⟩ := Arena.step_of_waiting hprogress
    exact .inl ⟨following, by rw [harena], hcontinues⟩
  | finished summary => exact .inr ⟨_, _, rfl, Arena.step_publishes hdistinct hprogress⟩

/-! ## Ticks that are left alone -/

theorem run_complete (arena : Arena) (readings : Nat → Readings) (evaluation : Evaluation)
    (history : List Incident) :
    let live : LiveArena := ⟨arena, some evaluation, history⟩
    let completed := arena.complete readings evaluation
    ∃ steps computed,
      let moves := (List.range steps).map fun number => .takeBatch (readings number)
      live.run moves = ⟨completed.arena, none, history ++ [.published ⟨evaluation.request, computed,
        finalResults completed.sent, completed.summary, arena.submissions⟩]⟩ ∧
        live.sentDuring moves = completed.sent := by
  -- A batch that does not end the evaluation leaves fewer to take.
  induction hpending : evaluation.pending.length using Nat.strong_induction_on
    generalizing evaluation readings with
  | _ pending ih =>
    cases hprogress : (arena.step evaluation (readings 0)).progress with
    | finished summary =>
      refine ⟨1, arena.computedAfter evaluation (readings 0), ?_⟩
      rw [Arena.complete_of_finished hprogress]
      simp only [List.range_one, List.map_singleton, run, List.foldl_cons, List.foldl_nil, move,
        takeBatch, hprogress, sentDuring, sentBy, Option.elim_some, List.append_nil, and_true]
      rfl
    | waiting following =>
      obtain ⟨harena, hcontinues⟩ := Arena.step_of_waiting hprogress
      obtain ⟨steps, computed, hsteps, hsent⟩ :=
        ih _ (hpending ▸ hcontinues.less) (fun number => readings (number + 1)) following rfl
      have hfirst : (LiveArena.mk arena (some evaluation) history).takeBatch (readings 0) =
          ⟨arena, some following, history⟩ := by
        simp only [takeBatch, hprogress, harena]
      refine ⟨steps + 1, computed, ?_⟩
      dsimp only
      rw [Arena.complete_of_waiting hprogress, List.range_succ_eq_map, List.map_cons,
        List.map_map]
      constructor
      · rw [run, List.foldl_cons, move, hfirst]
        refine hsteps.trans ?_
        simp only [Completed.after, finalResults_append, hcontinues.request,
          Arena.finalResults_of_waiting hprogress, List.nil_append]
      · rw [sentDuring, move, hfirst]
        exact congrArg _ hsent

/-- A whole tick is a run of an opening and batches. -/
theorem run_processTick {live : LiveArena} {request : Request} {now : Instant}
    {readings : Nat → Readings} {completed : Completed} (hidle : live.running = none)
    (h : live.arena.processTick request now readings = .ok completed) :
    ∃ steps computed, let moves := Move.openTick request now ::
        (List.range steps).map fun number => .takeBatch (readings number)
      live.run moves = ⟨completed.arena, none, live.history ++ [.published ⟨request, computed,
        finalResults completed.sent, completed.summary, live.arena.submissions⟩]⟩ ∧
        live.sentDuring moves = completed.sent := by
  unfold Arena.processTick at h
  cases hopen : live.arena.openEvaluation request now with
  | error fault =>
    rw [hopen] at h
    contradiction
  | ok evaluation =>
    rw [hopen] at h
    obtain rfl : live.arena.complete readings evaluation = completed := Except.ok.inj h
    have hopened : live.openTick request now = { live with running := some evaluation } := by
      simp only [openTick, hidle, hopen]
    obtain ⟨deadline, rfl⟩ := Arena.openEvaluation_eq_ok hopen
    obtain ⟨steps, computed, hsteps, hsent⟩ :=
      run_complete live.arena readings (live.arena.opened request deadline) live.history
    refine ⟨steps, computed, ?_, ?_⟩
    · rw [run, List.foldl_cons, move, hopened]
      exact hsteps
    · rw [sentDuring, move, hopened]
      exact hsent

end LiveArena

end TickArena

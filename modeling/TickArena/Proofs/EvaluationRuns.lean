import TickArena.Arena.Task
import TickArena.Proofs.Ranking

/-!
# Whole evaluations

An evaluation that is left alone takes its steps until it has published.  What the clock
shows in these steps, and into which batches the snapshot has been cut, decides when
reports are computed and announced.  If the time suffices it decides nothing else: the
evaluation publishes the reports of the whole snapshot.  The ticks on a virtual clock are
such runs, with a clock that stands still except between the batches.
-/

namespace TickArena

theorem flatten_pieces {α : Type} {size steps : Nat} {items : List α} (hsize : 1 ≤ size)
    (hsteps : items.length ≤ steps) : (pieces size steps items).flatten = items := by
  induction steps generalizing items with
  | zero =>
    obtain rfl := List.length_eq_zero_iff.mp (Nat.le_zero.mp hsteps)
    rfl
  | succ steps ih =>
    cases items with
    | nil => rfl
    | cons first later =>
      have hdropped : ((first :: later).drop size).length ≤ steps := by
        rw [List.length_drop]
        omega
      rw [pieces, List.flatten_cons, ih hdropped, List.take_append_drop]
      simp

/-- What an evaluation that has come to its end leaves behind. -/
structure Completed where
  arena : Arena
  sent : List Message
  summary : Summary

/-- The same end, with messages that were sent before. -/
def Completed.after (sent : List Message) (completed : Completed) : Completed :=
  { completed with sent := sent ++ completed.sent }

theorem Completed.after_after (completed : Completed) (sent later : List Message) :
    (completed.after later).after sent = completed.after (sent ++ later) := by
  simp [after]

namespace Arena

/-! ## Batches -/

theorem flatten_batches (arena : Arena) : arena.batches.flatten = arena.submissions.rows :=
  flatten_pieces (Nat.le_max_right _ _) le_rfl

theorem evaluateInTurn_of_inTime {arena : Arena} {evaluation : Evaluation} {readings : Readings}
    {number : Nat} {batch : List (Nat × Submission)}
    (h : (arena.evaluateInTurn evaluation readings number batch).2 = false) :
    (arena.evaluateInTurn evaluation readings number batch).1 =
      batch.map (arena.evaluateOne evaluation.request) := by
  induction batch generalizing number with
  | nil => rfl
  | cons entrant rest ih =>
    unfold evaluateInTurn at h ⊢
    split_ifs at h ⊢
    exact congrArg _ (ih h)

theorem prefix_evaluateInTurn (arena : Arena) (evaluation : Evaluation) (readings : Readings)
    (number : Nat) (batch : List (Nat × Submission)) :
    (arena.evaluateInTurn evaluation readings number batch).1 <+:
      batch.map (arena.evaluateOne evaluation.request) := by
  induction batch generalizing number with
  | nil => exact List.nil_prefix
  | cons entrant rest ih =>
    unfold evaluateInTurn
    split_ifs
    · exact List.nil_prefix
    · exact (List.prefix_cons_inj _).mpr (ih (number + 1))

theorem exists_late_of_evaluateInTurn {arena : Arena} {evaluation : Evaluation}
    {readings : Readings} {number : Nat} {batch : List (Nat × Submission)}
    (h : (arena.evaluateInTurn evaluation readings number batch).2 = true) :
    ∃ reading, evaluation.deadline ≤ readings reading := by
  induction batch generalizing number with
  | nil => contradiction
  | cons entrant rest ih =>
    unfold evaluateInTurn at h
    split_ifs at h with hlate
    · exact ⟨number, hlate⟩
    · exact ih h

/-- Whichever way a batch is evaluated, in time it gives the same reports in the same order. -/
theorem reportBatch_of_inTime {arena : Arena} {evaluation : Evaluation} {readings : Readings}
    {number : Nat} {batch : List (Nat × Submission)}
    (h : (arena.reportBatch evaluation readings number batch).2 = false) :
    (arena.reportBatch evaluation readings number batch).1 =
      batch.map (arena.evaluateOne evaluation.request) := by
  unfold reportBatch at h ⊢
  split_ifs at h ⊢
  · rfl
  · exact evaluateInTurn_of_inTime h

theorem prefix_reportBatch (arena : Arena) (evaluation : Evaluation) (readings : Readings)
    (number : Nat) (batch : List (Nat × Submission)) :
    (arena.reportBatch evaluation readings number batch).1 <+:
      batch.map (arena.evaluateOne evaluation.request) := by
  unfold reportBatch
  split_ifs
  · exact List.prefix_rfl
  · exact arena.prefix_evaluateInTurn evaluation readings number batch

theorem exists_late_of_reportBatch {arena : Arena} {evaluation : Evaluation}
    {readings : Readings} {number : Nat} {batch : List (Nat × Submission)}
    (h : (arena.reportBatch evaluation readings number batch).2 = true) :
    ∃ reading, evaluation.deadline ≤ readings reading := by
  unfold reportBatch at h
  split_ifs at h
  exact exists_late_of_evaluateInTurn h

/-! ## Steps -/

/-- The reports that an evaluation has when all its batches have been taken. -/
def reports (arena : Arena) (evaluation : Evaluation) : List Evaluated :=
  evaluation.computed ++ evaluation.pending.flatten.map (arena.evaluateOne evaluation.request)

theorem reports_evaluateBatch {arena : Arena} {evaluation : Evaluation} {readings : Readings}
    {batch : List (Nat × Submission)} {rest : List (List (Nat × Submission))}
    (hpending : evaluation.pending = batch :: rest)
    (h : (arena.evaluateBatch evaluation readings batch rest).2.2 = false) :
    arena.reports (arena.evaluateBatch evaluation readings batch rest).1 =
      arena.reports evaluation := by
  unfold reports
  rw [hpending, List.flatten_cons, List.map_append, ← reportBatch_of_inTime h, ← List.append_assoc]
  rfl

/-- Time that runs out in a batch leaves the reports before it. -/
theorem prefix_evaluateBatch {arena : Arena} {evaluation : Evaluation} (readings : Readings)
    {batch : List (Nat × Submission)} {rest : List (List (Nat × Submission))}
    (hpending : evaluation.pending = batch :: rest) :
    (arena.evaluateBatch evaluation readings batch rest).1.computed <+:
      arena.reports evaluation := by
  have hbatch := arena.prefix_reportBatch evaluation readings 2 batch
  rw [reports, hpending, List.flatten_cons, List.map_append]
  exact (List.prefix_append_right_inj _).mpr (hbatch.trans (List.prefix_append _ _))

theorem finalResults_evaluateBatch (arena : Arena) (evaluation : Evaluation)
    (readings : Readings) (batch : List (Nat × Submission))
    (rest : List (List (Nat × Submission))) :
    finalResults (arena.evaluateBatch evaluation readings batch rest).2.1 = [] := by
  have hupdates : Message.result? ∘ liveUpdate evaluation.request = fun _ => none := rfl
  simp only [evaluateBatch, finalResults_append]
  rw [List.append_eq_nil_iff]
  constructor
  · split_ifs <;> rfl
  · rw [finalResults, List.filterMap_map, hupdates]
    exact List.filterMap_none _

/-- The reports that an evaluation has computed after its next step: those of before, with
those of the batch that the step takes, if it takes one. -/
def computedAfter (arena : Arena) (evaluation : Evaluation) (readings : Readings) :
    List Evaluated :=
  if evaluation.total = 0 then []
  else
    match evaluation.pending with
    | [] => evaluation.computed
    | batch :: rest =>
      if evaluation.deadline ≤ readings 0 then evaluation.computed
      else (arena.evaluateBatch evaluation readings batch rest).1.computed

/-- What a step publishes: everything, unless the clock has shown the deadline. -/
structure Concludes (arena : Arena) (evaluation : Evaluation) (readings : Readings)
    (last : Evaluation) (timedOut : Bool) : Prop where
  request : last.request = evaluation.request
  taken : last.computed = arena.computedAfter evaluation readings
  begun : last.computed <+: arena.reports evaluation
  computed : timedOut = false → last.computed = arena.reports evaluation
  late : timedOut = true → ∃ reading, evaluation.deadline ≤ readings reading

/-- What a step leaves to later steps: the same evaluation with fewer batches to take. -/
structure Continues (arena : Arena) (evaluation following : Evaluation) : Prop where
  request : following.request = evaluation.request
  deadline : following.deadline = evaluation.deadline
  total : following.total = evaluation.total
  left : following.pending ≠ []
  less : following.pending.length < evaluation.pending.length
  reports : arena.reports following = arena.reports evaluation

theorem step_cases (arena : Arena) {evaluation : Evaluation} (htotal : evaluation.total ≠ 0)
    (readings : Readings) :
    (∃ last sent timedOut, arena.step evaluation readings =
        { arena.finish last timedOut with sent := sent ++ (arena.finish last timedOut).sent } ∧
      finalResults sent = [] ∧ arena.Concludes evaluation readings last timedOut) ∨
    ∃ following sent, arena.step evaluation readings =
        { arena, sent, progress := .waiting following } ∧
      finalResults sent = [] ∧ arena.Continues evaluation following := by
  unfold step
  rw [if_neg htotal]
  cases hpending : evaluation.pending with
  | nil =>
    have hreports : evaluation.computed = arena.reports evaluation := by
      simp [reports, hpending]
    have htaken : evaluation.computed = arena.computedAfter evaluation readings := by
      rw [computedAfter, if_neg htotal, hpending]
    exact .inl ⟨evaluation, [], false, rfl, rfl, rfl, htaken, hreports ▸ List.prefix_rfl,
      fun _ => hreports, fun h => by contradiction⟩
  | cons batch rest =>
    have hsent := arena.finalResults_evaluateBatch evaluation readings batch rest
    dsimp only
    split_ifs with hlate hend
    · have htaken : evaluation.computed = arena.computedAfter evaluation readings := by
        simp only [computedAfter, if_neg htotal, hpending, if_pos hlate]
      exact .inl ⟨evaluation, [], true, rfl, rfl, rfl, htaken, List.prefix_append _ _,
        fun h => by contradiction, fun _ => ⟨0, hlate⟩⟩
    · have htaken : (arena.evaluateBatch evaluation readings batch rest).1.computed =
          arena.computedAfter evaluation readings := by
        simp only [computedAfter, if_neg htotal, hpending, if_neg hlate]
      refine .inl ⟨_, _, _, rfl, hsent, rfl, htaken, prefix_evaluateBatch readings hpending,
        fun hinTime => ?_, exists_late_of_reportBatch⟩
      have hrest : rest = [] := by simpa [hinTime] using hend
      rw [← reports_evaluateBatch hpending hinTime]
      simp [reports, evaluateBatch, hrest]
    · obtain ⟨hinTime, hrest⟩ :
          (arena.evaluateBatch evaluation readings batch rest).2.2 = false ∧ rest ≠ [] := by
        simpa using hend
      have hless : rest.length < evaluation.pending.length := by
        rw [hpending]
        exact Nat.lt_succ_self _
      exact .inr ⟨_, _, rfl, hsent, rfl, rfl, rfl, hrest, hless,
        reports_evaluateBatch hpending hinTime⟩

theorem step_of_waiting {arena : Arena} {evaluation following : Evaluation} {readings : Readings}
    (h : (arena.step evaluation readings).progress = .waiting following) :
    (arena.step evaluation readings).arena = arena ∧ arena.Continues evaluation following := by
  by_cases htotal : evaluation.total = 0
  · rw [step, if_pos htotal] at h
    contradiction
  · rcases arena.step_cases htotal readings with
      ⟨last, sent, timedOut, hstep, -⟩ | ⟨following', sent, hstep, -, hcontinues⟩
    · rw [hstep] at h
      contradiction
    · rw [hstep] at h ⊢
      obtain rfl := Progress.waiting.inj h
      exact ⟨rfl, hcontinues⟩

theorem finalResults_of_waiting {arena : Arena} {evaluation following : Evaluation}
    {readings : Readings} (h : (arena.step evaluation readings).progress = .waiting following) :
    finalResults (arena.step evaluation readings).sent = [] := by
  by_cases htotal : evaluation.total = 0
  · rw [step, if_pos htotal] at h
    contradiction
  · rcases arena.step_cases htotal readings with
      ⟨last, sent, timedOut, hstep, -⟩ | ⟨following', sent, hstep, hsent, -⟩
    · rw [hstep] at h
      contradiction
    · rw [hstep]
      exact hsent

/-! ## Runs -/

/-- The evaluation taken to its end, with what the clock shows in each of the steps. -/
def complete (arena : Arena) (readings : Nat → Readings) (evaluation : Evaluation) : Completed :=
  match h : (arena.step evaluation (readings 0)).progress with
  | .finished summary =>
    let stepped := arena.step evaluation (readings 0)
    ⟨stepped.arena, stepped.sent, summary⟩
  | .waiting following =>
    let stepped := arena.step evaluation (readings 0)
    (stepped.arena.complete (fun number => readings (number + 1)) following).after stepped.sent
termination_by evaluation.pending.length
decreasing_by exact (step_of_waiting h).2.less

theorem complete_of_finished {arena : Arena} {readings : Nat → Readings} {evaluation : Evaluation}
    {summary : Summary} (h : (arena.step evaluation (readings 0)).progress = .finished summary) :
    arena.complete readings evaluation =
      ⟨(arena.step evaluation (readings 0)).arena, (arena.step evaluation (readings 0)).sent,
        summary⟩ := by
  rw [complete]
  split
  · rename_i summary' hfinished
    rw [h] at hfinished
    rw [Progress.finished.inj hfinished]
  · rename_i following hwaiting
    rw [h] at hwaiting
    contradiction

theorem complete_of_waiting {arena : Arena} {readings : Nat → Readings}
    {evaluation following : Evaluation}
    (h : (arena.step evaluation (readings 0)).progress = .waiting following) :
    arena.complete readings evaluation =
      (arena.complete (fun number => readings (number + 1)) following).after
        (arena.step evaluation (readings 0)).sent := by
  conv_lhs => rw [complete]
  split
  · rename_i summary hfinished
    rw [h] at hfinished
    contradiction
  · rename_i following' hwaiting
    rw [h] at hwaiting
    obtain rfl := Progress.waiting.inj hwaiting
    dsimp only
    rw [(step_of_waiting h).1]

theorem finalResults_finish (arena : Arena) (evaluation : Evaluation) (timedOut : Bool) :
    finalResults (arena.finish evaluation timedOut).sent =
      (rankAll evaluation.request evaluation.computed).map FinalResult.ofStanding :=
  TickArena.finalResults_publish arena evaluation timedOut

theorem complete_cases (arena : Arena) {evaluation : Evaluation} (htotal : evaluation.total ≠ 0)
    (readings : Nat → Readings) :
    (∃ last sent timedOut, arena.complete readings evaluation =
        ⟨(arena.publish last timedOut).1, sent, (arena.publish last timedOut).2.2⟩ ∧
      finalResults sent = (rankAll last.request last.computed).map FinalResult.ofStanding ∧
      arena.Concludes evaluation (readings 0) last timedOut) ∨
    ∃ following sent, arena.complete readings evaluation =
        (arena.complete (fun number => readings (number + 1)) following).after sent ∧
      finalResults sent = [] ∧ arena.Continues evaluation following := by
  rcases arena.step_cases htotal (readings 0) with
    ⟨last, sent, timedOut, hstep, hsent, hconcludes⟩ | ⟨following, sent, hstep, hsent, hcontinues⟩
  · have hfinished : (arena.step evaluation (readings 0)).progress =
        .finished (arena.publish last timedOut).2.2 := by
      rw [hstep]
      rfl
    refine .inl ⟨last, sent ++ (arena.finish last timedOut).sent, timedOut, ?_, ?_, hconcludes⟩
    · rw [complete_of_finished hfinished, hstep]
      rfl
    · rw [finalResults_append, hsent, List.nil_append, finalResults_finish]
  · have hwaiting : (arena.step evaluation (readings 0)).progress = .waiting following := by
      rw [hstep]
    refine .inr ⟨following, sent, ?_, hsent, hcontinues⟩
    rw [complete_of_waiting hwaiting, hstep]

/-- An evaluation whose time suffices publishes the reports of all its batches. -/
theorem complete_of_inTime {arena : Arena} {readings : Nat → Readings} {evaluation : Evaluation}
    (htotal : evaluation.total ≠ 0)
    (hinTime : (arena.complete readings evaluation).summary.timedOut = false) :
    let published := arena.publish { evaluation with computed := arena.reports evaluation } false
    (arena.complete readings evaluation).arena = published.1 ∧
      (arena.complete readings evaluation).summary = published.2.2 ∧
      finalResults (arena.complete readings evaluation).sent =
        (rankAll evaluation.request (arena.reports evaluation)).map FinalResult.ofStanding := by
  intro published
  induction hpending : evaluation.pending.length using Nat.strong_induction_on
    generalizing evaluation readings with
  | _ pending ih =>
    rcases arena.complete_cases htotal readings with
      ⟨last, sent, timedOut, hcomplete, hsent, hlast⟩ | ⟨following, sent, hcomplete, hsent, hnext⟩
    · rw [hcomplete] at hinTime ⊢
      obtain rfl : timedOut = false := hinTime
      have hpublished : arena.publish last false = published := by
        simp only [published, publish, hlast.request, hlast.computed rfl]
      refine ⟨congrArg Prod.fst hpublished, congrArg (·.2.2) hpublished, ?_⟩
      rw [hsent, hlast.request, hlast.computed rfl]
    · rw [hcomplete] at hinTime ⊢
      obtain ⟨harena, hsummary, hstandings⟩ :=
        ih _ (hpending ▸ hnext.less) (hnext.total ▸ htotal) hinTime rfl
      have hpublished : arena.publish
          { following with computed := arena.reports following } false = published := by
        simp only [published, publish, hnext.request, hnext.reports]
      rw [hpublished] at harena hsummary
      refine ⟨harena, hsummary, ?_⟩
      rw [Completed.after, finalResults_append, hsent, List.nil_append, hstandings,
        hnext.request, hnext.reports]

/-- An evaluation is in time if the clock never shows its deadline. -/
theorem inTime_complete {arena : Arena} {readings : Nat → Readings} {evaluation : Evaluation}
    (htotal : evaluation.total ≠ 0)
    (hearly : ∀ number reading, readings number reading < evaluation.deadline) :
    (arena.complete readings evaluation).summary.timedOut = false := by
  induction hpending : evaluation.pending.length using Nat.strong_induction_on
    generalizing evaluation readings with
  | _ pending ih =>
    rcases arena.complete_cases htotal readings with
      ⟨last, sent, timedOut, hcomplete, -, hlast⟩ | ⟨following, sent, hcomplete, -, hnext⟩
    · rw [hcomplete]
      change timedOut = false
      by_contra htimedOut
      obtain ⟨reading, hreading⟩ := hlast.late (by simpa using htimedOut)
      exact absurd (hearly 0 reading) (not_lt.mpr hreading)
    · rw [hcomplete]
      exact ih _ (hpending ▸ hnext.less) (hnext.total ▸ htotal)
        (fun number reading => hnext.deadline ▸ hearly (number + 1) reading) rfl

/-- A whole tick, opened at an instant and then left alone. -/
def processTick (arena : Arena) (request : Request) (now : Instant) (readings : Nat → Readings) :
    Except TimeFault Completed :=
  (arena.openEvaluation request now).map (arena.complete readings)

theorem processTick_of_open {arena : Arena} {request : Request} {now : Instant}
    {evaluation : Evaluation} (h : arena.openEvaluation request now = .ok evaluation)
    (readings : Nat → Readings) :
    arena.processTick request now readings = .ok (arena.complete readings evaluation) := by
  rw [processTick, h]
  rfl

/-- The evaluation of the whole snapshot before its first step. -/
def opened (arena : Arena) (request : Request) (deadline : Instant) : Evaluation :=
  { request, deadline
    total := arena.submissions.size
    pending := arena.batches
    computed := []
    lastProgress := none }

theorem openEvaluation_of_timeout {arena : Arena} {request : Request} {now deadline : Instant}
    {timeout : Duration} (htimeout : arena.settings.timeout = .ok timeout)
    (hdeadline : Time.after now timeout = .ok deadline) :
    arena.openEvaluation request now = .ok (arena.opened request deadline) := by
  unfold openEvaluation
  rw [htimeout]
  change (Time.after now timeout >>= _) = _
  rw [hdeadline]
  rfl

theorem openEvaluation_eq_ok {arena : Arena} {request : Request} {now : Instant}
    {evaluation : Evaluation} (h : arena.openEvaluation request now = .ok evaluation) :
    ∃ deadline, evaluation = arena.opened request deadline := by
  cases htimeout : arena.settings.timeout with
  | error fault =>
    rw [openEvaluation, htimeout] at h
    contradiction
  | ok timeout =>
    cases hdeadline : Time.after now timeout with
    | error fault =>
      rw [openEvaluation, htimeout] at h
      change (Time.after now timeout >>= _) = _ at h
      rw [hdeadline] at h
      contradiction
    | ok deadline =>
      rw [openEvaluation_of_timeout htimeout hdeadline] at h
      exact ⟨deadline, (Except.ok.inj h).symm⟩

end Arena

/-! ## Ticks on a virtual clock -/

/-- The clock after a sleep, which is none if its alarm has gone off already. -/
def VirtualClock.afterSleep (clock : VirtualClock) (length : Duration) : VirtualClock :=
  if clock.hasRung (clock.alarmAfter length) then clock
  else clock.moveTo (clock.alarmAfter length)

/-- What a clock shows that stands still in every step and sleeps in between. -/
def VirtualClock.readings (length : Duration) : VirtualClock → Nat → Readings
  | clock, 0 => fun _ => clock.now
  | clock, number + 1 => (clock.afterSleep length).readings length number

namespace Task

/-- The steps up to the next sleep are the first ones of the whole evaluation. -/
theorem runSteps_cases {clock : VirtualClock} {steps : Nat} {arena : Arena}
    {evaluation : Evaluation} (hsteps : evaluation.pending.length < steps) :
    let delay := arena.settings.batchDelay
    (∃ completed, arena.complete (clock.readings delay) evaluation = completed ∧
      runSteps clock steps arena evaluation =
        (completed.arena, completed.sent, .finished completed.summary)) ∨
    ∃ following sent alarm, runSteps clock steps arena evaluation =
        (arena, sent, .sleeping following alarm) ∧
      following.pending ≠ [] ∧ following.pending.length < evaluation.pending.length ∧
      arena.complete (clock.readings delay) evaluation =
        (arena.complete ((clock.moveTo alarm).readings delay) following).after sent := by
  intro delay
  induction steps generalizing evaluation with
  | zero => contradiction
  | succ steps ih =>
    have hfirst : clock.readings delay 0 = fun _ => clock.now := rfl
    unfold runSteps
    rw [← hfirst]
    cases hprogress : (arena.step evaluation (clock.readings delay 0)).progress with
    | finished summary =>
      refine .inl ⟨_, Arena.complete_of_finished hprogress, ?_⟩
      simp only [hprogress]
    | waiting following =>
      obtain ⟨harena, hcontinues⟩ := Arena.step_of_waiting hprogress
      have hlater : (fun number => clock.readings delay (number + 1)) =
          (clock.afterSleep delay).readings delay := rfl
      have hcomplete := Arena.complete_of_waiting hprogress
      rw [hlater, VirtualClock.afterSleep] at hcomplete
      simp only [hprogress, harena]
      split_ifs at hcomplete ⊢ with hrung
      · have hsteps : following.pending.length < steps := by
          have hless := hcontinues.less
          omega
        rcases ih hsteps with ⟨completed, hcompleted, hrun⟩ |
          ⟨next, sent, alarm, hrun, hnext, hless, hcompleted⟩
        · refine .inl ⟨_, hcomplete, ?_⟩
          rw [hrun, hcompleted]
          rfl
        · refine .inr ⟨next, (arena.step evaluation (clock.readings delay 0)).sent ++ sent, alarm,
            ?_, hnext, hless.trans hcontinues.less, ?_⟩
          · rw [hrun]
          · rw [hcomplete, hcompleted, Completed.after_after]
      · exact .inr ⟨following, _, _, rfl, hcontinues.left, hcontinues.less, hcomplete⟩

end Task

namespace LiveTick

/-- The tick has come to an end, and has sent the messages of that end after earlier ones. -/
def Ends (tick : LiveTick) (before : List Message) (completed : Completed) : Prop :=
  tick.arena = completed.arena ∧ tick.sent = before ++ completed.sent ∧
    tick.task = .finished completed.summary

theorem Ends.after {tick : LiveTick} {before sent : List Message} {completed : Completed}
    (h : tick.Ends (before ++ sent) completed) : tick.Ends before (completed.after sent) := by
  obtain ⟨harena, hsent, htask⟩ := h
  refine ⟨harena, ?_, htask⟩
  rw [hsent, List.append_assoc]
  rfl

theorem runFor_of_ends {limit : Option Nat} {steps : Nat} {tick : LiveTick}
    {before : List Message} {completed : Completed} (h : tick.Ends before completed) :
    tick.runFor limit steps = tick := by
  cases steps with
  | zero => rfl
  | succ steps => simp [runFor, h.2.2, Task.alarm?]

theorem run_cases {tick : LiveTick} {evaluation : Evaluation}
    (htask : tick.task.run tick.arena tick.clock =
      Task.runEvaluation tick.clock tick.arena evaluation) :
    let delay := tick.arena.settings.batchDelay
    tick.run.Ends tick.sent (tick.arena.complete (tick.clock.readings delay) evaluation) ∨
      ∃ next sent alarm, tick.run =
          { tick with task := .sleeping next alarm, sent := tick.sent ++ sent } ∧
        next.pending ≠ [] ∧ next.pending.length < evaluation.pending.length ∧
        tick.arena.complete (tick.clock.readings delay) evaluation =
          (tick.arena.complete ((tick.clock.moveTo alarm).readings delay) next).after sent := by
  intro delay
  have hrun : tick.run = { tick with
      arena := (Task.runEvaluation tick.clock tick.arena evaluation).1
      sent := tick.sent ++ (Task.runEvaluation tick.clock tick.arena evaluation).2.1
      task := (Task.runEvaluation tick.clock tick.arena evaluation).2.2 } := by
    rw [run, htask]
  rw [hrun, Task.runEvaluation]
  rcases @Task.runSteps_cases tick.clock _ tick.arena evaluation (Nat.lt_succ_self _) with
    ⟨completed, hcompleted, hends⟩ | ⟨next, sent, alarm, hsleeps, hnext, hless, hcompleted⟩
  · left
    rw [hends, hcompleted]
    exact ⟨rfl, rfl, rfl⟩
  · refine .inr ⟨next, sent, alarm, ?_, hnext, hless, hcompleted⟩
    rw [hsleeps]

/-- A sleeping evaluation that gets all the time it needs comes to its end. -/
theorem ends_runFor {steps : Nat} {tick : LiveTick} {evaluation : Evaluation} {alarm : Nat}
    (htask : tick.task = .sleeping evaluation alarm) (hleft : evaluation.pending ≠ [])
    (hsteps : evaluation.pending.length ≤ steps) :
    (runFor none steps tick).Ends tick.sent (tick.arena.complete
      ((tick.clock.moveTo alarm).readings tick.arena.settings.batchDelay) evaluation) := by
  induction steps generalizing tick evaluation alarm with
  | zero => exact absurd (List.length_eq_zero_iff.mp (Nat.le_zero.mp hsteps)) hleft
  | succ steps ih =>
    let woken := { tick with clock := tick.clock.moveTo alarm }
    have hrun : runFor none (steps + 1) tick = runFor none steps woken.run := by
      simp [runFor, htask, Task.alarm?, woken]
    have hwoken : woken.task.run woken.arena woken.clock =
        Task.runEvaluation woken.clock woken.arena evaluation := by
      simp only [woken, htask]
      rfl
    rw [hrun]
    rcases run_cases hwoken with hends | ⟨next, sent, alarm', hsleeps, hnext, hless, hcompleted⟩
    · rw [runFor_of_ends hends]
      exact hends
    · change (runFor none steps woken.run).Ends woken.sent
        (woken.arena.complete (woken.clock.readings woken.arena.settings.batchDelay) evaluation)
      rw [hcompleted, hsleeps]
      exact (@ih { woken with task := .sleeping next alarm', sent := woken.sent ++ sent } next
        alarm' rfl hnext (by omega)).after

/-- A tick on a virtual clock is a whole tick with what that clock shows. -/
theorem ends_finish_start {arena : Arena} {clock : VirtualClock} {request : Request}
    {evaluation : Evaluation} (h : arena.openEvaluation request clock.now = .ok evaluation) :
    (start arena clock request).finish.Ends []
      (arena.complete (clock.readings arena.settings.batchDelay) evaluation) := by
  let queued : LiveTick := { arena, clock, task := .queued request clock.rung, sent := [] }
  have hqueued : queued.task.run queued.arena queued.clock =
      Task.runEvaluation queued.clock queued.arena evaluation := by
    simp only [queued, Task.run, h]
  change queued.run.finish.Ends queued.sent (queued.arena.complete
    (queued.clock.readings queued.arena.settings.batchDelay) evaluation)
  rw [finish]
  rcases run_cases hqueued with hends | ⟨next, sent, alarm, hsleeps, hnext, -, hcompleted⟩
  · rw [runFor_of_ends hends]
    exact hends
  · rw [hcompleted, hsleeps]
    exact (ends_runFor rfl hnext le_rfl).after

end LiveTick

end TickArena

import TickArena.Proofs.LiveEvaluations

/-!
# What passes on a timeline is a run

On its virtual clock a timeline gives turns to whoever is due, and lets time pass when nobody
is.  A turn of an evaluation is one batch or several, and a turn of a loop is a number of
steps.  So whatever happens while time passes is a run of moves, but for the alarms and the
order of those who take turns.
-/

namespace TickArena

/-! ## Turns of a task -/

namespace Task

def bare : Task → Task
  | queued request _ => queued request 0
  | sleeping evaluation _ => sleeping evaluation 0
  | finished summary => finished summary
  | crashed => crashed

theorem bare_bare (task : Task) : task.bare.bare = task.bare := by
  cases task <;> rfl

theorem isLive_bare (task : Task) : task.bare.isLive = task.isLive := by
  cases task <;> rfl

theorem evaluation?_bare (arena : Arena) (now : Instant) (task : Task) :
    task.bare.evaluation? arena now = task.evaluation? arena now := by
  cases task <;> rfl

/-- What a portion does, and the task that it leaves but for the alarm, does not depend on
the alarm before. -/
def HeedsNoAlarm (portion : Arena → Task → Arena × List Message × Task) : Prop :=
  ∀ arena task, (portion arena task.bare).1 = (portion arena task).1 ∧
    (portion arena task.bare).2.1 = (portion arena task).2.1 ∧
    (portion arena task.bare).2.2.bare = (portion arena task).2.2.bare

theorem heedsNoAlarm_takeBatch (clock : VirtualClock) (readings : Readings) :
    HeedsNoAlarm (takeBatch · clock readings ·) := by
  intro arena task
  simp only [takeBatch, evaluation?_bare, isLive_bare]
  cases task.evaluation? arena clock.now with
  | none =>
    dsimp only
    split_ifs
    · exact ⟨rfl, rfl, rfl⟩
    · exact ⟨rfl, rfl, task.bare_bare⟩
  | some evaluation => exact ⟨rfl, rfl, rfl⟩

theorem heedsNoAlarm_announceBatch (clock : VirtualClock) (readings : Readings) :
    HeedsNoAlarm (announceBatch · clock readings ·) := by
  intro arena task
  simp only [announceBatch, evaluation?_bare]
  cases task.evaluation? arena clock.now with
  | none => exact ⟨rfl, rfl, task.bare_bare⟩
  | some evaluation =>
    cases hpending : evaluation.pending with
    | nil => simpa only [hpending] using ⟨trivial, trivial, task.bare_bare⟩
    | cons batch rest =>
      simp only [hpending]
      split_ifs
      · exact ⟨rfl, rfl, rfl⟩
      · exact ⟨rfl, rfl, rfl⟩
      · exact ⟨rfl, rfl, task.bare_bare⟩

/-- One portion of a task, and then another. -/
def andThen (first second : Arena → Task → Arena × List Message × Task) (arena : Arena)
    (task : Task) : Arena × List Message × Task :=
  let (arena, sent, task) := first arena task
  let (arena, later, task) := second arena task
  (arena, sent ++ later, task)

/-- A batch and a number of further ones, all of them at the same time. -/
def takeBatches (clock : VirtualClock) : Nat → Arena → Task → Arena × List Message × Task
  | 0 => (takeBatch · clock (fun _ => clock.now) ·)
  | further + 1 => andThen (takeBatch · clock (fun _ => clock.now) ·) (takeBatches clock further)

theorem exists_takeBatches_eq_runSteps (clock : VirtualClock) (arena : Arena) (steps : Nat)
    {task : Task} {evaluation : Evaluation}
    (hevaluation : task.evaluation? arena clock.now = some evaluation) :
    ∃ further, takeBatches clock further arena task =
      runSteps clock (steps + 1) arena evaluation := by
  rcases arena.step_outcome evaluation fun _ => clock.now with
    ⟨following, sent, hstep, -⟩ | ⟨after, sent, summary, hstep, -⟩
  · have hbatch : takeBatch arena clock (fun _ => clock.now) task =
        (arena, sent, sleeping following (clock.alarmAfter arena.settings.batchDelay)) := by
      simp only [takeBatch, hevaluation, hstep]
    rw [runSteps, hstep]
    dsimp only
    split_ifs
    · cases steps with
      | zero => exact ⟨0, hbatch.trans (by rw [runSteps, List.append_nil])⟩
      | succ steps =>
        obtain ⟨further, hfurther⟩ := @exists_takeBatches_eq_runSteps clock arena steps
          (sleeping following (clock.alarmAfter arena.settings.batchDelay)) following rfl
        refine ⟨further + 1, ?_⟩
        rw [takeBatches, andThen, hbatch]
        dsimp only
        rw [hfurther]
    · exact ⟨0, hbatch⟩
  · refine ⟨0, ?_⟩
    rw [runSteps]
    simp only [takeBatches, takeBatch, hevaluation, hstep]

theorem exists_takeBatches_eq_run (task : Task) (arena : Arena) (clock : VirtualClock) :
    ∃ further, takeBatches clock further arena task = task.run arena clock := by
  cases task with
  | queued request alarm =>
    cases hopened : arena.openEvaluation request clock.now with
    | error fault =>
      refine ⟨0, ?_⟩
      simp only [run, takeBatches, takeBatch, evaluation?, hopened]
      rfl
    | ok evaluation =>
      simp only [run, hopened]
      apply exists_takeBatches_eq_runSteps
      rw [evaluation?, hopened]
      rfl
  | sleeping evaluation alarm => exact exists_takeBatches_eq_runSteps clock arena _ rfl
  | finished summary => exact ⟨0, rfl⟩
  | crashed => exact ⟨0, rfl⟩

end Task

namespace Timeline

variable {timeline between after other : Timeline}

theorem goOn_eq {number : Nat} {task : Task} (htask : timeline.task? number = some task)
    (portion : Arena → Task → Arena × List Message × Task) :
    timeline.goOn number portion =
      { timeline with
        arena := (portion timeline.arena task).1
        actors := timeline.actors.map (Actor.become number (portion timeline.arena task).2.2)
        sent := timeline.sent ++ (portion timeline.arena task).2.1 } := by
  unfold goOn
  rw [htask]

theorem goOn_of_none {number : Nat} (hnone : timeline.task? number = none)
    (portion : Arena → Task → Arena × List Message × Task) :
    timeline.goOn number portion = timeline := by
  unfold goOn
  rw [hnone]

theorem task?_goOn {number : Nat} {task : Task} (htask : timeline.task? number = some task)
    (portion : Arena → Task → Arena × List Message × Task) :
    (timeline.goOn number portion).task? number = some (portion timeline.arena task).2.2 := by
  rw [goOn_eq htask]
  unfold task? at htask ⊢
  dsimp only
  generalize (portion timeline.arena task).2.2 = task'
  generalize timeline.actors = actors at htask ⊢
  induction actors with
  | nil => contradiction
  | cons actor actors ih =>
    cases actor with
    | clockLoop deadline alarm => exact ih htask
    | evaluation own old =>
      by_cases hsame : own = number
      · simp [Actor.become, Actor.task?, hsame]
      · simp only [List.findSome?_cons, Actor.task?, if_neg hsame] at htask
        simpa [Actor.become, Actor.task?, hsame] using ih htask

theorem goOn_andThen (timeline : Timeline) (number : Nat)
    (first second : Arena → Task → Arena × List Message × Task) :
    (timeline.goOn number first).goOn number second =
      timeline.goOn number (Task.andThen first second) := by
  cases htask : timeline.task? number with
  | none => rw [goOn_of_none htask, goOn_of_none htask, goOn_of_none htask]
  | some task =>
    have hbecome : ∀ task' task'' : Task,
        Actor.become number task'' ∘ Actor.become number task' = Actor.become number task'' := by
      intro task' task''
      funext actor
      cases actor with
      | clockLoop deadline alarm => rfl
      | evaluation own old => by_cases hsame : own = number <;> simp [Actor.become, hsame]
    rw [goOn_eq (task?_goOn htask first), goOn_eq htask, goOn_eq htask]
    simp only [List.map_map, hbecome, List.append_assoc]
    rfl

theorem run_replicate_takeBatch (timeline : Timeline) (number further : Nat)
    (clock : VirtualClock) :
    timeline.run (List.replicate (further + 1) (.takeBatch number clock fun _ => clock.now)) =
      timeline.goOn number (Task.takeBatches clock further) := by
  induction further generalizing timeline with
  | zero => rfl
  | succ further ih =>
    rw [List.replicate_succ]
    exact (ih _).trans (timeline.goOn_andThen number _ _)

/-! ## Timelines that are alike -/

/-- An evaluation is live, with a task but for its alarm. -/
def UnderWay (timeline : Timeline) (number : Nat) (task : Task) : Prop :=
  ∃ found, (number, found) ∈ timeline.live ∧ found.bare = task

/-- Timelines that differ in no more than their clocks and alarms, their loops and observers,
the order of those who take turns, and evaluations that are over. -/
structure Alike (timeline other : Timeline) : Prop where
  arena : timeline.arena = other.arena
  scheduler : timeline.scheduler = other.scheduler
  latest : timeline.latest = other.latest
  dispatches : timeline.dispatches = other.dispatches
  sent : timeline.sent = other.sent
  underWay : ∀ number task, timeline.UnderWay number task ↔ other.UnderWay number task

theorem underWay_congr (hlive : ∀ evaluation, evaluation ∈ timeline.live ↔ evaluation ∈ other.live)
    (number : Nat) (task : Task) :
    timeline.UnderWay number task ↔ other.UnderWay number task :=
  exists_congr fun found => and_congr_left' (hlive (number, found))

theorem Numbered.perm (h : timeline.Numbered)
    (hperm : after.evaluations.Perm timeline.evaluations) (hlatest : after.latest = timeline.latest)
    (hdispatches : after.dispatches = timeline.dispatches) : after.Numbered := by
  constructor
  · intro evaluation hmem
    rw [hdispatches]
    exact h.lt evaluation (hperm.mem_iff.mp hmem)
  · exact (hperm.map Prod.fst).nodup_iff.mpr h.nodup
  · rw [hlatest, hdispatches]
    exact h.latest

namespace Alike

theorem refl (timeline : Timeline) : timeline.Alike timeline :=
  ⟨rfl, rfl, rfl, rfl, rfl, fun _ _ => .rfl⟩

theorem symm (h : timeline.Alike other) : other.Alike timeline :=
  ⟨h.arena.symm, h.scheduler.symm, h.latest.symm, h.dispatches.symm, h.sent.symm,
    fun number task => (h.underWay number task).symm⟩

theorem trans (h : timeline.Alike between) (h' : between.Alike after) : timeline.Alike after :=
  ⟨h.arena.trans h'.arena, h.scheduler.trans h'.scheduler, h.latest.trans h'.latest,
    h.dispatches.trans h'.dispatches, h.sent.trans h'.sent,
    fun number task => (h.underWay number task).trans (h'.underWay number task)⟩

theorem mem_live (h : timeline.Alike other) {number : Nat} {task : Task}
    (hmem : (number, task) ∈ timeline.live) :
    ∃ task', (number, task') ∈ other.live ∧ task'.bare = task.bare :=
  (h.underWay number task.bare).mp ⟨task, hmem, rfl⟩

/-- The live evaluations whose numbers a dispatch or a stop spares. -/
theorem underWay_filter (h : timeline.Alike other) (p : Nat → Bool) (number : Nat) (task : Task) :
    (∃ found, (number, found) ∈ timeline.live.filter (p ·.1) ∧ found.bare = task) ↔
      ∃ found, (number, found) ∈ other.live.filter (p ·.1) ∧ found.bare = task := by
  have hfilter : ∀ filtered : Timeline,
      (∃ found, (number, found) ∈ filtered.live.filter (p ·.1) ∧ found.bare = task) ↔
        filtered.UnderWay number task ∧ p number = true := by
    intro filtered
    simp only [List.mem_filter]
    constructor
    · rintro ⟨found, ⟨hmem, hp⟩, rfl⟩
      exact ⟨⟨found, hmem, rfl⟩, hp⟩
    · rintro ⟨⟨found, hmem, rfl⟩, hp⟩
      exact ⟨found, ⟨hmem, hp⟩, rfl⟩
  rw [hfilter, hfilter, h.underWay]

theorem absorb (h : timeline.Alike other) (hnumbered : timeline.Numbered)
    (hother : other.Numbered) (turn : Turn) : (timeline.absorb turn).Alike (other.absorb turn) := by
  have hdispatches : (timeline.absorb turn).dispatches = (other.absorb turn).dispatches := by
    rw [dispatches_absorb, dispatches_absorb, h.dispatches]
  refine ⟨?_, ?_, ?_, hdispatches, ?_, fun number task => ?_⟩
  · rw [arena_absorb, arena_absorb, h.arena]
  · rw [scheduler_absorb, scheduler_absorb]
  · rcases List.eq_nil_or_concat' turn.dispatched with hnone | ⟨earlier, last, hlast⟩
    · rw [(timeline.absorb_of_not_dispatched hnone).2, (other.absorb_of_not_dispatched hnone).2,
        h.latest]
    · rw [(hnumbered.absorb_of_dispatched hlast).2, (hother.absorb_of_dispatched hlast).2,
        h.dispatches]
  · rw [sent_absorb, sent_absorb, h.sent]
  · rcases List.eq_nil_or_concat' turn.dispatched with hnone | ⟨earlier, last, hlast⟩
    · unfold UnderWay
      rw [live_congr (timeline.absorb_of_not_dispatched hnone).1,
        live_congr (other.absorb_of_not_dispatched hnone).1]
      exact h.underWay number task
    · unfold UnderWay
      rw [live_absorb_of_dispatched hnumbered hlast, live_absorb_of_dispatched hother hlast, held,
        held, h.latest, h.dispatches]
      simp only [List.mem_append, or_and_right, exists_or]
      refine or_congr (h.underWay_filter (some · ≠ other.latest) number task) ?_
      simp [Task.bare, eq_comm]

theorem stop (h : timeline.Alike other) : timeline.stop.1.Alike other.stop.1 := by
  have hlive : ∀ stopped : Timeline, stopped.stop.1.live = stopped.held :=
    fun stopped => live_filter stopped.evaluations_stop
  refine ⟨?_, ?_, ?_, ?_, ?_, fun number task => ?_⟩
  · rw [timeline.stop_eq, other.stop_eq]
    exact h.arena
  · rw [timeline.stop_eq, other.stop_eq]
    exact h.scheduler
  · rw [timeline.stop_eq, other.stop_eq]
  · rw [timeline.stop_eq, other.stop_eq]
    exact h.dispatches
  · rw [timeline.stop_eq, other.stop_eq]
    exact h.sent
  · unfold UnderWay
    rw [hlive, hlive, held, held, h.latest]
    exact h.underWay_filter (some · ≠ other.latest) number task

end Alike

section Portions

variable {number : Nat} {portion : Arena → Task → Arena × List Message × Task}

/-- An evaluation that is not live has nothing left to do. -/
theorem alike_goOn_of_not_live (hportion : Task.IsPortion portion)
    (hnone : ∀ task, (number, task) ∉ timeline.live) :
    (timeline.goOn number portion).Alike timeline := by
  cases htask : timeline.task? number with
  | none =>
    rw [goOn_of_none htask]
    exact .refl _
  | some task =>
    have hdead : task.isLive = false := by
      by_contra hlive
      exact hnone task (mem_live.mpr ⟨mem_of_task?_eq_some htask, eq_true_of_ne_false hlive⟩)
    obtain ⟨harena, hsent, htask'⟩ := (hportion timeline.arena task).eq_of_not_live hdead
    have hgoes := goesOn_goOn htask hportion
    refine ⟨?_, hgoes.scheduler, hgoes.latest, hgoes.dispatches, ?_, underWay_congr ?_⟩
    · rw [goOn_eq htask]
      exact harena
    · rw [hgoes.sent, hsent, List.append_nil]
    · rintro ⟨other, found⟩
      by_cases hsame : other = number
      · rw [hsame, hgoes.mem_live_self_iff, htask', hdead]
        exact iff_of_false (fun hlive => Bool.false_ne_true hlive.2) (hnone found)
      · exact hgoes.mem_live_iff_of_ne hsame

theorem Alike.goOn (h : timeline.Alike other) (hnumbered : timeline.Numbered)
    (hother : other.Numbered) (hportion : Task.IsPortion portion)
    (hbare : Task.HeedsNoAlarm portion) :
    (timeline.goOn number portion).Alike (other.goOn number portion) := by
  by_cases hlive : ∃ task, (number, task) ∈ timeline.live
  · obtain ⟨task, hmem⟩ := hlive
    obtain ⟨task', hmem', hsame⟩ := h.mem_live hmem
    have htask := hnumbered.task?_eq_some (Timeline.mem_live.mp hmem).1
    have htask' := hother.task?_eq_some (Timeline.mem_live.mp hmem').1
    have hgoes := goesOn_goOn htask hportion
    have hgoes' := goesOn_goOn htask' hportion
    obtain ⟨harena, hsent, hleft⟩ := hbare timeline.arena task
    obtain ⟨harena', hsent', hleft'⟩ := hbare other.arena task'
    rw [← h.arena, hsame] at harena' hsent' hleft'
    refine ⟨?_, ?_, ?_, ?_, ?_, fun asked bare => ?_⟩
    · rw [goOn_eq htask, goOn_eq htask', ← h.arena]
      exact harena.symm.trans harena'
    · rw [hgoes.scheduler, hgoes'.scheduler, h.scheduler]
    · rw [hgoes.latest, hgoes'.latest, h.latest]
    · rw [hgoes.dispatches, hgoes'.dispatches, h.dispatches]
    · rw [hgoes.sent, hgoes'.sent, h.sent, ← h.arena, ← hsent, hsent']
    · by_cases hasked : asked = number
      · subst hasked
        unfold UnderWay
        simp only [hgoes.mem_live_self_iff, hgoes'.mem_live_self_iff]
        simp only [and_assoc, exists_eq_left]
        rw [← Task.isLive_bare, ← (portion other.arena task').2.2.isLive_bare, ← h.arena,
          ← hleft, hleft']
      · unfold UnderWay
        simp only [hgoes.mem_live_iff_of_ne hasked, hgoes'.mem_live_iff_of_ne hasked]
        exact h.underWay asked bare
  · have hnone : ∀ task, (number, task) ∉ timeline.live := not_exists.mp hlive
    have hnone' : ∀ task, (number, task) ∉ other.live := by
      intro task hmem
      obtain ⟨task', hmem', -⟩ := h.symm.mem_live hmem
      exact hnone task' hmem'
    exact (alike_goOn_of_not_live hportion hnone).trans
      (h.trans (alike_goOn_of_not_live hportion hnone').symm)

end Portions

theorem Alike.move (h : timeline.Alike other) (hnumbered : timeline.Numbered)
    (hother : other.Numbered) (move : Move) : (timeline.move move).Alike (other.move move) := by
  cases move with
  | call call =>
    rw [Timeline.move, Timeline.move, h.scheduler]
    exact h.absorb hnumbered hother _
  | stop => exact h.stop
  | hold => exact ⟨h.arena, h.scheduler, rfl, h.dispatches, h.sent, h.underWay⟩
  | announceBatch number clock readings =>
    exact h.goOn hnumbered hother (Task.isPortion_announceBatch clock readings)
      (Task.heedsNoAlarm_announceBatch clock readings)
  | takeBatch number clock readings =>
    exact h.goOn hnumbered hother (Task.isPortion_takeBatch clock readings)
      (Task.heedsNoAlarm_takeBatch clock readings)
  | submit participant submission =>
    have harena : (timeline.submit participant submission).arena =
        (other.submit participant submission).arena := by
      unfold Timeline.submit
      rw [← h.arena]
      cases timeline.arena.submit participant submission with
      | ok arena => rfl
      | error problem => exact h.arena
    refine ⟨harena, ?_, ?_, ?_, ?_, ?_⟩
    all_goals
      rw [Timeline.move, Timeline.move, timeline.submit_eq, other.submit_eq]
    · exact h.scheduler
    · exact h.latest
    · exact h.dispatches
    · exact h.sent
    · exact h.underWay
  | depart participant =>
    exact ⟨congrArg (Arena.depart · participant) h.arena, h.scheduler, h.latest, h.dispatches,
      h.sent, h.underWay⟩

theorem Alike.run (h : timeline.Alike other) (hnumbered : timeline.Numbered)
    (hother : other.Numbered) (moves : List Move) :
    (timeline.run moves).Alike (other.run moves) := by
  induction moves generalizing timeline other with
  | nil => exact h
  | cons first later ih =>
    exact ih (h.move hnumbered hother first) (hnumbered.move first) (hother.move first)

/-! ## Whatever passes is a run -/

/-- What has come of a timeline by moves, as far as timelines that are alike tell it. -/
structure MovesTo (timeline after : Timeline) : Prop where
  numbered : after.Numbered
  run : ∃ moves, (timeline.run moves).Alike after

namespace MovesTo

theorem of_perm (h : timeline.Numbered)
    (hperm : after.evaluations.Perm timeline.evaluations)
    (harena : timeline.arena = after.arena) (hscheduler : timeline.scheduler = after.scheduler)
    (hlatest : timeline.latest = after.latest)
    (hdispatches : timeline.dispatches = after.dispatches) (hsent : timeline.sent = after.sent) :
    timeline.MovesTo after where
  numbered := h.perm hperm hlatest.symm hdispatches.symm
  run := by
    refine ⟨[], harena, hscheduler, hlatest, hdispatches, hsent, underWay_congr ?_⟩
    intro evaluation
    rw [Timeline.mem_live, Timeline.mem_live, hperm.mem_iff]
    rfl

theorem refl (h : timeline.Numbered) : timeline.MovesTo timeline :=
  ⟨h, [], .refl _⟩

theorem of_run (h : timeline.Numbered) (moves : List Move) :
    timeline.MovesTo (timeline.run moves) :=
  ⟨h.run moves, moves, .refl _⟩

theorem trans (h : timeline.MovesTo between) (hnumbered : timeline.Numbered)
    (h' : between.MovesTo after) : timeline.MovesTo after := by
  obtain ⟨moves, halike⟩ := h.run
  obtain ⟨later, halike'⟩ := h'.run
  refine ⟨h'.numbered, moves ++ later, ?_⟩
  rw [run_append]
  exact (halike.run (hnumbered.run moves) h.numbered later).trans halike'

end MovesTo

theorem filterMap_clockLoop (before behind : List Actor) (deadline : Option Instant) (alarm : Nat) :
    (before ++ .clockLoop deadline alarm :: behind).filterMap Actor.evaluation? =
      (before ++ behind).filterMap Actor.evaluation? := by
  rw [List.filterMap_append, List.filterMap_append, List.filterMap_cons_none rfl]

theorem MovesTo.of_loop (h : timeline.Numbered) (deadline : Option Instant) (alarm : Nat) :
    timeline.MovesTo
      { timeline with actors := timeline.actors ++ [.clockLoop deadline alarm] } := by
  refine .of_perm h (.of_eq ?_) rfl rfl rfl rfl rfl
  exact (filterMap_clockLoop ..).trans (by rw [List.append_nil]; rfl)

theorem movesTo_runLoop (h : timeline.Numbered) (steps : Nat) (deadline : Instant) :
    timeline.MovesTo (timeline.runLoop steps deadline) := by
  have hsleeps : ∀ timeline : Timeline, timeline.Numbered → ∀ deadline,
      timeline.MovesTo (timeline.runLoop 0 deadline) := by
    intro timeline h deadline
    rw [runLoop]
    exact .of_loop h _ _
  induction steps generalizing timeline deadline with
  | zero => exact hsleeps timeline h deadline
  | succ steps ih =>
    rw [runLoop]
    split_ifs
    · have hstep := MovesTo.of_run h [.call (.step timeline.clock.now)]
      dsimp only
      split
      · exact hstep.trans h (ih hstep.numbered _)
      · exact hstep
    · exact hsleeps timeline h deadline

/-- A turn of an evaluation that has been taken out of its place and comes last. -/
theorem movesTo_runEvaluation (h : timeline.Numbered) {before behind : List Actor} {number : Nat}
    {task : Task} (hactors : timeline.actors = before ++ .evaluation number task :: behind) :
    timeline.MovesTo
      (({ timeline with actors := before ++ behind } : Timeline).runActor
        (.evaluation number task)) := by
  have hmem : (number, task) ∈ timeline.evaluations := by
    simp [evaluations, hactors, Actor.evaluation?]
  have hnumber : number ∉ ((before ++ behind).filterMap Actor.evaluation?).map Prod.fst := by
    have hnodup := h.nodup
    rw [evaluations, hactors, List.filterMap_append, List.filterMap_cons, Actor.evaluation?,
      List.map_append, List.map_cons, List.nodup_middle, ← List.map_append,
      ← List.filterMap_append] at hnodup
    exact (List.nodup_cons.mp hnodup).1
  have hothers : ∀ task' : Task, (before ++ behind).filterMap
      (Actor.evaluation? ∘ Actor.become number task') =
        (before ++ behind).filterMap Actor.evaluation? := by
    intro task'
    apply List.filterMap_congr
    intro actor hactor
    cases actor with
    | clockLoop deadline alarm => rfl
    | evaluation own old =>
      have hne : own ≠ number := by
        rintro rfl
        have hother : (own, old) ∈ (before ++ behind).filterMap Actor.evaluation? :=
          List.mem_filterMap.mpr ⟨_, hactor, rfl⟩
        exact hnumber (List.mem_map_of_mem hother)
      rw [Function.comp_apply, Actor.become, if_neg hne]
  obtain ⟨further, hturn⟩ := task.exists_takeBatches_eq_run timeline.arena timeline.clock
  have hrun := timeline.run_replicate_takeBatch number further timeline.clock
  rw [goOn_eq (h.task?_eq_some hmem), hturn] at hrun
  have hbatches := MovesTo.of_run h
    (List.replicate (further + 1) (.takeBatch number timeline.clock fun _ => timeline.clock.now))
  rw [hrun] at hbatches
  refine hbatches.trans h (.of_perm hbatches.numbered ?_ rfl rfl rfl rfl rfl)
  change (List.filterMap _ (before ++ behind ++ [_])).Perm (List.filterMap _ (List.map _ _))
  rw [hactors, List.filterMap_map]
  refine ((List.perm_append_singleton _ _).filterMap _).trans ?_
  refine .trans (.of_eq ?_) (List.perm_middle.symm.filterMap _)
  rw [List.filterMap_cons, List.filterMap_cons, hothers, Function.comp_apply, Actor.become,
    if_pos rfl]
  rfl

theorem movesTo_turn? (h : timeline.Numbered) (hturn : timeline.turn? = some after) :
    timeline.MovesTo after := by
  obtain ⟨alarm, -, hturn⟩ := Option.bind_eq_some_iff.mp hturn
  split_ifs at hturn
  obtain ⟨actor, hactor, hturn⟩ := Option.bind_eq_some_iff.mp hturn
  obtain ⟨halarm, before, behind, hactors, hbefore⟩ := List.find?_eq_some_iff_append.mp hactor
  have herase : timeline.actors.eraseP (fun actor => actor.alarm? = some alarm) =
      before ++ behind := by
    rw [hactors, List.eraseP_append_right _ (by simpa using hbefore)]
    congr 1
    exact List.eraseP_cons_of_pos halarm
  obtain rfl := Option.some_inj.mp hturn
  rw [herase]
  cases actor with
  | clockLoop deadline loopAlarm =>
    have hrest : timeline.MovesTo { timeline with actors := before ++ behind } := by
      refine .of_perm h (.of_eq ?_) rfl rfl rfl rfl rfl
      rw [evaluations, evaluations, hactors, filterMap_clockLoop]
    exact hrest.trans h (movesTo_runLoop hrest.numbered _ _)
  | evaluation number task => exact movesTo_runEvaluation h hactors

theorem movesTo_drainFor (h : timeline.Numbered) (turns : Nat) :
    timeline.MovesTo (timeline.drainFor turns) := by
  induction turns generalizing timeline with
  | zero => exact .refl h
  | succ turns ih =>
    rw [drainFor]
    cases hturn : timeline.turn? with
    | none => exact .refl h
    | some after =>
      have hafter := movesTo_turn? h hturn
      exact hafter.trans h (ih hafter.numbered)

theorem movesTo_drain (h : timeline.Numbered) : timeline.MovesTo timeline.drain :=
  movesTo_drainFor h _

theorem movesTo_clock (h : timeline.Numbered) (clock : VirtualClock) :
    timeline.MovesTo { timeline with clock } :=
  .of_perm h (.refl _) rfl rfl rfl rfl rfl

theorem movesTo_pass (h : timeline.Numbered) (arrived : Timeline → Bool) (target : Option Nat)
    (alarms : Nat) : timeline.MovesTo (timeline.pass arrived target alarms) := by
  induction alarms generalizing timeline with
  | zero => exact .refl h
  | succ alarms ih =>
    have hdrained := movesTo_drain h
    rw [pass]
    dsimp only
    split_ifs
    · exact hdrained
    · split
      · exact hdrained
      · rename_i alarm _
        have hmoved := hdrained.trans h
          (movesTo_clock hdrained.numbered (timeline.drain.clock.moveTo alarm))
        split_ifs
        · exact hmoved
        · exact hmoved.trans h (ih hmoved.numbered)

theorem movesTo_sleep (h : timeline.Numbered) (length : Duration) :
    timeline.MovesTo (timeline.sleep length) := by
  unfold sleep
  dsimp only
  split_ifs
  · exact .refl h
  · exact movesTo_pass h _ _ _

theorem movesTo_advance (h : timeline.Numbered) (length : Duration) :
    timeline.MovesTo (timeline.advance length) := by
  have hpushed := movesTo_clock h (timeline.clock.push length)
  have hdrained := hpushed.trans h (movesTo_drain hpushed.numbered)
  exact hdrained.trans h (movesTo_clock hdrained.numbered _)

theorem movesTo_drop (h : timeline.Numbered) {number : Nat}
    (hover : timeline.isOver number = true) : timeline.MovesTo (timeline.drop number) := by
  have hlive : ∀ evaluation ∈ timeline.live, evaluation.1 ≠ number := by
    rintro ⟨own, task⟩ hmem rfl
    obtain ⟨hevaluation, hlive⟩ := mem_live.mp hmem
    rw [Task.isLive_eq_isSome_alarm?] at hlive
    obtain ⟨alarm, halarm⟩ := Option.isSome_iff_exists.mp hlive
    rw [isOver, h.task?_eq_some hevaluation, Option.all_some, halarm] at hover
    contradiction
  refine ⟨h.filter (timeline.evaluations_drop number) (fun _ => id) rfl, [],
    rfl, rfl, rfl, rfl, rfl, underWay_congr fun evaluation => ?_⟩
  rw [live_filter (timeline.evaluations_drop number), List.mem_filter, decide_eq_true_eq]
  exact (and_iff_left_of_imp (hlive evaluation)).symm

/-- What a wait for the evaluation of a number leaves behind, before it takes it away. -/
def waited (timeline : Timeline) (number : Nat) : Timeline :=
  if timeline.hold.isOver number then timeline.hold
  else timeline.hold.pass (isOver number) none timeline.hold.waitBound

theorem movesTo_wait (h : timeline.Numbered)
    (hover : ∀ number, timeline.latest = some number →
      (timeline.waited number).isOver number = true) : timeline.MovesTo timeline.wait.1 := by
  unfold wait
  cases hlatest : timeline.latest with
  | none => exact .refl h
  | some number =>
    have hheld := MovesTo.of_run h [.hold]
    have hwaited : timeline.MovesTo (timeline.waited number) := by
      unfold waited
      split_ifs
      · exact hheld
      · exact hheld.trans h (movesTo_pass hheld.numbered _ _ _)
    exact hwaited.trans h (movesTo_drop hwaited.numbered (hover number hlatest))

theorem movesTo_startLoop (h : timeline.Numbered) (hstarted : timeline.startLoop = .ok after) :
    timeline.MovesTo after := by
  obtain ⟨cycle, -, hstarted⟩ := Time.bind_eq_ok hstarted
  dsimp only at hstarted
  split_ifs at hstarted
  · obtain rfl := Except.ok.inj hstarted
    exact .refl h
  · obtain rfl := Except.ok.inj hstarted
    exact .of_loop h _ _

end Timeline

end TickArena

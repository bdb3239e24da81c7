import TickArena.Proofs.HourlyChronicle
import TickArena.Proofs.LiveEvaluations

/-!
# Delivery of hourly events

An event that has ended has had evaluations dispatched with its multiplier.  It reaches the
participants through one that publishes, and a dispatch aborts the evaluation before it if
that is live and nobody waits for it.  An event is kept if and only if one of its evaluations
is not overtaken so: neither in the call that has dispatched it, nor while it is live.
-/

namespace TickArena

namespace Timeline

variable {timeline : Timeline}

/-! ## The chronicle of a run -/

def stirs (timeline : Timeline) : Move → List Stir
  | .call call => timeline.scheduler.stirs timeline.dispatches call
  | _ => []

def chronicle (timeline : Timeline) : List Move → List Stir
  | [] => []
  | move :: later => timeline.stirs move ++ (timeline.move move).chronicle later

/-- Only a call changes the scheduler or has something to note. -/
theorem scheduler_move (timeline : Timeline) (move : Move) :
    (∃ call, move = .call call) ∨
      ((timeline.move move).scheduler = timeline.scheduler ∧ timeline.stirs move = []) := by
  by_cases hcall : ∃ call, move = .call call
  · exact .inl hcall
  · refine .inr ⟨?_, ?_⟩
    · rcases (timeline.move_cases move).resolve_left hcall with
        ⟨number, task, sent, task', hgoes⟩ | hrests
      · exact hgoes.scheduler
      · exact hrests.scheduler
    · cases move with
      | call call => exact absurd ⟨call, rfl⟩ hcall
      | _ => rfl

theorem attends_move {settings : Settings} {past : List Stir}
    (h : timeline.scheduler.hourly.Attends settings past) (move : Move) :
    (timeline.move move).scheduler.hourly.Attends settings (past ++ timeline.stirs move) := by
  rcases timeline.scheduler_move move with ⟨call, rfl⟩ | ⟨hscheduler, hstirs⟩
  · rw [Timeline.move, scheduler_absorb]
    exact Scheduler.attends_call h timeline.dispatches call
  · rw [hscheduler, hstirs, List.append_nil]
    exact h

theorem attends_run {settings : Settings} {past : List Stir}
    (h : timeline.scheduler.hourly.Attends settings past) (moves : List Move) :
    (timeline.run moves).scheduler.hourly.Attends settings
      (past ++ timeline.chronicle moves) := by
  induction moves generalizing timeline past with
  | nil =>
    rw [chronicle, List.append_nil]
    exact h
  | cons first later ih =>
    rw [chronicle, ← List.append_assoc]
    exact ih (attends_move h first)

theorem attends_start {arena : Arena} (hstart : start arena = .ok timeline) :
    timeline.scheduler.hourly.Attends arena.settings [] := by
  obtain ⟨scheduler, hscheduler, hstart⟩ := Time.bind_eq_ok hstart
  rw [← Except.ok.inj hstart]
  exact Scheduler.attends_start hscheduler

/-- In some call of a run, an evaluation has been dispatched with this number. -/
def Dispatched (timeline : Timeline) (moves : List Move) (dispatch : Nat × Request) : Prop :=
  ∃ before call, before ++ [.call call] <+: moves ∧
    dispatch ∈ ((timeline.run before).scheduler.call call).numbered
      (timeline.run before).dispatches

theorem dispatched_of_mem_chronicle {moves : List Move} {number : Nat} {request : Request}
    (hmem : .dispatched number request ∈ timeline.chronicle moves) :
    timeline.Dispatched moves (number, request) := by
  induction moves generalizing timeline with
  | nil => contradiction
  | cons first later ih =>
    rcases List.mem_append.mp hmem with hfirst | hlater
    · cases first with
      | call call =>
        refine ⟨[], call, List.prefix_append _ later, ?_⟩
        change _ ∈ (timeline.scheduler.call call).numbered timeline.dispatches
        rw [Scheduler.numbered_call]
        exact List.mem_filterMap.mpr ⟨_, hfirst, rfl⟩
      | _ => contradiction
    · obtain ⟨before, call, hinit, hdispatch⟩ := ih hlater
      exact ⟨first :: before, call, List.cons_prefix_cons.mpr ⟨rfl, hinit⟩, hdispatch⟩

/-! ## Aborted evaluations -/

/-- The numbers of the evaluations that are aborted when these are dispatched. -/
def abortedBy (timeline : Timeline) : List Request → List Nat
  | [] => []
  | request :: later =>
    (timeline.live.filter fun evaluation => some evaluation.1 = timeline.latest).map Prod.fst ++
      (timeline.dispatch request).abortedBy later

def aborts (timeline : Timeline) : Move → List Nat
  | .call call => timeline.abortedBy (timeline.scheduler.call call).dispatched
  | _ => []

/-- The numbers of the evaluations that the dispatches of a run abort. -/
def aborted (timeline : Timeline) : List Move → List Nat
  | [] => []
  | move :: later => timeline.aborts move ++ (timeline.move move).aborted later

/-- A call overtakes an evaluation: it dispatches the next one, after it has dispatched this
one itself or has found it live and in reach. -/
def Overtakes (timeline : Timeline) (call : Call) (number : Nat) : Prop :=
  let count := (timeline.scheduler.call call).dispatched.length
  (timeline.dispatches ≤ number ∧ number + 1 < timeline.dispatches + count) ∨
    (0 < count ∧ timeline.latest = some number ∧ ∃ task, (number, task) ∈ timeline.live)

def Overtaken (timeline : Timeline) (moves : List Move) (number : Nat) : Prop :=
  ∃ before call, before ++ [.call call] <+: moves ∧ (timeline.run before).Overtakes call number

theorem mem_abortedBy_iff (h : timeline.Numbered) (requests : List Request) (number : Nat) :
    number ∈ timeline.abortedBy requests ↔
      (timeline.dispatches ≤ number ∧ number + 1 < timeline.dispatches + requests.length) ∨
        (0 < requests.length ∧ timeline.latest = some number ∧
          ∃ task, (number, task) ∈ timeline.live) := by
  induction requests generalizing timeline with
  | nil =>
    have hnone : ¬ (timeline.dispatches ≤ number ∧ number + 1 < timeline.dispatches) := by omega
    simpa [abortedBy] using hnone
  | cons request later ih =>
    have hnew : (timeline.dispatches, Task.queued request timeline.clock.rung) ∈
        (timeline.dispatch request).live := by
      rw [mem_live, evaluations_dispatch]
      exact ⟨List.mem_append_right _ (List.mem_singleton_self _), rfl⟩
    have hfirst : number ∈ (timeline.live.filter fun evaluation =>
        some evaluation.1 = timeline.latest).map Prod.fst ↔
          timeline.latest = some number ∧ ∃ task, (number, task) ∈ timeline.live := by
      constructor
      · intro hmem
        obtain ⟨⟨own, task⟩, hevaluation, rfl⟩ := List.mem_map.mp hmem
        obtain ⟨hlive, hown⟩ := List.mem_filter.mp hevaluation
        exact ⟨(of_decide_eq_true hown).symm, task, hlive⟩
      · rintro ⟨hown, task, hlive⟩
        exact List.mem_map_of_mem (List.mem_filter.mpr ⟨hlive, decide_eq_true hown.symm⟩)
    rw [abortedBy, List.mem_append, hfirst, ih (h.dispatch request), latest_dispatch,
      dispatches_dispatch, List.length_cons]
    constructor
    · rintro (hold | ⟨hbehind, hahead⟩ | ⟨hsome, hsame, -⟩)
      · exact .inr ⟨Nat.succ_pos _, hold⟩
      · exact .inl ⟨by omega, by omega⟩
      · have heq := Option.some_inj.mp hsame
        exact .inl ⟨by omega, by omega⟩
    · rintro (⟨hbehind, hahead⟩ | ⟨-, hold⟩)
      · by_cases hsame : timeline.dispatches = number
        · exact .inr (.inr ⟨by omega, congrArg some hsame, _, hsame ▸ hnew⟩)
        · exact .inr (.inl ⟨by omega, by omega⟩)
      · exact .inl hold

theorem mem_aborted_iff (h : timeline.Numbered) (moves : List Move) (number : Nat) :
    number ∈ timeline.aborted moves ↔ timeline.Overtaken moves number := by
  induction moves generalizing timeline with
  | nil =>
    constructor
    · intro hmem
      contradiction
    · rintro ⟨before, call, hinit, -⟩
      exact absurd (List.prefix_nil.mp hinit) (List.concat_ne_nil _ _)
  | cons first later ih =>
    rw [aborted, List.mem_append, ih (h.move first)]
    constructor
    · rintro (hfirst | ⟨before, call, hinit, hovertakes⟩)
      · cases first with
        | call call =>
          exact ⟨[], call, List.prefix_append _ later, (mem_abortedBy_iff h _ number).mp hfirst⟩
        | _ => contradiction
      · exact ⟨first :: before, call, List.cons_prefix_cons.mpr ⟨rfl, hinit⟩, hovertakes⟩
    · rintro ⟨before, call, hinit, hovertakes⟩
      cases before with
      | nil =>
        obtain ⟨rfl, -⟩ := List.cons_prefix_cons.mp hinit
        exact .inl ((mem_abortedBy_iff h _ number).mpr hovertakes)
      | cons move before =>
        obtain ⟨rfl, htail⟩ := List.cons_prefix_cons.mp hinit
        exact .inr ⟨before, call, htail, hovertakes⟩

/-! ## Published evaluations -/

/-- At some time in a run, the evaluation of a number has sent its summary. -/
def Published (timeline : Timeline) (moves : List Move) (number : Nat) : Prop :=
  ∃ before, before <+: moves ∧ ∃ summary,
    (number, .finished summary) ∈ (timeline.run before).evaluations ∧
      summary ∈ (timeline.run before).summaries

theorem dispatches_le_move (timeline : Timeline) (move : Move) :
    timeline.dispatches ≤ (timeline.move move).dispatches := by
  rcases timeline.move_cases move with ⟨call, rfl⟩ | ⟨number, task, sent, task', hgoes⟩ | hrests
  · rw [Timeline.move, dispatches_absorb]
    exact Nat.le_add_right _ _
  · exact hgoes.dispatches.ge
  · exact hrests.dispatches.ge

theorem dispatches_le_run (timeline : Timeline) (moves : List Move) :
    timeline.dispatches ≤ (timeline.run moves).dispatches := by
  induction moves generalizing timeline with
  | nil => exact le_rfl
  | cons first later ih => exact (timeline.dispatches_le_move first).trans (ih _)

theorem GoesOn.mem_evaluations_cases {after : Timeline} (h : timeline.Numbered) {number : Nat}
    {task task' : Task} {sent : List Message}
    (hgoes : timeline.GoesOn number task sent task' after) {own : Nat} {found : Task}
    (hmem : (own, found) ∈ after.evaluations) :
    ∃ old, (own, old) ∈ timeline.evaluations ∧ (found.isLive = true → old.isLive = true) := by
  rw [hgoes.evaluations] at hmem
  obtain ⟨⟨own', old⟩, hold, heq⟩ := List.mem_map.mp hmem
  obtain ⟨rfl, rfl⟩ := Prod.mk.inj heq
  refine ⟨old, hold, ?_⟩
  by_cases hnumber : own' = number
  · obtain ⟨-, rfl⟩ := Prod.mk.inj (hgoes.eq_task h hold hnumber)
    rw [if_pos hnumber]
    intro hlive
    by_contra hdead
    obtain ⟨-, -, rfl⟩ := hgoes.advances.eq_of_not_live (eq_false_of_ne_true hdead)
    exact hdead hlive
  · rw [if_neg hnumber]
    exact id

/-- An evaluation that was dispatched before a move was kept before it, and was live if it
is live. -/
theorem mem_evaluations_of_move (h : timeline.Numbered) {move : Move} {number : Nat}
    {task : Task} (hnumber : number < timeline.dispatches)
    (hmem : (number, task) ∈ (timeline.move move).evaluations) :
    ∃ old, (number, old) ∈ timeline.evaluations ∧ (task.isLive = true → old.isLive = true) := by
  rcases timeline.move_cases move with ⟨call, rfl⟩ | ⟨own, old, sent, new, hgoes⟩ | hrests
  · rw [Timeline.move] at hmem
    rcases List.eq_nil_or_concat' (timeline.scheduler.call call).dispatched with
      hnone | ⟨earlier, last, hlast⟩
    · rw [(timeline.absorb_of_not_dispatched hnone).1] at hmem
      exact ⟨task, hmem, id⟩
    · rw [(h.absorb_of_dispatched hlast).1] at hmem
      rcases List.mem_append.mp hmem with hold | hnew
      · exact ⟨task, List.mem_of_mem_filter hold, id⟩
      · have heq := congrArg Prod.fst (List.mem_singleton.mp hnew)
        dsimp only at heq
        omega
  · exact hgoes.mem_evaluations_cases h hmem
  · obtain ⟨p, hevaluations⟩ := hrests.evaluations
    rw [hevaluations] at hmem
    exact ⟨task, List.mem_of_mem_filter hmem, id⟩

theorem mem_evaluations_of_run (h : timeline.Numbered) {moves : List Move} {number : Nat}
    {task : Task} (hnumber : number < timeline.dispatches)
    (hmem : (number, task) ∈ (timeline.run moves).evaluations) :
    ∃ old, (number, old) ∈ timeline.evaluations ∧ (task.isLive = true → old.isLive = true) := by
  induction moves generalizing timeline with
  | nil => exact ⟨task, hmem, id⟩
  | cons first later ih =>
    obtain ⟨between, hbetween, hlive⟩ :=
      ih (h.move first) (hnumber.trans_le (timeline.dispatches_le_move first)) hmem
    obtain ⟨old, hold, hlive'⟩ := mem_evaluations_of_move h hnumber hbetween
    exact ⟨old, hold, fun htask => hlive' (hlive htask)⟩

theorem Overtakes.gone (h : timeline.Numbered) {call : Call} {number : Nat}
    (hovertakes : timeline.Overtakes call number) :
    number < (timeline.move (.call call)).dispatches ∧
      ∀ task, (number, task) ∉ (timeline.move (.call call)).evaluations := by
  have hlatest := h.latest number
  have hlt := h.lt
  unfold Overtakes at hovertakes
  change number < (timeline.absorb (timeline.scheduler.call call)).dispatches ∧
    ∀ task, (number, task) ∉ (timeline.absorb (timeline.scheduler.call call)).evaluations
  generalize timeline.scheduler.call call = turn at hovertakes ⊢
  have hsome : turn.dispatched ≠ [] := by
    rintro hnone
    simp only [hnone, List.length_nil] at hovertakes
    omega
  obtain ⟨earlier, last, hlast⟩ := (List.eq_nil_or_concat' _).resolve_left hsome
  have hlength : turn.dispatched.length = earlier.length + 1 := by
    rw [hlast, List.length_append, List.length_singleton]
  constructor
  · rw [dispatches_absorb]
    rcases hovertakes with ⟨hbehind, hahead⟩ | ⟨hsome, hsame, -⟩
    · omega
    · have := hlatest hsame
      omega
  · intro task hmem
    rw [(h.absorb_of_dispatched hlast).1] at hmem
    rcases List.mem_append.mp hmem with hold | hnew
    · obtain ⟨hkept, hother⟩ := List.mem_filter.mp hold
      have hbefore := hlt _ hkept
      rcases hovertakes with ⟨hbehind, -⟩ | ⟨-, hsame, -⟩
      · exact absurd hbefore (Nat.not_lt.mpr hbehind)
      · exact absurd hsame.symm (of_decide_eq_true hother)
    · have heq := congrArg Prod.fst (List.mem_singleton.mp hnew)
      dsimp only at heq
      rcases hovertakes with ⟨-, hahead⟩ | ⟨-, hsame, -⟩
      · omega
      · have := hlatest hsame
        omega

/-- An evaluation that has published is over, and one that is overtaken does not publish. -/
theorem Published.not_overtaken (h : timeline.Numbered) {moves : List Move} {number : Nat}
    (hpublished : timeline.Published moves number) : ¬ timeline.Overtaken moves number := by
  rintro ⟨before, call, hcalled, hovertakes⟩
  obtain ⟨done, hdone, summary, hfinished, -⟩ := hpublished
  have hnumbered := h.run before
  obtain ⟨hlt, hgone⟩ := hovertakes.gone hnumbered
  rcases List.prefix_or_prefix_of_prefix hdone hcalled with hfirst | hlater
  · rcases List.prefix_concat_iff.mp hfirst with rfl | hfirst
    · rw [run_concat] at hfinished
      exact hgone _ hfinished
    · obtain ⟨between, rfl⟩ := hfirst
      rw [run_append] at hovertakes
      have hpast := (h.run done).lt _ hfinished
      rcases hovertakes with ⟨hbehind, -⟩ | ⟨-, -, task, hlive⟩
      · exact absurd (hpast.trans_le (dispatches_le_run _ between)) (Nat.not_lt.mpr hbehind)
      · obtain ⟨hkept, hlive⟩ := mem_live.mp hlive
        obtain ⟨old, hold, hback⟩ := mem_evaluations_of_run (h.run done) hpast hkept
        have hsame := List.inj_on_of_nodup_map (h.run done).nodup hold hfinished rfl
        obtain rfl := (Prod.mk.inj hsame).2
        exact absurd (hback hlive) Bool.false_ne_true
  · obtain ⟨between, rfl⟩ := hlater
    rw [run_append, run_concat] at hfinished
    obtain ⟨old, hold, -⟩ := mem_evaluations_of_run (hnumbered.move _) hlt hfinished
    exact hgone old hold

/-! ## Events that reach the participants -/

/-- Every event that ends has had evaluations dispatched with its multiplier.  One of them
has published or is never aborted if and only if one of them is not overtaken. -/
theorem ended_event_kept_iff {arena : Arena} (hstart : start arena = .ok timeline)
    (moves : List Move) {before after : List Stir}
    (hended : timeline.chronicle moves = before ++ .ended :: after) :
    ∃ dispatches, dispatches ≠ [] ∧ ServedBy arena.settings before dispatches ∧
      (∀ dispatch ∈ dispatches, timeline.Dispatched moves dispatch) ∧
      ((∃ dispatch ∈ dispatches,
          timeline.Published moves dispatch.1 ∨ dispatch.1 ∉ timeline.aborted moves) ↔
        ∃ dispatch ∈ dispatches, ¬ timeline.Overtaken moves dispatch.1) := by
  have hnumbered := numbered_start hstart
  have hattends := attends_run (attends_start hstart) moves
  obtain ⟨dispatches, hserved, hsome⟩ := hattends.ended before after hended
  refine ⟨dispatches, hsome, hserved, ?_, ?_⟩
  · intro dispatch hmem
    apply dispatched_of_mem_chronicle
    rw [hended]
    exact List.mem_append_left _ (hserved.mem hmem)
  · constructor
    · rintro ⟨dispatch, hmem, hpublished | hkept⟩
      · exact ⟨dispatch, hmem, hpublished.not_overtaken hnumbered⟩
      · exact ⟨dispatch, hmem, fun hover => hkept ((mem_aborted_iff hnumbered _ _).mpr hover)⟩
    · rintro ⟨dispatch, hmem, hnot⟩
      exact ⟨dispatch, hmem, .inr fun habort => hnot ((mem_aborted_iff hnumbered _ _).mp habort)⟩

/-- An arena without participants. -/
def idleArena : Arena :=
  .create ⟨[], .standard⟩ Settings.quick .everyone

/-- The evaluation of the event publishes before the next dispatch. -/
theorem idle_event_kept :
    ∃ timeline, start idleArena = .ok timeline ∧
      let moves := [.call (.triggerHourly 0), .call (.step 4000000000),
        .takeBatch 0 ⟨4000000000, 4000⟩ fun _ => 4000000000, .call (.step 11000000000)]
      timeline.chronicle moves =
          [.started, .dispatched 0 (.duringHour 1 100)] ++ .ended :: [.dispatched 1 (.regular 2)] ∧
        0 ∉ timeline.aborted moves ∧ ¬ timeline.Overtaken moves 0 := by
  let moves : List Move := [.call (.triggerHourly 0), .call (.step 4000000000),
    .takeBatch 0 ⟨4000000000, 4000⟩ fun _ => 4000000000, .call (.step 11000000000)]
  obtain ⟨timeline, hstart, hchronicle, haborted⟩ : ∃ timeline, start idleArena = .ok timeline ∧
      timeline.chronicle moves =
          [.started, .dispatched 0 (.duringHour 1 100)] ++ .ended :: [.dispatched 1 (.regular 2)] ∧
        0 ∉ timeline.aborted moves := by
    apply Time.exists_ok_of_any
    decide +kernel
  obtain ⟨dispatches, hsome, hserved, -, hkept⟩ := ended_event_kept_iff hstart moves hchronicle
  have hzero : ∀ dispatch ∈ dispatches, dispatch.1 = 0 := by
    intro dispatch hmem
    have hnoted := hserved.mem hmem
    simp only [List.mem_cons, reduceCtorEq, Stir.dispatched.injEq, List.not_mem_nil, or_false,
      false_or] at hnoted
    exact hnoted.1
  obtain ⟨dispatch, hmem, hnot⟩ := hkept.mp <| by
    obtain ⟨dispatch, hmem⟩ := List.exists_mem_of_ne_nil dispatches hsome
    exact ⟨dispatch, hmem, .inr (by rwa [hzero dispatch hmem])⟩
  rw [hzero dispatch hmem] at hnot
  exact ⟨timeline, hstart, hchronicle, haborted, hnot⟩

/-- One late step dispatches the evaluation of the event, ends the event and dispatches the
next evaluation, before the first one has had a turn. -/
theorem idle_event_lost :
    ∃ timeline, start idleArena = .ok timeline ∧
      let moves := [.call (.triggerHourly 0), .call (.step 11000000000)]
      timeline.chronicle moves =
          [.started, .dispatched 0 (.duringHour 1 100)] ++ .ended :: [.dispatched 1 (.regular 2)] ∧
        timeline.aborted moves = [0] ∧
        ∀ later, ¬ timeline.Published (moves ++ later) 0 := by
  let moves : List Move := [.call (.triggerHourly 0), .call (.step 11000000000)]
  obtain ⟨timeline, hstart, hchronicle, haborted⟩ : ∃ timeline, start idleArena = .ok timeline ∧
      timeline.chronicle moves =
          [.started, .dispatched 0 (.duringHour 1 100)] ++ .ended :: [.dispatched 1 (.regular 2)] ∧
        timeline.aborted moves = [0] := by
    apply Time.exists_ok_of_any
    decide +kernel
  have hnumbered := numbered_start hstart
  refine ⟨timeline, hstart, hchronicle, haborted, fun later hpublished => ?_⟩
  have hmem : 0 ∈ timeline.aborted moves := by
    rw [haborted]
    exact List.mem_singleton_self _
  obtain ⟨before, call, hinit, hovertakes⟩ := (mem_aborted_iff hnumbered moves 0).mp hmem
  exact hpublished.not_overtaken hnumbered
    ⟨before, call, hinit.trans (List.prefix_append _ later), hovertakes⟩

end Timeline

end TickArena

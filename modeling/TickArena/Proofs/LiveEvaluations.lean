import TickArena.Proofs.TimelineRuns

/-!
# Live evaluations

A dispatch drops the latest evaluation, but not one that somebody waits for.  So there is
never a second live evaluation if and only if no call dispatches while one is waited for.
Then the ticks publish in their order, and the results that are kept are those of the last
tick that has published.
-/

namespace TickArena

namespace Timeline

variable {timeline after : Timeline}

/-! ## How many evaluations are live -/

theorem mem_live {evaluation : Nat × Task} :
    evaluation ∈ timeline.live ↔ evaluation ∈ timeline.evaluations ∧ evaluation.2.isLive = true :=
  List.mem_filter

theorem eq_of_mem_live (hlive : timeline.live.length ≤ 1) {evaluation other : Nat × Task}
    (hmem : evaluation ∈ timeline.live) (hother : other ∈ timeline.live) : evaluation = other := by
  have hone : timeline.live.length = 1 := le_antisymm hlive (List.length_pos_of_mem hmem)
  obtain ⟨only, honly⟩ := List.length_eq_one_iff.mp hone
  rw [honly, List.mem_singleton] at hmem hother
  rw [hmem, hother]

theorem live_congr (h : after.evaluations = timeline.evaluations) : after.live = timeline.live := by
  rw [live, live, h]

theorem live_filter {p : Nat × Task → Bool}
    (h : after.evaluations = timeline.evaluations.filter p) :
    after.live = timeline.live.filter p := by
  rw [live, live, h, List.filter_filter, List.filter_filter]
  simp only [Bool.and_comm]

theorem live_absorb_of_dispatched (h : timeline.Numbered) {turn : Turn} {earlier : List Request}
    {last : Request} (hdispatched : turn.dispatched = earlier ++ [last]) :
    (timeline.absorb turn).live = timeline.held ++
      [(timeline.dispatches + earlier.length, .queued last timeline.clock.rung)] := by
  rw [live, (h.absorb_of_dispatched hdispatched).1, List.filter_append, held, live,
    List.filter_filter, List.filter_filter]
  simp only [Bool.and_comm]
  rfl

namespace GoesOn

variable {number : Nat} {task task' : Task} {sent : List Message}

theorem eq_task (h : timeline.Numbered) (hgoes : timeline.GoesOn number task sent task' after)
    {evaluation : Nat × Task} (hmem : evaluation ∈ timeline.evaluations)
    (hnumber : evaluation.1 = number) : evaluation = (number, task) :=
  List.inj_on_of_nodup_map h.nodup hmem hgoes.mem hnumber

theorem mem_live_cases (h : timeline.Numbered)
    (hgoes : timeline.GoesOn number task sent task' after) {evaluation : Nat × Task}
    (hmem : evaluation ∈ after.live) :
    (evaluation ∈ timeline.live ∧ evaluation.1 ≠ number) ∨
      evaluation = (number, task') ∧ (number, task) ∈ timeline.live := by
  obtain ⟨hkept, hlive⟩ := mem_live.mp hmem
  rw [hgoes.evaluations] at hkept
  obtain ⟨old, hold, rfl⟩ := List.mem_map.mp hkept
  by_cases hnumber : old.1 = number
  · obtain rfl := hgoes.eq_task h hold hnumber
    rw [if_pos rfl] at hlive ⊢
    refine .inr ⟨rfl, mem_live.mpr ⟨hold, ?_⟩⟩
    by_contra hdead
    obtain ⟨-, -, rfl⟩ := hgoes.advances.eq_of_not_live (eq_false_of_ne_true hdead)
    exact hdead hlive
  · rw [if_neg hnumber] at hlive ⊢
    exact .inl ⟨mem_live.mpr ⟨hold, hlive⟩, hnumber⟩

theorem mem_live_iff_of_ne (hgoes : timeline.GoesOn number task sent task' after)
    {other : Nat} (hne : other ≠ number) {found : Task} :
    (other, found) ∈ after.live ↔ (other, found) ∈ timeline.live := by
  rw [mem_live, mem_live, hgoes.evaluations]
  refine and_congr_left fun _ => ⟨fun hmem => ?_, fun hmem => ?_⟩
  · obtain ⟨old, hold, heq⟩ := List.mem_map.mp hmem
    obtain ⟨rfl, rfl⟩ := Prod.mk.inj heq
    rwa [if_neg hne]
  · exact List.mem_map.mpr ⟨_, hmem, by rw [if_neg hne]⟩

theorem mem_live_self_iff (hgoes : timeline.GoesOn number task sent task' after) {found : Task} :
    (number, found) ∈ after.live ↔ found = task' ∧ task'.isLive = true := by
  rw [mem_live, hgoes.evaluations]
  constructor
  · rintro ⟨hmem, hlive⟩
    obtain ⟨old, hold, heq⟩ := List.mem_map.mp hmem
    obtain ⟨hnumber, rfl⟩ := Prod.mk.inj heq
    rw [if_pos hnumber] at hlive ⊢
    exact ⟨rfl, hlive⟩
  · rintro ⟨rfl, hlive⟩
    exact ⟨List.mem_map.mpr ⟨_, hgoes.mem, by rw [if_pos rfl]⟩, hlive⟩

theorem length_live_le (h : timeline.Numbered)
    (hgoes : timeline.GoesOn number task sent task' after) :
    after.live.length ≤ timeline.live.length := by
  rw [live, live, hgoes.evaluations, replaced, ← List.countP_eq_length_filter,
    ← List.countP_eq_length_filter, List.countP_map]
  apply List.countP_mono_left
  intro evaluation hmem hlive
  by_cases hnumber : evaluation.1 = number
  · obtain rfl := hgoes.eq_task h hmem hnumber
    rw [Function.comp_apply, if_pos rfl] at hlive
    by_contra hdead
    obtain ⟨-, -, rfl⟩ := hgoes.advances.eq_of_not_live (eq_false_of_ne_true hdead)
    exact hdead hlive
  · rwa [Function.comp_apply, if_neg hnumber] at hlive

end GoesOn

/-- No call of a run dispatches while an evaluation is waited for. -/
def DispatchesUnheld (timeline : Timeline) (moves : List Move) : Prop :=
  ∀ before call, before ++ [.call call] <+: moves →
    ((timeline.run before).scheduler.call call).dispatched ≠ [] → (timeline.run before).held = []

theorem DispatchesUnheld.of_prefix {before moves : List Move} (h : timeline.DispatchesUnheld moves)
    (hinit : before <+: moves) : timeline.DispatchesUnheld before :=
  fun earlier call hearlier => h earlier call (hearlier.trans hinit)

/-- Only a call that dispatches while an evaluation is waited for adds a second one. -/
theorem length_live_move_le (h : timeline.Numbered) (hlive : timeline.live.length ≤ 1)
    {move : Move} (hunheld : ∀ call, move = .call call →
      (timeline.scheduler.call call).dispatched ≠ [] → timeline.held = []) :
    (timeline.move move).live.length ≤ 1 := by
  rcases timeline.move_cases move with ⟨call, rfl⟩ | ⟨number, task, sent, task', hgoes⟩ | hrests
  · rw [Timeline.move]
    by_cases hdispatched : (timeline.scheduler.call call).dispatched = []
    · rwa [live_congr (timeline.absorb_of_not_dispatched hdispatched).1]
    · obtain ⟨earlier, last, hlast⟩ := (List.eq_nil_or_concat' _).resolve_left hdispatched
      rw [live_absorb_of_dispatched h hlast, hunheld call rfl hdispatched]
      exact le_rfl
  · exact (hgoes.length_live_le h).trans hlive
  · obtain ⟨p, hevaluations⟩ := hrests.evaluations
    rw [live_filter hevaluations]
    exact (List.length_filter_le _ _).trans hlive

theorem length_live_run_le (h : timeline.Numbered) (hlive : timeline.live = []) {moves : List Move}
    (hunheld : timeline.DispatchesUnheld moves) : (timeline.run moves).live.length ≤ 1 := by
  induction moves using List.reverseRecOn with
  | nil => simp [run, hlive]
  | append_singleton moves last ih =>
    rw [run_concat]
    apply length_live_move_le (h.run moves) (ih (hunheld.of_prefix (List.prefix_append _ _)))
    rintro call rfl
    exact hunheld moves call List.prefix_rfl

theorem unheld_of_length_live_le (h : timeline.Numbered) {moves : List Move}
    (hlive : ∀ before, before <+: moves → (timeline.run before).live.length ≤ 1) :
    timeline.DispatchesUnheld moves := by
  intro before call hinit hdispatched
  obtain ⟨earlier, last, hlast⟩ := (List.eq_nil_or_concat' _).resolve_left hdispatched
  have hafter := hlive _ hinit
  rw [run_concat, move, live_absorb_of_dispatched (h.run before) hlast, List.length_append,
    List.length_singleton] at hafter
  exact List.length_eq_zero_iff.mp (by omega)

theorem live_start {arena : Arena} (hstart : start arena = .ok timeline) : timeline.live = [] := by
  obtain ⟨scheduler, -, hstart⟩ := Time.bind_eq_ok hstart
  rw [← Except.ok.inj hstart]
  rfl

theorem summaries_absorb_call (timeline : Timeline) (call : Call) :
    (timeline.absorb (timeline.scheduler.call call)).summaries = timeline.summaries := by
  rw [summaries, sent_absorb, Host.summaries_append, timeline.scheduler.unpublished_call call,
    List.append_nil]
  rfl

/-! ## Ticks in their order -/

/-- The ticks that have been published, are under way and are still to come follow one
another, and what is kept are the results of the last published one. -/
structure InOrder (timeline : Timeline) : Prop where
  ascending : (timeline.summaries.map Summary.tick).Pairwise (· < ·)
  published : ∀ summary ∈ timeline.summaries,
    summary.tick < timeline.scheduler.clock.nextTick
  live : ∀ evaluation ∈ timeline.live, ∀ request, evaluation.2.request? = some request →
    request.tick < timeline.scheduler.clock.nextTick ∧
      ∀ summary ∈ timeline.summaries, summary.tick < request.tick
  results : ∀ participant standing,
    timeline.arena.standings.get? participant = some standing →
      timeline.summaries.getLast?.map Summary.tick = some standing.tick

namespace InOrder

theorem rests (h : timeline.InOrder) (hrests : timeline.Rests after) : after.InOrder := by
  have hsummaries : after.summaries = timeline.summaries := by
    rw [summaries, summaries, hrests.sent]
  have hlive : ∀ evaluation ∈ after.live, evaluation ∈ timeline.live := by
    obtain ⟨p, hevaluations⟩ := hrests.evaluations
    rw [live_filter hevaluations]
    exact fun evaluation => List.mem_of_mem_filter
  constructor
  · rw [hsummaries]
    exact h.ascending
  · rw [hsummaries, hrests.scheduler]
    exact h.published
  · rw [hsummaries, hrests.scheduler]
    exact fun evaluation hmem => h.live evaluation (hlive evaluation hmem)
  · rw [hsummaries]
    exact fun participant standing hkept =>
      h.results participant standing (hrests.results participant standing hkept)

theorem absorb (h : timeline.InOrder) (hnumbered : timeline.Numbered) (call : Call)
    (hunheld : (timeline.scheduler.call call).dispatched ≠ [] → timeline.held = []) :
    (timeline.absorb (timeline.scheduler.call call)).InOrder := by
  have hcall := timeline.scheduler.dispatchedTicks_call call
  have hsummaries := timeline.summaries_absorb_call call
  generalize timeline.scheduler.call call = turn at hcall hsummaries hunheld ⊢
  obtain ⟨hnext, hdispatches⟩ := hcall
  constructor
  · rw [hsummaries]
    exact h.ascending
  · rw [hsummaries, scheduler_absorb]
    exact fun summary hmem => (h.published summary hmem).trans_le hnext
  · rw [hsummaries, scheduler_absorb]
    intro evaluation hmem request hrequest
    rcases List.eq_nil_or_concat' turn.dispatched with hnone | ⟨earlier, last, hlast⟩
    · rw [live_congr (timeline.absorb_of_not_dispatched hnone).1] at hmem
      obtain ⟨hlt, hpublished⟩ := h.live evaluation hmem request hrequest
      exact ⟨hlt.trans_le hnext, hpublished⟩
    · -- The new evaluation is the only one, and its tick is one that the clock has started.
      have hsome : turn.dispatched ≠ [] := by simp [hlast]
      rw [live_absorb_of_dispatched hnumbered hlast, hunheld hsome, List.nil_append,
        List.mem_singleton] at hmem
      subst hmem
      obtain rfl := Option.some_inj.mp hrequest
      obtain ⟨transitions, hstarts, hticks⟩ := hdispatches.resolve_left hsome
      have hstarted : last.tick ∈ startedTicks transitions := by
        rw [← hticks, Turn.dispatchedTicks, hlast]
        exact List.mem_map_of_mem (by simp)
      rw [hstarts.ticks, List.mem_range'_1, ← hstarts.nextTick] at hstarted
      exact ⟨hstarted.2, fun summary hmem => (h.published summary hmem).trans_le hstarted.1⟩
  · rw [hsummaries, arena_absorb]
    exact h.results

theorem goesOn_of_unpublished (h : timeline.InOrder) (hnumbered : timeline.Numbered) {number : Nat}
    {task task' : Task} {sent : List Message}
    (hgoes : timeline.GoesOn number task sent task' after)
    (harena : after.arena = timeline.arena) (hsent : Host.summaries sent = []) :
    after.InOrder := by
  have hsummaries : after.summaries = timeline.summaries := by
    rw [summaries, hgoes.sent, Host.summaries_append, hsent, List.append_nil]
    rfl
  constructor
  · rw [hsummaries]
    exact h.ascending
  · rw [hsummaries, hgoes.scheduler]
    exact h.published
  · rw [hsummaries, hgoes.scheduler]
    intro evaluation hmem request hrequest
    rcases hgoes.mem_live_cases hnumbered hmem with ⟨hold, -⟩ | ⟨rfl, hold⟩
    · exact h.live evaluation hold request hrequest
    · exact h.live _ hold request (hgoes.advances.request?_eq_some hrequest)
  · rw [hsummaries, harena]
    exact h.results

/-- The only live evaluation publishes a tick behind all that have been published. -/
theorem goesOn_of_published (h : timeline.InOrder) (hnumbered : timeline.Numbered)
    (hlive : timeline.live.length ≤ 1) {number : Nat} {task : Task} {sent : List Message}
    {request : Request} {summary : Summary}
    (hgoes : timeline.GoesOn number task sent (.finished summary) after)
    (hrequest : task.request? = some request)
    (hcloses : timeline.arena.Closes request after.arena sent summary) : after.InOrder := by
  have hsummaries : after.summaries = timeline.summaries ++ [summary] := by
    rw [summaries, hgoes.sent, Host.summaries_append, hcloses.sent]
    rfl
  have hmem : (number, task) ∈ timeline.live :=
    mem_live.mpr ⟨hgoes.mem, by rw [Task.isLive, hrequest]; rfl⟩
  obtain ⟨hnext, hbehind⟩ := h.live _ hmem request hrequest
  constructor
  · rw [hsummaries, List.map_append, List.pairwise_append]
    refine ⟨h.ascending, List.pairwise_singleton _ _, ?_⟩
    intro earlier hearlier last hlast
    obtain ⟨published, hpublished, rfl⟩ := List.mem_map.mp hearlier
    rw [List.map_singleton, List.mem_singleton] at hlast
    rw [hlast, hcloses.tick]
    exact hbehind published hpublished
  · rw [hsummaries, hgoes.scheduler]
    intro published hpublished
    rcases List.mem_append.mp hpublished with hold | hnew
    · exact h.published published hold
    · rw [List.mem_singleton.mp hnew, hcloses.tick]
      exact hnext
  · intro evaluation hkept other hother
    rcases hgoes.mem_live_cases hnumbered hkept with ⟨hold, hne⟩ | ⟨rfl, -⟩
    · exact absurd (congrArg Prod.fst (eq_of_mem_live hlive hold hmem)) hne
    · contradiction
  · rw [hsummaries]
    intro participant standing hkept
    rw [List.getLast?_concat, hcloses.results participant standing hkept]
    exact congrArg some hcloses.tick

theorem goesOn (h : timeline.InOrder) (hnumbered : timeline.Numbered)
    (hlive : timeline.live.length ≤ 1) {number : Nat} {task task' : Task} {sent : List Message}
    (hgoes : timeline.GoesOn number task sent task' after) : after.InOrder := by
  have hadvances := hgoes.advances
  generalize harena : after.arena = arena at hadvances
  cases hadvances with
  | rests => exact h.goesOn_of_unpublished hnumbered hgoes harena rfl
  | crashes hcrashed => exact h.goesOn_of_unpublished hnumbered hgoes harena rfl
  | goesOn hrequest hnone => exact h.goesOn_of_unpublished hnumbered hgoes harena hnone
  | publishes hrequest hcloses =>
    exact h.goesOn_of_published hnumbered hlive hgoes hrequest (harena ▸ hcloses)

theorem move (h : timeline.InOrder) (hnumbered : timeline.Numbered)
    (hlive : timeline.live.length ≤ 1) {move : Move}
    (hunheld : ∀ call, move = .call call →
      (timeline.scheduler.call call).dispatched ≠ [] → timeline.held = []) :
    (timeline.move move).InOrder := by
  rcases timeline.move_cases move with ⟨call, rfl⟩ | ⟨number, task, sent, task', hgoes⟩ | hrests
  · exact h.absorb hnumbered call (hunheld call rfl)
  · exact h.goesOn hnumbered hlive hgoes
  · exact h.rests hrests

theorem start {catalog : Catalog} {settings : Settings} {ownership : Ownership}
    (hstart : Timeline.start (.create catalog settings ownership) = .ok timeline) :
    timeline.InOrder := by
  obtain ⟨scheduler, -, hstart⟩ := Time.bind_eq_ok hstart
  rw [← Except.ok.inj hstart]
  exact ⟨List.Pairwise.nil, fun summary hmem => by contradiction,
    fun evaluation hmem => by contradiction, fun participant standing hkept => by contradiction⟩

theorem run (h : timeline.InOrder) (hnumbered : timeline.Numbered) (hlive : timeline.live = [])
    {moves : List Move} (hunheld : timeline.DispatchesUnheld moves) :
    (timeline.run moves).InOrder := by
  induction moves using List.reverseRecOn with
  | nil => exact h
  | append_singleton moves last ih =>
    have hbefore := hunheld.of_prefix (List.prefix_append moves [last])
    rw [run_concat]
    apply (ih hbefore).move (hnumbered.run moves) (length_live_run_le hnumbered hlive hbefore)
    rintro call rfl
    exact hunheld moves call List.prefix_rfl

end InOrder

theorem tick_le_of_summaries_prefix {earlier later : List Summary} (hinit : earlier <+: later)
    (hascending : (later.map Summary.tick).Pairwise (· < ·)) {tick tick' : Nat}
    (hearlier : earlier.getLast?.map Summary.tick = some tick)
    (hlater : later.getLast?.map Summary.tick = some tick') : tick ≤ tick' := by
  obtain ⟨summary, hsummary, rfl⟩ := Option.map_eq_some_iff.mp hearlier
  obtain ⟨last, hlast, rfl⟩ := Option.map_eq_some_iff.mp hlater
  obtain ⟨before, rfl⟩ := List.getLast?_eq_some_iff.mp hlast
  rw [List.map_append, List.pairwise_append] at hascending
  rcases List.mem_append.mp (hinit.subset (List.mem_of_getLast? hsummary)) with hbefore | hsame
  · exact (hascending.2.2 _ (List.mem_map_of_mem hbefore) _ (by simp)).le
  · rw [List.mem_singleton.mp hsame]

/-- There is never a second live evaluation if and only if no call dispatches while one is
waited for; and then ticks publish in their order, and the results of a tick are never
replaced by those of an earlier one. -/
theorem live_le_one_iff {catalog : Catalog} {settings : Settings} {ownership : Ownership}
    (hstart : Timeline.start (.create catalog settings ownership) = .ok timeline)
    (moves : List Move) :
    ((∀ before, before <+: moves → (timeline.run before).live.length ≤ 1) ↔
        timeline.DispatchesUnheld moves) ∧
      (timeline.DispatchesUnheld moves →
        ((timeline.run moves).summaries.map Summary.tick).Pairwise (· < ·) ∧
          ∀ before after, before <+: after → after <+: moves →
            ∀ participant other standing standing',
              (timeline.run before).arena.standings.get? participant = some standing →
              (timeline.run after).arena.standings.get? other = some standing' →
              standing.tick ≤ standing'.tick) := by
  have hnumbered := numbered_start hstart
  have hempty : timeline.live = [] := live_start hstart
  have horder : ∀ before, before <+: moves → timeline.DispatchesUnheld moves →
      (timeline.run before).InOrder :=
    fun before hinit hunheld =>
      (InOrder.start hstart).run hnumbered hempty (hunheld.of_prefix hinit)
  refine ⟨⟨unheld_of_length_live_le hnumbered, ?_⟩, ?_⟩
  · exact fun hunheld before hinit =>
      length_live_run_le hnumbered hempty (hunheld.of_prefix hinit)
  · intro hunheld
    refine ⟨(horder moves List.prefix_rfl hunheld).ascending, ?_⟩
    rintro before after hbefore hafter participant other standing standing' hkept hkept'
    have hfirst := (horder before (hbefore.trans hafter) hunheld).results _ _ hkept
    have hsecond := horder after hafter hunheld
    obtain ⟨between, rfl⟩ := hbefore
    have hsent : (timeline.run before).summaries <+:
        (timeline.run (before ++ between)).summaries := by
      rw [run_append]
      exact (sent_prefix_run _ between).filterMap _
    exact tick_le_of_summaries_prefix hsent hsecond.ascending hfirst
      (hsecond.results _ _ hkept')

/-! ## The ticks that moves publish -/

def tickOf? (timeline : Timeline) (number : Nat)
    (portion : Arena → Task → Arena × List Message × Task) : Option Nat := do
  let task ← timeline.task? number
  let request ← task.request?
  let _ ← (portion timeline.arena task).2.2.summary?
  return request.tick

def publishes? (timeline : Timeline) : Move → Option Nat
  | .announceBatch number clock readings =>
    timeline.tickOf? number fun arena => Task.announceBatch arena clock readings
  | .takeBatch number clock readings =>
    timeline.tickOf? number fun arena => Task.takeBatch arena clock readings
  | _ => none

def published (timeline : Timeline) : List Move → List Nat
  | [] => []
  | move :: later => (timeline.publishes? move).toList ++ (timeline.move move).published later

theorem summary?_of_request? {task : Task} {request : Request}
    (h : task.request? = some request) : task.summary? = none := by
  cases task with
  | finished summary => contradiction
  | _ => rfl

theorem ticks_goOn (timeline : Timeline) (number : Nat)
    {portion : Arena → Task → Arena × List Message × Task}
    (hportion : Task.IsPortion portion) :
    (timeline.goOn number portion).summaries.map Summary.tick =
      timeline.summaries.map Summary.tick ++ (timeline.tickOf? number portion).toList := by
  unfold goOn tickOf? summaries
  cases timeline.task? number with
  | none => exact (List.append_nil _).symm
  | some task =>
    have hadvances := hportion timeline.arena task
    dsimp only [Option.bind_eq_bind, Option.bind_some]
    generalize portion timeline.arena task = outcome at hadvances ⊢
    obtain ⟨after, sent, task'⟩ := outcome
    rw [Host.summaries_append, List.map_append]
    congr 1
    cases hadvances with
    | rests =>
      cases hrequest : task'.request? with
      | none => rfl
      | some request =>
        rw [summary?_of_request? hrequest]
        rfl
    | crashes hlive => cases task.request? <;> rfl
    | goesOn hrequest hnone =>
      rw [hnone, hrequest]
      rfl
    | publishes hrequest hcloses =>
      rw [hcloses.sent, hrequest]
      exact congrArg (fun tick => [tick]) hcloses.tick

theorem ticks_move (timeline : Timeline) (move : Move) :
    (timeline.move move).summaries.map Summary.tick =
      timeline.summaries.map Summary.tick ++ (timeline.publishes? move).toList := by
  cases move with
  | call call =>
    rw [Timeline.move, summaries_absorb_call]
    exact (List.append_nil _).symm
  | stop =>
    rw [Timeline.move, stop_eq]
    exact (List.append_nil _).symm
  | hold => exact (List.append_nil _).symm
  | announceBatch number clock readings =>
    exact timeline.ticks_goOn number (Task.isPortion_announceBatch clock readings)
  | takeBatch number clock readings =>
    exact timeline.ticks_goOn number (Task.isPortion_takeBatch clock readings)
  | submit participant submission =>
    rw [Timeline.move, submit_eq]
    exact (List.append_nil _).symm
  | depart participant => exact (List.append_nil _).symm

theorem ticks_run (timeline : Timeline) (moves : List Move) :
    (timeline.run moves).summaries.map Summary.tick =
      timeline.summaries.map Summary.tick ++ timeline.published moves := by
  induction moves generalizing timeline with
  | nil => exact (List.append_nil _).symm
  | cons first later ih =>
    change ((timeline.move first).run later).summaries.map Summary.tick = _
    rw [ih, ticks_move, List.append_assoc]
    rfl

/-! ## A wait that lasts too long -/

/-- An arena that takes one participant at a time. -/
def pairArena : Arena :=
  .create ⟨[Standard.emberCore], .standard⟩
    { Settings.quick with batchSize := 1, parallelThreshold := 1 } .everyone

/-- Somebody waits for the evaluation of two participants, one batch of which is left. -/
def halfway : List Move :=
  [.submit 1 ⟨[some (.plain "ember_core")], "first"⟩,
    .submit 2 ⟨[some (.plain "ember_core")], "second"⟩,
    .call (.step 4000000000),
    .takeBatch 0 ⟨4000000000, 4000⟩ fun _ => 4000000000,
    .hold]

/-- The wait ends before the next dispatch. -/
theorem halfway_live_le_one :
    ∃ timeline, start pairArena = .ok timeline ∧
      let moves := halfway ++ [.takeBatch 0 ⟨5000000000, 5000⟩ fun _ => 5000000000,
        .call (.step 11000000000)]
      timeline.DispatchesUnheld moves ∧
        (timeline.run moves).summaries.map Summary.tick = [1] ∧
        ((timeline.run moves).summaries.map Summary.tick).Pairwise (· < ·) := by
  let moves := halfway ++ [.takeBatch 0 ⟨5000000000, 5000⟩ fun _ => 5000000000,
    .call (.step 11000000000)]
  obtain ⟨timeline, hstart, hlive, hpublished⟩ : ∃ timeline, start pairArena = .ok timeline ∧
      (∀ before ∈ moves.inits, (timeline.run before).live.length ≤ 1) ∧
      timeline.summaries.map Summary.tick ++ timeline.published moves = [1] := by
    apply Time.exists_ok_of_any
    decide +kernel
  obtain ⟨hunheld, hascending⟩ := live_le_one_iff hstart moves
  have hunheld := hunheld.mp fun before hinit => hlive before ((List.mem_inits _ _).mpr hinit)
  exact ⟨timeline, hstart, hunheld, (timeline.ticks_run moves).trans hpublished,
    (hascending hunheld).1⟩

/-- The next evaluation is dispatched during the wait: both are live, the later tick
publishes first, and the earlier one publishes over it. -/
theorem halfway_overtaken :
    ∃ timeline, start pairArena = .ok timeline ∧
      let before := halfway ++ [.depart 1, .depart 2, .call (.step 11000000000)]
      let moves := before ++ [.takeBatch 1 ⟨11000000000, 11000⟩ fun _ => 11000000000,
        .takeBatch 0 ⟨12000000000, 12000⟩ fun _ => 12000000000]
      (timeline.run before).live.length = 2 ∧
        (timeline.run moves).summaries.map Summary.tick = [2, 1] := by
  let before := halfway ++ [.depart 1, .depart 2, .call (.step 11000000000)]
  let moves := before ++ [.takeBatch 1 ⟨11000000000, 11000⟩ fun _ => 11000000000,
    .takeBatch 0 ⟨12000000000, 12000⟩ fun _ => 12000000000]
  obtain ⟨timeline, hstart, hlive, hpublished⟩ : ∃ timeline, start pairArena = .ok timeline ∧
      (timeline.run before).live.length = 2 ∧
      timeline.summaries.map Summary.tick ++ timeline.published moves = [2, 1] := by
    apply Time.exists_ok_of_any
    decide +kernel
  exact ⟨timeline, hstart, hlive, (timeline.ticks_run moves).trans hpublished⟩

end Timeline

end TickArena

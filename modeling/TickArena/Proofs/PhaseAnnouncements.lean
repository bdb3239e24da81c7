import TickArena.Proofs.SchedulerRun

/-!
# Announcements of phases

Each boundary is reported, and the phase behind it is announced, to observers and to
the outside world.  An announcement takes its tick from the clock, which has already
caught up; so a call that completes a tick behind its first boundary announces later
ticks than it enters.
-/

namespace TickArena

/-! ## Ticks and phases that are entered and announced -/

/-- The tick and the phase that lie behind a boundary. -/
def PhaseTransition.opens : PhaseTransition → Nat × Phase
  | evaluationStarted tick => (tick, .evaluating)
  | resultsStarted tick => (tick, .results)
  | tickCompleted _ next => (next, .building)

def Event.opens? : Event → Option (Nat × Phase)
  | evaluationStarted request => some (request.tick, .evaluating)
  | resultsStarted tick => some (tick, .results)
  | tickCompleted _ next => some (next, .building)
  | _ => none

def Event.announces? : Event → Option (Nat × Phase)
  | phaseChanged tick phase => some (tick, phase)
  | _ => none

def Message.announces? : Message → Option (Nat × Phase)
  | phaseChanged tick phase => some (tick, phase)
  | _ => none

theorem PhaseTransition.opens_snd (transition : PhaseTransition) :
    transition.opens.2 = transition.entered := by
  cases transition <;> rfl

/-! ## Ticks of a poll -/

namespace PhaseClock

theorem opens_advance (clock : PhaseClock) (at_ : Instant) :
    (clock.advance at_).1.opens = ((clock.advance at_).2.tick, (clock.advance at_).2.phase) := by
  unfold advance
  cases clock.phase <;> rfl

theorem tick_le_behind (clock : PhaseClock) : clock.tick ≤ clock.behind.tick := by
  rcases clock.behind_cases with ⟨htick, -⟩ | ⟨htick, -⟩
  · exact htick.ge
  · omega

theorem CatchesUp.tick_le {clock : PhaseClock} {now : Instant} {poll : Poll}
    (h : clock.CatchesUp now poll) : clock.tick ≤ poll.clock.tick := by
  induction h with
  | fault hboundary => exact le_refl _
  | settle hboundary hahead => exact le_refl _
  | @cross clock boundary rest hboundary hdue hrest ih =>
    obtain ⟨-, rfl⟩ := boundary_eq_ok_iff.mp hboundary
    exact clock.tick_le_behind.trans ih

theorem CatchesUp.opens_bounds {clock : PhaseClock} {now : Instant} {poll : Poll}
    (h : clock.CatchesUp now poll) :
    ∀ transition ∈ poll.transitions,
      clock.tick ≤ transition.opens.1 ∧ transition.opens.1 ≤ poll.clock.tick := by
  induction h with
  | fault hboundary => simp
  | settle hboundary hahead => simp
  | @cross clock boundary rest hboundary hdue hrest ih =>
    obtain ⟨-, rfl⟩ := boundary_eq_ok_iff.mp hboundary
    have hbehind := clock.tick_le_behind
    intro transition hmem
    rcases List.mem_cons.mp hmem with rfl | hmem
    · rw [opens_advance]
      exact ⟨hbehind, hrest.tick_le⟩
    · obtain ⟨hlow, hhigh⟩ := ih transition hmem
      exact ⟨hbehind.trans hlow, hhigh⟩

theorem CatchesUp.ticks_agree_iff {clock : PhaseClock} {now : Instant} {poll : Poll}
    (h : clock.CatchesUp now poll) (hsettled : poll.ending = .settled) :
    (∀ transition ∈ poll.transitions, transition.opens.1 = poll.clock.tick) ↔
      now < clock.behind.tickEnd := by
  cases h with
  | fault hboundary => contradiction
  | settle hboundary hahead =>
    obtain ⟨-, rfl⟩ := boundary_eq_ok_iff.mp hboundary
    have hstarted := clock.behind.phaseStarted_le_phaseEnd.trans clock.behind.phaseEnd_le_tickEnd
    rw [phaseStarted_behind] at hstarted
    simp [hahead.trans_le hstarted]
  | @cross _ _ rest hboundary hdue hrest =>
    obtain ⟨-, rfl⟩ := boundary_eq_ok_iff.mp hboundary
    have hcycle : 0 < clock.behind.cycle := by
      rw [cycle_behind]
      exact (CatchesUp.cross hboundary hdue hrest).cycle_pos (List.cons_ne_nil _ _)
    -- The first tick is the least and the last the greatest, so all agree if these two do.
    have htick := hrest.tick_eq hcycle hsettled
    change rest.clock.tick = clock.behind.tick + clock.behind.ticksDue now at htick
    rw [← ticksDue_eq_zero_iff hcycle]
    constructor
    · intro hagree
      have hfirst := hagree _ List.mem_cons_self
      rw [opens_advance] at hfirst
      change clock.behind.tick = rest.clock.tick at hfirst
      omega
    · intro hnone
      have hlast : rest.clock.tick = clock.behind.tick := by omega
      intro transition hmem
      rcases List.mem_cons.mp hmem with rfl | hmem
      · rw [opens_advance]
        exact hlast.symm
      · obtain ⟨hlow, hhigh⟩ := hrest.opens_bounds transition hmem
        change clock.behind.tick ≤ transition.opens.1 at hlow
        exact le_antisymm hhigh (hlast.trans_le hlow)

end PhaseClock

/-! ## Phases of a turn -/

namespace Turn

def opened (turn : Turn) : List (Nat × Phase) :=
  turn.events.filterMap Event.opens?

def announced (turn : Turn) : List (Nat × Phase) :=
  turn.events.filterMap Event.announces?

def broadcast (turn : Turn) : List (Nat × Phase) :=
  turn.sent.filterMap Message.announces?

/-- Every phase is announced with the tick that it belongs to. -/
def OwnTicks (turn : Turn) : Prop :=
  turn.announced = turn.opened ∧ turn.broadcast = turn.opened

instance (turn : Turn) : Decidable turn.OwnTicks :=
  inferInstanceAs (Decidable (_ ∧ _))

structure SamePhases (turn before : Turn) : Prop where
  opened : turn.opened = before.opened
  announced : turn.announced = before.announced
  broadcast : turn.broadcast = before.broadcast

theorem SamePhases.trans {third second first : Turn} (h : third.SamePhases second)
    (h' : second.SamePhases first) : third.SamePhases first :=
  ⟨h.opened.trans h'.opened, h.announced.trans h'.announced, h.broadcast.trans h'.broadcast⟩

/-! ## Crossing boundaries -/

theorem opened_cross (turn : Turn) (transition : PhaseTransition) :
    (turn.cross transition).opened = turn.opened ++ [transition.opens] := by
  cases transition with
  | evaluationStarted tick =>
    unfold opened cross crossed dispatch HourlyTimer.apply
    split_ifs <;> simp [emit, send, withHourly, Event.opens?, PhaseTransition.opens,
      Request.duringHour, Request.regular]
  | resultsStarted tick =>
    simp [opened, cross, crossed, emit, send, Event.opens?, PhaseTransition.opens]
  | tickCompleted completed next =>
    simp [opened, cross, crossed, emit, send, withHourly, Event.opens?, PhaseTransition.opens]

theorem announced_cross (turn : Turn) (transition : PhaseTransition) :
    (turn.cross transition).announced =
      turn.announced ++ [(turn.scheduler.clock.tick, transition.entered)] := by
  cases transition <;>
    simp [announced, cross, crossed, dispatch, emit, send, withHourly] <;> rfl

theorem broadcast_cross (turn : Turn) (transition : PhaseTransition) :
    (turn.cross transition).broadcast =
      turn.broadcast ++ [(turn.scheduler.clock.tick, transition.entered)] := by
  cases transition <;>
    simp [broadcast, cross, crossed, dispatch, emit, send, withHourly, Message.announces?]

theorem foldl_cross (turn : Turn) (transitions : List PhaseTransition) :
    (transitions.foldl cross turn).opened =
        turn.opened ++ transitions.map PhaseTransition.opens ∧
      (transitions.foldl cross turn).announced =
        turn.announced ++ transitions.map (fun transition =>
          (turn.scheduler.clock.tick, transition.entered)) ∧
      (transitions.foldl cross turn).broadcast =
        turn.broadcast ++ transitions.map (fun transition =>
          (turn.scheduler.clock.tick, transition.entered)) := by
  induction transitions generalizing turn with
  | nil => simp
  | cons transition transitions ih =>
    obtain ⟨hopened, hannounced, hbroadcast⟩ := ih (turn.cross transition)
    rw [opened_cross] at hopened
    rw [announced_cross, clock_cross] at hannounced
    rw [broadcast_cross, clock_cross] at hbroadcast
    simp [hopened, hannounced, hbroadcast]

/-! ## The hour and the countdown -/

theorem samePhases_announce (turn : Turn) (transition : HourlyTransition) :
    (turn.announce transition).SamePhases turn := by
  cases transition with
  | warningRaised startsIn =>
    refine ⟨?_, ?_, ?_⟩ <;>
      simp [opened, announced, broadcast, announce, emit, send, Event.opens?, Event.announces?,
        Message.announces?]
  | eventStarted =>
    refine ⟨?_, ?_, ?_⟩ <;>
      simp [opened, announced, broadcast, announce, emit, send, Event.opens?, Event.announces?,
        Message.announces?]

theorem samePhases_foldl_announce (turn : Turn) (transitions : List HourlyTransition) :
    (transitions.foldl announce turn).SamePhases turn := by
  induction transitions generalizing turn with
  | nil => exact ⟨rfl, rfl, rfl⟩
  | cons transition transitions ih =>
    exact (ih (turn.announce transition)).trans (turn.samePhases_announce transition)

theorem samePhases_sendCountdown (turn : Turn) (now : Instant) :
    (Scheduler.sendCountdown turn now).SamePhases turn := by
  unfold Scheduler.sendCountdown
  dsimp only
  split
  · constructor
    · rfl
    · rfl
    · simp [broadcast, send, Message.announces?]
  · exact ⟨rfl, rfl, rfl⟩

theorem samePhases_stepHourly (turn : Turn) (now : Instant) (changed : Bool) :
    (Scheduler.stepHourly turn now changed).SamePhases turn := by
  have hsame (hourly : HourlyTimer) (ending : Ending) :
      { turn.withHourly hourly with ending }.SamePhases turn := ⟨rfl, rfl, rfl⟩
  unfold Scheduler.stepHourly
  dsimp only
  split
  · split_ifs
    · exact ((samePhases_sendCountdown _ now).trans (samePhases_foldl_announce _ _)).trans
        (hsame _ _)
    · exact (samePhases_foldl_announce _ _).trans (hsame _ _)
  · exact hsame _ _

end Turn

/-! ## The phases of a call -/

namespace Scheduler

theorem step_phases {scheduler : Scheduler} {now : Instant}
    (hsettled : (scheduler.clock.poll now).ending = .settled) :
    (scheduler.step now).opened =
        (scheduler.clock.poll now).transitions.map PhaseTransition.opens ∧
      (scheduler.step now).announced =
        (scheduler.clock.poll now).transitions.map (fun transition =>
          ((scheduler.clock.poll now).clock.tick, transition.entered)) ∧
      (scheduler.step now).broadcast = (scheduler.step now).announced := by
  rw [step_of_settled hsettled]
  generalize hturn : Turn.start { scheduler with clock := (scheduler.clock.poll now).clock } = turn
  have hclock : turn.scheduler.clock = (scheduler.clock.poll now).clock := by rw [← hturn]; rfl
  have hopened : turn.opened = [] := by rw [← hturn]; rfl
  have hannounced : turn.announced = [] := by rw [← hturn]; rfl
  have hbroadcast : turn.broadcast = [] := by rw [← hturn]; rfl
  have hcrossed := turn.foldl_cross (scheduler.clock.poll now).transitions
  rw [hopened, hannounced, hbroadcast, hclock] at hcrossed
  obtain ⟨ho, ha, hb⟩ := hcrossed
  have hsame := Turn.samePhases_stepHourly
    ((scheduler.clock.poll now).transitions.foldl Turn.cross turn) now
    (!(scheduler.clock.poll now).transitions.isEmpty)
  rw [hsame.opened, hsame.announced, hsame.broadcast, ho, ha, hb]
  exact ⟨rfl, rfl, rfl⟩

theorem step_phases_of_not_settled {scheduler : Scheduler} {now : Instant}
    (h : (scheduler.clock.poll now).ending ≠ .settled) : (scheduler.step now).OwnTicks := by
  rw [step_of_not_settled h]
  exact ⟨rfl, rfl⟩

theorem forceAdvance_ownTicks (scheduler : Scheduler) (now : Instant) :
    (scheduler.forceAdvance now).OwnTicks := by
  unfold forceAdvance
  have hopens := scheduler.clock.opens_advance now
  generalize scheduler.clock.advance now = outcome at hopens ⊢
  obtain ⟨transition, clock⟩ := outcome
  let turn := Turn.start { scheduler with clock }
  have hsame := Turn.samePhases_sendCountdown (turn.cross transition) now
  have hopened : (turn.cross transition).opened = [transition.opens] := turn.opened_cross transition
  have hannounced : (turn.cross transition).announced = [(clock.tick, transition.entered)] :=
    turn.announced_cross transition
  have hbroadcast : (turn.cross transition).broadcast = [(clock.tick, transition.entered)] :=
    turn.broadcast_cross transition
  have hown : transition.opens = (clock.tick, transition.entered) := by
    rw [← transition.opens_snd, hopens]
  constructor
  · rw [hsame.announced, hsame.opened, hannounced, hopened, hown]
  · rw [hsame.broadcast, hsame.opened, hbroadcast, hopened, hown]

/-! ## Late steps -/

theorem step_ownTicks_iff {scheduler : Scheduler} {now : Instant} :
    (scheduler.step now).OwnTicks ↔
      ((scheduler.clock.poll now).ending = .settled → now < scheduler.clock.behind.tickEnd) := by
  by_cases hsettled : (scheduler.clock.poll now).ending = .settled
  · have hcatchesUp := PhaseClock.catchesUp_poll hsettled
    obtain ⟨hopened, hannounced, hbroadcast⟩ := step_phases hsettled
    unfold Turn.OwnTicks
    rw [hbroadcast, and_self, hopened, hannounced, List.map_inj_left,
      ← hcatchesUp.ticks_agree_iff hsettled]
    simp only [hsettled, forall_const]
    apply forall₂_congr
    intro transition _
    rw [← transition.opens_snd, Prod.ext_iff]
    simp [eq_comm]
  · simp [step_phases_of_not_settled hsettled, hsettled]

/-! ## Runs of steps -/

theorem call_phases (scheduler : Scheduler) (call : Call) :
    (scheduler.call call).broadcast = (scheduler.call call).announced ∧
      (scheduler.call call).announced.length = (scheduler.call call).opened.length := by
  cases call with
  | step now =>
    change (scheduler.step now).broadcast = (scheduler.step now).announced ∧
      (scheduler.step now).announced.length = (scheduler.step now).opened.length
    by_cases hsettled : (scheduler.clock.poll now).ending = .settled
    · obtain ⟨hopened, hannounced, hbroadcast⟩ := step_phases hsettled
      rw [hbroadcast, hannounced, hopened]
      simp
    · obtain ⟨hannounced, hbroadcast⟩ := step_phases_of_not_settled hsettled
      exact ⟨hbroadcast.trans hannounced.symm, by rw [hannounced]⟩
  | forceAdvance now =>
    obtain ⟨hannounced, hbroadcast⟩ := scheduler.forceAdvance_ownTicks now
    exact ⟨hbroadcast.trans hannounced.symm, congrArg List.length hannounced⟩
  | triggerHourly now =>
    change (scheduler.triggerHourly now).broadcast = (scheduler.triggerHourly now).announced ∧
      (scheduler.triggerHourly now).announced.length = (scheduler.triggerHourly now).opened.length
    unfold triggerHourly
    generalize scheduler.hourly.trigger now = outcome
    obtain ⟨hourly, ending⟩ := outcome
    cases ending with
    | settled =>
      have hsame := Turn.samePhases_announce
        (Turn.start { scheduler with hourly }) .eventStarted
      simp only [hsame.opened, hsame.announced, hsame.broadcast]
      exact ⟨rfl, rfl⟩
    | faulted fault => exact ⟨rfl, rfl⟩
    | endless => exact ⟨rfl, rfl⟩

theorem flatMap_eq_flatMap_iff {α β : Type} {f g : α → List β} {items : List α}
    (hlength : ∀ item ∈ items, (f item).length = (g item).length) :
    items.flatMap f = items.flatMap g ↔ ∀ item ∈ items, f item = g item := by
  induction items with
  | nil => simp
  | cons item items ih =>
    have hfirst := hlength item List.mem_cons_self
    have hrest := ih fun other hother => hlength other (List.mem_cons_of_mem _ hother)
    rw [List.flatMap_cons, List.flatMap_cons, List.forall_mem_cons, ← hrest]
    constructor
    · intro h
      exact List.append_inj h hfirst
    · rintro ⟨hitem, hitems⟩
      rw [hitem, hitems]

theorem opened_steps {scheduler : Scheduler} {instants : List Instant} {last : Instant}
    (hle : ∀ instant ∈ instants, instant ≤ last)
    (hsettled : ∀ turn ∈ scheduler.steps (instants ++ [last]), turn.ending = .settled) :
    (scheduler.clock.poll last).ending = .settled ∧
      (scheduler.steps (instants ++ [last])).flatMap Turn.opened =
        (scheduler.clock.poll last).transitions.map PhaseTransition.opens := by
  induction instants generalizing scheduler with
  | nil =>
    obtain ⟨hstep, hsteps, -⟩ := steps_of_forall_settled hsettled
    have hpoll := poll_settled_of_step hstep
    refine ⟨hpoll, ?_⟩
    rw [List.nil_append, hsteps, ← (step_phases hpoll).1]
    exact List.append_nil _
  | cons now instants ih =>
    rw [List.cons_append] at hsettled ⊢
    obtain ⟨hstep, hsteps, hlater⟩ := steps_of_forall_settled hsettled
    obtain ⟨hnow, hle⟩ := List.forall_mem_cons.mp hle
    have hpoll := poll_settled_of_step hstep
    obtain ⟨hlast, hopened⟩ := ih hle hlater
    rw [clock_step] at hlast hopened
    have hwhole := PhaseClock.poll_poll hpoll hnow hlast
    rw [hwhole]
    refine ⟨hlast, ?_⟩
    rw [hsteps, List.flatMap_cons, hopened, (step_phases hpoll).1, List.map_append]

theorem announced_steps_iff {scheduler : Scheduler} {instants : List Instant} {last : Instant}
    (hle : ∀ instant ∈ instants, instant ≤ last)
    (hsettled : ∀ turn ∈ scheduler.steps (instants ++ [last]), turn.ending = .settled) :
    (scheduler.steps (instants ++ [last])).flatMap Turn.announced =
        (scheduler.clock.poll last).transitions.map PhaseTransition.opens ↔
      ∀ turn ∈ scheduler.steps (instants ++ [last]), turn.OwnTicks := by
  have hcalls : ∀ turn ∈ scheduler.steps (instants ++ [last]),
      turn.broadcast = turn.announced ∧ turn.announced.length = turn.opened.length := by
    intro turn hmem
    obtain ⟨before, call, -, rfl⟩ := exists_call_of_mem_turns hmem
    exact before.call_phases call
  rw [← (opened_steps hle hsettled).2,
    flatMap_eq_flatMap_iff fun turn hmem => (hcalls turn hmem).2]
  apply forall₂_congr
  intro turn hmem
  unfold Turn.OwnTicks
  rw [(hcalls turn hmem).1, and_self]

/-- Which announcements carry the tick of the phase that is entered.  Those of a forced
boundary always do; those of a step do unless the tick behind its first boundary ends too;
and only where all do are the announcements of a run independent of its steps. -/
theorem ownTicks_iff (scheduler : Scheduler) :
    (∀ now, (scheduler.step now).OwnTicks ↔
        ((scheduler.clock.poll now).ending = .settled → now < scheduler.clock.behind.tickEnd)) ∧
      (∀ now, (scheduler.forceAdvance now).OwnTicks) ∧
      (∀ instants last, (∀ instant ∈ instants, instant ≤ last) →
        (∀ turn ∈ scheduler.steps (instants ++ [last]), turn.ending = .settled) →
        ((scheduler.steps (instants ++ [last])).flatMap Turn.announced =
            (scheduler.clock.poll last).transitions.map PhaseTransition.opens ↔
          ∀ turn ∈ scheduler.steps (instants ++ [last]), turn.OwnTicks)) :=
  ⟨fun _ => step_ownTicks_iff, scheduler.forceAdvance_ownTicks,
    fun _ _ hle hsettled => announced_steps_iff hle hsettled⟩

theorem quick_ownTicks :
    ∃ scheduler, start Settings.quick 0 = .ok scheduler ∧
      (scheduler.step 6000000000).OwnTicks ∧
      (∀ turn ∈ scheduler.steps ([4000000000] ++ [6000000000]), turn.ending = .settled) ∧
      (scheduler.steps ([4000000000] ++ [6000000000])).flatMap Turn.announced =
        (scheduler.clock.poll 6000000000).transitions.map PhaseTransition.opens := by
  have hquick : ∃ scheduler, start Settings.quick 0 = .ok scheduler ∧
      6000000000 < scheduler.clock.behind.tickEnd ∧
      (∀ turn ∈ scheduler.steps ([4000000000] ++ [6000000000]), turn.ending = .settled) ∧
      ∀ turn ∈ scheduler.steps ([4000000000] ++ [6000000000]), turn.OwnTicks := by
    apply Time.exists_ok_of_any
    decide +kernel
  obtain ⟨scheduler, hstart, hend, hsettled, hown⟩ := hquick
  obtain ⟨hsteps, -, hruns⟩ := ownTicks_iff scheduler
  exact ⟨scheduler, hstart, (hsteps 6000000000).mpr fun _ => hend, hsettled,
    (hruns [4000000000] 6000000000 (by decide) hsettled).mpr hown⟩

/-- One step of seven seconds announces the first tick's phases with the second tick; in
three steps they are announced with their own. -/
theorem quick_lateStep :
    ∃ scheduler, start Settings.quick 0 = .ok scheduler ∧
      (scheduler.step 7000000000).ending = .settled ∧ ¬ (scheduler.step 7000000000).OwnTicks ∧
      (scheduler.step 7000000000).opened = [(1, .evaluating), (1, .results), (2, .building)] ∧
      (scheduler.step 7000000000).announced =
        [(2, .evaluating), (2, .results), (2, .building)] ∧
      (scheduler.steps [4000000000, 6000000000, 7000000000]).flatMap Turn.announced =
        [(1, .evaluating), (1, .results), (2, .building)] := by
  apply Time.exists_ok_of_any
  decide +kernel

end Scheduler

end TickArena

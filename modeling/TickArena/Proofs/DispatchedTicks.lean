import TickArena.Host.Session
import TickArena.Proofs.SchedulerRun

/-!
# Dispatched ticks

A clock starts the evaluation of every tick once, in the order of the ticks.  A call of the
scheduler dispatches what its clock has started, unless the clock could not catch up; then
these ticks are passed over.  No call publishes anything.
-/

namespace TickArena

/-! ## Evaluations that a clock starts -/

def PhaseTransition.started? : PhaseTransition → Option Nat
  | evaluationStarted tick => some tick
  | resultsStarted _ | tickCompleted _ _ => none

/-- The ticks whose evaluations some boundaries start. -/
def startedTicks (transitions : List PhaseTransition) : List Nat :=
  transitions.filterMap PhaseTransition.started?

namespace PhaseClock

def nextTick (clock : PhaseClock) : Nat :=
  match clock.phase with
  | .building => clock.tick
  | .evaluating | .results => clock.tick + 1

/-- From one clock to another, every tick from the next one on has been started. -/
structure Starts (clock : PhaseClock) (transitions : List PhaseTransition)
    (after : PhaseClock) : Prop where
  ticks : startedTicks transitions =
    List.range' clock.nextTick (startedTicks transitions).length
  nextTick : after.nextTick = clock.nextTick + (startedTicks transitions).length

theorem Starts.refl (clock : PhaseClock) : clock.Starts [] clock :=
  ⟨rfl, rfl⟩

theorem starts_advance (clock : PhaseClock) (at_ : Instant) :
    clock.Starts [(clock.advance at_).1] (clock.advance at_).2 := by
  unfold advance
  cases hphase : clock.phase with
  | building => constructor <;> simp [startedTicks, PhaseTransition.started?, nextTick, hphase]
  | evaluating => exact ⟨rfl, by simp [nextTick, hphase]; rfl⟩
  | results => exact ⟨rfl, by simp [nextTick, hphase]; rfl⟩

theorem Starts.append {clock middle after : PhaseClock} {first second : List PhaseTransition}
    (hfirst : clock.Starts first middle) (hsecond : middle.Starts second after) :
    clock.Starts (first ++ second) after := by
  have happend : startedTicks (first ++ second) = startedTicks first ++ startedTicks second :=
    List.filterMap_append
  constructor
  · rw [happend, List.length_append, ← List.range'_append_1, ← hfirst.ticks, ← hfirst.nextTick,
      ← hsecond.ticks]
  · rw [happend, List.length_append, hsecond.nextTick, hfirst.nextTick, Nat.add_assoc]

theorem starts_pollFor (now : Instant) (steps : Nat) (clock : PhaseClock) :
    clock.Starts (pollFor now steps clock).transitions (pollFor now steps clock).clock := by
  induction steps generalizing clock with
  | zero => exact .refl clock
  | succ steps ih =>
    unfold pollFor
    cases clock.boundary with
    | error fault => exact .refl clock
    | ok boundary =>
      dsimp only
      split_ifs
      · exact .refl clock
      · exact (clock.starts_advance boundary).append (ih _)

end PhaseClock

/-! ## Dispatches of a turn -/

namespace Turn

def dispatchedTicks (turn : Turn) : List Nat :=
  turn.dispatched.map Request.tick

theorem tick_dispatch (turn : Turn) (tick : Nat) :
    (turn.dispatch tick).dispatchedTicks = turn.dispatchedTicks ++ [tick] := by
  unfold dispatch dispatchedTicks
  generalize turn.scheduler.hourly.apply = applied
  obtain ⟨hourly, multiplier⟩ := applied
  cases multiplier <;> simp [emit, withHourly, Request.regular, Request.duringHour]

theorem dispatchedTicks_cross (turn : Turn) (transition : PhaseTransition) :
    (turn.cross transition).dispatchedTicks =
      turn.dispatchedTicks ++ startedTicks [transition] := by
  cases transition with
  | evaluationStarted tick => exact turn.tick_dispatch tick
  | resultsStarted tick => exact (List.append_nil _).symm
  | tickCompleted completed next => exact (List.append_nil _).symm

theorem dispatchedTicks_foldl_cross (turn : Turn) (transitions : List PhaseTransition) :
    (transitions.foldl cross turn).dispatchedTicks =
      turn.dispatchedTicks ++ startedTicks transitions := by
  induction transitions generalizing turn with
  | nil => exact (List.append_nil _).symm
  | cons first later ih =>
    rw [List.foldl_cons, ih, dispatchedTicks_cross, List.append_assoc]
    exact congrArg _ List.filterMap_append.symm

@[simp]
theorem dispatched_foldl_announce (turn : Turn) (transitions : List HourlyTransition) :
    (transitions.foldl announce turn).dispatched = turn.dispatched := by
  induction transitions generalizing turn with
  | nil => rfl
  | cons first later ih =>
    rw [List.foldl_cons, ih]
    cases first <;> rfl

end Turn

namespace Scheduler

@[simp]
theorem dispatched_sendCountdown (turn : Turn) (now : Instant) :
    (sendCountdown turn now).dispatched = turn.dispatched := by
  unfold sendCountdown
  dsimp only
  split <;> rfl

@[simp]
theorem dispatched_stepHourly (turn : Turn) (now : Instant) (changed : Bool) :
    (stepHourly turn now changed).dispatched = turn.dispatched := by
  unfold stepHourly
  dsimp only
  split
  · split_ifs <;> simp <;> rfl
  · rfl

theorem dispatched_triggerHourly (scheduler : Scheduler) (now : Instant) :
    (scheduler.triggerHourly now).dispatched = [] := by
  unfold triggerHourly
  dsimp only
  split <;> rfl

theorem dispatchedTicks_step {scheduler : Scheduler} {now : Instant}
    (hsettled : (scheduler.clock.poll now).ending = .settled) :
    (scheduler.step now).dispatchedTicks =
      startedTicks (scheduler.clock.poll now).transitions := by
  rw [step_of_settled hsettled, Turn.dispatchedTicks, dispatched_stepHourly]
  exact Turn.dispatchedTicks_foldl_cross _ _

/-- What a call dispatches starts with the next tick of its clock; or it dispatches nothing. -/
theorem dispatchedTicks_call (scheduler : Scheduler) (call : Call) :
    scheduler.clock.nextTick ≤ (scheduler.call call).scheduler.clock.nextTick ∧
      ((scheduler.call call).dispatched = [] ∨
        ∃ transitions, scheduler.clock.Starts transitions (scheduler.call call).scheduler.clock ∧
          (scheduler.call call).dispatchedTicks = startedTicks transitions) := by
  cases call with
  | step now =>
    change scheduler.clock.nextTick ≤ (scheduler.step now).scheduler.clock.nextTick ∧
      ((scheduler.step now).dispatched = [] ∨
        ∃ transitions, scheduler.clock.Starts transitions (scheduler.step now).scheduler.clock ∧
          (scheduler.step now).dispatchedTicks = startedTicks transitions)
    have hstarts := PhaseClock.starts_pollFor now (scheduler.clock.stepBound now) scheduler.clock
    change scheduler.clock.Starts (scheduler.clock.poll now).transitions
      (scheduler.clock.poll now).clock at hstarts
    rw [clock_step, hstarts.nextTick]
    refine ⟨Nat.le_add_right _ _, ?_⟩
    by_cases hsettled : (scheduler.clock.poll now).ending = .settled
    · exact .inr ⟨_, hstarts, dispatchedTicks_step hsettled⟩
    · rw [step_of_not_settled hsettled]
      exact .inl rfl
  | forceAdvance now =>
    change scheduler.clock.nextTick ≤ (scheduler.forceAdvance now).scheduler.clock.nextTick ∧
      ((scheduler.forceAdvance now).dispatched = [] ∨
        ∃ transitions, scheduler.clock.Starts transitions
            (scheduler.forceAdvance now).scheduler.clock ∧
          (scheduler.forceAdvance now).dispatchedTicks = startedTicks transitions)
    have hstarts := scheduler.clock.starts_advance now
    rw [clock_forceAdvance, hstarts.nextTick]
    refine ⟨Nat.le_add_right _ _, .inr ⟨_, hstarts, ?_⟩⟩
    unfold forceAdvance
    rw [Turn.dispatchedTicks, dispatched_sendCountdown]
    exact Turn.dispatchedTicks_cross _ _
  | triggerHourly now =>
    change scheduler.clock.nextTick ≤ (scheduler.triggerHourly now).scheduler.clock.nextTick ∧
      ((scheduler.triggerHourly now).dispatched = [] ∨ _)
    rw [clock_triggerHourly]
    exact ⟨le_rfl, .inl (scheduler.dispatched_triggerHourly now)⟩

end Scheduler

/-! ## Messages of a call -/

namespace Host

@[simp]
theorem summaries_append (sent later : List Message) :
    summaries (sent ++ later) = summaries sent ++ summaries later :=
  List.filterMap_append

theorem summaries_eq_nil {sent : List Message}
    (h : ∀ message ∈ sent, ∀ summary, message ≠ .tickSummary summary) : summaries sent = [] := by
  apply List.filterMap_eq_nil_iff.mpr
  intro message hmem
  cases message with
  | tickSummary summary => exact absurd rfl (h _ hmem summary)
  | _ => rfl

end Host

namespace Turn

def Unpublished (turn : Turn) : Prop :=
  Host.summaries turn.sent = []

variable {turn : Turn}

theorem Unpublished.send (h : turn.Unpublished) {message : Message}
    (hmessage : Host.summaries [message] = []) : (turn.send message).Unpublished := by
  unfold Unpublished Turn.send
  rw [Host.summaries_append, h, hmessage]
  rfl

theorem Unpublished.foldl_cross (h : turn.Unpublished) (transitions : List PhaseTransition) :
    (transitions.foldl cross turn).Unpublished := by
  refine List.foldlRecOn transitions cross h fun turn hturn transition _ => ?_
  have hcrossed : (turn.crossed transition).Unpublished := by
    cases transition <;> exact hturn
  have hsent : ((turn.crossed transition).send
      (.phaseChanged turn.scheduler.clock.tick transition.entered)).Unpublished :=
    hcrossed.send rfl
  exact hsent

theorem Unpublished.foldl_announce (h : turn.Unpublished) (transitions : List HourlyTransition) :
    (transitions.foldl announce turn).Unpublished := by
  refine List.foldlRecOn transitions announce h fun turn hturn transition _ => ?_
  cases transition with
  | warningRaised startsIn =>
    have hsent : (turn.send (.hourlyWarning (Time.toSeconds startsIn))).Unpublished :=
      hturn.send rfl
    exact hsent
  | eventStarted =>
    have hsent : (turn.send (.hourlyEvent turn.scheduler.hourly.currentMultiplier)).Unpublished :=
      hturn.send rfl
    exact hsent

theorem Unpublished.sendCountdown (h : turn.Unpublished) (now : Instant) :
    (Scheduler.sendCountdown turn now).Unpublished := by
  have hmoved : Unpublished { turn with scheduler := { turn.scheduler with lastTimer := now } } := h
  unfold Scheduler.sendCountdown
  dsimp only
  cases Scheduler.countdown { turn.scheduler with lastTimer := now } now with
  | ok update =>
    have hmessage : Host.summaries [Message.timer update] = [] := rfl
    exact hmoved.send hmessage
  | error fault => exact h

theorem Unpublished.stepHourly (h : turn.Unpublished) (now : Instant) (changed : Bool) :
    (Scheduler.stepHourly turn now changed).Unpublished := by
  let poll := turn.scheduler.hourly.poll now
  have hpolled : Unpublished { turn.withHourly poll.timer with ending := poll.ending } := h
  have hannounced := hpolled.foldl_announce poll.transitions
  unfold Scheduler.stepHourly
  dsimp only
  split
  · split_ifs
    · exact hannounced.sendCountdown now
    · exact hannounced
  · exact h

end Turn

theorem Scheduler.unpublished_call (scheduler : Scheduler) (call : Call) :
    (scheduler.call call).Unpublished := by
  have hstart : ∀ scheduler, (Turn.start scheduler).Unpublished := fun _ => rfl
  cases call with
  | step now =>
    change (scheduler.step now).Unpublished
    by_cases hsettled : (scheduler.clock.poll now).ending = .settled
    · rw [step_of_settled hsettled]
      exact ((hstart _).foldl_cross _).stepHourly now _
    · rw [step_of_not_settled hsettled]
      exact hstart scheduler
  | forceAdvance now =>
    have hcrossed :=
      (hstart { scheduler with clock := (scheduler.clock.advance now).2 }).foldl_cross
        [(scheduler.clock.advance now).1]
    exact hcrossed.sendCountdown now
  | triggerHourly now =>
    have hannounced :=
      (hstart { scheduler with hourly := (scheduler.hourly.trigger now).1 }).foldl_announce
        [.eventStarted]
    change (scheduler.triggerHourly now).Unpublished
    unfold triggerHourly
    dsimp only
    split
    · exact hannounced
    · exact hstart scheduler

end TickArena

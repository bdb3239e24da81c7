import TickArena.Scheduler.Basic
import TickArena.Proofs.PhaseCatchUp

/-!
# Runs of a scheduler

A run is a list of calls, each made where the one before it left the scheduler.  A
call that does not settle returns nothing, and it ends the run.
-/

namespace TickArena

deriving instance DecidableEq for Request, Event

/-- The events that a turn returns. -/
def Turn.returned (turn : Turn) : List Event :=
  match turn.ending with
  | .settled => turn.events
  | _ => []

theorem Turn.returned_of_settled {turn : Turn} (h : turn.ending = .settled) :
    turn.returned = turn.events := by
  unfold returned
  rw [h]

theorem Turn.returned_of_not_settled {turn : Turn} (h : turn.ending ≠ .settled) :
    turn.returned = [] := by
  unfold returned
  split
  · contradiction
  · rfl

def Settings.quick : Settings :=
  { standard with buildingSeconds := 4, evaluatingSeconds := 2, resultsSeconds := 1 }

inductive Call where
  | step (now : Instant)
  | forceAdvance (now : Instant)
  | triggerHourly (now : Instant)
  deriving DecidableEq, Repr

namespace Scheduler

def call (scheduler : Scheduler) : Call → Turn
  | .step now => scheduler.step now
  | .forceAdvance now => scheduler.forceAdvance now
  | .triggerHourly now => scheduler.triggerHourly now

/-- The turns of a run, up to the first that does not settle. -/
def turns (scheduler : Scheduler) : List Call → List Turn
  | [] => []
  | call :: later =>
    let turn := scheduler.call call
    match turn.ending with
    | .settled => turn :: turn.scheduler.turns later
    | _ => [turn]

/-- The events that a run returns, one call after another. -/
def returned (scheduler : Scheduler) (calls : List Call) : List Event :=
  (scheduler.turns calls).flatMap Turn.returned

theorem turns_of_settled {scheduler : Scheduler} {call : Call} (later : List Call)
    (h : (scheduler.call call).ending = .settled) :
    scheduler.turns (call :: later) =
      scheduler.call call :: (scheduler.call call).scheduler.turns later := by
  rw [turns]
  simp only [h]

theorem turns_of_not_settled {scheduler : Scheduler} {call : Call} (later : List Call)
    (h : (scheduler.call call).ending ≠ .settled) :
    scheduler.turns (call :: later) = [scheduler.call call] := by
  rw [turns]
  split
  · contradiction
  · rfl

theorem exists_call_of_mem_turns {scheduler : Scheduler} {calls : List Call} {turn : Turn}
    (hmem : turn ∈ scheduler.turns calls) :
    ∃ before : Scheduler, ∃ call ∈ calls, turn = before.call call := by
  induction calls generalizing scheduler with
  | nil => contradiction
  | cons call later ih =>
    by_cases hsettled : (scheduler.call call).ending = .settled
    · rw [turns_of_settled later hsettled] at hmem
      rcases List.mem_cons.mp hmem with rfl | hlater
      · exact ⟨scheduler, call, List.mem_cons_self, rfl⟩
      · obtain ⟨before, call', hcall', hturn⟩ := ih hlater
        exact ⟨before, call', List.mem_cons_of_mem _ hcall', hturn⟩
    · rw [turns_of_not_settled later hsettled, List.mem_singleton] at hmem
      exact ⟨scheduler, call, List.mem_cons_self, hmem⟩

theorem turns_of_forall_settled {scheduler : Scheduler} {call : Call} {later : List Call}
    (h : ∀ turn ∈ scheduler.turns (call :: later), turn.ending = .settled) :
    (scheduler.call call).ending = .settled ∧
      scheduler.turns (call :: later) =
        scheduler.call call :: (scheduler.call call).scheduler.turns later := by
  by_cases hsettled : (scheduler.call call).ending = .settled
  · exact ⟨hsettled, turns_of_settled later hsettled⟩
  · rw [turns_of_not_settled later hsettled] at h
    exact absurd (h _ List.mem_cons_self) hsettled

/-! ## Steps -/

def steps (scheduler : Scheduler) (instants : List Instant) : List Turn :=
  scheduler.turns (instants.map .step)

theorem stepHourly_of_settled {turn : Turn} {now : Instant} {changed : Bool}
    (h : (turn.scheduler.hourly.poll now).ending = .settled) :
    stepHourly turn now changed =
      let announced := (turn.scheduler.hourly.poll now).transitions.foldl Turn.announce
        { turn.withHourly (turn.scheduler.hourly.poll now).timer with ending := .settled }
      if announced.scheduler.countdownDue now changed then sendCountdown announced now
      else announced := by
  unfold stepHourly
  simp only [h]

theorem poll_settled_of_stepHourly {turn : Turn} {now : Instant} {changed : Bool}
    (h : (stepHourly turn now changed).ending = .settled) :
    (turn.scheduler.hourly.poll now).ending = .settled := by
  by_contra hnot
  unfold stepHourly at h
  dsimp only at h
  split at h
  · contradiction
  · exact hnot h

theorem steps_of_forall_settled {scheduler : Scheduler} {now : Instant} {later : List Instant}
    (h : ∀ turn ∈ scheduler.steps (now :: later), turn.ending = .settled) :
    (scheduler.step now).ending = .settled ∧
      scheduler.steps (now :: later) =
        scheduler.step now :: (scheduler.step now).scheduler.steps later ∧
      ∀ turn ∈ (scheduler.step now).scheduler.steps later, turn.ending = .settled := by
  obtain ⟨hstep, hturns⟩ := turns_of_forall_settled h
  have hsteps : scheduler.steps (now :: later) =
      scheduler.step now :: (scheduler.step now).scheduler.steps later := hturns
  refine ⟨hstep, hsteps, ?_⟩
  intro turn hmem
  apply h
  rw [hsteps]
  exact List.mem_cons_of_mem _ hmem

theorem step_of_settled {scheduler : Scheduler} {now : Instant}
    (h : (scheduler.clock.poll now).ending = .settled) :
    scheduler.step now =
      stepHourly ((scheduler.clock.poll now).transitions.foldl Turn.cross
        (Turn.start { scheduler with clock := (scheduler.clock.poll now).clock })) now
        (!(scheduler.clock.poll now).transitions.isEmpty) := by
  unfold step
  simp only [h]

theorem step_of_not_settled {scheduler : Scheduler} {now : Instant}
    (h : (scheduler.clock.poll now).ending ≠ .settled) :
    scheduler.step now =
      { Turn.start { scheduler with clock := (scheduler.clock.poll now).clock } with
        ending := (scheduler.clock.poll now).ending } := by
  unfold step
  dsimp only
  split
  · contradiction
  · rfl

theorem poll_settled_of_step {scheduler : Scheduler} {now : Instant}
    (h : (scheduler.step now).ending = .settled) :
    (scheduler.clock.poll now).ending = .settled := by
  by_contra hnot
  rw [step_of_not_settled hnot] at h
  exact hnot h

end Scheduler

/-! ## The clock of a turn -/

namespace Turn

@[simp]
theorem clock_cross (turn : Turn) (transition : PhaseTransition) :
    (turn.cross transition).scheduler.clock = turn.scheduler.clock := by
  cases transition <;> rfl

@[simp]
theorem clock_foldl_cross (turn : Turn) (transitions : List PhaseTransition) :
    (transitions.foldl cross turn).scheduler.clock = turn.scheduler.clock := by
  induction transitions generalizing turn with
  | nil => rfl
  | cons transition transitions ih => rw [List.foldl_cons, ih, clock_cross]

@[simp]
theorem clock_foldl_announce (turn : Turn) (transitions : List HourlyTransition) :
    (transitions.foldl announce turn).scheduler.clock = turn.scheduler.clock := by
  induction transitions generalizing turn with
  | nil => rfl
  | cons transition transitions ih =>
    rw [List.foldl_cons, ih]
    cases transition <;> rfl

end Turn

namespace Scheduler

@[simp]
theorem clock_sendCountdown (turn : Turn) (now : Instant) :
    (sendCountdown turn now).scheduler.clock = turn.scheduler.clock := by
  unfold sendCountdown
  dsimp only
  split <;> rfl

@[simp]
theorem clock_stepHourly (turn : Turn) (now : Instant) (changed : Bool) :
    (stepHourly turn now changed).scheduler.clock = turn.scheduler.clock := by
  unfold stepHourly
  dsimp only
  split
  · split_ifs <;> simp <;> rfl
  · rfl

theorem clock_step (scheduler : Scheduler) (now : Instant) :
    (scheduler.step now).scheduler.clock = (scheduler.clock.poll now).clock := by
  by_cases hsettled : (scheduler.clock.poll now).ending = .settled
  · rw [step_of_settled hsettled, clock_stepHourly, Turn.clock_foldl_cross]
    rfl
  · rw [step_of_not_settled hsettled]
    rfl

theorem clock_forceAdvance (scheduler : Scheduler) (now : Instant) :
    (scheduler.forceAdvance now).scheduler.clock = (scheduler.clock.advance now).2 := by
  unfold forceAdvance
  rw [clock_sendCountdown, Turn.clock_cross]
  rfl

theorem clock_triggerHourly (scheduler : Scheduler) (now : Instant) :
    (scheduler.triggerHourly now).scheduler.clock = scheduler.clock := by
  unfold triggerHourly
  dsimp only
  split <;> rfl

end Scheduler

end TickArena

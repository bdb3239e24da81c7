import TickArena.Proofs.DispatchedTicks
import TickArena.Proofs.HourlyDispatch

/-!
# The chronicle of hourly events

A chronicle notes when an hourly event starts, which evaluations are dispatched, and when an
event ends.  While the timer is active, nothing but dispatches with its multiplier has
followed the last start; so an event does not end before one of them.
-/

namespace TickArena

/-- What a chronicle notes: the start of an event, a dispatch with its number, or the end
of an event. -/
inductive Stir where
  | started
  | dispatched (number : Nat) (request : Request)
  | ended
  deriving DecidableEq

def Stir.dispatch? : Stir → Option (Nat × Request)
  | dispatched number request => some (number, request)
  | started | ended => none

def HourlyTransition.stir? : HourlyTransition → Option Stir
  | eventStarted => some .started
  | warningRaised _ => none

/-! ## What a call notes -/

def HourlyTimer.requestFor (timer : HourlyTimer) (tick : Nat) : Request :=
  match timer.apply.2 with
  | some multiplier => .duringHour tick multiplier
  | none => .regular tick

namespace Turn

variable (turn : Turn) (base : Nat)

/-- What a boundary adds to the chronicle, after a number of dispatches before the turn. -/
def stirsAt : PhaseTransition → List Stir
  | .evaluationStarted tick =>
    [.dispatched (base + turn.dispatched.length) (turn.scheduler.hourly.requestFor tick)]
  | .resultsStarted _ => []
  | .tickCompleted _ _ => if turn.scheduler.hourly.clear.2 then [.ended] else []

def stirs (turn : Turn) (base : Nat) : List PhaseTransition → List Stir
  | [] => []
  | transition :: later => turn.stirsAt base transition ++ (turn.cross transition).stirs base later

def numbered : List (Nat × Request) :=
  (turn.dispatched.zipIdx base).map Prod.swap

end Turn

/-- What a call adds to the chronicle.  A call that faults has already changed the timer. -/
def Scheduler.stirs (scheduler : Scheduler) (base : Nat) : Call → List Stir
  | .step now =>
    let poll := scheduler.clock.poll now
    let turn := Turn.start { scheduler with clock := poll.clock }
    match poll.ending with
    | .settled =>
      let hourly := (poll.transitions.foldl Turn.cross turn).scheduler.hourly
      turn.stirs base poll.transitions ++
        (hourly.poll now).transitions.filterMap HourlyTransition.stir?
    | _ => []
  | .forceAdvance now =>
    let (transition, clock) := scheduler.clock.advance now
    (Turn.start { scheduler with clock }).stirsAt base transition
  | .triggerHourly _ => [.started]

/-! ## The dispatches of a chronicle -/

namespace Turn

theorem dispatch_dispatched (turn : Turn) (tick : Nat) :
    (turn.dispatch tick).dispatched =
      turn.dispatched ++ [turn.scheduler.hourly.requestFor tick] :=
  rfl

theorem numbered_cross (turn : Turn) (base : Nat) (transition : PhaseTransition) :
    (turn.cross transition).numbered base =
      turn.numbered base ++ (turn.stirsAt base transition).filterMap Stir.dispatch? := by
  cases transition with
  | evaluationStarted tick =>
    change ((turn.dispatch tick).dispatched.zipIdx base).map Prod.swap = _
    rw [dispatch_dispatched, List.zipIdx_append, List.map_append]
    rfl
  | resultsStarted tick => exact (List.append_nil _).symm
  | tickCompleted completed next =>
    unfold stirsAt
    split_ifs <;> exact (List.append_nil _).symm

theorem numbered_foldl_cross (turn : Turn) (base : Nat) (transitions : List PhaseTransition) :
    (transitions.foldl cross turn).numbered base =
      turn.numbered base ++ (turn.stirs base transitions).filterMap Stir.dispatch? := by
  induction transitions generalizing turn with
  | nil => exact (List.append_nil _).symm
  | cons first later ih =>
    rw [List.foldl_cons, ih, numbered_cross, stirs, List.filterMap_append, List.append_assoc]

end Turn

theorem HourlyTransition.dispatch?_stirs (transitions : List HourlyTransition) :
    (transitions.filterMap HourlyTransition.stir?).filterMap Stir.dispatch? = [] := by
  rw [List.filterMap_filterMap]
  apply List.filterMap_eq_nil_iff.mpr
  intro transition _
  cases transition <;> rfl

theorem Scheduler.numbered_call (scheduler : Scheduler) (base : Nat) (call : Call) :
    (scheduler.call call).numbered base =
      (scheduler.stirs base call).filterMap Stir.dispatch? := by
  cases call with
  | step now =>
    change (scheduler.step now).numbered base = _
    by_cases hsettled : (scheduler.clock.poll now).ending = .settled
    · rw [step_of_settled hsettled, Turn.numbered, dispatched_stepHourly]
      have hcrossed := Turn.numbered_foldl_cross
        (Turn.start { scheduler with clock := (scheduler.clock.poll now).clock }) base
        (scheduler.clock.poll now).transitions
      unfold stirs
      simp only [hsettled]
      rw [List.filterMap_append, HourlyTransition.dispatch?_stirs, List.append_nil]
      exact hcrossed
    · rw [step_of_not_settled hsettled]
      unfold stirs
      dsimp only
      split
      · contradiction
      · rfl
  | forceAdvance now =>
    have hcrossed := Turn.numbered_cross
      (Turn.start { scheduler with clock := (scheduler.clock.advance now).2 }) base
      (scheduler.clock.advance now).1
    change (scheduler.forceAdvance now).numbered base = _
    unfold forceAdvance
    rw [Turn.numbered, dispatched_sendCountdown]
    exact hcrossed
  | triggerHourly now =>
    change (scheduler.triggerHourly now).numbered base = _
    rw [Turn.numbered, dispatched_triggerHourly]
    rfl

/-! ## Events that are served -/

/-- Since the last start of an event, these dispatches and nothing else have followed, all
with the multiplier of the event. -/
structure ServedBy (settings : Settings) (past : List Stir) (dispatches : List (Nat × Request)) :
    Prop where
  split : ∃ earlier, past = earlier ++ .started ::
    dispatches.map fun dispatch => .dispatched dispatch.1 dispatch.2
  multiplier : ∀ dispatch ∈ dispatches,
    dispatch.2 = .duringHour dispatch.2.tick settings.hourlyMultiplier

/-- Before the end of any event, a dispatch has served it. -/
def EndsServed (settings : Settings) (past : List Stir) : Prop :=
  ∀ before after, past = before ++ .ended :: after →
    ∃ dispatches, ServedBy settings before dispatches ∧ dispatches ≠ []

section Served

variable {settings : Settings} {past : List Stir} {dispatches : List (Nat × Request)}

theorem servedBy_started (settings : Settings) (past : List Stir) :
    ServedBy settings (past ++ [.started]) [] :=
  ⟨⟨past, rfl⟩, fun dispatch hmem => by contradiction⟩

theorem ServedBy.mem (h : ServedBy settings past dispatches) {dispatch : Nat × Request}
    (hmem : dispatch ∈ dispatches) : .dispatched dispatch.1 dispatch.2 ∈ past := by
  obtain ⟨earlier, rfl⟩ := h.split
  apply List.mem_append_right
  apply List.mem_cons_of_mem
  exact List.mem_map_of_mem (f := fun dispatch => Stir.dispatched dispatch.1 dispatch.2) hmem

theorem ServedBy.concat (h : ServedBy settings past dispatches) (number tick : Nat) :
    ServedBy settings
      (past ++ [.dispatched number (.duringHour tick settings.hourlyMultiplier)])
      (dispatches ++ [(number, .duringHour tick settings.hourlyMultiplier)]) := by
  obtain ⟨earlier, rfl⟩ := h.split
  constructor
  · exact ⟨earlier, by simp⟩
  · intro dispatch hmem
    rcases List.mem_append.mp hmem with hold | hnew
    · exact h.multiplier dispatch hold
    · rw [List.mem_singleton.mp hnew]
      rfl

theorem endsServed_nil (settings : Settings) : EndsServed settings [] := by
  intro before after hsplit
  exact absurd hsplit.symm (List.append_ne_nil_of_right_ne_nil _ (List.cons_ne_nil _ _))

theorem EndsServed.concat (h : EndsServed settings past) {stir : Stir}
    (hstir : stir = .ended → ∃ dispatches, ServedBy settings past dispatches ∧ dispatches ≠ []) :
    EndsServed settings (past ++ [stir]) := by
  intro before after hsplit
  rcases concat_eq_append_cons_iff.mp hsplit with ⟨rfl, hlast, -⟩ | ⟨rest, -, hpast⟩
  · exact hstir hlast
  · exact h before rest hpast

end Served

/-! ## The timer and the chronicle -/

namespace HourlyTimer

/-- The timer agrees with the chronicle so far: dispatches serve its event while it is
active, and at least one has done so once it is applied. -/
structure Attends (settings : Settings) (past : List Stir) (timer : HourlyTimer) : Prop where
  multiplier : timer.multiplier = settings.hourlyMultiplier
  active : timer.active = true → ∃ dispatches, ServedBy settings past dispatches ∧
    (timer.applied = true → dispatches ≠ [])
  ended : EndsServed settings past

variable {settings : Settings} {past : List Stir} {timer : HourlyTimer}

theorem attends_start {now : Instant} (hstart : start settings now = .ok timer) :
    timer.Attends settings [] := by
  obtain ⟨-, -, hmultiplier, -, hactive, -⟩ := start_spec hstart
  refine ⟨hmultiplier, ?_, endsServed_nil settings⟩
  rw [hactive]
  intro hnever
  contradiction

theorem Attends.congr (h : timer.Attends settings past) {other : HourlyTimer}
    (hmultiplier : other.multiplier = timer.multiplier) (hactive : other.active = timer.active)
    (happlied : other.applied = timer.applied) : other.Attends settings past := by
  constructor
  · rw [hmultiplier, h.multiplier]
  · rw [hactive, happlied]
    exact h.active
  · exact h.ended

theorem Attends.started (h : timer.Attends settings past) {other : HourlyTimer}
    (hmultiplier : other.multiplier = timer.multiplier) (happlied : other.applied = false) :
    other.Attends settings (past ++ [.started]) := by
  constructor
  · rw [hmultiplier, h.multiplier]
  · intro _
    refine ⟨[], servedBy_started settings past, ?_⟩
    rw [happlied]
    intro hnever
    contradiction
  · apply h.ended.concat
    intro hnever
    contradiction

theorem Attends.dispatched (h : timer.Attends settings past) (number tick : Nat) :
    timer.apply.1.Attends settings (past ++ [.dispatched number (timer.requestFor tick)]) := by
  have hended : EndsServed settings (past ++ [.dispatched number (timer.requestFor tick)]) :=
    h.ended.concat fun hnever => by contradiction
  unfold requestFor at hended ⊢
  by_cases hactive : timer.active = true
  · have happly : timer.apply = ({ timer with applied := true }, some timer.multiplier) :=
      if_pos hactive
    rw [happly] at hended ⊢
    refine ⟨h.multiplier, fun _ => ?_, hended⟩
    obtain ⟨dispatches, hserved, -⟩ := h.active hactive
    rw [h.multiplier]
    exact ⟨_, hserved.concat number tick, fun _ => List.concat_ne_nil _ _⟩
  · have happly : timer.apply = (timer, none) := if_neg hactive
    rw [happly] at hended ⊢
    exact ⟨h.multiplier, fun hnever => absurd hnever hactive, hended⟩

theorem Attends.clear (h : timer.Attends settings past) :
    timer.clear.1.Attends settings (past ++ if timer.clear.2 then [.ended] else []) := by
  by_cases hboth : (timer.active && timer.applied) = true
  · have hclear : timer.clear = ({ timer with active := false, applied := false }, true) :=
      if_pos hboth
    obtain ⟨hactive, happlied⟩ := Bool.and_eq_true_iff.mp hboth
    obtain ⟨dispatches, hserved, hsome⟩ := h.active hactive
    rw [hclear]
    refine ⟨h.multiplier, fun hnever => by contradiction, ?_⟩
    exact h.ended.concat fun _ => ⟨dispatches, hserved, hsome happlied⟩
  · have hclear : timer.clear = (timer, false) := if_neg hboth
    rw [hclear, if_neg Bool.false_ne_true, List.append_nil]
    exact h

theorem poll_of_not_settled {now : Instant} (h : (timer.poll now).ending ≠ .settled) :
    (timer.poll now).transitions = [] ∧
      (timer.poll now).timer.multiplier = timer.multiplier ∧
      (timer.poll now).timer.active = timer.active ∧
      (timer.poll now).timer.applied = timer.applied := by
  obtain ⟨-, -, next, hpoll⟩ | ⟨-, -, last, ending, -, -, hpoll⟩ | ⟨-, -, -, hpoll⟩ |
    ⟨-, hpoll⟩ := timer.poll_inversion now
  · exact absurd (by rw [hpoll]) h
  · rw [hpoll]
    exact ⟨rfl, rfl, rfl, rfl⟩
  all_goals exact absurd (by rw [hpoll]) h

theorem Attends.poll (h : timer.Attends settings past) (now : Instant) :
    (timer.poll now).timer.Attends settings
      (past ++ (timer.poll now).transitions.filterMap HourlyTransition.stir?) := by
  by_cases hsettled : (timer.poll now).ending = .settled
  · obtain ⟨hmultiplier, ⟨hstart, -, happlied⟩ | ⟨hwarnings, hactive, happlied⟩⟩ :=
      poll_cases hsettled
    · rw [hstart]
      exact h.started hmultiplier happlied
    · have hnone : (timer.poll now).transitions.filterMap HourlyTransition.stir? = [] := by
        apply List.filterMap_eq_nil_iff.mpr
        intro transition hmem
        cases transition with
        | warningRaised startsIn => rfl
        | eventStarted => exact absurd rfl (hwarnings _ hmem)
      rw [hnone, List.append_nil]
      exact h.congr hmultiplier hactive happlied
  · obtain ⟨hnone, hmultiplier, hactive, happlied⟩ := poll_of_not_settled hsettled
    rw [hnone, List.filterMap_nil, List.append_nil]
    exact h.congr hmultiplier hactive happlied

end HourlyTimer

namespace Turn

variable {settings : Settings} {past : List Stir} {turn : Turn}

theorem attends_cross (h : turn.scheduler.hourly.Attends settings past) (base : Nat)
    (transition : PhaseTransition) :
    (turn.cross transition).scheduler.hourly.Attends settings
      (past ++ turn.stirsAt base transition) := by
  cases transition with
  | evaluationStarted tick => exact h.dispatched _ tick
  | resultsStarted tick =>
    rw [stirsAt, List.append_nil]
    exact h
  | tickCompleted completed next => exact h.clear

theorem attends_foldl_cross (h : turn.scheduler.hourly.Attends settings past) (base : Nat)
    (transitions : List PhaseTransition) :
    (transitions.foldl cross turn).scheduler.hourly.Attends settings
      (past ++ turn.stirs base transitions) := by
  induction transitions generalizing turn past with
  | nil =>
    rw [stirs, List.append_nil]
    exact h
  | cons first later ih =>
    rw [List.foldl_cons, stirs, ← List.append_assoc]
    exact ih (attends_cross h base first)

theorem hourly_foldl_announce (turn : Turn) (transitions : List HourlyTransition) :
    (transitions.foldl announce turn).scheduler.hourly = turn.scheduler.hourly := by
  induction transitions generalizing turn with
  | nil => rfl
  | cons first later ih =>
    rw [List.foldl_cons, ih]
    cases first <;> rfl

end Turn

namespace Scheduler

theorem hourly_sendCountdown (turn : Turn) (now : Instant) :
    (sendCountdown turn now).scheduler.hourly = turn.scheduler.hourly := by
  unfold sendCountdown
  dsimp only
  split <;> rfl

theorem hourly_stepHourly (turn : Turn) (now : Instant) (changed : Bool) :
    (stepHourly turn now changed).scheduler.hourly = (turn.scheduler.hourly.poll now).timer := by
  unfold stepHourly
  dsimp only
  split
  · split_ifs
    · rw [hourly_sendCountdown, Turn.hourly_foldl_announce]
      rfl
    · rw [Turn.hourly_foldl_announce]
      rfl
  · rfl

theorem hourly_triggerHourly (scheduler : Scheduler) (now : Instant) :
    (scheduler.triggerHourly now).scheduler.hourly = (scheduler.hourly.trigger now).1 := by
  unfold triggerHourly
  dsimp only
  split <;> rfl

variable {settings : Settings} {past : List Stir} {scheduler : Scheduler}

theorem attends_call (h : scheduler.hourly.Attends settings past) (base : Nat) (call : Call) :
    (scheduler.call call).scheduler.hourly.Attends settings
      (past ++ scheduler.stirs base call) := by
  cases call with
  | step now =>
    change (scheduler.step now).scheduler.hourly.Attends settings _
    by_cases hsettled : (scheduler.clock.poll now).ending = .settled
    · rw [step_of_settled hsettled, hourly_stepHourly]
      unfold stirs
      simp only [hsettled]
      rw [← List.append_assoc]
      have hcrossed := @Turn.attends_foldl_cross settings past
        (Turn.start { scheduler with clock := (scheduler.clock.poll now).clock }) h base
        (scheduler.clock.poll now).transitions
      exact hcrossed.poll now
    · have hnone : scheduler.stirs base (.step now) = [] := by
        unfold stirs
        dsimp only
        split
        · contradiction
        · rfl
      rw [step_of_not_settled hsettled, hnone, List.append_nil]
      exact h
  | forceAdvance now =>
    change (scheduler.forceAdvance now).scheduler.hourly.Attends settings _
    unfold forceAdvance
    rw [hourly_sendCountdown]
    exact @Turn.attends_cross settings past
      (Turn.start { scheduler with clock := (scheduler.clock.advance now).2 }) h base
      (scheduler.clock.advance now).1
  | triggerHourly now =>
    change (scheduler.triggerHourly now).scheduler.hourly.Attends settings _
    rw [hourly_triggerHourly]
    obtain ⟨hmultiplier, -, happlied⟩ := scheduler.hourly.trigger_spec now
    exact h.started hmultiplier happlied

theorem attends_start {now : Instant} (hstart : start settings now = .ok scheduler) :
    scheduler.hourly.Attends settings [] := by
  obtain ⟨clock, -, hstart⟩ := Time.bind_eq_ok hstart
  obtain ⟨hourly, hhourly, hstart⟩ := Time.bind_eq_ok hstart
  rw [← Except.ok.inj hstart]
  exact HourlyTimer.attends_start hhourly

end Scheduler

end TickArena

import TickArena.Proofs.HourlyCatchUp
import TickArena.Proofs.Lists
import TickArena.Proofs.SchedulerRun

/-!
# Hourly events and dispatches

An hourly event belongs to the next evaluation that is dispatched after it has started.
The flags of the timer are compared with the events so far: the timer is active without
having been applied exactly while an event waits, and nothing has been applied while
the clock is in its building phase.
-/

namespace TickArena

/-! ## Waiting events -/

/-- An hourly event waits: no evaluation has been dispatched since the last one started. -/
def HourlyWaiting (events : List Event) : Prop :=
  ∃ earlier multiplier later, events = earlier ++ .hourlyEventStarted multiplier :: later ∧
    ∀ request, .evaluationStarted request ∉ later

theorem not_hourlyWaiting_nil : ¬ HourlyWaiting [] := by
  rintro ⟨earlier, multiplier, later, hevents, -⟩
  exact List.append_ne_nil_of_right_ne_nil _ (List.cons_ne_nil _ _) hevents.symm

theorem hourlyWaiting_concat {events : List Event} {event : Event} :
    HourlyWaiting (events ++ [event]) ↔
      (∃ multiplier, event = .hourlyEventStarted multiplier) ∨
        (HourlyWaiting events ∧ ∀ request, event ≠ .evaluationStarted request) := by
  constructor
  · rintro ⟨earlier, multiplier, later, hevents, hnone⟩
    rcases concat_eq_append_cons_iff.mp hevents with ⟨-, hevent, -⟩ | ⟨later, rfl, hbefore⟩
    · exact .inl ⟨multiplier, hevent⟩
    · right
      constructor
      · refine ⟨earlier, multiplier, later, hbefore, ?_⟩
        intro request hmem
        exact hnone request (List.mem_append_left _ hmem)
      · rintro request rfl
        exact hnone request (List.mem_append_right _ (List.mem_singleton_self _))
  · rintro (⟨multiplier, rfl⟩ | ⟨⟨earlier, multiplier, later, rfl, hnone⟩, hother⟩)
    · exact ⟨events, multiplier, [], rfl, by simp⟩
    · refine ⟨earlier, multiplier, later ++ [event], by simp, ?_⟩
      intro request hmem
      rcases List.mem_append.mp hmem with hlater | hlast
      · exact hnone request hlater
      · exact hother request (List.mem_singleton.mp hlast).symm

/-! ## Dispatches that were right -/

structure Request.Fits (settings : Settings) (before : List Event) (request : Request) :
    Prop where
  hourly_iff : request.hourly = true ∧ request.multiplier = settings.hourlyMultiplier ↔
    HourlyWaiting before
  otherwise : ¬ HourlyWaiting before → request.hourly = false ∧ request.multiplier = 1

def DispatchesFit (settings : Settings) (events : List Event) : Prop :=
  ∀ before request after, events = before ++ .evaluationStarted request :: after →
    request.Fits settings before

theorem dispatchesFit_nil (settings : Settings) : DispatchesFit settings [] := by
  intro before request after hevents
  exact absurd hevents.symm (List.append_ne_nil_of_right_ne_nil _ (List.cons_ne_nil _ _))

theorem DispatchesFit.concat {settings : Settings} {events : List Event} {event : Event}
    (hevents : DispatchesFit settings events)
    (hevent : ∀ request, event = .evaluationStarted request → request.Fits settings events) :
    DispatchesFit settings (events ++ [event]) := by
  intro before request after hsplit
  rcases concat_eq_append_cons_iff.mp hsplit with ⟨rfl, hlast, -⟩ | ⟨rest, -, hbefore⟩
  · exact hevent request hlast
  · exact hevents before request rest hbefore

/-! ## The flags of the timer -/

/-- The timer agrees with the events so far, in a phase of the clock. -/
structure HourlyTimer.Follows (settings : Settings) (events : List Event) (phase : Phase)
    (timer : HourlyTimer) : Prop where
  multiplier : timer.multiplier = settings.hourlyMultiplier
  active : timer.applied = true → timer.active = true
  building : phase = .building → timer.applied = false
  waiting : HourlyWaiting events ↔ timer.active = true ∧ timer.applied = false
  dispatches : DispatchesFit settings events

namespace HourlyTimer

variable {settings : Settings} {events : List Event} {phase : Phase} {timer : HourlyTimer}

theorem follows_start {now : Instant} (hstart : start settings now = .ok timer) :
    timer.Follows settings [] .building := by
  obtain ⟨-, -, hmultiplier, -, hactive, happlied⟩ := start_spec hstart
  refine ⟨hmultiplier, ?_, fun _ => happlied, ?_, dispatchesFit_nil settings⟩
  · simp [happlied]
  · simp [not_hourlyWaiting_nil, hactive]

theorem Follows.concat (h : timer.Follows settings events phase) {event : Event}
    (hstarted : ∀ multiplier, event ≠ .hourlyEventStarted multiplier)
    (hdispatched : ∀ request, event ≠ .evaluationStarted request) :
    timer.Follows settings (events ++ [event]) phase := by
  refine ⟨h.multiplier, h.active, h.building, ?_, ?_⟩
  · rw [hourlyWaiting_concat, ← h.waiting]
    simp [hstarted, hdispatched]
  · apply h.dispatches.concat
    intro request hevent
    exact absurd hevent (hdispatched request)

theorem Follows.congr (h : timer.Follows settings events phase) {other : HourlyTimer}
    (hmultiplier : other.multiplier = timer.multiplier) (hactive : other.active = timer.active)
    (happlied : other.applied = timer.applied) : other.Follows settings events phase := by
  constructor
  · rw [hmultiplier, h.multiplier]
  · rw [happlied, hactive]
    exact h.active
  · rw [happlied]
    exact h.building
  · rw [happlied, hactive]
    exact h.waiting
  · exact h.dispatches

theorem Follows.fire (h : timer.Follows settings events phase) (multiplier : Float) :
    timer.fire.Follows settings (events ++ [.hourlyEventStarted multiplier]) phase := by
  refine ⟨h.multiplier, fun _ => rfl, fun _ => rfl, ?_, ?_⟩
  · rw [hourlyWaiting_concat]
    simp [HourlyTimer.fire]
  · apply h.dispatches.concat
    simp

theorem Follows.enter (h : timer.Follows settings events phase) {later : Phase}
    (hlater : later ≠ .building) : timer.Follows settings events later :=
  ⟨h.multiplier, h.active, fun hbuilding => absurd hbuilding hlater, h.waiting, h.dispatches⟩

theorem Follows.clear (h : timer.Follows settings events phase) :
    timer.clear.1.Follows settings events .building := by
  unfold HourlyTimer.clear
  by_cases happlied : timer.applied = true
  · -- An event that has been applied does not wait, so it can go.
    have hactive := h.active happlied
    have hnot : ¬ HourlyWaiting events := by
      rw [h.waiting]
      simp [happlied]
    rw [hactive, happlied]
    refine ⟨h.multiplier, fun habsurd => habsurd, fun _ => rfl, ?_, h.dispatches⟩
    simp [hnot]
  · rw [Bool.not_eq_true] at happlied
    rw [happlied, Bool.and_false]
    exact ⟨h.multiplier, h.active, fun _ => happlied, h.waiting, h.dispatches⟩

/-- Nothing has been applied while the clock builds, so a dispatch takes up an event if
and only if one waits. -/
theorem Follows.apply_of_active (h : timer.Follows settings events .building)
    (hactive : timer.active = true) (tick : Nat) :
    { timer with applied := true }.Follows settings
      (events ++ [Event.evaluationStarted (.duringHour tick timer.multiplier)]) .evaluating := by
  have hwaiting : HourlyWaiting events := h.waiting.mpr ⟨hactive, h.building rfl⟩
  refine ⟨h.multiplier, fun _ => hactive, by simp, ?_, ?_⟩
  · rw [hourlyWaiting_concat]
    simp
  · apply h.dispatches.concat
    rintro request hrequest
    obtain rfl := Event.evaluationStarted.inj hrequest
    exact ⟨iff_of_true ⟨rfl, h.multiplier⟩ hwaiting, fun hnot => absurd hwaiting hnot⟩

theorem Follows.apply_of_not_active (h : timer.Follows settings events .building)
    (hactive : timer.active = false) (tick : Nat) :
    timer.Follows settings (events ++ [Event.evaluationStarted (.regular tick)]) .evaluating := by
  have hnot : ¬ HourlyWaiting events := by
    rw [h.waiting, hactive]
    simp
  refine ⟨h.multiplier, h.active, by simp, ?_, ?_⟩
  · rw [hourlyWaiting_concat, hactive]
    simp
  · apply h.dispatches.concat
    rintro request hrequest
    obtain rfl := Event.evaluationStarted.inj hrequest
    exact ⟨iff_of_false (by simp [Request.regular]) hnot, fun _ => ⟨rfl, rfl⟩⟩

end HourlyTimer

/-! ## Turns -/

def Turn.Follows (settings : Settings) (past : List Event) (phase : Phase) (turn : Turn) : Prop :=
  turn.scheduler.hourly.Follows settings (past ++ turn.events) phase

namespace Turn

variable {settings : Settings} {past : List Event} {phase : Phase} {turn : Turn}

theorem Follows.emit (h : turn.Follows settings past phase) {event : Event}
    (hstarted : ∀ multiplier, event ≠ .hourlyEventStarted multiplier)
    (hdispatched : ∀ request, event ≠ .evaluationStarted request) :
    (turn.emit event).Follows settings past phase := by
  unfold Follows Turn.emit
  rw [← List.append_assoc]
  exact HourlyTimer.Follows.concat h hstarted hdispatched

theorem Follows.dispatch (h : turn.Follows settings past .building) (tick : Nat) :
    (turn.dispatch tick).Follows settings past .evaluating := by
  unfold Follows Turn.dispatch
  by_cases hactive : turn.scheduler.hourly.active = true
  · have happly : turn.scheduler.hourly.apply =
        ({ turn.scheduler.hourly with applied := true },
          some turn.scheduler.hourly.multiplier) := if_pos hactive
    rw [happly]
    change HourlyTimer.Follows settings (past ++ (turn.events ++ [_])) _ _
    rw [← List.append_assoc]
    exact HourlyTimer.Follows.apply_of_active h hactive tick
  · have happly : turn.scheduler.hourly.apply = (turn.scheduler.hourly, none) := if_neg hactive
    rw [happly]
    change HourlyTimer.Follows settings (past ++ (turn.events ++ [_])) _ _
    rw [← List.append_assoc]
    exact HourlyTimer.Follows.apply_of_not_active h (eq_false_of_ne_true hactive) tick

theorem Follows.cross {clock : PhaseClock} (h : turn.Follows settings past clock.phase)
    (at_ : Instant) :
    (turn.cross (clock.advance at_).1).Follows settings past (clock.advance at_).2.phase := by
  have hcrossed : (turn.crossed (clock.advance at_).1).Follows settings past
      (clock.advance at_).2.phase := by
    unfold PhaseClock.advance
    cases hphase : clock.phase with
    | building =>
      rw [hphase] at h
      exact h.dispatch clock.tick
    | evaluating =>
      have hresults : turn.Follows settings past .results := HourlyTimer.Follows.enter h (by simp)
      exact hresults.emit (by simp) (by simp)
    | results =>
      have hcleared : (turn.withHourly turn.scheduler.hourly.clear.1).Follows settings past
          .building := HourlyTimer.Follows.clear h
      exact hcleared.emit (by simp) (by simp)
  have hsent : ((turn.crossed (clock.advance at_).1).send
      (.phaseChanged turn.scheduler.clock.tick (clock.advance at_).1.entered)).Follows
        settings past (clock.advance at_).2.phase := hcrossed
  exact hsent.emit (by simp) (by simp)

theorem Follows.crossAll {clock : PhaseClock} {now : Instant} {poll : PhaseClock.Poll}
    (hpoll : clock.CatchesUp now poll) (h : turn.Follows settings past clock.phase) :
    (poll.transitions.foldl Turn.cross turn).Follows settings past poll.clock.phase := by
  induction hpoll generalizing turn with
  | fault hboundary => exact h
  | settle hboundary hahead => exact h
  | cross hboundary hdue hrest ih => exact ih (h.cross _)

end Turn

/-! ## The hour of a step -/

theorem HourlyTimer.poll_cases {timer : HourlyTimer} {now : Instant}
    (hsettled : (timer.poll now).ending = .settled) :
    (timer.poll now).timer.multiplier = timer.multiplier ∧
      (((timer.poll now).transitions = [.eventStarted] ∧
          (timer.poll now).timer.active = true ∧ (timer.poll now).timer.applied = false) ∨
        ((∀ transition ∈ (timer.poll now).transitions, transition ≠ .eventStarted) ∧
          (timer.poll now).timer.active = timer.active ∧
          (timer.poll now).timer.applied = timer.applied)) := by
  obtain ⟨-, -, next, hpoll⟩ | ⟨-, -, last, ending, -, hstuck, hpoll⟩ | ⟨-, -, -, hpoll⟩ |
    ⟨-, hpoll⟩ := timer.poll_inversion now
  · rw [hpoll]
    exact ⟨rfl, .inl ⟨rfl, rfl, rfl⟩⟩
  · rw [hpoll] at hsettled
    exact absurd hsettled hstuck
  all_goals
    rw [hpoll]
    exact ⟨rfl, .inr ⟨by simp, rfl, rfl⟩⟩

theorem HourlyTimer.trigger_spec (timer : HourlyTimer) (now : Instant) :
    (timer.trigger now).1.multiplier = timer.multiplier ∧
      (timer.trigger now).1.active = true ∧ (timer.trigger now).1.applied = false := by
  unfold trigger restart
  cases Time.after now timer.fire.interval with
  | ok nextEvent => exact ⟨rfl, rfl, rfl⟩
  | error fault => exact ⟨rfl, rfl, rfl⟩

namespace Turn

variable {settings : Settings} {past : List Event} {phase : Phase} {turn : Turn}

theorem Follows.announceWarnings (h : turn.Follows settings past phase)
    {transitions : List HourlyTransition}
    (hwarnings : ∀ transition ∈ transitions, transition ≠ .eventStarted) :
    (transitions.foldl Turn.announce turn).Follows settings past phase := by
  induction transitions generalizing turn with
  | nil => exact h
  | cons transition transitions ih =>
    obtain ⟨hfirst, hrest⟩ := List.forall_mem_cons.mp hwarnings
    refine ih ?_ hrest
    cases transition with
    | warningRaised startsIn =>
      have hsent : (turn.send (.hourlyWarning (Time.toSeconds startsIn))).Follows
        settings past phase := h
      exact hsent.emit (by simp) (by simp)
    | eventStarted => exact absurd rfl hfirst

theorem Follows.announceStart (h : turn.Follows settings past phase) {hourly : HourlyTimer}
    (hmultiplier : hourly.multiplier = turn.scheduler.hourly.multiplier)
    (hactive : hourly.active = true) (happlied : hourly.applied = false) :
    ((turn.withHourly hourly).announce .eventStarted).Follows settings past phase := by
  have hfired := HourlyTimer.Follows.fire h hourly.currentMultiplier
  change HourlyTimer.Follows settings (past ++ (turn.events ++ [_])) phase hourly
  rw [← List.append_assoc]
  exact hfired.congr hmultiplier hactive happlied

theorem Follows.sendCountdown (h : turn.Follows settings past phase) (now : Instant) :
    (Scheduler.sendCountdown turn now).Follows settings past phase := by
  unfold Scheduler.sendCountdown
  dsimp only
  split
  · exact h
  · exact h

theorem Follows.stepHourly (h : turn.Follows settings past phase) {now : Instant}
    {changed : Bool} (hsettled : (Scheduler.stepHourly turn now changed).ending = .settled) :
    (Scheduler.stepHourly turn now changed).Follows settings past phase := by
  have hpoll := Scheduler.poll_settled_of_stepHourly hsettled
  rw [Scheduler.stepHourly_of_settled hpoll]
  generalize hpolled : turn.scheduler.hourly.poll now = poll at hpoll ⊢
  have hbase : { turn with ending := .settled }.Follows settings past phase := h
  have hannounced : (poll.transitions.foldl Turn.announce
      ({ turn with ending := .settled }.withHourly poll.timer)).Follows settings past phase := by
    have hcases := HourlyTimer.poll_cases (hpolled ▸ hpoll)
    rw [hpolled] at hcases
    obtain ⟨hmultiplier, ⟨hstart, hactive, happlied⟩ | ⟨hwarnings, hactive, happlied⟩⟩ := hcases
    · rw [hstart]
      exact hbase.announceStart hmultiplier hactive happlied
    · have hkept : ({ turn with ending := .settled }.withHourly poll.timer).Follows
          settings past phase := HourlyTimer.Follows.congr h hmultiplier hactive happlied
      exact hkept.announceWarnings hwarnings
  dsimp only
  split_ifs
  · exact hannounced.sendCountdown now
  · exact hannounced

end Turn

/-! ## Runs -/

namespace Scheduler

variable {settings : Settings} {past : List Event} {scheduler : Scheduler}

def Follows (settings : Settings) (past : List Event) (scheduler : Scheduler) : Prop :=
  scheduler.hourly.Follows settings past scheduler.clock.phase

theorem follows_start {now : Instant} (hstart : start settings now = .ok scheduler) :
    scheduler.Follows settings [] := by
  obtain ⟨clock, hclock, hstart⟩ := Time.bind_eq_ok hstart
  obtain ⟨hourly, hhourly, hstart⟩ := Time.bind_eq_ok hstart
  obtain ⟨-, hphase, -, -⟩ := PhaseClock.start_spec hclock
  rw [← Except.ok.inj hstart]
  unfold Follows
  rw [hphase]
  exact HourlyTimer.follows_start hhourly

theorem Follows.turn (h : scheduler.Follows settings past) (clock : PhaseClock) :
    (Turn.start { scheduler with clock }).Follows settings past scheduler.clock.phase := by
  unfold Turn.Follows
  change HourlyTimer.Follows settings (past ++ []) _ _
  rw [List.append_nil]
  exact h

theorem Follows.call (h : scheduler.Follows settings past) {call : Call}
    (hsettled : (scheduler.call call).ending = .settled) :
    (scheduler.call call).scheduler.Follows settings
      (past ++ (scheduler.call call).events) := by
  cases call with
  | step now =>
    change (scheduler.step now).ending = .settled at hsettled
    change (scheduler.step now).Follows settings past (scheduler.step now).scheduler.clock.phase
    have hpoll := poll_settled_of_step hsettled
    rw [clock_step]
    rw [step_of_settled hpoll] at hsettled ⊢
    exact ((h.turn _).crossAll (PhaseClock.catchesUp_poll hpoll)).stepHourly hsettled
  | forceAdvance now =>
    change (scheduler.forceAdvance now).Follows settings past
      (scheduler.forceAdvance now).scheduler.clock.phase
    rw [clock_forceAdvance]
    exact ((h.turn _).cross now).sendCountdown now
  | triggerHourly now =>
    change (scheduler.triggerHourly now).Follows settings past
      (scheduler.triggerHourly now).scheduler.clock.phase
    rw [clock_triggerHourly]
    change (scheduler.triggerHourly now).ending = .settled at hsettled
    obtain ⟨hmultiplier, hactive, happlied⟩ := scheduler.hourly.trigger_spec now
    have hannounced := (h.turn scheduler.clock).announceStart hmultiplier hactive happlied
    unfold triggerHourly at hsettled ⊢
    generalize scheduler.hourly.trigger now = outcome at hsettled hannounced ⊢
    obtain ⟨hourly, ending⟩ := outcome
    cases ending with
    | settled => exact hannounced
    | faulted fault => contradiction
    | endless => contradiction

/-- Every dispatch of a run is as the events returned before it ask for. -/
theorem Follows.dispatchesFit_returned (h : scheduler.Follows settings past) (calls : List Call) :
    DispatchesFit settings (past ++ scheduler.returned calls) := by
  unfold returned
  induction calls generalizing scheduler past with
  | nil =>
    rw [turns, List.flatMap_nil, List.append_nil]
    exact h.dispatches
  | cons call calls ih =>
    by_cases hsettled : (scheduler.call call).ending = .settled
    · rw [turns_of_settled calls hsettled, List.flatMap_cons, Turn.returned_of_settled hsettled,
        ← List.append_assoc]
      exact ih (h.call hsettled)
    · rw [turns_of_not_settled calls hsettled, List.flatMap_singleton,
        Turn.returned_of_not_settled hsettled, List.append_nil]
      exact h.dispatches

/-- An hourly event reaches the next dispatch after it has started, and no other. -/
theorem hourly_reaches_next_dispatch {now : Instant} (hstart : start settings now = .ok scheduler)
    (calls : List Call) {before after : List Event} {request : Request}
    (hreturned : scheduler.returned calls = before ++ .evaluationStarted request :: after) :
    ((request.hourly = true ∧ request.multiplier = settings.hourlyMultiplier) ↔
        HourlyWaiting before) ∧
      (¬ HourlyWaiting before → request.hourly = false ∧ request.multiplier = 1) := by
  have hfit := (follows_start hstart).dispatchesFit_returned calls before request after hreturned
  exact ⟨hfit.hourly_iff, hfit.otherwise⟩

theorem quick_hourly_reaches_next_dispatch :
    ∃ scheduler, start Settings.quick 0 = .ok scheduler ∧
      scheduler.returned
          [.step 4000000000, .triggerHourly 5000000000, .step 11000000000] =
        [.evaluationStarted (.regular 1), .phaseChanged 1 .evaluating, .hourlyEventStarted 100,
            .resultsStarted 1, .phaseChanged 2 .results, .tickCompleted 1 2,
            .phaseChanged 2 .building] ++
          .evaluationStarted (.duringHour 2 100) :: [.phaseChanged 2 .evaluating] ∧
      HourlyWaiting
        [.evaluationStarted (.regular 1), .phaseChanged 1 .evaluating, .hourlyEventStarted 100,
          .resultsStarted 1, .phaseChanged 2 .results, .tickCompleted 1 2,
          .phaseChanged 2 .building] := by
  have hquick : ∃ scheduler, start Settings.quick 0 = .ok scheduler ∧
      scheduler.returned
          [.step 4000000000, .triggerHourly 5000000000, .step 11000000000] =
        [.evaluationStarted (.regular 1), .phaseChanged 1 .evaluating, .hourlyEventStarted 100,
            .resultsStarted 1, .phaseChanged 2 .results, .tickCompleted 1 2,
            .phaseChanged 2 .building] ++
          .evaluationStarted (.duringHour 2 100) :: [.phaseChanged 2 .evaluating] := by
    apply Time.exists_ok_of_any
    decide +kernel
  obtain ⟨scheduler, hstart, hreturned⟩ := hquick
  have hreaches := (hourly_reaches_next_dispatch hstart _ hreturned).1
  exact ⟨scheduler, hstart, hreturned, hreaches.mp ⟨rfl, rfl⟩⟩

end Scheduler

end TickArena

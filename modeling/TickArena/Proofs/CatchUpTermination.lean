import TickArena.Proofs.HourlyCatchUp
import TickArena.Proofs.PhaseCatchUp

/-!
# When catching up ends

A clock and a timer keep the lengths they were started with, through every operation.
So whether a poll ends is decided by the settings: half a nanosecond is enough for one
of the phases, and for the hourly interval, but any positive number passes the checks.
-/

namespace TickArena

/-! ## Clocks of the settings -/

/-- The clocks that the settings can lead to.  A poll that does not end leads nowhere. -/
inductive PhaseClock.Reachable (settings : Settings) : PhaseClock → Prop
  | start {now : Instant} {clock : PhaseClock} (hstart : start settings now = .ok clock) :
      Reachable settings clock
  | poll {clock : PhaseClock} {now : Instant} {poll : Poll} (hclock : Reachable settings clock)
      (hpoll : clock.CatchesUp now poll) : Reachable settings poll.clock
  | advance {clock : PhaseClock} (at_ : Instant) (hclock : Reachable settings clock) :
      Reachable settings (clock.advance at_).2

namespace PhaseClock

theorem TimedBy.advance {clock : PhaseClock} {settings : Settings}
    (h : clock.TimedBy settings) (at_ : Instant) : (clock.advance at_).2.TimedBy settings := by
  unfold PhaseClock.advance
  cases clock.phase with
  | building => exact ⟨h.building, h.evaluating, h.results⟩
  | evaluating => exact ⟨h.building, h.evaluating, h.results⟩
  | results => exact ⟨h.building, h.evaluating, h.results⟩

theorem CatchesUp.timedBy {clock : PhaseClock} {settings : Settings} {now : Instant}
    {poll : Poll} (hpoll : clock.CatchesUp now poll) (h : clock.TimedBy settings) :
    poll.clock.TimedBy settings := by
  induction hpoll with
  | fault hboundary => exact h
  | settle hboundary hahead => exact h
  | cross hboundary hdue hrest ih => exact ih (h.advance _)

theorem Reachable.timedBy {clock : PhaseClock} {settings : Settings}
    (hclock : clock.Reachable settings) : clock.TimedBy settings := by
  induction hclock with
  | start hstart => exact (start_spec hstart).1
  | poll hclock hpoll ih => exact hpoll.timedBy ih
  | advance at_ hclock ih => exact ih.advance at_

end PhaseClock

/-! ## Timers of the settings -/

/-- The timers that the settings can lead to.  A poll that does not end leads nowhere. -/
inductive HourlyTimer.Reachable (settings : Settings) : HourlyTimer → Prop
  | start {now : Instant} {timer : HourlyTimer} (hstart : start settings now = .ok timer) :
      Reachable settings timer
  | disarm {timer : HourlyTimer} (htimer : Reachable settings timer) :
      Reachable settings timer.disarm
  | arm {timer : HourlyTimer} (now : Instant) (htimer : Reachable settings timer) :
      Reachable settings (timer.arm now).1
  | trigger {timer : HourlyTimer} (now : Instant) (htimer : Reachable settings timer) :
      Reachable settings (timer.trigger now).1
  | apply {timer : HourlyTimer} (htimer : Reachable settings timer) :
      Reachable settings timer.apply.1
  | clear {timer : HourlyTimer} (htimer : Reachable settings timer) :
      Reachable settings timer.clear.1
  | poll {timer : HourlyTimer} {now : Instant} (htimer : Reachable settings timer)
      (hends : timer.PollEnds now) : Reachable settings (timer.poll now).timer

namespace HourlyTimer

@[simp]
theorem interval_restart (timer : HourlyTimer) (now : Instant) :
    (timer.restart now).1.interval = timer.interval := by
  unfold restart
  cases Time.after now timer.interval <;> rfl

@[simp]
theorem interval_apply (timer : HourlyTimer) : timer.apply.1.interval = timer.interval := by
  unfold apply
  split_ifs <;> rfl

@[simp]
theorem interval_clear (timer : HourlyTimer) : timer.clear.1.interval = timer.interval := by
  unfold clear
  split_ifs <;> rfl

@[simp]
theorem interval_poll (timer : HourlyTimer) (now : Instant) :
    (timer.poll now).timer.interval = timer.interval := by
  obtain ⟨-, -, next, hpoll⟩ | ⟨-, -, last, ending, -, -, hpoll⟩ | ⟨-, -, -, hpoll⟩ |
    ⟨-, hpoll⟩ := timer.poll_inversion now
  all_goals exact hpoll ▸ rfl

theorem Reachable.interval_eq {timer : HourlyTimer} {settings : Settings}
    (htimer : timer.Reachable settings) : settings.hourlyInterval = .ok timer.interval := by
  induction htimer with
  | start hstart => exact (start_spec hstart).1
  | disarm htimer ih => exact ih
  | arm now htimer ih =>
    unfold HourlyTimer.arm
    rw [interval_restart]
    exact ih
  | trigger now htimer ih =>
    unfold HourlyTimer.trigger
    rw [interval_restart]
    exact ih
  | apply htimer ih =>
    rw [interval_apply]
    exact ih
  | clear htimer ih =>
    rw [interval_clear]
    exact ih
  | poll htimer hends ih =>
    rw [interval_poll]
    exact ih

end HourlyTimer

/-! ## When the polls end -/

/-- One of the phases is not rounded to no length at all. -/
def Settings.HasCycle (settings : Settings) : Prop :=
  5e-10 ≤ settings.buildingSeconds ∨ 5e-10 ≤ settings.evaluatingSeconds ∨
    5e-10 ≤ settings.resultsSeconds

instance (settings : Settings) : Decidable settings.HasCycle :=
  inferInstanceAs (Decidable (_ ∨ _ ∨ _))

theorem PhaseClock.TimedBy.cycle_pos_iff {clock : PhaseClock} {settings : Settings}
    (h : clock.TimedBy settings) : 0 < clock.cycle ↔ settings.HasCycle := by
  unfold Settings.HasCycle
  rw [← Time.ofSeconds_pos_iff h.building, ← Time.ofSeconds_pos_iff h.evaluating,
    ← Time.ofSeconds_pos_iff h.results]
  unfold cycle
  lia

/-- Which polls of reachable clocks and timers end. -/
theorem Settings.polls_end_iff {settings : Settings} {clock : PhaseClock} {timer : HourlyTimer}
    {now : Instant} (hclock : clock.Reachable settings) (htimer : timer.Reachable settings)
    (hlimit : now < Time.instantLimit) :
    ((∃ poll, clock.CatchesUp now poll) ↔ settings.HasCycle ∨ now < clock.phaseStarted) ∧
      (timer.PollEnds now ↔
        5e-10 ≤ settings.hourlyIntervalSeconds ∨ timer.armed = false ∨ now < timer.nextEvent) := by
  constructor
  · rw [PhaseClock.exists_catchesUp_iff hlimit, hclock.timedBy.cycle_pos_iff]
  · rw [HourlyTimer.pollEnds_iff hlimit, Time.ofSeconds_pos_iff htimer.interval_eq]

theorem Settings.standard_polls_end :
    ∃ clock timer, PhaseClock.start standard 0 = .ok clock ∧
      HourlyTimer.start standard 0 = .ok timer ∧ (∃ poll, clock.CatchesUp 86400000000000 poll) ∧
      timer.PollEnds 86400000000000 := by
  have hclock : (PhaseClock.start standard 0).isOk = true := by decide +kernel
  have htimer : (HourlyTimer.start standard 0).isOk = true := by decide +kernel
  obtain ⟨clock, hclock⟩ := Time.exists_ok_of_isOk hclock
  obtain ⟨timer, htimer⟩ := Time.exists_ok_of_isOk htimer
  obtain ⟨hphases, hhour⟩ := polls_end_iff (.start hclock) (.start htimer)
    (show 86400000000000 < Time.instantLimit by decide +kernel)
  refine ⟨clock, timer, hclock, htimer, hphases.mpr (.inl (.inl ?_)), hhour.mpr (.inl ?_)⟩
  · decide +kernel
  · decide +kernel

def Settings.flash : Settings :=
  { standard with
    buildingSeconds := 1e-10
    evaluatingSeconds := 1e-10
    resultsSeconds := 1e-10
    hourlyIntervalSeconds := 1e-10
    hourlyWarningSeconds := 0 }

/-- The settings have no problem and every length is in range, but no poll of the clock
ever ends, and none of the timer. -/
theorem Settings.flash_polls_never_end :
    flash.problem? = none ∧
      (∃ clock, PhaseClock.start flash 0 = .ok clock ∧
        ∀ now < Time.instantLimit, ¬ ∃ poll, clock.CatchesUp now poll) ∧
      (∃ timer, HourlyTimer.start flash 0 = .ok timer ∧
        ∀ now < Time.instantLimit, ¬ timer.PollEnds now) := by
  have hclock : (PhaseClock.start flash 0).isOk = true := by decide +kernel
  have htimer : (HourlyTimer.start flash 0).isOk = true := by decide +kernel
  have hphases : ¬ flash.HasCycle := by decide +kernel
  have hhour : ¬ 5e-10 ≤ flash.hourlyIntervalSeconds := by decide +kernel
  obtain ⟨clock, hclock⟩ := Time.exists_ok_of_isOk hclock
  obtain ⟨timer, htimer⟩ := Time.exists_ok_of_isOk htimer
  refine ⟨by decide +kernel, ⟨clock, hclock, ?_⟩, ⟨timer, htimer, ?_⟩⟩
  · intro now hlimit
    obtain ⟨htimed, -, -, hstarted⟩ := PhaseClock.start_spec hclock
    rw [PhaseClock.exists_catchesUp_iff hlimit, htimed.cycle_pos_iff, hstarted]
    rintro (hcycle | hahead)
    · exact hphases hcycle
    · exact Nat.not_lt_zero now hahead
  · intro now hlimit
    obtain ⟨hinterval, hnext, -, harmed, -, -⟩ := HourlyTimer.start_spec htimer
    rw [← Time.ofSeconds_pos_iff hinterval, Nat.pos_iff_ne_zero, not_not] at hhour
    rw [HourlyTimer.pollEnds_iff hlimit, hnext, hhour, harmed]
    simp

end TickArena

import TickArena.Proofs.CatchUpTermination
import TickArena.Proofs.PhaseSchedule

/-!
# The countdown of a tick

The time left is added up over the phases that are still to come, and a poll walks from one
boundary to the next.  For a clock that has just been polled both lead to the same instant:
the end of the tick is as far away as the countdown says, and so is the next boundary.
-/

namespace TickArena

namespace Time

/-- A length of time, if it is in the range of durations. -/
def checked (length : Duration) : Except TimeFault Duration :=
  if length < durationLimit then .ok length else .error .durationTooLong

theorem eq_of_checked_eq_ok {length answer : Duration} (h : checked length = .ok answer) :
    length = answer := by
  unfold checked at h
  split_ifs at h
  exact Except.ok.inj h

theorem sum_checked (a b : Duration) :
    (do sum (← checked a) b : Except TimeFault Duration) = checked (a + b) := by
  by_cases ha : a < durationLimit
  · rw [checked, if_pos ha]
    rfl
  · have hsum : ¬ a + b < durationLimit := fun hlt => ha ((Nat.le_add_right _ _).trans_lt hlt)
    rw [checked, checked, if_neg ha, if_neg hsum]
    rfl

theorem foldlM_sum_checked {α : Type} (lengthOf : α → Duration) (items : List α)
    (first : Duration) :
    (do items.foldlM (fun total item => sum total (lengthOf item)) (← checked first) :
      Except TimeFault Duration) = checked (first + (items.map lengthOf).sum) := by
  induction items generalizing first with
  | nil =>
    change (checked first >>= pure) = checked first
    exact bind_pure _
  | cons item later ih =>
    simp only [List.foldlM_cons, List.map_cons, List.sum_cons, ← Nat.add_assoc]
    rw [← ih, ← sum_checked, bind_assoc]

end Time

namespace PhaseClock

/-! ## Reachable clocks -/

theorem TimedBy.lengthOf_lt {clock : PhaseClock} {settings : Settings}
    (h : clock.TimedBy settings) (phase : Phase) :
    clock.lengthOf phase < Time.durationLimit := by
  have hlimit : ∀ {seconds : Float} {length : Duration}, Time.ofSeconds seconds = .ok length →
      length < Time.durationLimit := by
    intro seconds length hlength
    obtain ⟨_, _, _, -, -, -, hlt⟩ := Time.ofSeconds_eq_ok_iff.mp hlength
    exact hlt
  cases phase with
  | building => exact hlimit h.building
  | evaluating => exact hlimit h.evaluating
  | results => exact hlimit h.results

theorem Reachable.one_le_tick {clock : PhaseClock} {settings : Settings}
    (h : clock.Reachable settings) : 1 ≤ clock.tick := by
  induction h with
  | start hstart =>
    obtain ⟨-, -, htick, -⟩ := start_spec hstart
    exact htick.ge
  | poll hclock hpoll ih => exact ih.trans ((hpoll.traverses ih).tick ▸ Nat.le_add_right _ _)
  | advance at_ hclock ih =>
    exact ih.trans ((Traverses.advance ih at_).tick ▸ Nat.le_add_right _ _)

/-! ## What the countdown shows -/

/-- The time until the end of the tick, phase by phase. -/
def timeLeft (clock : PhaseClock) (now : Instant) : Duration :=
  clock.phaseRemaining now + (clock.phasesLeft.map clock.lengthOf).sum

theorem tickLength_eq (clock : PhaseClock) : clock.tickLength = Time.checked clock.cycle :=
  Time.sum_checked _ _

theorem remaining_eq {clock : PhaseClock} (now : Instant)
    (hlengths : clock.lengthOf clock.phase < Time.durationLimit) :
    clock.remaining now = Time.checked (clock.timeLeft now) := by
  have hfirst : Time.checked (clock.phaseRemaining now) = .ok (clock.phaseRemaining now) :=
    if_pos ((Nat.sub_le _ _).trans_lt hlengths)
  rw [timeLeft, ← Time.foldlM_sum_checked, hfirst]
  rfl

section Polled

variable {clock : PhaseClock} {now : Instant}

/-- Within a phase the countdown leads to its end. -/
theorem add_phaseRemaining (hstarted : clock.phaseStarted ≤ now) (hahead : now < clock.phaseEnd) :
    now + clock.phaseRemaining now = clock.phaseEnd := by
  unfold phaseRemaining phaseEnd at *
  lia

theorem add_timeLeft (hstarted : clock.phaseStarted ≤ now) (hahead : now < clock.phaseEnd) :
    now + clock.timeLeft now = clock.tickEnd := by
  rw [timeLeft, ← Nat.add_assoc, add_phaseRemaining hstarted hahead]
  rfl

theorem tickEnd_le (clock : PhaseClock) : clock.tickEnd ≤ clock.phaseStarted + clock.cycle := by
  unfold tickEnd phaseEnd phasesLeft cycle lengthOf
  cases clock.phase <;> simp <;> lia

/-! ## What a later poll crosses -/

namespace CatchesUp

variable {poll : Poll}

theorem transitions_ne_nil_iff (h : clock.CatchesUp now poll) (hlimit : now < Time.instantLimit) :
    poll.transitions ≠ [] ↔ clock.phaseEnd ≤ now := by
  refine ⟨h.phaseEnd_le, fun hdue => ?_⟩
  have hok : clock.boundary = .ok clock.phaseEnd :=
    boundary_eq_ok_iff.mpr ⟨hdue.trans_lt hlimit, rfl⟩
  cases h with
  | fault hboundary =>
    rw [hok] at hboundary
    contradiction
  | settle hboundary hahead =>
    obtain ⟨-, rfl⟩ := boundary_eq_ok_iff.mp hboundary
    exact absurd hdue hahead.not_ge
  | cross hboundary _ hrest => exact List.cons_ne_nil _ _

/-- A poll completes as many ticks as end at or before its instant. -/
theorem countP_completesTick (h : clock.CatchesUp now poll) (hcycle : 0 < clock.cycle)
    (htick : 1 ≤ clock.tick) (hlimit : now < Time.instantLimit) :
    poll.transitions.countP PhaseTransition.completesTick = clock.ticksDue now := by
  have hcrossed := (h.traverses htick).tick
  have hreached := h.tick_eq_of_ahead hcycle (h.ahead hlimit)
  omega

theorem exists_completesTick_iff (h : clock.CatchesUp now poll) (hcycle : 0 < clock.cycle)
    (htick : 1 ≤ clock.tick) (hlimit : now < Time.instantLimit) :
    (∃ transition ∈ poll.transitions, transition.completesTick = true) ↔ clock.tickEnd ≤ now := by
  rw [← List.countP_pos_iff, h.countP_completesTick hcycle htick hlimit, Nat.pos_iff_ne_zero,
    ne_eq, ticksDue_eq_zero_iff hcycle, not_lt]

end CatchesUp

end Polled

/-- After a poll the countdown of the tick is positive and at most the length of a tick, and it
tells which later polls complete the tick; that of the phase tells which cross a boundary.  Both
the countdown and the length are durations or else faults, and a poll whose next boundary is out
of range faults after the ones that it has crossed. -/
theorem countdown_exact {settings : Settings} {clock : PhaseClock}
    (hclock : clock.Reachable settings) (hcycle : 0 < clock.cycle) {now : Instant}
    (hlimit : now < Time.instantLimit)
    (hstarted : (clock.poll now).clock.phaseStarted ≤ now) :
    let polled := (clock.poll now).clock
    ∃ left, polled.remaining now = Time.checked left ∧
      polled.tickLength = Time.checked polled.cycle ∧ 0 < left ∧ left ≤ polled.cycle ∧
      ∀ later < Time.instantLimit,
        let poll := polled.poll later
        poll.ending = (if poll.clock.phaseEnd < Time.instantLimit then .settled
          else .faulted .instantTooLate) ∧
        ((∃ transition ∈ poll.transitions, transition.completesTick = true) ↔
          now + left ≤ later) ∧
        (poll.transitions ≠ [] ↔ now + polled.phaseRemaining now ≤ later) := by
  intro polled
  have hpoll := catchesUp_poll_of_cycle hcycle now
  have hreachable : polled.Reachable settings := hclock.poll hpoll
  have hcycle' : 0 < polled.cycle := hpoll.cycle_eq.symm ▸ hcycle
  have hahead : now < polled.phaseEnd := hpoll.ahead hlimit
  have hleft := add_timeLeft hstarted hahead
  refine ⟨polled.timeLeft now, remaining_eq now (hreachable.timedBy.lengthOf_lt _),
    tickLength_eq _, ?_, ?_, ?_⟩
  · have hend := polled.phaseEnd_le_tickEnd
    lia
  · have hend := polled.tickEnd_le
    lia
  · intro later hlater poll
    have hcaught := catchesUp_poll_of_cycle hcycle' later
    refine ⟨hcaught.ending_eq, ?_, ?_⟩
    · rw [hleft, hcaught.exists_completesTick_iff hcycle' hreachable.one_le_tick hlater]
    · rw [add_phaseRemaining hstarted hahead, hcaught.transitions_ne_nil_iff hlater]

/-- A clock that has been forced into its second phase after a second: a second later there are
two left, one for each phase to come. -/
theorem quick_countdown_exact :
    ∃ clock, start .quick 0 = .ok clock ∧
      let forced := (clock.advance 1000000000).2
      let polled := (forced.poll 2000000000).clock
      forced.Reachable .quick ∧ 0 < forced.cycle ∧ 2000000000 < Time.instantLimit ∧
        polled.phaseStarted ≤ 2000000000 ∧ polled.remaining 2000000000 = .ok 2000000000 ∧
        ∀ later < Time.instantLimit,
          ((∃ transition ∈ (polled.poll later).transitions, transition.completesTick = true) ↔
            4000000000 ≤ later) ∧
          ((polled.poll later).transitions ≠ [] ↔ 3000000000 ≤ later) := by
  obtain ⟨clock, hstart, hcycle, hstarted, hremaining, hphase⟩ :
      ∃ clock, start .quick 0 = .ok clock ∧
        0 < (clock.advance 1000000000).2.cycle ∧
        ((clock.advance 1000000000).2.poll 2000000000).clock.phaseStarted ≤ 2000000000 ∧
        (((clock.advance 1000000000).2.poll 2000000000).clock.remaining
          2000000000).toOption.any (fun left => left = 2000000000) = true ∧
        ((clock.advance 1000000000).2.poll 2000000000).clock.phaseRemaining 2000000000 =
          1000000000 := by
    apply Time.exists_ok_of_any
    decide +kernel
  have hforced : (clock.advance 1000000000).2.Reachable .quick := .advance _ (.start hstart)
  have hlimit : 2000000000 < Time.instantLimit := by decide +kernel
  obtain ⟨left, hleft, -, -, -, hlater⟩ := countdown_exact hforced hcycle hlimit hstarted
  obtain ⟨_, hremaining, rfl⟩ := Time.exists_ok_of_any hremaining
  obtain rfl := Time.eq_of_checked_eq_ok (hleft.symm.trans hremaining)
  refine ⟨clock, hstart, hforced, hcycle, hlimit, hstarted, hremaining, ?_⟩
  intro later hrange
  obtain ⟨-, hcompletes, hcrosses⟩ := hlater later hrange
  rw [hphase] at hcrosses
  exact ⟨hcompletes, hcrosses⟩

end PhaseClock

end TickArena

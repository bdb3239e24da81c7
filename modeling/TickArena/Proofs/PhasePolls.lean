import TickArena.Proofs.PhaseCatchUp
import TickArena.Proofs.SchedulerRun

/-!
# Polls, early and late

A poll leaves the clock in the phase that its instant falls into, each phase timed from
the end of the one before.  So it does not matter how often the clock was polled on the
way, and the tick follows from the time since the start.  A clock does not run
backwards: a poll at an instant before an earlier poll's changes nothing.
-/

namespace TickArena

/-- The phase that ends at a boundary. -/
def PhaseTransition.left : PhaseTransition → Phase
  | evaluationStarted _ => .building
  | resultsStarted _ => .evaluating
  | tickCompleted _ _ => .results

namespace PhaseClock

theorem left_advance (clock : PhaseClock) (at_ : Instant) :
    (clock.advance at_).1.left = clock.phase := by
  unfold advance
  cases clock.phase <;> rfl

@[simp]
theorem lengthOf_advance (clock : PhaseClock) (at_ : Instant) :
    (clock.advance at_).2.lengthOf = clock.lengthOf := by
  unfold advance
  cases clock.phase <;> rfl

theorem cycle_eq_of_lengthOf_eq {clock other : PhaseClock}
    (h : clock.lengthOf = other.lengthOf) : clock.cycle = other.cycle := by
  have hlength : ∀ clock : PhaseClock, clock.cycle =
      clock.lengthOf .building + clock.lengthOf .evaluating + clock.lengthOf .results :=
    fun _ => rfl
  rw [hlength clock, h, hlength other]

/-! ## One poll -/

namespace CatchesUp

variable {clock : PhaseClock} {now : Instant} {poll : Poll}

theorem lengthOf_eq (h : clock.CatchesUp now poll) : poll.clock.lengthOf = clock.lengthOf := by
  induction h with
  | fault hboundary => rfl
  | settle hboundary hahead => rfl
  | cross hboundary hdue hrest ih => exact ih.trans (lengthOf_advance _ _)

theorem cycle_eq (h : clock.CatchesUp now poll) : poll.clock.cycle = clock.cycle :=
  cycle_eq_of_lengthOf_eq h.lengthOf_eq

/-- The start of the phase moves by the lengths of the phases that have ended. -/
theorem phaseStarted_eq (h : clock.CatchesUp now poll) :
    poll.clock.phaseStarted = clock.phaseStarted +
      (poll.transitions.map fun transition => clock.lengthOf transition.left).sum := by
  induction h with
  | fault hboundary => rfl
  | settle hboundary hahead => rfl
  | @cross clock boundary rest hboundary hdue hrest ih =>
    obtain ⟨-, rfl⟩ := boundary_eq_ok_iff.mp hboundary
    have hstarted : (clock.advance clock.phaseEnd).2.phaseStarted = clock.phaseEnd :=
      clock.phaseStarted_behind
    rw [hstarted, lengthOf_advance] at ih
    rw [List.map_cons, List.sum_cons, left_advance, ← Nat.add_assoc]
    exact ih

/-- A poll stops for a boundary out of range, and otherwise it settles. -/
theorem ending_eq (h : clock.CatchesUp now poll) :
    poll.ending = if poll.clock.phaseEnd < Time.instantLimit then .settled
      else .faulted .instantTooLate := by
  induction h with
  | @fault clock fault hboundary =>
    have hlimit : Time.instantLimit ≤ clock.phaseEnd :=
      Time.instantLimit_le_of_after_eq_error hboundary
    have hfault : clock.boundary = .error .instantTooLate := if_neg hlimit.not_gt
    rw [hboundary] at hfault
    rw [if_neg hlimit.not_gt, Except.error.inj hfault]
  | settle hboundary hahead => exact (if_pos (boundary_eq_ok_iff.mp hboundary).1).symm
  | cross hboundary hdue hrest ih => exact ih

theorem ahead (h : clock.CatchesUp now poll) (hlimit : now < Time.instantLimit) :
    now < poll.clock.phaseEnd := by
  by_cases hrange : poll.clock.phaseEnd < Time.instantLimit
  · exact h.ahead_of_settled (h.ending_eq.trans (if_pos hrange))
  · exact hlimit.trans_le (Nat.le_of_not_lt hrange)

theorem clock_eq_of_ahead (h : clock.CatchesUp now poll) (hahead : now < clock.phaseEnd) :
    poll.clock = clock := by
  cases h with
  | fault hboundary => rfl
  | settle hboundary _ => rfl
  | cross hboundary hdue hrest =>
    obtain ⟨-, rfl⟩ := boundary_eq_ok_iff.mp hboundary
    exact absurd hahead hdue.not_gt

end CatchesUp

theorem catchesUp_poll_of_cycle {clock : PhaseClock} (hcycle : 0 < clock.cycle) (now : Instant) :
    clock.CatchesUp now (clock.poll now) := by
  obtain ⟨poll, hpoll⟩ := exists_catchesUp hcycle now
  rw [(catchesUp_iff.mp hpoll).1]
  exact hpoll

/-! ## Many polls -/

/-- The clock after polls at some instants, in whatever order these come. -/
def polled (clock : PhaseClock) (instants : List Instant) : PhaseClock :=
  instants.foldl (fun clock now => (clock.poll now).clock) clock

section Cycle

variable {clock : PhaseClock} (hcycle : 0 < clock.cycle)
include hcycle

theorem poll_of_le {earlier later : Instant} (hle : earlier ≤ later) :
    clock.poll later = { (clock.poll earlier).clock.poll later with
      transitions := (clock.poll earlier).transitions ++
        ((clock.poll earlier).clock.poll later).transitions } := by
  have hfirst := catchesUp_poll_of_cycle hcycle earlier
  have hsecond := catchesUp_poll_of_cycle (hfirst.cycle_eq.symm ▸ hcycle) later
  exact (catchesUp_iff.mp (hfirst.append hle hsecond)).1

theorem polled_of_ahead {instants : List Instant}
    (hahead : ∀ now ∈ instants, now < clock.phaseEnd) : clock.polled instants = clock := by
  induction instants with
  | nil => rfl
  | cons now later ih =>
    have hpoll := catchesUp_poll_of_cycle hcycle now
    have hstays := hpoll.clock_eq_of_ahead (hahead now List.mem_cons_self)
    rw [polled, List.foldl_cons, hstays]
    exact ih fun other hother => hahead other (List.mem_cons_of_mem _ hother)

/-- Of many polls only the latest instant shows. -/
theorem polled_eq_poll {instants : List Instant} {now : Instant} (hnow : now ∈ instants)
    (hlatest : ∀ other ∈ instants, other ≤ now) (hlimit : now < Time.instantLimit) :
    clock.polled instants = (clock.poll now).clock := by
  induction instants generalizing clock with
  | nil => contradiction
  | cons first later ih =>
    have hpoll := catchesUp_poll_of_cycle hcycle first
    have hcycle' : 0 < (clock.poll first).clock.cycle := hpoll.cycle_eq.symm ▸ hcycle
    have hlater : ∀ other ∈ later, other ≤ now := fun other hother =>
      hlatest other (List.mem_cons_of_mem _ hother)
    change (clock.poll first).clock.polled later = _
    by_cases hagain : now ∈ later
    · rw [ih hcycle' hagain hlater, poll_of_le hcycle (hlatest first List.mem_cons_self)]
    · obtain rfl : now = first := (List.mem_cons.mp hnow).resolve_right hagain
      exact polled_of_ahead hcycle' fun other hother =>
        (hlater other hother).trans_lt (hpoll.ahead hlimit)

end Cycle

theorem tickEnd_start {settings : Settings} {started : Instant} {clock : PhaseClock}
    (hstart : start settings started = .ok clock) : clock.tickEnd = started + clock.cycle := by
  obtain ⟨-, hphase, -, hstarted⟩ := start_spec hstart
  simp [tickEnd, phaseEnd, phasesLeft, lengthOf, cycle, hphase, hstarted, Nat.add_assoc]

/-- What polls do to a clock whose cycle has a length: how they are split makes no
difference, the phases follow each other without a gap, and the tick is known from the
latest instant. -/
theorem polls_follow_time {clock : PhaseClock} (hcycle : 0 < clock.cycle) :
    (∀ earlier later, earlier ≤ later →
      clock.poll later = { (clock.poll earlier).clock.poll later with
        transitions := (clock.poll earlier).transitions ++
          ((clock.poll earlier).clock.poll later).transitions }) ∧
    (∀ now < Time.instantLimit,
      let poll := clock.poll now
      poll.ending = (if poll.clock.phaseEnd < Time.instantLimit then .settled
        else .faulted .instantTooLate) ∧
      now < poll.clock.phaseStarted + poll.clock.lengthOf poll.clock.phase ∧
      poll.clock.phaseStarted = clock.phaseStarted +
        (poll.transitions.map fun transition => clock.lengthOf transition.left).sum) ∧
    ∀ settings started, start settings started = .ok clock →
      ∀ instants, ∀ now ∈ instants, (∀ other ∈ instants, other ≤ now) →
        started ≤ now → now < Time.instantLimit →
        (clock.polled instants).tick = 1 + (now - started) / clock.cycle := by
  refine ⟨fun earlier later hle => poll_of_le hcycle hle, ?_, ?_⟩
  · intro now hlimit
    have hpoll := catchesUp_poll_of_cycle hcycle now
    exact ⟨hpoll.ending_eq, hpoll.ahead hlimit, hpoll.phaseStarted_eq⟩
  · intro settings started hstart instants now hnow hlatest hstarted hlimit
    have hpoll := catchesUp_poll_of_cycle hcycle now
    obtain ⟨-, -, htick, -⟩ := start_spec hstart
    have hticks : clock.ticksDue now = (now - started) / clock.cycle := by
      rw [ticksDue, tickEnd_start hstart, Nat.add_sub_add_right]
    rw [polled_eq_poll hcycle hnow hlatest hlimit,
      hpoll.tick_eq_of_ahead hcycle (hpoll.ahead hlimit), htick, hticks]

theorem quick_polls_follow_time :
    ∃ clock, start .quick 0 = .ok clock ∧ 0 < clock.cycle ∧
      clock.poll 15000000000 = { (clock.poll 6000000000).clock.poll 15000000000 with
        transitions := (clock.poll 6000000000).transitions ++
          ((clock.poll 6000000000).clock.poll 15000000000).transitions } ∧
      15000000000 < (clock.poll 15000000000).clock.phaseStarted +
        (clock.poll 15000000000).clock.lengthOf (clock.poll 15000000000).clock.phase ∧
      (clock.polled [2000000000, 15000000000, 9000000000]).tick = 3 := by
  have hquick : ∃ clock, start .quick 0 = .ok clock ∧ clock.cycle = 7000000000 := by
    apply Time.exists_ok_of_any
    decide +kernel
  obtain ⟨clock, hstart, hcycle⟩ := hquick
  have hpos : 0 < clock.cycle := by
    rw [hcycle]
    decide
  have hlimit : 15000000000 < Time.instantLimit := by decide +kernel
  obtain ⟨hsplit, hpoll, hpolled⟩ := polls_follow_time hpos
  have htick := hpolled _ _ hstart [2000000000, 15000000000, 9000000000] 15000000000
    (by decide) (by decide) (by decide) hlimit
  rw [hcycle] at htick
  exact ⟨clock, hstart, hpos, hsplit _ _ (by decide), (hpoll _ hlimit).2.1, htick⟩

/-- After a poll at fifteen seconds one at the start finds the clock in its third tick. -/
theorem quick_clock_keeps_its_tick :
    ∃ clock, start .quick 0 = .ok clock ∧ 0 < clock.cycle ∧
      (clock.polled [15000000000, 0]).tick = 3 ∧
      (clock.polled [15000000000, 0]).tick ≠ 1 + (0 - 0) / clock.cycle := by
  apply Time.exists_ok_of_any
  decide +kernel

end PhaseClock

end TickArena

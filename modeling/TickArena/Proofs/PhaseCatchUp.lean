import TickArena.Clock.PhaseClock
import TickArena.Proofs.Conversion

/-!
# Catching up with the phases

A poll is a loop without a bound on its steps.  Here the loop is a relation, and the
end of a tick is its measure: a crossing either leaves fewer phases of the tick or
moves the end of the tick by one cycle.  With a positive cycle the loop ends, the
bounded poll takes enough steps, and the tick it reaches is known in advance.
-/

namespace TickArena

namespace PhaseClock

/-- The loop of a poll: what it does from a clock, if it comes to an end. -/
inductive CatchesUp (now : Instant) : PhaseClock → Poll → Prop
  | fault {clock : PhaseClock} {fault : TimeFault} (hboundary : clock.boundary = .error fault) :
      CatchesUp now clock ⟨[], clock, .faulted fault⟩
  | settle {clock : PhaseClock} {boundary : Instant} (hboundary : clock.boundary = .ok boundary)
      (hahead : now < boundary) : CatchesUp now clock ⟨[], clock, .settled⟩
  | cross {clock : PhaseClock} {boundary : Instant} {rest : Poll}
      (hboundary : clock.boundary = .ok boundary) (hdue : boundary ≤ now)
      (hrest : CatchesUp now (clock.advance boundary).2 rest) :
      CatchesUp now clock { rest with
        transitions := (clock.advance boundary).1 :: rest.transitions }

/-! ## The start of a clock -/

structure TimedBy (clock : PhaseClock) (settings : Settings) : Prop where
  building : settings.building = .ok clock.building
  evaluating : settings.evaluating = .ok clock.evaluating
  results : settings.results = .ok clock.results

theorem start_spec {settings : Settings} {now : Instant} {clock : PhaseClock}
    (hstart : start settings now = .ok clock) :
    clock.TimedBy settings ∧ clock.phase = .building ∧ clock.tick = 1 ∧
      clock.phaseStarted = now := by
  obtain ⟨building, hbuilding, hstart⟩ := Time.bind_eq_ok hstart
  obtain ⟨evaluating, hevaluating, hstart⟩ := Time.bind_eq_ok hstart
  obtain ⟨results, hresults, hstart⟩ := Time.bind_eq_ok hstart
  rw [← Except.ok.inj hstart]
  exact ⟨⟨hbuilding, hevaluating, hresults⟩, rfl, rfl, rfl⟩

/-! ## The end of a tick -/

def phaseEnd (clock : PhaseClock) : Instant :=
  clock.phaseStarted + clock.lengthOf clock.phase

/-- The end of the current tick, if it runs its course. -/
def tickEnd (clock : PhaseClock) : Instant :=
  clock.phaseEnd + (clock.phasesLeft.map clock.lengthOf).sum

def behind (clock : PhaseClock) : PhaseClock :=
  (clock.advance clock.phaseEnd).2

theorem boundary_eq_ok_iff {clock : PhaseClock} {boundary : Instant} :
    clock.boundary = .ok boundary ↔
      clock.phaseEnd < Time.instantLimit ∧ boundary = clock.phaseEnd :=
  Time.after_eq_ok_iff

theorem phaseEnd_le_tickEnd (clock : PhaseClock) : clock.phaseEnd ≤ clock.tickEnd :=
  Nat.le_add_right _ _

theorem tickEnd_eq_phaseEnd {clock : PhaseClock} (hlast : clock.phasesLeft = []) :
    clock.tickEnd = clock.phaseEnd := by
  unfold tickEnd
  rw [hlast]
  rfl

theorem phasesLeft_length_le (clock : PhaseClock) : clock.phasesLeft.length ≤ 2 := by
  unfold phasesLeft
  cases clock.phase <;> decide

theorem phaseStarted_le_phaseEnd (clock : PhaseClock) : clock.phaseStarted ≤ clock.phaseEnd :=
  Nat.le_add_right _ _

@[simp]
theorem cycle_behind (clock : PhaseClock) : clock.behind.cycle = clock.cycle := by
  unfold behind advance cycle
  cases clock.phase <;> rfl

@[simp]
theorem phaseStarted_behind (clock : PhaseClock) : clock.behind.phaseStarted = clock.phaseEnd := by
  unfold behind advance
  cases clock.phase <;> rfl

/-- Behind a boundary either the same tick goes on, with one phase less, or the next
tick starts, with two phases to follow. -/
theorem behind_cases (clock : PhaseClock) :
    (clock.behind.tick = clock.tick ∧ clock.behind.tickEnd = clock.tickEnd ∧
      clock.phasesLeft.length = clock.behind.phasesLeft.length + 1) ∨
    (clock.behind.tick = clock.tick + 1 ∧ clock.behind.tickEnd = clock.tickEnd + clock.cycle ∧
      clock.phasesLeft = [] ∧ clock.behind.phasesLeft.length = 2) := by
  unfold behind tickEnd phaseEnd phasesLeft cycle advance lengthOf
  cases hphase : clock.phase with
  | building =>
    left
    simp [Nat.add_assoc]
  | evaluating =>
    left
    simp
  | results =>
    right
    simp [Nat.add_assoc]

/-! ## Ticks that are due -/

/-- How many ticks end at or before an instant. -/
def ticksDue (clock : PhaseClock) (now : Instant) : Nat :=
  (now + clock.cycle - clock.tickEnd) / clock.cycle

theorem ticksDue_eq_zero_iff {clock : PhaseClock} {now : Instant} (hcycle : 0 < clock.cycle) :
    clock.ticksDue now = 0 ↔ now < clock.tickEnd := by
  unfold ticksDue
  rw [Nat.div_eq_zero_iff_lt hcycle]
  lia

theorem ticksDue_behind {clock : PhaseClock} {now : Instant} (hcycle : 0 < clock.cycle)
    (hdue : clock.phaseEnd ≤ now) :
    clock.tick + clock.ticksDue now = clock.behind.tick + clock.behind.ticksDue now := by
  unfold ticksDue
  rw [cycle_behind]
  rcases clock.behind_cases with ⟨htick, hend, -⟩ | ⟨htick, hend, hlast, -⟩
  · rw [htick, hend]
  · have hshift : now + clock.cycle - clock.tickEnd =
        now + clock.cycle - (clock.tickEnd + clock.cycle) + clock.cycle := by
      rw [tickEnd_eq_phaseEnd hlast]
      lia
    rw [htick, hend, hshift, Nat.add_div_right _ hcycle]
    omega

/-- What is left of the boundaries up to an instant, counted by ticks and phases. -/
def boundariesLeft (clock : PhaseClock) (now : Instant) : Nat :=
  3 * clock.ticksDue now + clock.phasesLeft.length

theorem boundariesLeft_behind {clock : PhaseClock} {now : Instant} (hcycle : 0 < clock.cycle)
    (hdue : clock.phaseEnd ≤ now) :
    clock.boundariesLeft now = clock.behind.boundariesLeft now + 1 := by
  have hticks := ticksDue_behind hcycle hdue
  unfold boundariesLeft
  rcases clock.behind_cases with ⟨htick, -, hleft⟩ | ⟨htick, -, hlast, hleft⟩
  · omega
  · have hdue' : ¬ now < clock.tickEnd := by
      rw [tickEnd_eq_phaseEnd hlast]
      lia
    have hsome := mt (ticksDue_eq_zero_iff hcycle).mp hdue'
    rw [hlast, hleft, List.length_nil]
    omega

theorem boundariesLeft_lt_stepBound {clock : PhaseClock} {now : Instant}
    (hstarted : clock.phaseStarted ≤ now) :
    clock.boundariesLeft now < clock.stepBound now := by
  have hticks : clock.ticksDue now ≤ (now - clock.phaseStarted) / clock.cycle + 1 := by
    unfold ticksDue
    rcases Nat.eq_zero_or_pos clock.cycle with hcycle | hcycle
    · rw [hcycle, Nat.div_zero]
      exact Nat.zero_le _
    · rw [← Nat.add_div_right _ hcycle]
      apply Nat.div_le_div_right
      have hend := clock.phaseStarted_le_phaseEnd.trans clock.phaseEnd_le_tickEnd
      lia
  have hleft := clock.phasesLeft_length_le
  unfold boundariesLeft stepBound
  omega

/-! ## The loop and the bounded poll -/

theorem pollFor_fault {clock : PhaseClock} {fault : TimeFault} (now : Instant) (steps : Nat)
    (hboundary : clock.boundary = .error fault) :
    pollFor now (steps + 1) clock = ⟨[], clock, .faulted fault⟩ := by
  rw [pollFor, hboundary]

theorem pollFor_settle {clock : PhaseClock} {now boundary : Instant} (steps : Nat)
    (hboundary : clock.boundary = .ok boundary) (hahead : now < boundary) :
    pollFor now (steps + 1) clock = ⟨[], clock, .settled⟩ := by
  rw [pollFor, hboundary]
  exact if_pos hahead

theorem pollFor_cross {clock : PhaseClock} {now boundary : Instant} (steps : Nat)
    (hboundary : clock.boundary = .ok boundary) (hdue : boundary ≤ now) :
    pollFor now (steps + 1) clock =
      { pollFor now steps (clock.advance boundary).2 with
        transitions := (clock.advance boundary).1 ::
          (pollFor now steps (clock.advance boundary).2).transitions } := by
  rw [pollFor, hboundary]
  exact if_neg hdue.not_gt

theorem catchesUp_pollFor {now : Instant} {steps : Nat} {clock : PhaseClock}
    (hends : (pollFor now steps clock).ending ≠ .endless) :
    clock.CatchesUp now (pollFor now steps clock) := by
  induction steps generalizing clock with
  | zero => exact absurd rfl hends
  | succ steps ih =>
    cases hboundary : clock.boundary with
    | error fault =>
      rw [pollFor_fault now steps hboundary]
      exact .fault hboundary
    | ok boundary =>
      by_cases hahead : now < boundary
      · rw [pollFor_settle steps hboundary hahead]
        exact .settle hboundary hahead
      · have hdue : boundary ≤ now := Nat.le_of_not_lt hahead
        rw [pollFor_cross steps hboundary hdue] at hends ⊢
        exact .cross hboundary hdue (ih hends)

theorem CatchesUp.ending_ne_endless {clock : PhaseClock} {now : Instant} {poll : Poll}
    (h : clock.CatchesUp now poll) : poll.ending ≠ .endless := by
  induction h with
  | fault hboundary => simp
  | settle hboundary hahead => simp
  | cross hboundary hdue hrest ih => exact ih

theorem CatchesUp.pollFor_eq {clock : PhaseClock} {now : Instant} {poll : Poll} {steps : Nat}
    (h : clock.CatchesUp now poll) (hsteps : poll.transitions.length < steps) :
    pollFor now steps clock = poll := by
  induction h generalizing steps with
  | fault hboundary =>
    obtain ⟨steps, rfl⟩ := Nat.exists_eq_add_one.mpr hsteps
    exact pollFor_fault now steps hboundary
  | settle hboundary hahead =>
    obtain ⟨steps, rfl⟩ := Nat.exists_eq_add_one.mpr hsteps
    exact pollFor_settle steps hboundary hahead
  | cross hboundary hdue hrest ih =>
    obtain ⟨steps, rfl⟩ := Nat.exists_eq_add_one.mpr ((Nat.zero_le _).trans_lt hsteps)
    rw [pollFor_cross steps hboundary hdue, ih (Nat.lt_of_succ_lt_succ hsteps)]

/-! ## When the loop ends -/

theorem lengthOf_le_cycle (clock : PhaseClock) (phase : Phase) :
    clock.lengthOf phase ≤ clock.cycle := by
  unfold lengthOf cycle
  cases phase <;> lia

theorem phaseEnd_of_cycle_eq_zero {clock : PhaseClock} (hcycle : clock.cycle = 0) :
    clock.phaseEnd = clock.phaseStarted := by
  have hlength := clock.lengthOf_le_cycle clock.phase
  unfold phaseEnd
  lia

theorem not_catchesUp {clock : PhaseClock} {now : Instant} {poll : Poll}
    (hcycle : clock.cycle = 0) (hlimit : clock.phaseStarted < Time.instantLimit)
    (hstarted : clock.phaseStarted ≤ now) : ¬ clock.CatchesUp now poll := by
  intro h
  induction h with
  | @fault clock fault hboundary =>
    have hok : clock.boundary = .ok clock.phaseEnd := by
      rw [boundary_eq_ok_iff, phaseEnd_of_cycle_eq_zero hcycle]
      exact ⟨hlimit, rfl⟩
    rw [hok] at hboundary
    contradiction
  | settle hboundary hahead =>
    obtain ⟨-, rfl⟩ := boundary_eq_ok_iff.mp hboundary
    rw [phaseEnd_of_cycle_eq_zero hcycle] at hahead
    exact absurd hstarted hahead.not_ge
  | @cross clock boundary rest hboundary hdue hrest ih =>
    obtain ⟨hreached, rfl⟩ := boundary_eq_ok_iff.mp hboundary
    exact ih (clock.cycle_behind.trans hcycle) (clock.phaseStarted_behind.trans_lt hreached)
      (clock.phaseStarted_behind.trans_le hdue)

theorem exists_catchesUp_of_not_due {clock : PhaseClock} {now : Instant}
    (hahead : now < clock.phaseEnd) : ∃ poll, clock.CatchesUp now poll := by
  cases hboundary : clock.boundary with
  | error fault => exact ⟨_, .fault hboundary⟩
  | ok boundary =>
    obtain ⟨-, rfl⟩ := boundary_eq_ok_iff.mp hboundary
    exact ⟨_, .settle hboundary hahead⟩

theorem exists_catchesUp {clock : PhaseClock} (hcycle : 0 < clock.cycle) (now : Instant) :
    ∃ poll, clock.CatchesUp now poll := by
  -- Every crossing leaves one boundary less.
  induction hleft : clock.boundariesLeft now using Nat.strong_induction_on generalizing clock with
  | h left ih =>
    by_cases hahead : now < clock.phaseEnd
    · exact exists_catchesUp_of_not_due hahead
    · have hdue : clock.phaseEnd ≤ now := Nat.le_of_not_lt hahead
      cases hboundary : clock.boundary with
      | error fault => exact ⟨_, .fault hboundary⟩
      | ok boundary =>
        obtain ⟨-, rfl⟩ := boundary_eq_ok_iff.mp hboundary
        have hless := boundariesLeft_behind hcycle hdue
        have hcycle' : 0 < clock.behind.cycle := clock.cycle_behind.symm ▸ hcycle
        obtain ⟨rest, hrest⟩ := ih (clock.behind.boundariesLeft now) (by omega) hcycle' rfl
        exact ⟨_, .cross hboundary hdue hrest⟩

theorem exists_catchesUp_iff {clock : PhaseClock} {now : Instant}
    (hlimit : now < Time.instantLimit) :
    (∃ poll, clock.CatchesUp now poll) ↔ 0 < clock.cycle ∨ now < clock.phaseStarted := by
  constructor
  · rintro ⟨poll, hpoll⟩
    by_contra hnone
    push Not at hnone
    exact not_catchesUp (Nat.eq_zero_of_not_pos hnone.1.not_gt) (hnone.2.trans_lt hlimit)
      hnone.2 hpoll
  · rintro (hcycle | hahead)
    · exact exists_catchesUp hcycle now
    · exact exists_catchesUp_of_not_due (hahead.trans_le clock.phaseStarted_le_phaseEnd)

/-! ## What the loop does -/

theorem CatchesUp.length_le {clock : PhaseClock} {now : Instant} {poll : Poll}
    (hcycle : 0 < clock.cycle) (h : clock.CatchesUp now poll) :
    poll.transitions.length ≤ clock.boundariesLeft now := by
  induction h with
  | fault hboundary => exact Nat.zero_le _
  | settle hboundary hahead => exact Nat.zero_le _
  | @cross clock boundary rest hboundary hdue hrest ih =>
    obtain ⟨-, rfl⟩ := boundary_eq_ok_iff.mp hboundary
    rw [boundariesLeft_behind hcycle hdue]
    exact Nat.succ_le_succ (ih (clock.cycle_behind.symm ▸ hcycle))

theorem CatchesUp.cycle_pos {clock : PhaseClock} {now : Instant} {poll : Poll}
    (h : clock.CatchesUp now poll) (hsome : poll.transitions ≠ []) : 0 < clock.cycle := by
  cases h with
  | fault hboundary => exact absurd rfl hsome
  | settle hboundary hahead => exact absurd rfl hsome
  | cross hboundary hdue hrest =>
    obtain ⟨hreached, rfl⟩ := boundary_eq_ok_iff.mp hboundary
    by_contra hnone
    have hcycle : clock.behind.cycle = 0 :=
      clock.cycle_behind.trans (Nat.eq_zero_of_not_pos hnone)
    exact not_catchesUp hcycle (clock.phaseStarted_behind.trans_lt hreached)
      (clock.phaseStarted_behind.trans_le hdue) hrest

theorem CatchesUp.phaseEnd_le {clock : PhaseClock} {now : Instant} {poll : Poll}
    (h : clock.CatchesUp now poll) (hsome : poll.transitions ≠ []) : clock.phaseEnd ≤ now := by
  cases h with
  | fault hboundary => exact absurd rfl hsome
  | settle hboundary hahead => exact absurd rfl hsome
  | cross hboundary hdue hrest =>
    obtain ⟨-, rfl⟩ := boundary_eq_ok_iff.mp hboundary
    exact hdue

theorem CatchesUp.length_lt_stepBound {clock : PhaseClock} {now : Instant} {poll : Poll}
    (h : clock.CatchesUp now poll) : poll.transitions.length < clock.stepBound now := by
  by_cases hnone : poll.transitions = []
  · rw [hnone, List.length_nil]
    exact Nat.mul_pos (by decide) (Nat.succ_pos _)
  · have hstarted := clock.phaseStarted_le_phaseEnd.trans (h.phaseEnd_le hnone)
    exact (h.length_le (h.cycle_pos hnone)).trans_lt (boundariesLeft_lt_stepBound hstarted)

/-- The bounded poll does what the loop does, and says so when the loop does not end. -/
theorem catchesUp_iff {clock : PhaseClock} {now : Instant} {poll : Poll} :
    clock.CatchesUp now poll ↔ clock.poll now = poll ∧ poll.ending ≠ .endless := by
  constructor
  · intro h
    exact ⟨h.pollFor_eq h.length_lt_stepBound, h.ending_ne_endless⟩
  · rintro ⟨rfl, hends⟩
    exact catchesUp_pollFor hends

theorem poll_ending_eq_endless_iff {clock : PhaseClock} {now : Instant} :
    (clock.poll now).ending = .endless ↔ ¬ ∃ poll, clock.CatchesUp now poll := by
  constructor
  · rintro hendless ⟨poll, hpoll⟩
    obtain ⟨rfl, hends⟩ := catchesUp_iff.mp hpoll
    exact hends hendless
  · intro hnone
    by_contra hends
    exact hnone ⟨_, catchesUp_iff.mpr ⟨rfl, hends⟩⟩

/-! ## The tick that is reached -/

theorem CatchesUp.tick_eq_of_ahead {clock : PhaseClock} {now : Instant} {poll : Poll}
    (hcycle : 0 < clock.cycle) (h : clock.CatchesUp now poll)
    (hahead : now < poll.clock.phaseEnd) :
    poll.clock.tick = clock.tick + clock.ticksDue now := by
  have hnone : ∀ clock : PhaseClock, 0 < clock.cycle → now < clock.phaseEnd →
      clock.ticksDue now = 0 := fun clock hcycle hahead =>
    (ticksDue_eq_zero_iff hcycle).mpr (hahead.trans_le clock.phaseEnd_le_tickEnd)
  induction h with
  | @fault clock fault hboundary =>
    rw [hnone clock hcycle hahead]
    rfl
  | @settle clock boundary hboundary _ =>
    rw [hnone clock hcycle hahead]
    rfl
  | @cross clock boundary rest hboundary hdue hrest ih =>
    obtain ⟨-, rfl⟩ := boundary_eq_ok_iff.mp hboundary
    rw [ticksDue_behind hcycle hdue]
    exact ih (clock.cycle_behind.symm ▸ hcycle) hahead

theorem CatchesUp.ahead_of_settled {clock : PhaseClock} {now : Instant} {poll : Poll}
    (h : clock.CatchesUp now poll) (hsettled : poll.ending = .settled) :
    now < poll.clock.phaseEnd := by
  induction h with
  | fault hboundary => contradiction
  | settle hboundary hahead =>
    obtain ⟨-, rfl⟩ := boundary_eq_ok_iff.mp hboundary
    exact hahead
  | cross hboundary hdue hrest ih => exact ih hsettled

theorem CatchesUp.tick_eq {clock : PhaseClock} {now : Instant} {poll : Poll}
    (hcycle : 0 < clock.cycle) (h : clock.CatchesUp now poll) (hsettled : poll.ending = .settled) :
    poll.clock.tick = clock.tick + clock.ticksDue now :=
  h.tick_eq_of_ahead hcycle (h.ahead_of_settled hsettled)

/-- Where the first poll stopped, the second one goes on. -/
theorem CatchesUp.append {clock : PhaseClock} {earlier later : Instant} {first second : Poll}
    (hfirst : clock.CatchesUp earlier first) (hle : earlier ≤ later)
    (hsecond : first.clock.CatchesUp later second) :
    clock.CatchesUp later { second with
      transitions := first.transitions ++ second.transitions } := by
  induction hfirst with
  | fault hboundary => exact hsecond
  | settle hboundary hahead => exact hsecond
  | cross hboundary hdue hrest ih => exact .cross hboundary (hdue.trans hle) (ih hsecond)

theorem catchesUp_poll {clock : PhaseClock} {now : Instant}
    (hsettled : (clock.poll now).ending = .settled) : clock.CatchesUp now (clock.poll now) :=
  catchesUp_iff.mpr ⟨rfl, by rw [hsettled]; simp⟩

theorem poll_poll {clock : PhaseClock} {earlier later : Instant}
    (hfirst : (clock.poll earlier).ending = .settled) (hle : earlier ≤ later)
    (hsecond : ((clock.poll earlier).clock.poll later).ending = .settled) :
    clock.poll later = { (clock.poll earlier).clock.poll later with
      transitions := (clock.poll earlier).transitions ++
        ((clock.poll earlier).clock.poll later).transitions } :=
  (catchesUp_iff.mp
    ((catchesUp_poll hfirst).append hle (catchesUp_poll hsecond))).1

end PhaseClock

end TickArena

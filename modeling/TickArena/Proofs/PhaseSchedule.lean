import TickArena.Proofs.PhasePolls

/-!
# The schedule of the phases

All boundaries that a clock can ever cross stand in one endless schedule.  Polls and
forced advances only decide when the next one is crossed, so what has been crossed is
always the beginning of the schedule, and its length gives the tick and the phase.
-/

namespace TickArena

/-- The calls on a clock, at instants in any order. -/
inductive ClockCall where
  | poll (now : Instant)
  | forceAdvance (now : Instant)
  deriving DecidableEq, Repr

namespace PhaseTransition

/-- The boundaries of the first tick, then those of the second, and so on. -/
def scheduled (number : Nat) : PhaseTransition :=
  let tick := number / 3 + 1
  match number % 3 with
  | 0 => .evaluationStarted tick
  | 1 => .resultsStarted tick
  | _ => .tickCompleted tick (tick + 1)

def completesTick : PhaseTransition → Bool
  | tickCompleted _ _ => true
  | _ => false

end PhaseTransition

open PhaseTransition (scheduled completesTick entered)

namespace PhaseClock

def call (clock : PhaseClock) : ClockCall → Poll
  | .poll now => clock.poll now
  | .forceAdvance now => ⟨[(clock.advance now).1], (clock.advance now).2, .settled⟩

/-- Calls one after the other, up to the first that does not settle.  A poll that leaves the
range of the clock returns nothing; the run still counts what it has crossed. -/
def run (clock : PhaseClock) : List ClockCall → Poll
  | [] => ⟨[], clock, .settled⟩
  | call :: later =>
    let first := clock.call call
    match first.ending with
    | .settled =>
      let rest := first.clock.run later
      { rest with transitions := first.transitions ++ rest.transitions }
    | _ => first

/-! ## Places on the schedule -/

def phaseNumber : Phase → Nat
  | .building => 0
  | .evaluating => 1
  | .results => 2

/-- How many boundaries of the schedule lie before the current phase. -/
def place (clock : PhaseClock) : Nat :=
  3 * (clock.tick - 1) + phaseNumber clock.phase

theorem fst_advance {clock : PhaseClock} (htick : 1 ≤ clock.tick) (at_ : Instant) :
    (clock.advance at_).1 = scheduled clock.place := by
  obtain ⟨tick, htick⟩ := Nat.exists_eq_add_of_le' htick
  unfold advance
  cases hphase : clock.phase <;>
    simp [place, scheduled, hphase, htick, phaseNumber, Nat.mul_add_div]

theorem place_advance {clock : PhaseClock} (htick : 1 ≤ clock.tick) (at_ : Instant) :
    (clock.advance at_).2.place = clock.place + 1 := by
  unfold advance place
  cases hphase : clock.phase with
  | building => rfl
  | evaluating => rfl
  | results =>
    simp only [phaseNumber]
    omega

/-- One clock has become another by crossing the boundaries that come next. -/
structure Traverses (clock : PhaseClock) (transitions : List PhaseTransition)
    (after : PhaseClock) : Prop where
  scheduled : transitions = (List.range' clock.place transitions.length).map scheduled
  place : after.place = clock.place + transitions.length
  tick : after.tick = clock.tick + transitions.countP completesTick
  phase : after.phase = (transitions.getLast?.map entered).getD clock.phase
  lengths : after.lengthOf = clock.lengthOf

namespace Traverses

theorem refl (clock : PhaseClock) : clock.Traverses [] clock :=
  ⟨rfl, rfl, rfl, rfl, rfl⟩

theorem advance {clock : PhaseClock} (htick : 1 ≤ clock.tick) (at_ : Instant) :
    clock.Traverses [(clock.advance at_).1] (clock.advance at_).2 where
  scheduled := congrArg (fun transition => [transition]) (fst_advance htick at_)
  place := place_advance htick at_
  tick := by
    unfold PhaseClock.advance
    cases clock.phase <;> rfl
  phase := by
    unfold PhaseClock.advance
    cases clock.phase <;> rfl
  lengths := lengthOf_advance clock at_

theorem append {clock middle after : PhaseClock} {first second : List PhaseTransition}
    (hfirst : clock.Traverses first middle) (hsecond : middle.Traverses second after) :
    clock.Traverses (first ++ second) after where
  scheduled := by
    rw [List.length_append, ← List.range'_append_1, List.map_append, ← hfirst.scheduled,
      ← hfirst.place, ← hsecond.scheduled]
  place := by
    rw [hsecond.place, hfirst.place, List.length_append, Nat.add_assoc]
  tick := by
    rw [hsecond.tick, hfirst.tick, List.countP_append, Nat.add_assoc]
  phase := by
    rw [hsecond.phase, hfirst.phase, List.getLast?_append]
    cases second.getLast? <;> rfl
  lengths := hsecond.lengths.trans hfirst.lengths

end Traverses

theorem CatchesUp.traverses {clock : PhaseClock} {now : Instant} {poll : Poll}
    (h : clock.CatchesUp now poll) (htick : 1 ≤ clock.tick) :
    clock.Traverses poll.transitions poll.clock := by
  induction h with
  | fault hboundary => exact .refl _
  | settle hboundary hahead => exact .refl _
  | @cross clock boundary rest hboundary hdue hrest ih =>
    have hadvance := Traverses.advance htick boundary
    exact hadvance.append (ih (htick.trans (hadvance.tick.symm ▸ Nat.le_add_right _ _)))

/-! ## Runs -/

theorem call_spec {clock : PhaseClock} (hcycle : 0 < clock.cycle) (htick : 1 ≤ clock.tick)
    (call : ClockCall) :
    (clock.call call).ending ≠ .endless ∧
      clock.Traverses (clock.call call).transitions (clock.call call).clock := by
  cases call with
  | poll now =>
    have hpoll := catchesUp_poll_of_cycle hcycle now
    exact ⟨hpoll.ending_ne_endless, hpoll.traverses htick⟩
  | forceAdvance now => exact ⟨by simp [PhaseClock.call], Traverses.advance htick now⟩

theorem run_spec {clock : PhaseClock} (hcycle : 0 < clock.cycle) (htick : 1 ≤ clock.tick)
    (calls : List ClockCall) :
    (clock.run calls).ending ≠ .endless ∧
      clock.Traverses (clock.run calls).transitions (clock.run calls).clock := by
  induction calls generalizing clock with
  | nil => exact ⟨by simp [run], .refl clock⟩
  | cons call later ih =>
    obtain ⟨hends, hcall⟩ := call_spec hcycle htick call
    rw [run]
    dsimp only
    split
    · obtain ⟨hends', hlater⟩ := ih (cycle_eq_of_lengthOf_eq hcall.lengths ▸ hcycle)
        (htick.trans (hcall.tick.symm ▸ Nat.le_add_right _ _))
      exact ⟨hends', hcall.append hlater⟩
    · exact ⟨hends, hcall⟩

theorem entered_scheduled_succ (number : Nat) :
    (scheduled (number + 1)).entered = (scheduled number).entered.next := by
  have hcases : number % 3 = 0 ∨ number % 3 = 1 ∨ number % 3 = 2 := by omega
  rcases hcases with h | h | h <;> simp [scheduled, Nat.add_mod, h, entered, Phase.next]

theorem isChain_scheduled (count : Nat) :
    (Phase.building :: ((List.range count).map scheduled).map entered).IsChain
      (fun before after => after = before.next) := by
  refine List.isChain_cons.mpr ⟨?_, ?_⟩
  · cases count with
    | zero => simp
    | succ count =>
      rw [List.range_succ_eq_map]
      rintro _ ⟨⟩
      rfl
  · rw [List.isChain_map, List.isChain_map, List.isChain_range]
    exact fun number _ => entered_scheduled_succ number

/-- Whatever is called and whenever, a clock keeps to the schedule. -/
theorem run_on_schedule {settings : Settings} {started : Instant} {clock : PhaseClock}
    (hstart : start settings started = .ok clock) (hcycle : 0 < clock.cycle)
    (calls : List ClockCall) :
    let run := clock.run calls
    run.ending ≠ .endless ∧
      run.transitions = (List.range run.transitions.length).map scheduled ∧
      run.clock.tick = 1 + run.transitions.countP completesTick ∧
      run.clock.phase = (run.transitions.getLast?.map entered).getD .building ∧
      (Phase.building :: run.transitions.map entered).IsChain
        (fun before after => after = before.next) ∧
      ∀ now, (run.clock.advance now).2.tick =
        if run.clock.phase = .results then run.clock.tick + 1 else run.clock.tick := by
  obtain ⟨-, hphase, htick, -⟩ := start_spec hstart
  obtain ⟨hends, hrun⟩ := run_spec hcycle htick.ge calls
  have hplace : clock.place = 0 := by simp [place, htick, hphase, phaseNumber]
  have hscheduled := hrun.scheduled
  rw [hplace, ← List.range_eq_range'] at hscheduled
  refine ⟨hends, hscheduled, htick ▸ hrun.tick, hphase ▸ hrun.phase, ?_, ?_⟩
  · rw [hscheduled]
    exact isChain_scheduled _
  · intro now
    unfold advance
    cases hlast : (clock.run calls).clock.phase <;> rfl

/-- Late polls, forced advances and two instants in the past: nine boundaries of three
ticks, and one of the fourth. -/
theorem quick_run_on_schedule :
    ∃ clock, start .quick 0 = .ok clock ∧ 0 < clock.cycle ∧
      let run := clock.run [.poll 4000000000, .forceAdvance 5000000000, .poll 20000000000,
        .poll 3000000000, .forceAdvance 1000000000]
      run.ending = .settled ∧ run.transitions = (List.range 10).map scheduled ∧
        run.clock.tick = 4 ∧ run.clock.phase = .evaluating := by
  have hquick : ∃ clock, start .quick 0 = .ok clock ∧ 0 < clock.cycle ∧
      (clock.run [.poll 4000000000, .forceAdvance 5000000000, .poll 20000000000,
        .poll 3000000000, .forceAdvance 1000000000]).ending = .settled ∧
      (clock.run [.poll 4000000000, .forceAdvance 5000000000, .poll 20000000000,
        .poll 3000000000, .forceAdvance 1000000000]).transitions.length = 10 := by
    apply Time.exists_ok_of_any
    decide +kernel
  obtain ⟨clock, hstart, hcycle, hsettled, hlength⟩ := hquick
  obtain ⟨-, hscheduled, htick, hphase, -⟩ := run_on_schedule hstart hcycle
    [.poll 4000000000, .forceAdvance 5000000000, .poll 20000000000, .poll 3000000000,
      .forceAdvance 1000000000]
  rw [hlength] at hscheduled
  rw [hscheduled] at htick hphase
  exact ⟨clock, hstart, hcycle, hsettled, hscheduled, htick, hphase⟩

end PhaseClock

end TickArena

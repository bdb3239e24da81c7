import TickArena.Proofs.PhasePolls
import TickArena.Proofs.TimelineRuns
import Mathlib.Algebra.Order.Floor.Div

/-!
# How long an evaluation takes

Where computing takes no time, an evaluation lasts for its sleeps: one between two batches,
until the last batch is taken or the time is used up.  A clock that is polled on time starts
an evaluation once in every cycle.
-/

namespace TickArena

theorem length_pieces {α : Type} {size steps : Nat} {items : List α} (hsize : 1 ≤ size)
    (hsteps : items.length ≤ steps) :
    (pieces size steps items).length = items.length ⌈/⌉ size := by
  induction steps generalizing items with
  | zero =>
    obtain rfl := List.length_eq_zero_iff.mp (Nat.le_zero.mp hsteps)
    simp [pieces]
  | succ steps ih =>
    cases items with
    | nil => simp [pieces]
    | cons first later =>
      have hdropped : ((first :: later).drop size).length ≤ steps := by
        rw [List.length_drop]
        omega
      have hpieces : pieces size (steps + 1) (first :: later) =
          (first :: later).take size :: pieces size steps ((first :: later).drop size) := rfl
      rw [hpieces, List.length_cons, ih hdropped, List.length_drop]
      apply eq_of_forall_ge_iff
      intro count
      cases count with
      | zero => simp [ceilDiv_le_iff_le_mul (Nat.lt_of_succ_le hsize)]
      | succ count =>
        rw [Nat.add_le_add_iff_right, ceilDiv_le_iff_le_mul (Nat.lt_of_succ_le hsize),
          ceilDiv_le_iff_le_mul (Nat.lt_of_succ_le hsize), Nat.sub_le_iff_le_add, Nat.mul_succ]

/-! ## Sleeps -/

/-- How often an evaluation sleeps: between its batches, and not any more once the time is
used up. -/
def sleeps (batches : Nat) (timeout delay : Duration) : Nat :=
  min (batches - 1) (timeout ⌈/⌉ delay)

theorem mul_le_sleeps_mul {batches taken : Nat} {timeout delay : Duration}
    (htaken : taken = 0 ∨ taken < batches ∧ (taken - 1) * delay < timeout) :
    taken * delay ≤ sleeps batches timeout delay * delay := by
  rcases htaken with rfl | ⟨hless, hearly⟩
  · simp
  rcases Nat.eq_zero_or_pos delay with rfl | hdelay
  · simp
  apply Nat.mul_le_mul_right
  apply le_min (by omega)
  by_contra hlate
  have hover : timeout ⌈/⌉ delay ≤ taken - 1 := Nat.le_sub_one_of_lt (Nat.lt_of_not_le hlate)
  rw [ceilDiv_le_iff_le_mul hdelay, Nat.mul_comm] at hover
  exact absurd hearly hover.not_gt

theorem sleeps_mul_eq {batches taken : Nat} {timeout delay : Duration}
    (htaken : taken = 0 ∨ taken < batches ∧ (taken - 1) * delay < timeout)
    (hends : batches ≤ taken + 1 ∨ timeout ≤ taken * delay) :
    sleeps batches timeout delay * delay = taken * delay := by
  apply le_antisymm _ (mul_le_sleeps_mul htaken)
  rcases Nat.eq_zero_or_pos delay with rfl | hdelay
  · simp
  apply Nat.mul_le_mul_right
  rcases hends with hlast | hlate
  · exact (min_le_left _ _).trans (by omega)
  · exact (min_le_right _ _).trans
      ((ceilDiv_le_iff_le_mul hdelay).mpr (Nat.mul_comm taken delay ▸ hlate))

namespace Settings

def batchesOf (settings : Settings) (entrants : Nat) : Nat :=
  entrants ⌈/⌉ max settings.batchSize 1

def evaluationTime (settings : Settings) (timeout : Duration) (entrants : Nat) : Duration :=
  sleeps (settings.batchesOf entrants) timeout settings.batchDelay * settings.batchDelay

end Settings

/-! ## Steps while the clock stands still -/

/-- An evaluation has taken some batches since an instant and has not come to its end. -/
structure Evaluation.Since (settings : Settings) (timeout : Duration) (entrants taken : Nat)
    (opened : Instant) (evaluation : Evaluation) : Prop where
  total : evaluation.total = entrants
  deadline : evaluation.deadline = opened + timeout
  pending : evaluation.pending.length + taken = settings.batchesOf entrants
  begun : taken = 0 ∨ taken < settings.batchesOf entrants ∧
    (taken - 1) * settings.batchDelay < timeout

namespace Arena

variable {arena : Arena} {timeout : Duration} {entrants taken : Nat} {opened now : Instant}
  {evaluation : Evaluation}

theorem openEvaluation_of_error {request : Request} {fault : TimeFault}
    (htimeout : arena.settings.timeout = .ok timeout)
    (hdeadline : Time.after now timeout = .error fault) :
    arena.openEvaluation request now = .error fault := by
  unfold openEvaluation
  rw [htimeout]
  change (Time.after now timeout >>= _) = _
  rw [hdeadline]
  rfl

theorem since_opened (arena : Arena) (request : Request) (timeout : Duration) (now : Instant) :
    (arena.opened request (now + timeout)).Since arena.settings timeout
      arena.submissions.size 0 now := by
  refine ⟨rfl, rfl, ?_, .inl rfl⟩
  exact length_pieces (Nat.le_max_right _ _) le_rfl

/-- After the sleeps so far, a step takes the next batch and leaves the rest to later ones,
or it comes to the end, which then is when all sleeps are over. -/
theorem step_of_since (h : evaluation.Since arena.settings timeout entrants taken opened)
    (hnow : now = opened + taken * arena.settings.batchDelay) :
    (∃ following sent, arena.step evaluation (fun _ => now) =
        { arena, sent, progress := .waiting following } ∧
      following.request = evaluation.request ∧ Host.summaries sent = [] ∧
      following.Since arena.settings timeout entrants (taken + 1) opened) ∨
    now = opened + arena.settings.evaluationTime timeout entrants ∧
      ∃ after sent summary, arena.step evaluation (fun _ => now) =
        { arena := after, sent, progress := .finished summary } ∧
        arena.Closes evaluation.request after sent summary := by
  have hend : arena.settings.batchesOf entrants ≤ taken + 1 ∨
      timeout ≤ taken * arena.settings.batchDelay →
        now = opened + arena.settings.evaluationTime timeout entrants := by
    intro hends
    rw [hnow, Settings.evaluationTime, sleeps_mul_eq h.begun hends]
  have hpending := h.pending
  unfold step
  by_cases htotal : evaluation.total = 0
  · rw [if_pos htotal]
    have hnone : arena.settings.batchesOf entrants = 0 := by
      rw [← h.total, htotal]
      simp [Settings.batchesOf]
    exact .inr ⟨hend (.inl (by omega)), _, _, _, rfl,
      arena.closes_publishEmpty evaluation.request⟩
  · rw [if_neg htotal]
    cases hbatches : evaluation.pending with
    | nil =>
      rw [hbatches, List.length_nil] at hpending
      exact .inr ⟨hend (.inl (by omega)), _, _, _, rfl,
        @closes_finish arena evaluation false [] rfl⟩
    | cons batch rest =>
      rw [hbatches, List.length_cons] at hpending
      have hsent := arena.summaries_evaluateBatch evaluation (fun _ => now) batch rest
      dsimp only
      split_ifs with hlate hlast
      · rw [h.deadline, hnow] at hlate
        exact .inr ⟨hend (.inr (Nat.le_of_add_le_add_left hlate)), _, _, _, rfl,
          @closes_finish arena evaluation true [] rfl⟩
      · have hinTime : (arena.evaluateBatch evaluation (fun _ => now) batch rest).2.2 = false := by
          by_contra hnever
          obtain ⟨reading, hreading⟩ := exists_late_of_reportBatch (eq_true_of_ne_false hnever)
          exact hlate hreading
        have hrest : rest = [] := by simpa [hinTime] using hlast
        rw [hrest, List.length_nil] at hpending
        exact .inr ⟨hend (.inl (by omega)), _, _, _, rfl, arena.closes_finish
          (arena.evaluateBatch evaluation (fun _ => now) batch rest).1 _ hsent⟩
      · have hrest : rest ≠ [] := by
          rintro rfl
          simp at hlast
        have hlength := List.length_pos_of_ne_nil hrest
        rw [h.deadline, hnow, Nat.not_le] at hlate
        refine .inl ⟨_, _, rfl, rfl, hsent, h.total, h.deadline, ?_, .inr ⟨by omega, ?_⟩⟩
        · change rest.length + (taken + 1) = _
          omega
        · exact Nat.lt_of_add_lt_add_left hlate

end Arena

/-! ## A clock that is polled on time -/

namespace PhaseClock

/-- The instant at which a clock that is polled on time starts its next evaluation. -/
def nextStart (clock : PhaseClock) : Instant :=
  match clock.phase with
  | .building => clock.phaseEnd
  | .evaluating => clock.phaseEnd + clock.results + clock.building
  | .results => clock.phaseEnd + clock.building

theorem phaseEnd_le_nextStart (clock : PhaseClock) : clock.phaseEnd ≤ clock.nextStart := by
  unfold nextStart
  split
  · exact le_rfl
  · exact (Nat.le_add_right _ _).trans (Nat.le_add_right _ _)
  · exact Nat.le_add_right _ _

/-- Behind a boundary the next evaluation starts at the same instant as before it, or the
boundary has started one. -/
theorem nextStart_behind (clock : PhaseClock) :
    startedTicks [(clock.advance clock.phaseEnd).1] = [] ∧
        clock.behind.nextStart = clock.nextStart ∨
      startedTicks [(clock.advance clock.phaseEnd).1] = [clock.tick] ∧
        clock.nextStart = clock.phaseEnd ∧
        clock.behind.nextStart = clock.nextStart + clock.cycle := by
  unfold behind nextStart advance phaseEnd cycle lengthOf
  cases clock.phase with
  | building =>
    right
    simp [startedTicks, PhaseTransition.started?, Nat.add_assoc, Nat.add_comm clock.building]
  | evaluating =>
    left
    simp [startedTicks, PhaseTransition.started?]
  | results =>
    left
    simp [startedTicks, PhaseTransition.started?]

namespace CatchesUp

variable {clock : PhaseClock} {now : Instant} {poll : Poll}

theorem onTime (h : clock.CatchesUp now poll) (hnow : now ≤ clock.phaseEnd) :
    now ≤ poll.clock.phaseEnd := by
  induction h with
  | fault hboundary => exact hnow
  | settle hboundary hahead => exact hnow
  | @cross clock boundary rest hboundary hdue hrest ih =>
    obtain ⟨-, rfl⟩ := boundary_eq_ok_iff.mp hboundary
    have hstarted : clock.phaseEnd ≤ clock.behind.phaseEnd :=
      clock.phaseStarted_behind.symm.trans_le clock.behind.phaseStarted_le_phaseEnd
    exact ih (hnow.trans hstarted)

theorem inRange_of_settled (h : clock.CatchesUp now poll) (hsettled : poll.ending = .settled) :
    clock.phaseEnd < Time.instantLimit := by
  cases h with
  | fault hboundary => contradiction
  | settle hboundary hahead => exact (boundary_eq_ok_iff.mp hboundary).1
  | cross hboundary hdue hrest => exact (boundary_eq_ok_iff.mp hboundary).1

/-- The evaluations that a poll starts are one cycle apart, and the last one is due. -/
theorem nextStart_eq (h : clock.CatchesUp now poll) :
    poll.clock.nextStart =
        clock.nextStart + (startedTicks poll.transitions).length * clock.cycle ∧
      poll.clock.nextStart ≤ max clock.nextStart (now + clock.cycle) := by
  induction h with
  | fault hboundary => simp [startedTicks]
  | settle hboundary hahead => simp [startedTicks]
  | @cross clock boundary rest hboundary hdue hrest ih =>
    obtain ⟨-, rfl⟩ := boundary_eq_ok_iff.mp hboundary
    obtain ⟨hnext, hle⟩ := ih
    change rest.clock.nextStart = clock.behind.nextStart + _ * clock.behind.cycle at hnext
    change rest.clock.nextStart ≤ max clock.behind.nextStart (now + clock.behind.cycle) at hle
    rw [cycle_behind] at hnext hle
    have hticks : startedTicks ((clock.advance clock.phaseEnd).1 :: rest.transitions) =
        startedTicks [(clock.advance clock.phaseEnd).1] ++ startedTicks rest.transitions :=
      List.filterMap_append (l := [_])
    dsimp only
    rw [hticks, List.length_append]
    rcases clock.nextStart_behind with ⟨hnone, hsame⟩ | ⟨hone, hstart, hcycle⟩
    · rw [hnone, List.length_nil, Nat.zero_add]
      exact ⟨hsame ▸ hnext, hsame ▸ hle⟩
    · rw [hone, List.length_singleton, Nat.add_mul, Nat.one_mul, ← Nat.add_assoc, ← hcycle]
      refine ⟨hnext, hle.trans (max_le ?_ (le_max_right _ _))⟩
      rw [hcycle, hstart]
      exact (Nat.add_le_add_right hdue _).trans (le_max_right _ _)

/-- A poll on time starts no evaluation or one: the next tick, which is due now. -/
theorem starts_of_onTime (h : clock.CatchesUp now poll) (hcycle : 0 < clock.cycle)
    (hnow : now ≤ clock.phaseEnd) :
    startedTicks poll.transitions = [] ∧ poll.clock.nextStart = clock.nextStart ∧
        poll.clock.nextTick = clock.nextTick ∨
      startedTicks poll.transitions = [clock.nextTick] ∧ clock.nextStart = now ∧
        poll.clock.nextStart = now + clock.cycle ∧ poll.clock.nextTick = clock.nextTick + 1 := by
  obtain ⟨hnext, hle⟩ := h.nextStart_eq
  obtain ⟨hpoll, -⟩ := catchesUp_iff.mp h
  have hstarts : clock.Starts poll.transitions poll.clock := by
    rw [← hpoll]
    exact starts_pollFor now (clock.stepBound now) clock
  have hdue : now ≤ clock.nextStart := hnow.trans clock.phaseEnd_le_nextStart
  have hticks := hstarts.ticks
  have htick := hstarts.nextTick
  generalize startedTicks poll.transitions = ticks at hnext hticks htick ⊢
  have hcount : ticks.length = 0 ∨ ticks.length = 1 ∧ clock.nextStart = now := by
    rw [hnext] at hle
    cases hlength : ticks.length with
    | zero => exact .inl rfl
    | succ more =>
      right
      rw [hlength, Nat.succ_mul] at hle
      -- The last of the evaluations is due, and the first one is not overdue.
      have hlast : clock.nextStart + more * clock.cycle ≤ now := by
        rcases le_max_iff.mp hle with hnever | hlast
        · lia
        · lia
      have hnone : more * clock.cycle = 0 := by lia
      have hmore := (Nat.mul_eq_zero.mp hnone).resolve_right hcycle.ne'
      exact ⟨by rw [hmore], by lia⟩
  rcases hcount with hnone | ⟨hone, hstart⟩
  · left
    rw [hnone] at hnext htick
    exact ⟨List.length_eq_zero_iff.mp hnone, by simpa using hnext, htick⟩
  · right
    rw [hone] at hticks htick hnext
    refine ⟨hticks, hstart, ?_, htick⟩
    rw [hnext, hstart, Nat.one_mul]

end CatchesUp

end PhaseClock

theorem PhaseClock.TimedBy.cycle_eq {clock : PhaseClock} {settings : Settings}
    (h : clock.TimedBy settings) {cycle : Duration} (htick : settings.tick = .ok cycle) :
    clock.cycle = cycle := by
  have hsum : ∀ {a b total : Duration}, Time.sum a b = .ok total → a + b = total := by
    intro a b total htotal
    unfold Time.sum at htotal
    split_ifs at htotal
    exact Except.ok.inj htotal
  unfold Settings.tick at htick
  rw [h.building, h.evaluating, h.results] at htick
  change (Time.sum clock.building clock.evaluating >>= fun begun =>
    Time.sum begun clock.results) = .ok cycle at htick
  obtain ⟨begun, hbegun, htick⟩ := Time.bind_eq_ok htick
  rw [← hsum htick, ← hsum hbegun]
  rfl

/-! ## Dispatches on time -/

/-- Every dispatch has an instant and a tick, and both move on regularly. -/
def Regular (cycle : Duration) (first second : Instant × Nat) : Prop :=
  second.1 = first.1 + cycle ∧ second.2 = first.2 + 1

/-- A clock has been polled at all its boundaries, and these are the dispatches so far.  A
clock that has left its range does not dispatch any more. -/
structure PhaseClock.Paced (cycle : Duration) (now : Instant) (starts : List (Instant × Nat))
    (clock : PhaseClock) : Prop where
  length : clock.cycle = cycle
  onTime : now ≤ clock.phaseEnd
  past : ∀ start ∈ starts, start.1 ≤ now
  spaced : starts.IsChain (Regular cycle)
  next : clock.phaseEnd < Time.instantLimit → ∀ start ∈ starts.getLast?,
    Regular cycle start (clock.nextStart, clock.nextTick)

namespace Scheduler

variable {cycle : Duration} {now : Instant} {starts : List (Instant × Nat)}
  {scheduler : Scheduler}

/-- A step on time dispatches nothing, or the one evaluation that is due. -/
theorem paced_step (h : scheduler.clock.Paced cycle now starts) (hcycle : 0 < cycle) :
    (scheduler.step now).scheduler.clock.Paced cycle now
        (starts ++ (scheduler.step now).dispatched.map fun request => (now, request.tick)) ∧
      ((scheduler.step now).dispatched = [] ∨ ∃ request,
        (scheduler.step now).dispatched = [request] ∧
          ∀ start ∈ starts.getLast?, start.1 + cycle = now) := by
  have hpoll := PhaseClock.catchesUp_poll_of_cycle (h.length.symm ▸ hcycle) now
  rw [clock_step]
  by_cases hsettled : (scheduler.clock.poll now).ending = .settled
  · have hticks := dispatchedTicks_step hsettled
    have hinRange := hpoll.inRange_of_settled hsettled
    rcases hpoll.starts_of_onTime (h.length.symm ▸ hcycle) h.onTime with
      ⟨hnone, hstart, htick⟩ | ⟨hone, hdue, hstart, htick⟩
    · rw [hnone] at hticks
      have hdispatched := List.map_eq_nil_iff.mp hticks
      rw [hdispatched, List.map_nil, List.append_nil]
      refine ⟨⟨hpoll.cycle_eq.trans h.length, hpoll.onTime h.onTime, h.past, h.spaced, ?_⟩,
        .inl rfl⟩
      intro _
      rw [hstart, htick]
      exact h.next hinRange
    · rw [hone] at hticks
      obtain ⟨request, hdispatched, hrequest⟩ := List.map_eq_singleton_iff.mp hticks
      have hlast : ∀ start ∈ starts.getLast?, Regular cycle start (now, request.tick) := by
        rw [hrequest, ← hdue]
        exact h.next hinRange
      rw [hdispatched, List.map_singleton]
      refine ⟨⟨hpoll.cycle_eq.trans h.length, hpoll.onTime h.onTime, ?_, ?_, ?_⟩,
        .inr ⟨request, rfl, fun start hmem => (hlast start hmem).1.symm⟩⟩
      · intro start hmem
        rcases List.mem_append.mp hmem with hold | hnew
        · exact h.past start hold
        · rw [List.mem_singleton.mp hnew]
      · refine List.isChain_append.mpr ⟨h.spaced, List.isChain_singleton _, ?_⟩
        intro start hmem next hnext
        obtain rfl := Option.some_inj.mp hnext
        exact hlast start hmem
      · intro _ start hmem
        rw [List.getLast?_concat] at hmem
        obtain rfl := Option.some_inj.mp hmem
        rw [hrequest, hstart, htick, h.length]
        exact ⟨rfl, rfl⟩
  · have hdispatched : (scheduler.step now).dispatched = [] := by
      rw [step_of_not_settled hsettled]
      rfl
    rw [hdispatched, List.map_nil, List.append_nil]
    refine ⟨⟨hpoll.cycle_eq.trans h.length, hpoll.onTime h.onTime, h.past, h.spaced, ?_⟩, .inl rfl⟩
    intro hinRange
    exact absurd (hpoll.ending_eq.trans (if_pos hinRange)) hsettled

end Scheduler

end TickArena

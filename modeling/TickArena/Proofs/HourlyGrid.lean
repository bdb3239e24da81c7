import TickArena.Proofs.HourlyWarnings

/-!
# The grid of the hourly events

The events of an armed timer lie on a grid: the next one, and from there on one for each
interval.  What a poll does is known from how many of them lie at or before its instant.  An
event starts when that number has grown since the poll before, by however much, and the next
event is always the first one that has not been counted.
-/

namespace TickArena

namespace HourlyTimer

/-! ## Counting the grid points -/

def gridPoint (timer : HourlyTimer) (number : Nat) : Instant :=
  timer.nextEvent + number * timer.interval

/-- The instants for which events are scheduled, as long as nothing disturbs the timer. -/
def grid (timer : HourlyTimer) : Set Instant :=
  Set.range timer.gridPoint

/-- How many grid points lie at or before an instant. -/
def due (timer : HourlyTimer) (now : Instant) : Nat :=
  (now + timer.interval - timer.nextEvent) / timer.interval

section Grid

variable {timer : HourlyTimer} {before now : Instant}

theorem gridPoint_le_iff (hinterval : 0 < timer.interval) {number : Nat} :
    timer.gridPoint number ≤ now ↔ number < timer.due now := by
  unfold gridPoint due
  rw [Nat.lt_iff_add_one_le, Nat.le_div_iff_mul_le hinterval, Nat.add_one_mul]
  lia

theorem due_mono (hle : before ≤ now) : timer.due before ≤ timer.due now :=
  Nat.div_le_div_right (Nat.sub_le_sub_right (Nat.add_le_add_right hle _) _)

theorem isLeast_gridPoint_due (hinterval : 0 < timer.interval) (now : Instant) :
    IsLeast {point ∈ timer.grid | now < point} (timer.gridPoint (timer.due now)) := by
  refine ⟨⟨⟨_, rfl⟩, ?_⟩, ?_⟩
  · exact lt_of_not_ge fun hle => lt_irrefl _ ((gridPoint_le_iff hinterval).mp hle)
  · rintro _ ⟨⟨number, rfl⟩, hahead⟩
    have hnumber : timer.due now ≤ number :=
      Nat.le_of_not_lt fun hdue => hahead.not_ge ((gridPoint_le_iff hinterval).mpr hdue)
    exact Nat.add_le_add_left (Nat.mul_le_mul_right _ hnumber) _

/-- More grid points are counted if one of them lies in between. -/
theorem due_lt_due_iff (hinterval : 0 < timer.interval) :
    timer.due before < timer.due now ↔ ∃ point ∈ timer.grid, before < point ∧ point ≤ now := by
  constructor
  · intro hmore
    exact ⟨_, ⟨_, rfl⟩, (isLeast_gridPoint_due hinterval before).1.2,
      (gridPoint_le_iff hinterval).mpr hmore⟩
  · rintro ⟨_, ⟨number, rfl⟩, hbefore, hnow⟩
    have hcounted : timer.due before ≤ number :=
      Nat.le_of_not_lt fun hdue => hbefore.not_ge ((gridPoint_le_iff hinterval).mpr hdue)
    exact hcounted.trans_lt ((gridPoint_le_iff hinterval).mp hnow)

theorem due_pos_iff (hinterval : 0 < timer.interval) :
    0 < timer.due now ↔ ∃ point ∈ timer.grid, point ≤ now := by
  constructor
  · intro hdue
    exact ⟨_, ⟨0, rfl⟩, (gridPoint_le_iff hinterval).mpr hdue⟩
  · rintro ⟨_, ⟨number, rfl⟩, hnow⟩
    exact (Nat.zero_le number).trans_lt ((gridPoint_le_iff hinterval).mp hnow)

/-! ## Catching up on the grid -/

theorem missed_eq_due (hinterval : 0 < timer.interval) (hdue : timer.nextEvent ≤ now) :
    timer.missed now = timer.due now := by
  unfold missed due
  rw [Nat.sub_add_comm hdue, Nat.add_div_right _ hinterval]

/-- A due event moves to the first grid point that lies ahead, or stops at the last one
before it if that one is out of range. -/
theorem catchUp_eq (hinterval : 0 < timer.interval) (hdue : timer.nextEvent ≤ now) :
    timer.catchUp now =
      if timer.gridPoint (timer.due now) < Time.instantLimit then
        ({ timer with nextEvent := timer.gridPoint (timer.due now) }, .settled)
      else
        ({ timer with nextEvent := timer.gridPoint (timer.due now - 1) },
          .faulted .instantTooLate) := by
  have hsome : 0 < timer.due now :=
    (gridPoint_le_iff hinterval).mp (by simpa [gridPoint] using hdue)
  have hlast : timer.gridPoint (timer.due now - 1) + timer.interval =
      timer.gridPoint (timer.due now) := by
    obtain ⟨more, hmore⟩ := Nat.exists_eq_succ_of_ne_zero hsome.ne'
    simp only [hmore, gridPoint, Nat.succ_sub_one, Nat.succ_mul, Nat.add_assoc]
  have hafter : Time.after (timer.nextEvent + (timer.due now - 1) * timer.interval)
      timer.interval =
        if timer.gridPoint (timer.due now) < Time.instantLimit then
          .ok (timer.gridPoint (timer.due now))
        else .error .instantTooLate := by
    rw [← hlast]
    rfl
  unfold catchUp
  dsimp only
  rw [if_neg hinterval.ne', missed_eq_due hinterval hdue, hafter]
  split_ifs <;> rfl

/-- The timer of a due event after a poll, and how the poll ends. -/
theorem poll_of_due (harmed : timer.armed = true) (hinterval : 0 < timer.interval)
    (hdue : timer.nextEvent ≤ now) :
    timer.poll now =
      if timer.gridPoint (timer.due now) < Time.instantLimit then
        ⟨[.eventStarted], { timer with nextEvent := timer.gridPoint (timer.due now) }.fire,
          .settled⟩
      else
        ⟨[], { timer with nextEvent := timer.gridPoint (timer.due now - 1) },
          .faulted .instantTooLate⟩ := by
  have hnot : ¬ (!timer.armed) = true := by simpa using harmed
  unfold poll
  rw [if_neg hnot, if_pos hdue, catchUp_eq hinterval hdue]
  split_ifs <;> rfl

end Grid

/-! ## Timers on the grid of another -/

/-- The timer is on the grid of a first one, of which some points have been counted.  Its next
event is the one behind these, unless that one is out of range. -/
structure Tracks (timer : HourlyTimer) (counted : Nat) (served : HourlyTimer) : Prop where
  armed : served.armed = true
  interval : served.interval = timer.interval
  nextEvent : ∃ number ≤ counted, served.nextEvent = timer.gridPoint number ∧
    (number = counted ↔ timer.gridPoint counted < Time.instantLimit)

section Tracks

variable {timer served : HourlyTimer} {now : Instant} {counted : Nat}

theorem tracks_refl (harmed : timer.armed = true) (hnext : timer.nextEvent < Time.instantLimit) :
    timer.Tracks 0 timer := by
  have hfirst : timer.gridPoint 0 = timer.nextEvent := by simp [gridPoint]
  exact ⟨harmed, rfl, 0, le_rfl, hfirst.symm, iff_of_true rfl (hfirst.trans_lt hnext)⟩

theorem gridPoint_of_nextEvent_eq (hsame : served.interval = timer.interval) {number : Nat}
    (hnext : served.nextEvent = timer.gridPoint number) (more : Nat) :
    served.gridPoint more = timer.gridPoint (number + more) := by
  simp only [gridPoint, hsame, hnext, Nat.add_mul, Nat.add_assoc]

theorem due_of_nextEvent_eq (hsame : served.interval = timer.interval) {number : Nat}
    (hnext : served.nextEvent = timer.gridPoint number) (now : Instant) :
    served.due now = timer.due now - number := by
  unfold due
  rw [hsame, hnext, gridPoint, ← Nat.sub_sub, Nat.mul_comm, Nat.sub_mul_div]

theorem Tracks.nextEvent_eq (h : timer.Tracks counted served)
    (hrange : timer.gridPoint counted < Time.instantLimit) :
    served.nextEvent = timer.gridPoint counted := by
  obtain ⟨number, -, hnext, hlast⟩ := h.nextEvent
  rw [hnext, hlast.mpr hrange]

/-- A poll counts the points up to its instant.  It starts an event if there are more of them
than before, and it faults if the next one is out of range. -/
theorem Tracks.poll (h : timer.Tracks counted served) (hinterval : 0 < timer.interval)
    (hcounted : counted ≤ timer.due now) :
    timer.Tracks (timer.due now) (served.poll now).timer ∧
      (served.poll now).ending =
        (if timer.gridPoint (timer.due now) < Time.instantLimit then .settled
          else .faulted .instantTooLate) ∧
      (.eventStarted ∈ (served.poll now).transitions ↔
        (served.poll now).ending = .settled ∧ counted < timer.due now) ∧
      (.eventStarted ∈ (served.poll now).transitions →
        (served.poll now).transitions = [.eventStarted]) := by
  obtain ⟨number, hnumber, hnext, hrange⟩ := h.nextEvent
  have hdue_iff : served.nextEvent ≤ now ↔ number < timer.due now := by
    rw [hnext, gridPoint_le_iff hinterval]
  by_cases hdue : number < timer.due now
  · have hinterval' : 0 < served.interval := h.interval.symm ▸ hinterval
    have hahead : served.gridPoint (served.due now) = timer.gridPoint (timer.due now) := by
      rw [gridPoint_of_nextEvent_eq h.interval hnext, due_of_nextEvent_eq h.interval hnext,
        Nat.add_sub_cancel' hdue.le]
    have hlast : served.gridPoint (served.due now - 1) =
        timer.gridPoint (timer.due now - 1) := by
      rw [gridPoint_of_nextEvent_eq h.interval hnext, due_of_nextEvent_eq h.interval hnext]
      congr 1
      omega
    rw [poll_of_due h.armed hinterval' (hdue_iff.mpr hdue), hahead, hlast]
    split_ifs with hnear
    · have hmore : counted < timer.due now := by
        -- If all points had been counted, the next event would be the one behind them.
        by_contra hsame
        obtain rfl : counted = timer.due now := hcounted.antisymm (Nat.le_of_not_lt hsame)
        exact hdue.ne (hrange.mpr hnear)
      exact ⟨⟨h.armed, h.interval, _, le_rfl, rfl, iff_of_true rfl hnear⟩, rfl,
        iff_of_true (List.mem_singleton_self _) ⟨rfl, hmore⟩, fun _ => rfl⟩
    · refine ⟨⟨h.armed, h.interval, _, Nat.sub_le _ _, rfl, iff_of_false ?_ hnear⟩, rfl, ?_, ?_⟩
      · omega
      · simp
      · simp
  · obtain rfl : number = counted := hnumber.antisymm (hcounted.trans (Nat.le_of_not_lt hdue))
    have hall : timer.due now = number := (Nat.le_of_not_lt hdue).antisymm hcounted
    rw [hall, if_pos (hrange.mp rfl)]
    have hkept : ∀ other : HourlyTimer, other.armed = served.armed →
        other.interval = served.interval → other.nextEvent = served.nextEvent →
        timer.Tracks number other := fun other harmed hsame hwhen =>
      ⟨harmed.trans h.armed, hsame.trans h.interval, number, le_rfl, hwhen.trans hnext, hrange⟩
    obtain ⟨-, hreached, -⟩ | ⟨-, hreached, -⟩ | ⟨-, -, -, hpoll⟩ | ⟨-, hpoll⟩ :=
      served.poll_inversion now
    · exact absurd (hdue_iff.mp hreached) hdue
    · exact absurd (hdue_iff.mp hreached) hdue
    · rw [hpoll]
      exact ⟨hkept _ rfl rfl rfl, rfl, by simp, by simp⟩
    · rw [hpoll]
      exact ⟨hkept _ rfl rfl rfl, rfl, by simp, by simp⟩

theorem Tracks.apply (h : timer.Tracks counted served) : timer.Tracks counted served.apply.1 := by
  unfold HourlyTimer.apply
  split_ifs
  · exact ⟨h.armed, h.interval, h.nextEvent⟩
  · exact h

theorem Tracks.clear (h : timer.Tracks counted served) : timer.Tracks counted served.clear.1 := by
  unfold HourlyTimer.clear
  split_ifs
  · exact ⟨h.armed, h.interval, h.nextEvent⟩
  · exact h

end Tracks

/-! ## Runs -/

/-- No call moves the schedule or takes it away. -/
def Undisturbed (calls : List (Instant × Call)) : Prop :=
  ∀ call ∈ calls, call.2 = .poll ∨ call.2 = .apply ∨ call.2 = .clear

def pollInstants (calls : List (Instant × Call)) : List Instant :=
  (calls.filter fun call => call.2 = .poll).map Prod.fst

/-- How many grid points the last poll has counted. -/
def counted (timer : HourlyTimer) (calls : List (Instant × Call)) : Nat :=
  (pollInstants calls).getLast?.elim 0 timer.due

section Runs

variable {timer : HourlyTimer} {calls : List (Instant × Call)}

theorem pollInstants_concat_poll (calls : List (Instant × Call)) (now : Instant) :
    pollInstants (calls ++ [(now, .poll)]) = pollInstants calls ++ [now] := by
  simp [pollInstants]

theorem pollInstants_concat_of_ne (calls : List (Instant × Call)) (now : Instant) {call : Call}
    (hcall : call ≠ .poll) : pollInstants (calls ++ [(now, call)]) = pollInstants calls := by
  simp [pollInstants, hcall]

theorem counted_concat_poll (timer : HourlyTimer) (calls : List (Instant × Call))
    (now : Instant) : timer.counted (calls ++ [(now, .poll)]) = timer.due now := by
  simp [counted, pollInstants_concat_poll]

theorem counted_concat_of_ne (timer : HourlyTimer) (calls : List (Instant × Call)) (now : Instant)
    {call : Call} (hcall : call ≠ .poll) :
    timer.counted (calls ++ [(now, call)]) = timer.counted calls := by
  simp [counted, pollInstants_concat_of_ne calls now hcall]

theorem counted_le_due {now : Instant}
    (hascending : (pollInstants calls ++ [now]).Pairwise (· ≤ ·)) :
    timer.counted calls ≤ timer.due now := by
  unfold counted
  cases hlast : (pollInstants calls).getLast? with
  | none => exact Nat.zero_le _
  | some previous =>
    refine due_mono ((List.pairwise_append.mp hascending).2.2 previous ?_ now (by simp))
    exact List.mem_of_getLast? hlast

theorem due_le_counted {now : Instant} (hmem : now ∈ pollInstants calls)
    (hascending : (pollInstants calls).Pairwise (· ≤ ·)) :
    timer.due now ≤ timer.counted calls := by
  unfold counted
  rw [List.getLast?_eq_some_getLast (List.ne_nil_of_mem hmem)]
  exact due_mono (hascending.rel_getLast hmem)

/-- A grid point lies behind the last poll if and only if it has not been counted. -/
theorem counted_lt_due_iff (hinterval : 0 < timer.interval) {now : Instant} :
    timer.counted calls < timer.due now ↔
      ∃ point ∈ timer.grid, (∀ previous ∈ (pollInstants calls).getLast?, previous < point) ∧
        point ≤ now := by
  unfold counted
  cases (pollInstants calls).getLast? with
  | none => simpa using due_pos_iff hinterval
  | some previous => simpa using due_lt_due_iff hinterval

/-- The timer stays on its grid, whatever is applied and cleared between the polls. -/
theorem tracks_serveAll (harmed : timer.armed = true) (hinterval : 0 < timer.interval)
    (hnext : timer.nextEvent < Time.instantLimit) (hundisturbed : Undisturbed calls)
    (hascending : (pollInstants calls).Pairwise (· ≤ ·)) :
    timer.Tracks (timer.counted calls) (timer.serveAll calls) := by
  induction calls using List.reverseRecOn with
  | nil => exact tracks_refl harmed hnext
  | append_singleton earlier last ih =>
    obtain ⟨now, call⟩ := last
    obtain ⟨hearlier, hlast⟩ := List.forall_mem_append.mp hundisturbed
    have hcall : call = .poll ∨ call = .apply ∨ call = .clear :=
      hlast _ (List.mem_singleton_self _)
    rw [serveAll_concat]
    rcases hcall with rfl | rfl | rfl
    · rw [pollInstants_concat_poll] at hascending
      rw [counted_concat_poll]
      have hbefore := ih hearlier (List.pairwise_append.mp hascending).1
      exact (hbefore.poll hinterval (counted_le_due hascending)).1
    · rw [pollInstants_concat_of_ne _ _ (by simp)] at hascending
      rw [counted_concat_of_ne _ _ _ (by simp)]
      exact (ih hearlier hascending).apply
    · rw [pollInstants_concat_of_ne _ _ (by simp)] at hascending
      rw [counted_concat_of_ne _ _ _ (by simp)]
      exact (ih hearlier hascending).clear

theorem pairwise_pollInstants_concat {earlier later : List (Instant × Call)} {now : Instant}
    (hascending : (pollInstants (earlier ++ (now, .poll) :: later)).Pairwise (· ≤ ·)) :
    (pollInstants earlier ++ [now]).Pairwise (· ≤ ·) := by
  have hsplit : pollInstants (earlier ++ (now, .poll) :: later) =
      pollInstants earlier ++ [now] ++ pollInstants later := by
    simp [pollInstants]
  rw [hsplit] at hascending
  exact (List.pairwise_append.mp hascending).1

end Runs

/-! ## Polls keep to the grid -/

/-- Polls of an armed timer at instants that do not go back, with whatever is applied and
cleared in between: after each of them the next event is the first grid point that lies ahead,
unless that is out of range.  An event starts, once and with nothing else, if a grid point has
been reached since the poll before, and so never twice for one of them. -/
theorem polls_keep_grid {timer : HourlyTimer} (harmed : timer.armed = true)
    (hinterval : 0 < timer.interval) (hnext : timer.nextEvent < Time.instantLimit)
    {calls : List (Instant × Call)} (hundisturbed : Undisturbed calls)
    (hascending : (pollInstants calls).Pairwise (· ≤ ·)) :
    (∀ earlier now later, calls = earlier ++ (now, .poll) :: later →
      let poll := (timer.serveAll earlier).poll now
      ∃ next, IsLeast {point ∈ timer.grid | now < point} next ∧
        poll.ending =
          (if next < Time.instantLimit then .settled else .faulted .instantTooLate) ∧
        (poll.ending = .settled → poll.timer.nextEvent = next) ∧
        (.eventStarted ∈ poll.transitions ↔ poll.ending = .settled ∧
          ∃ point ∈ timer.grid, (∀ previous ∈ (pollInstants earlier).getLast?, previous < point) ∧
            point ≤ now) ∧
        (.eventStarted ∈ poll.transitions → poll.transitions = [.eventStarted])) ∧
    ∀ earlier now between again later,
      calls = earlier ++ (now, .poll) :: between ++ (again, .poll) :: later →
      .eventStarted ∈
        ((timer.serveAll (earlier ++ (now, .poll) :: between)).poll again).transitions →
      ∃ point ∈ timer.grid, now < point ∧ point ≤ again := by
  have hpoll : ∀ earlier now later, calls = earlier ++ (now, .poll) :: later →
      timer.Tracks (timer.counted earlier) (timer.serveAll earlier) ∧
        timer.counted earlier ≤ timer.due now := by
    rintro earlier now later rfl
    have hbefore := pairwise_pollInstants_concat hascending
    exact ⟨tracks_serveAll harmed hinterval hnext (List.forall_mem_append.mp hundisturbed).1
      (List.pairwise_append.mp hbefore).1, counted_le_due hbefore⟩
  constructor
  · intro earlier now later hcalls
    obtain ⟨htracks, hcounted⟩ := hpoll earlier now later hcalls
    obtain ⟨hafter, hending, hstarted, halone⟩ := htracks.poll hinterval hcounted
    refine ⟨_, isLeast_gridPoint_due hinterval now, hending, ?_, ?_, halone⟩
    · intro hsettled
      apply hafter.nextEvent_eq
      by_contra hfar
      rw [hending, if_neg hfar] at hsettled
      contradiction
    · rw [hstarted, counted_lt_due_iff hinterval]
  · intro earlier now between again later hcalls hagain
    obtain ⟨htracks, hcounted⟩ := hpoll _ again later hcalls
    obtain ⟨-, -, hstarted, -⟩ := htracks.poll hinterval hcounted
    have hnow : now ∈ pollInstants (earlier ++ (now, .poll) :: between) := by
      simp [pollInstants]
    have hbefore : (pollInstants (earlier ++ (now, .poll) :: between)).Pairwise (· ≤ ·) := by
      rw [hcalls] at hascending
      exact (List.pairwise_append.mp (pairwise_pollInstants_concat hascending)).1
    have hmore := (due_le_counted hnow hbefore).trans_lt (hstarted.mp hagain).2
    exact (due_lt_due_iff hinterval).mp hmore

/-- Polls before the first event, at it, and far behind it, when two more have been missed. -/
def tardy : List (Instant × Call) :=
  [(20000000000, .poll), (60000000000, .poll), (61000000000, .apply), (61000000000, .clear),
    (200000000000, .poll)]

theorem minutely_polls_keep_grid :
    ∃ timer, start Settings.minutely 0 = .ok timer ∧ timer.armed = true ∧ 0 < timer.interval ∧
      timer.nextEvent < Time.instantLimit ∧ Undisturbed tardy ∧
      (pollInstants tardy).Pairwise (· ≤ ·) ∧
      let last := (timer.serveAll (tardy.take 4)).poll 200000000000
      last.transitions = [.eventStarted] ∧ last.timer.nextEvent = 240000000000 ∧
        IsLeast {point ∈ timer.grid | 200000000000 < point} 240000000000 ∧
        ∃ point ∈ timer.grid, 60000000000 < point ∧ point ≤ 200000000000 := by
  obtain ⟨timer, hstart, harmed, hinterval, hnext, hended, htransitions, hmoved⟩ :
      ∃ timer, start Settings.minutely 0 = .ok timer ∧ timer.armed = true ∧ 0 < timer.interval ∧
        timer.nextEvent < Time.instantLimit ∧
        ((timer.serveAll (tardy.take 4)).poll 200000000000).ending = .settled ∧
        ((timer.serveAll (tardy.take 4)).poll 200000000000).transitions = [.eventStarted] ∧
        ((timer.serveAll (tardy.take 4)).poll 200000000000).timer.nextEvent = 240000000000 := by
    apply Time.exists_ok_of_any
    decide +kernel
  have hundisturbed : Undisturbed tardy := by
    unfold Undisturbed
    decide
  have hascending : (pollInstants tardy).Pairwise (· ≤ ·) := by decide
  obtain ⟨hpolls, hstarts⟩ := polls_keep_grid harmed hinterval hnext hundisturbed hascending
  obtain ⟨next, hleast, -, hlast, -, -⟩ := hpolls (tardy.take 4) 200000000000 [] rfl
  obtain rfl := (hlast hended).symm.trans hmoved
  refine ⟨timer, hstart, harmed, hinterval, hnext, hundisturbed, hascending, htransitions, hmoved,
    hleast, ?_⟩
  refine hstarts (tardy.take 1) 60000000000 ((tardy.take 4).drop 2) 200000000000 [] rfl ?_
  change .eventStarted ∈ ((timer.serveAll (tardy.take 4)).poll 200000000000).transitions
  rw [htransitions]
  exact List.mem_singleton_self _

end HourlyTimer

end TickArena

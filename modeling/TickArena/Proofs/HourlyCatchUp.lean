import TickArena.Clock.HourlyTimer
import TickArena.Proofs.Conversion

/-!
# Catching up with the hour

A late timer moves its next event by one interval after another until it lies ahead.
Here the moves are a relation, and the timer's closed form is what they lead to.  They
never end for an event that is due if the interval has no length.
-/

namespace TickArena

namespace HourlyTimer

/-- The moves of a due event: the timer they lead to, and how they end. -/
inductive Moves (now : Instant) : HourlyTimer → HourlyTimer × Ending → Prop
  | ahead {timer : HourlyTimer} (hahead : now < timer.nextEvent) :
      Moves now timer (timer, .settled)
  | fault {timer : HourlyTimer} {fault : TimeFault} (hdue : timer.nextEvent ≤ now)
      (hnext : Time.after timer.nextEvent timer.interval = .error fault) :
      Moves now timer (timer, .faulted fault)
  | move {timer : HourlyTimer} {next : Instant} {outcome : HourlyTimer × Ending}
      (hdue : timer.nextEvent ≤ now)
      (hnext : Time.after timer.nextEvent timer.interval = .ok next)
      (hrest : Moves now { timer with nextEvent := next } outcome) : Moves now timer outcome

/-! ## The start of a timer -/

theorem start_spec {settings : Settings} {now : Instant} {timer : HourlyTimer}
    (hstart : start settings now = .ok timer) :
    settings.hourlyInterval = .ok timer.interval ∧ timer.nextEvent = now + timer.interval ∧
      timer.multiplier = settings.hourlyMultiplier ∧ timer.armed = true ∧
      timer.active = false ∧ timer.applied = false := by
  obtain ⟨interval, hinterval, hstart⟩ := Time.bind_eq_ok hstart
  obtain ⟨lead, -, hstart⟩ := Time.bind_eq_ok hstart
  obtain ⟨nextEvent, hnext, hstart⟩ := Time.bind_eq_ok hstart
  obtain ⟨-, rfl⟩ := Time.after_eq_ok_iff.mp hnext
  rw [← Except.ok.inj hstart]
  exact ⟨hinterval, rfl, rfl, rfl, rfl, rfl⟩

/-! ## The closed form -/

theorem missed_eq_one {timer : HourlyTimer} {now : Instant} (hdue : timer.nextEvent ≤ now)
    (hahead : now < timer.nextEvent + timer.interval) : timer.missed now = 1 := by
  have hquotient : (now - timer.nextEvent) / timer.interval = 0 :=
    Nat.div_eq_of_lt (Nat.sub_lt_left_of_lt_add hdue hahead)
  unfold missed
  rw [hquotient]

theorem missed_of_due {timer : HourlyTimer} {now : Instant} (hinterval : 0 < timer.interval)
    (hdue : timer.nextEvent + timer.interval ≤ now) :
    timer.missed now =
      { timer with nextEvent := timer.nextEvent + timer.interval }.missed now + 1 := by
  have hshift : now - timer.nextEvent =
      now - (timer.nextEvent + timer.interval) + timer.interval := by lia
  unfold missed
  rw [hshift, Nat.add_div_right _ hinterval]

theorem catchUp_move {timer : HourlyTimer} {now : Instant} (hinterval : 0 < timer.interval)
    (hdue : timer.nextEvent + timer.interval ≤ now) :
    { timer with nextEvent := timer.nextEvent + timer.interval }.catchUp now =
      timer.catchUp now := by
  have hmissed := missed_of_due hinterval hdue
  obtain ⟨more, hmore⟩ : ∃ more,
      { timer with nextEvent := timer.nextEvent + timer.interval }.missed now = more + 1 :=
    ⟨_, rfl⟩
  have hlast : timer.nextEvent + timer.interval + (more + 1 - 1) * timer.interval =
      timer.nextEvent + (more + 1 + 1 - 1) * timer.interval := by
    simp only [Nat.add_sub_cancel, Nat.add_one_mul]
    lia
  unfold catchUp
  simp only [hmissed, hmore, hlast, if_neg hinterval.ne']

theorem catchUp_last {timer : HourlyTimer} {now : Instant} (hdue : timer.nextEvent ≤ now)
    (hahead : now < timer.nextEvent + timer.interval) :
    timer.catchUp now =
      match Time.after timer.nextEvent timer.interval with
      | .ok next => ({ timer with nextEvent := next }, .settled)
      | .error fault => (timer, .faulted fault) := by
  have hinterval : timer.interval ≠ 0 := by
    intro hzero
    rw [hzero] at hahead
    exact absurd hdue hahead.not_ge
  have hlast : timer.nextEvent + (timer.missed now - 1) * timer.interval = timer.nextEvent := by
    rw [missed_eq_one hdue hahead, Nat.sub_self, Nat.zero_mul, Nat.add_zero]
  unfold catchUp
  rw [if_neg hinterval]
  cases hnext : Time.after timer.nextEvent timer.interval with
  | ok next => simp only [hlast, hnext]
  | error fault => simp only [hlast, hnext]

/-! ## What a poll does -/

theorem catchUp_cases {timer : HourlyTimer} {now : Instant} (hdue : timer.nextEvent ≤ now) :
    (∃ next, timer.catchUp now = ({ timer with nextEvent := next }, .settled)) ∨
      ∃ last ending, timer.catchUp now = ({ timer with nextEvent := last }, ending) ∧
        last ≤ now ∧ ending ≠ .settled := by
  have hlast : timer.nextEvent + (timer.missed now - 1) * timer.interval ≤ now := by
    have hwhole := Nat.div_mul_le_self (now - timer.nextEvent) timer.interval
    unfold missed
    rw [Nat.add_sub_cancel]
    lia
  unfold catchUp
  split_ifs
  · exact .inr ⟨timer.nextEvent, .endless, rfl, hdue, by simp⟩
  · dsimp only
    split
    · exact .inl ⟨_, rfl⟩
    · exact .inr ⟨_, _, rfl, hlast, by simp⟩

/-- Everything a poll can do. -/
theorem poll_inversion (timer : HourlyTimer) (now : Instant) :
    (timer.armed = true ∧ timer.nextEvent ≤ now ∧ ∃ next,
        timer.poll now =
          ⟨[.eventStarted], { timer with nextEvent := next }.fire, .settled⟩) ∨
      (timer.armed = true ∧ timer.nextEvent ≤ now ∧ ∃ last ending, last ≤ now ∧
        ending ≠ .settled ∧ timer.poll now = ⟨[], { timer with nextEvent := last }, ending⟩) ∨
      (timer.armed = true ∧ timer.warning = false ∧ timer.nextEvent - now ≤ timer.lead ∧
        timer.poll now = ⟨[.warningRaised (timer.nextEvent - now)],
          { timer with warning := true }, .settled⟩) ∨
      ((timer.armed = true → now < timer.nextEvent ∧
          (timer.nextEvent - now ≤ timer.lead → timer.warning = true)) ∧
        timer.poll now = ⟨[], timer, .settled⟩) := by
  by_cases harmed : timer.armed = true
  · have hnot : ¬ (!timer.armed) = true := by simpa using harmed
    by_cases hdue : timer.nextEvent ≤ now
    · unfold poll
      rw [if_neg hnot, if_pos hdue]
      rcases catchUp_cases hdue with ⟨next, hmoved⟩ | ⟨last, ending, hmoved, hlast, hending⟩
      · rw [hmoved]
        exact .inl ⟨harmed, hdue, next, rfl⟩
      · rw [hmoved]
        refine .inr (.inl ⟨harmed, hdue, last, ending, hlast, hending, ?_⟩)
        cases ending with
        | settled => exact absurd rfl hending
        | faulted fault => rfl
        | endless => rfl
    · unfold poll
      rw [if_neg hnot, if_neg hdue]
      by_cases hwarn : timer.warningDue now = true
      · obtain ⟨hdown, hnear⟩ : timer.warning = false ∧ timer.nextEvent - now ≤ timer.lead := by
          simpa [warningDue] using hwarn
        exact .inr (.inr (.inl ⟨harmed, hdown, hnear, if_pos hwarn⟩))
      · refine .inr (.inr (.inr ⟨fun _ => ⟨Nat.lt_of_not_le hdue, ?_⟩, if_neg hwarn⟩))
        intro hnear
        by_contra hdown
        exact hwarn (by simp [warningDue, hdown, hnear])
  · refine .inr (.inr (.inr ⟨fun habsurd => absurd habsurd harmed, ?_⟩))
    unfold poll
    rw [if_pos (by simpa using harmed)]

/-! ## Moves of a due event -/

theorem moves_catchUp {timer : HourlyTimer} {now : Instant} (hinterval : 0 < timer.interval)
    (hlimit : now < Time.instantLimit) (hdue : timer.nextEvent ≤ now) :
    timer.Moves now (timer.catchUp now) := by
  induction hmissed : timer.missed now generalizing timer with
  | zero => exact absurd hmissed (Nat.succ_ne_zero _)
  | succ more ih =>
    by_cases hahead : now < timer.nextEvent + timer.interval
    · rw [catchUp_last hdue hahead]
      cases hnext : Time.after timer.nextEvent timer.interval with
      | ok next =>
        have hbehind : now < next := by
          obtain ⟨-, rfl⟩ := Time.after_eq_ok_iff.mp hnext
          exact hahead
        exact .move hdue hnext (.ahead hbehind)
      | error fault => exact .fault hdue hnext
    · have hagain : timer.nextEvent + timer.interval ≤ now := Nat.le_of_not_lt hahead
      have hnext : Time.after timer.nextEvent timer.interval =
          .ok (timer.nextEvent + timer.interval) :=
        Time.after_eq_ok_iff.mpr ⟨hagain.trans_lt hlimit, rfl⟩
      rw [← catchUp_move hinterval hagain]
      have hless := missed_of_due hinterval hagain
      rw [hmissed] at hless
      exact .move hdue hnext (ih hinterval hagain (Nat.succ.inj hless).symm)

theorem Moves.eq {timer : HourlyTimer} {now : Instant} {first second : HourlyTimer × Ending}
    (hfirst : timer.Moves now first) (hsecond : timer.Moves now second) : first = second := by
  induction hfirst with
  | ahead hahead =>
    cases hsecond with
    | ahead _ => rfl
    | fault hdue _ => exact absurd hdue hahead.not_ge
    | move hdue _ _ => exact absurd hdue hahead.not_ge
  | fault hdue hnext =>
    cases hsecond with
    | ahead hahead => exact absurd hdue hahead.not_ge
    | fault _ hnext' =>
      rw [Except.error.inj (hnext.symm.trans hnext')]
    | move _ hnext' _ => exact absurd (hnext.symm.trans hnext') (by simp)
  | move hdue hnext hrest ih =>
    cases hsecond with
    | ahead hahead => exact absurd hdue hahead.not_ge
    | fault _ hnext' => exact absurd (hnext.symm.trans hnext') (by simp)
    | move _ hnext' hrest' =>
      rw [← Except.ok.inj (hnext.symm.trans hnext')] at hrest'
      exact ih hrest'

theorem not_moves {timer : HourlyTimer} {now : Instant} {outcome : HourlyTimer × Ending}
    (hinterval : timer.interval = 0) (hlimit : now < Time.instantLimit)
    (hdue : timer.nextEvent ≤ now) : ¬ timer.Moves now outcome := by
  intro h
  induction h with
  | ahead hahead => exact absurd hdue hahead.not_ge
  | fault _ hnext =>
    have hbeyond := Time.instantLimit_le_of_after_eq_error hnext
    rw [hinterval, Nat.add_zero] at hbeyond
    exact absurd (hdue.trans_lt hlimit) hbeyond.not_gt
  | move _ hnext _ ih =>
    obtain ⟨-, rfl⟩ := Time.after_eq_ok_iff.mp hnext
    exact ih hinterval (by rw [hinterval]; exact hdue)

/-! ## When a poll ends -/

/-- A poll of an armed timer ends if the moves of its event do. -/
def PollEnds (timer : HourlyTimer) (now : Instant) : Prop :=
  timer.armed = true → ∃ outcome, timer.Moves now outcome

theorem pollEnds_iff {timer : HourlyTimer} {now : Instant} (hlimit : now < Time.instantLimit) :
    timer.PollEnds now ↔
      0 < timer.interval ∨ timer.armed = false ∨ now < timer.nextEvent := by
  constructor
  · intro hends
    by_contra hnone
    push Not at hnone
    obtain ⟨hinterval, harmed, hdue⟩ := hnone
    obtain ⟨outcome, houtcome⟩ := hends (by simpa using harmed)
    exact not_moves (Nat.eq_zero_of_not_pos hinterval.not_gt) hlimit hdue houtcome
  · rintro (hinterval | hdisarmed | hahead) harmed
    · rcases Nat.lt_or_ge now timer.nextEvent with hahead | hdue
      · exact ⟨_, .ahead hahead⟩
      · exact ⟨_, moves_catchUp hinterval hlimit hdue⟩
    · rw [hdisarmed] at harmed
      contradiction
    · exact ⟨_, .ahead hahead⟩

theorem Moves.ending_ne_endless {timer : HourlyTimer} {now : Instant}
    {outcome : HourlyTimer × Ending} (h : timer.Moves now outcome) : outcome.2 ≠ .endless := by
  induction h with
  | ahead hahead => simp
  | fault hdue hnext => simp
  | move hdue hnext hrest ih => exact ih

theorem moves_iff {timer : HourlyTimer} {now : Instant} {outcome : HourlyTimer × Ending}
    (hlimit : now < Time.instantLimit) (hdue : timer.nextEvent ≤ now) :
    timer.Moves now outcome ↔ timer.catchUp now = outcome ∧ outcome.2 ≠ .endless := by
  rcases Nat.eq_zero_or_pos timer.interval with hinterval | hinterval
  · have hendless : timer.catchUp now = (timer, .endless) := if_pos hinterval
    constructor
    · intro h
      exact absurd h (not_moves hinterval hlimit hdue)
    · rintro ⟨rfl, hends⟩
      rw [hendless] at hends
      exact absurd rfl hends
  · have hmoves := moves_catchUp hinterval hlimit hdue
    constructor
    · intro h
      exact ⟨hmoves.eq h, h.ending_ne_endless⟩
    · rintro ⟨rfl, -⟩
      exact hmoves

theorem poll_ending_of_due {timer : HourlyTimer} {now : Instant} (harmed : timer.armed = true)
    (hdue : timer.nextEvent ≤ now) : (timer.poll now).ending = (timer.catchUp now).2 := by
  unfold poll
  rw [harmed, if_pos hdue]
  rcases timer.catchUp now with ⟨moved, ending⟩
  cases ending <;> rfl

theorem poll_ending_of_not_due {timer : HourlyTimer} {now : Instant}
    (h : timer.armed = false ∨ now < timer.nextEvent) : (timer.poll now).ending = .settled := by
  unfold poll
  rcases h with hdisarmed | hahead
  · rw [hdisarmed]
    rfl
  · rw [if_neg hahead.not_ge]
    split_ifs <;> rfl

/-- The poll says that it has no end exactly when the moves of its event have none. -/
theorem poll_ending_eq_endless_iff {timer : HourlyTimer} {now : Instant}
    (hlimit : now < Time.instantLimit) :
    (timer.poll now).ending = .endless ↔ ¬ timer.PollEnds now := by
  by_cases hcalm : timer.armed = false ∨ now < timer.nextEvent
  · have hends : timer.PollEnds now := (pollEnds_iff hlimit).mpr (.inr hcalm)
    simp [poll_ending_of_not_due hcalm, hends]
  · push Not at hcalm
    obtain ⟨harmed, hdue⟩ := hcalm
    rw [ne_eq, Bool.not_eq_false] at harmed
    rw [poll_ending_of_due harmed hdue]
    constructor
    · intro hendless hends
      obtain ⟨outcome, houtcome⟩ := hends harmed
      obtain ⟨rfl, hne⟩ := (moves_iff hlimit hdue).mp houtcome
      exact hne hendless
    · intro hnone
      by_contra hne
      exact hnone fun _ => ⟨_, (moves_iff hlimit hdue).mpr ⟨rfl, hne⟩⟩

end HourlyTimer

end TickArena

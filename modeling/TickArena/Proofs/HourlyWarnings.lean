import TickArena.Proofs.HourlyCatchUp
import TickArena.Proofs.Lists

/-!
# Hourly warnings

A warning is for an event at most the lead away, and each event is to be announced once.
Four kinds of call move the event or disarm the timer, and all of them take the warning down
but one: arming leaves it as it is.  So an event that is scheduled by arming a timer whose
warning is up finds the warning of the event before it, and is never announced.
-/

namespace TickArena

namespace HourlyTimer

/-! ## Calls -/

inductive Call where
  | poll
  | arm
  | disarm
  | trigger
  | apply
  | clear
  deriving DecidableEq

/-- The timer that a call leaves.  A call that faults leaves it as far as it has come. -/
def serve (timer : HourlyTimer) (now : Instant) : Call → HourlyTimer
  | .poll => (timer.poll now).timer
  | .arm => (timer.arm now).1
  | .disarm => timer.disarm
  | .trigger => (timer.trigger now).1
  | .apply => timer.apply.1
  | .clear => timer.clear.1

def announced (timer : HourlyTimer) (now : Instant) : Call → List HourlyTransition
  | .poll => (timer.poll now).transitions
  | .arm | .disarm | .trigger | .apply | .clear => []

def serveAll (timer : HourlyTimer) (calls : List (Instant × Call)) : HourlyTimer :=
  calls.foldl (fun timer call => timer.serve call.1 call.2) timer

/-- The transitions that a row of calls returns. -/
def announcedAll (timer : HourlyTimer) : List (Instant × Call) → List HourlyTransition
  | [] => []
  | call :: later =>
    timer.announced call.1 call.2 ++ (timer.serve call.1 call.2).announcedAll later

/-- The warning is up only for an event that is at most the lead away. -/
def Truthful (timer : HourlyTimer) (now : Instant) : Prop :=
  timer.warning = true →
    ∃ remaining, timer.untilNext? now = some remaining ∧ remaining ≤ timer.lead

/-- The call moves the event that the warning is up for, and leaves the warning up. -/
def Postpones (timer : HourlyTimer) (now : Instant) (call : Call) : Prop :=
  call = .arm ∧ timer.warning = true ∧ (timer.arm now).2 = .settled

/-- The call sets an instant for the next event. -/
def Schedules (timer : HourlyTimer) (now : Instant) : Call → Prop
  | .poll => .eventStarted ∈ (timer.poll now).transitions
  | .arm => (timer.arm now).2 = .settled
  | .trigger => timer.armed = true ∧ (timer.trigger now).2 = .settled
  | .disarm | .apply | .clear => False

/-- The first event is scheduled at the start, and every later one by a call. -/
inductive Scheduled (timer : HourlyTimer) : List (Instant × Call) → Prop
  | first : Scheduled timer []
  | next {calls : List (Instant × Call)} {now : Instant} {call : Call}
      (hcall : (timer.serveAll calls).Schedules now call) : Scheduled timer (calls ++ [(now, call)])

def Postponed (timer : HourlyTimer) (calls : List (Instant × Call)) : Prop :=
  ∃ earlier now call, calls = earlier ++ [(now, call)] ∧
    (timer.serveAll earlier).Postpones now call

/-- Calls that neither start nor move the event, nor call it off. -/
def Awaits (timer : HourlyTimer) (waiting : List (Instant × Call)) : Prop :=
  ∀ call ∈ waiting,
    (call.2 = .poll ∧ call.1 < timer.nextEvent) ∨ call.2 = .apply ∨ call.2 = .clear

/-- One of the polls falls into the lead before the event. -/
def Noticed (timer : HourlyTimer) (waiting : List (Instant × Call)) : Prop :=
  ∃ now, (now, .poll) ∈ waiting ∧ timer.nextEvent - now ≤ timer.lead

/-! ## What the calls do -/

theorem restart_cases (timer : HourlyTimer) (now : Instant) :
    timer.restart now = ({ timer with nextEvent := now + timer.interval }, .settled) ∨
      ∃ fault, timer.restart now = (timer, .faulted fault) := by
  unfold restart
  cases hnext : Time.after now timer.interval with
  | ok next =>
    obtain ⟨-, rfl⟩ := Time.after_eq_ok_iff.mp hnext
    exact .inl rfl
  | error fault => exact .inr ⟨fault, rfl⟩

theorem lengths_serve (timer : HourlyTimer) (now : Instant) (call : Call) :
    (timer.serve now call).interval = timer.interval ∧
      (timer.serve now call).lead = timer.lead := by
  cases call with
  | poll =>
    unfold serve
    obtain ⟨-, -, next, hpoll⟩ | ⟨-, -, last, ending, -, -, hpoll⟩ | ⟨-, -, -, hpoll⟩ |
        ⟨-, hpoll⟩ :=
      timer.poll_inversion now
    all_goals
      rw [hpoll]
      exact ⟨rfl, rfl⟩
  | arm =>
    unfold serve arm
    obtain hmoved | ⟨fault, hstuck⟩ := { timer with armed := true }.restart_cases now
    · rw [hmoved]
      exact ⟨rfl, rfl⟩
    · rw [hstuck]
      exact ⟨rfl, rfl⟩
  | disarm => exact ⟨rfl, rfl⟩
  | trigger =>
    unfold serve trigger
    obtain hmoved | ⟨fault, hstuck⟩ := timer.fire.restart_cases now
    · rw [hmoved]
      exact ⟨rfl, rfl⟩
    · rw [hstuck]
      exact ⟨rfl, rfl⟩
  | apply =>
    unfold serve apply
    split_ifs <;> exact ⟨rfl, rfl⟩
  | clear =>
    unfold serve clear
    split_ifs <;> exact ⟨rfl, rfl⟩

theorem serveAll_concat (timer : HourlyTimer) (calls : List (Instant × Call)) (now : Instant)
    (call : Call) :
    timer.serveAll (calls ++ [(now, call)]) = (timer.serveAll calls).serve now call :=
  List.foldl_concat _ _ _ _

theorem lengths_serveAll (timer : HourlyTimer) (calls : List (Instant × Call)) :
    (timer.serveAll calls).interval = timer.interval ∧
      (timer.serveAll calls).lead = timer.lead := by
  induction calls using List.reverseRecOn with
  | nil => exact ⟨rfl, rfl⟩
  | append_singleton earlier last ih =>
    obtain ⟨hinterval, hlead⟩ := (timer.serveAll earlier).lengths_serve last.1 last.2
    rw [serveAll_concat, hinterval, hlead]
    exact ih

theorem warning_start {settings : Settings} {opened : Instant} {timer : HourlyTimer}
    (hstart : start settings opened = .ok timer) : timer.warning = false := by
  obtain ⟨interval, -, hstart⟩ := Time.bind_eq_ok hstart
  obtain ⟨lead, -, hstart⟩ := Time.bind_eq_ok hstart
  obtain ⟨nextEvent, -, hstart⟩ := Time.bind_eq_ok hstart
  rw [← Except.ok.inj hstart]

/-! ## Truthful warnings -/

theorem truthful_iff {timer : HourlyTimer} {now : Instant} :
    timer.Truthful now ↔
      (timer.warning = true → timer.armed = true ∧ timer.nextEvent - now ≤ timer.lead) := by
  unfold Truthful untilNext?
  split_ifs with harmed <;> simp [harmed]

theorem truthful_of_down {timer : HourlyTimer} {now : Instant} (hdown : timer.warning = false) :
    timer.Truthful now := by
  intro hup
  rw [hdown] at hup
  contradiction

section Truthful

variable {timer : HourlyTimer} {before now : Instant}

theorem Truthful.mono (h : timer.Truthful before) (hbefore : before ≤ now) :
    timer.Truthful now := by
  rw [truthful_iff] at h ⊢
  intro hup
  obtain ⟨harmed, hnear⟩ := h hup
  exact ⟨harmed, (Nat.sub_le_sub_left hbefore _).trans hnear⟩

theorem Truthful.congr (h : timer.Truthful now) {other : HourlyTimer}
    (hwarning : other.warning = timer.warning) (harmed : other.armed = timer.armed)
    (hnext : other.nextEvent = timer.nextEvent) (hlead : other.lead = timer.lead) :
    other.Truthful now := by
  rw [truthful_iff] at h ⊢
  rwa [hwarning, harmed, hnext, hlead]

theorem Truthful.poll (h : timer.Truthful now) : (timer.poll now).timer.Truthful now := by
  obtain ⟨-, -, next, hpoll⟩ | ⟨harmed, -, last, ending, hlast, -, hpoll⟩ |
    ⟨harmed, -, hnear, hpoll⟩ | ⟨-, hpoll⟩ := timer.poll_inversion now
  · rw [hpoll]
    exact truthful_of_down rfl
  · -- The event could not be moved past this instant, so nothing is left until it.
    rw [hpoll, truthful_iff]
    intro _
    have hpast : last - now = 0 := Nat.sub_eq_zero_of_le hlast
    exact ⟨harmed, hpast.trans_le (Nat.zero_le _)⟩
  · rw [hpoll, truthful_iff]
    exact fun _ => ⟨harmed, hnear⟩
  · rwa [hpoll]

theorem Truthful.arm_iff (h : timer.Truthful now) :
    (timer.arm now).1.Truthful now ↔
      (timer.Postpones now .arm → timer.interval ≤ timer.lead) := by
  unfold Postpones arm
  obtain hmoved | ⟨fault, hstuck⟩ := { timer with armed := true }.restart_cases now
  · rw [hmoved, truthful_iff]
    simp
  · rw [hstuck, truthful_iff]
    have hkept := truthful_iff.mp h
    simpa using fun hup => (hkept hup).2

/-- Only an arming under a warning makes a warning untrue, and only if the lead is shorter
than the interval. -/
theorem Truthful.serve_iff (h : timer.Truthful before) (hbefore : before ≤ now) (call : Call) :
    (timer.serve now call).Truthful now ↔
      (timer.Postpones now call → timer.interval ≤ timer.lead) := by
  have hnow : timer.Truthful now := h.mono hbefore
  by_cases harm : call = .arm
  · rw [harm]
    exact hnow.arm_iff
  · refine iff_of_true ?_ fun hpostpones => absurd hpostpones.1 harm
    cases call with
    | poll => exact hnow.poll
    | arm => exact absurd rfl harm
    | disarm => exact truthful_of_down rfl
    | trigger =>
      unfold serve trigger
      obtain hmoved | ⟨fault, hstuck⟩ := timer.fire.restart_cases now
      · rw [hmoved]
        exact truthful_of_down rfl
      · rw [hstuck]
        exact truthful_of_down rfl
    | apply =>
      unfold serve apply
      split_ifs
      · exact hnow.congr rfl rfl rfl rfl
      · exact hnow
    | clear =>
      unfold serve clear
      split_ifs
      · exact hnow.congr rfl rfl rfl rfl
      · exact hnow

end Truthful

/-! ## Histories -/

/-- The instant does not lie before the start or before one of the calls. -/
def Behind (opened : Instant) (calls : List (Instant × Call)) (now : Instant) : Prop :=
  opened ≤ now ∧ ∀ call ∈ calls, call.1 ≤ now

def Ascending (opened : Instant) (calls : List (Instant × Call)) : Prop :=
  (opened :: calls.map Prod.fst).Pairwise (· ≤ ·)

theorem Ascending.behind {opened now : Instant} {earlier later : List (Instant × Call)}
    {call : Call} (h : Ascending opened (earlier ++ (now, call) :: later)) :
    Behind opened earlier now := by
  unfold Ascending at h
  rw [List.map_append, List.map_cons, List.pairwise_cons, List.pairwise_append] at h
  obtain ⟨hopened, -, -, hacross⟩ := h
  constructor
  · exact hopened now (List.mem_append_right _ List.mem_cons_self)
  · intro past hpast
    exact hacross past.1 (List.mem_map_of_mem hpast) now List.mem_cons_self

section Histories

variable {settings : Settings} {opened : Instant} {timer : HourlyTimer}
  {calls : List (Instant × Call)}

theorem truthful_serveAll (hstart : start settings opened = .ok timer)
    (hascending : Ascending opened calls)
    (hlong : ∀ earlier now call later, calls = earlier ++ (now, call) :: later →
      (timer.serveAll earlier).Postpones now call → timer.interval ≤ timer.lead)
    {earlier later : List (Instant × Call)} (hcalls : calls = earlier ++ later) {now : Instant}
    (hbehind : Behind opened earlier now) : (timer.serveAll earlier).Truthful now := by
  induction earlier using List.reverseRecOn generalizing later now with
  | nil => exact truthful_of_down (warning_start hstart)
  | append_singleton earlier last ih =>
    obtain ⟨instant, call⟩ := last
    rw [List.append_assoc, List.singleton_append] at hcalls
    have hlast : Behind opened earlier instant := (hcalls ▸ hascending).behind
    have hstep := (ih hcalls hlast).serve_iff le_rfl call
    obtain ⟨hinterval, hlead⟩ := timer.lengths_serveAll earlier
    rw [hinterval, hlead] at hstep
    rw [serveAll_concat]
    have hreached : instant ≤ now :=
      hbehind.2 _ (List.mem_append_right _ (List.mem_singleton_self _))
    exact (hstep.mpr (hlong earlier instant call later hcalls)).mono hreached

theorem truthful_at_all_iff (hstart : start settings opened = .ok timer)
    (hascending : Ascending opened calls) :
    (∀ earlier later, calls = earlier ++ later → ∀ now, Behind opened earlier now →
        (timer.serveAll earlier).Truthful now) ↔
      ∀ earlier now call later, calls = earlier ++ (now, call) :: later →
        (timer.serveAll earlier).Postpones now call → timer.interval ≤ timer.lead := by
  constructor
  · intro htruthful earlier now call later hcalls
    have hbehind : Behind opened earlier now := (hcalls ▸ hascending).behind
    have hbefore := htruthful earlier _ hcalls now hbehind
    have hafter : ((timer.serveAll earlier).serve now call).Truthful now := by
      rw [← serveAll_concat]
      refine htruthful _ later (by rw [hcalls, List.append_assoc]; rfl) now ⟨hbehind.1, ?_⟩
      intro past hpast
      rcases List.mem_append.mp hpast with hold | hlast
      · exact hbehind.2 past hold
      · rw [List.mem_singleton.mp hlast]
    obtain ⟨hinterval, hlead⟩ := timer.lengths_serveAll earlier
    rw [← hinterval, ← hlead]
    exact (hbefore.serve_iff le_rfl call).mp hafter
  · intro hlong earlier later hcalls now hbehind
    exact truthful_serveAll hstart hascending hlong hcalls hbehind

end Histories

/-! ## Announcements -/

section Announcements

variable {timer : HourlyTimer} {now : Instant} {call : Call}
  {waiting : List (Instant × Call)}

/-- A call on the way to an event leaves the event where it is.  It announces the event if
it is the first to notice it. -/
theorem serve_of_awaits
    (hcall : (call = .poll ∧ now < timer.nextEvent) ∨ call = .apply ∨ call = .clear) :
    (timer.serve now call).armed = timer.armed ∧
      (timer.serve now call).nextEvent = timer.nextEvent ∧
      (timer.serve now call).lead = timer.lead ∧
      ((timer.nextEvent - now ≤ timer.lead ∧ timer.warning = false ∧
          (timer.serve now call).warning = true ∧
          timer.announced now call = [.warningRaised (timer.nextEvent - now)]) ∨
        ((call = .poll → timer.armed = true → timer.nextEvent - now ≤ timer.lead →
            timer.warning = true) ∧
          (timer.serve now call).warning = timer.warning ∧ timer.announced now call = [])) := by
  rcases hcall with ⟨rfl, hahead⟩ | rfl | rfl
  · unfold serve announced
    obtain ⟨-, hdue, -⟩ | ⟨-, hdue, -⟩ | ⟨-, hdown, hnear, hpoll⟩ | ⟨hquiet, hpoll⟩ :=
      timer.poll_inversion now
    · exact absurd hdue hahead.not_ge
    · exact absurd hdue hahead.not_ge
    · rw [hpoll]
      exact ⟨rfl, rfl, rfl, .inl ⟨hnear, hdown, rfl, rfl⟩⟩
    · rw [hpoll]
      exact ⟨rfl, rfl, rfl, .inr ⟨fun _ harmed => (hquiet harmed).2, rfl, rfl⟩⟩
  · unfold serve apply
    split_ifs <;> exact ⟨rfl, rfl, rfl, .inr ⟨by simp, rfl, rfl⟩⟩
  · unfold serve clear
    split_ifs <;> exact ⟨rfl, rfl, rfl, .inr ⟨by simp, rfl, rfl⟩⟩

theorem Awaits.later {first : Instant × Call} (h : timer.Awaits (first :: waiting)) :
    (timer.serve first.1 first.2).Awaits waiting := by
  obtain ⟨hfirst, hlater⟩ := List.forall_mem_cons.mp h
  obtain ⟨-, hnext, -⟩ := serve_of_awaits hfirst
  unfold Awaits
  rwa [hnext]

/-- Under a warning nothing more is announced. -/
theorem announcedAll_of_warning (hup : timer.warning = true) (hawaits : timer.Awaits waiting) :
    timer.announcedAll waiting = [] := by
  induction waiting generalizing timer with
  | nil => rfl
  | cons first later ih =>
    obtain ⟨-, -, -, ⟨-, hdown, -⟩ | ⟨-, hwarning, hsilent⟩⟩ :=
      serve_of_awaits (hawaits first List.mem_cons_self)
    · rw [hup] at hdown
      contradiction
    · rw [announcedAll, hsilent, List.nil_append]
      exact ih (hwarning.trans hup) hawaits.later

/-- The first poll within the lead announces the event, and then nothing more is announced. -/
theorem announcedAll_of_noticed (harmed : timer.armed = true) (hdown : timer.warning = false)
    (hawaits : timer.Awaits waiting) (hnoticed : timer.Noticed waiting) :
    ∃ startsIn ≤ timer.lead, timer.announcedAll waiting = [.warningRaised startsIn] := by
  induction waiting generalizing timer with
  | nil =>
    obtain ⟨now, hmem, -⟩ := hnoticed
    contradiction
  | cons first later ih =>
    obtain ⟨hkept, hnext, hlead, ⟨hnear, -, hup, hraised⟩ | ⟨hblind, hwarning, hsilent⟩⟩ :=
      serve_of_awaits (hawaits first List.mem_cons_self)
    · refine ⟨_, hnear, ?_⟩
      rw [announcedAll, hraised, announcedAll_of_warning hup hawaits.later, List.append_nil]
    · have hrest : (timer.serve first.1 first.2).Noticed later := by
        obtain ⟨now, hmem, hnear⟩ := hnoticed
        unfold Noticed
        rw [hnext, hlead]
        rcases List.mem_cons.mp hmem with rfl | hlater
        · rw [hblind rfl harmed hnear] at hdown
          contradiction
        · exact ⟨now, hlater, hnear⟩
      rw [announcedAll, hsilent, List.nil_append, ← hlead]
      exact ih (hkept.trans harmed) (hwarning.trans hdown) hawaits.later hrest

/-- An event is scheduled under a warning if and only if a call has postponed it. -/
theorem Schedules.standing (h : timer.Schedules now call) :
    (timer.serve now call).armed = true ∧
      ((timer.serve now call).warning = true ↔ timer.Postpones now call) := by
  cases call with
  | poll =>
    unfold Schedules at h
    unfold serve
    obtain ⟨harmed, -, next, hpoll⟩ | ⟨-, -, last, ending, -, -, hpoll⟩ | ⟨-, -, -, hpoll⟩ |
      ⟨-, hpoll⟩ := timer.poll_inversion now
    · rw [hpoll]
      exact ⟨harmed, iff_of_false Bool.false_ne_true fun hpostpones => by simpa using hpostpones.1⟩
    all_goals simp [hpoll] at h
  | arm =>
    unfold Schedules arm at h
    unfold serve Postpones arm
    obtain hmoved | ⟨fault, hstuck⟩ := { timer with armed := true }.restart_cases now
    · rw [hmoved]
      simp
    · rw [hstuck] at h
      contradiction
  | trigger =>
    unfold Schedules trigger at h
    unfold serve trigger
    obtain hmoved | ⟨fault, hstuck⟩ := timer.fire.restart_cases now
    · rw [hmoved]
      exact ⟨h.1, iff_of_false Bool.false_ne_true fun hpostpones => by simpa using hpostpones.1⟩
    · rw [hstuck] at h
      exact absurd h.2 (by simp)
  | disarm => exact h.elim
  | apply => exact h.elim
  | clear => exact h.elim

theorem postponed_concat {calls : List (Instant × Call)} :
    timer.Postponed (calls ++ [(now, call)]) ↔ (timer.serveAll calls).Postpones now call := by
  constructor
  · rintro ⟨earlier, instant, last, hcalls, hpostpones⟩
    obtain ⟨rfl, hlast⟩ := List.append_inj' hcalls rfl
    obtain ⟨rfl, rfl⟩ := Prod.mk.inj (List.singleton_inj.mp hlast)
    exact hpostpones
  · exact fun hpostpones => ⟨calls, now, call, rfl, hpostpones⟩

theorem Scheduled.standing {settings : Settings} {opened : Instant}
    (hstart : start settings opened = .ok timer) {calls : List (Instant × Call)}
    (h : timer.Scheduled calls) :
    (timer.serveAll calls).armed = true ∧
      ((timer.serveAll calls).warning = true ↔ timer.Postponed calls) := by
  cases h with
  | first =>
    obtain ⟨-, -, -, harmed, -⟩ := start_spec hstart
    refine ⟨harmed, iff_of_false ?_ ?_⟩
    · exact Bool.eq_false_iff.mp (warning_start hstart)
    · rintro ⟨earlier, instant, last, hcalls, -⟩
      exact List.append_ne_nil_of_right_ne_nil _ (List.cons_ne_nil _ _) hcalls.symm
  | next hcall =>
    rw [serveAll_concat, postponed_concat]
    exact hcall.standing

end Announcements

/-! ## When warnings are right -/

/-- The warning is true at every moment if and only if no arming moves an event whose warning
is up further away than the lead.  An event that a poll notices before it is due is announced
once, but not at all if an arming under a warning has scheduled it. -/
theorem truthful_and_announced {settings : Settings} {opened : Instant} {timer : HourlyTimer}
    {calls : List (Instant × Call)} (hstart : start settings opened = .ok timer)
    (hascending : Ascending opened calls) :
    ((∀ earlier later, calls = earlier ++ later → ∀ now, Behind opened earlier now →
        (timer.serveAll earlier).Truthful now) ↔
      ∀ earlier now call later, calls = earlier ++ (now, call) :: later →
        (timer.serveAll earlier).Postpones now call → timer.interval ≤ timer.lead) ∧
    ∀ earlier waiting later, calls = earlier ++ waiting ++ later →
      timer.Scheduled earlier → (timer.serveAll earlier).Awaits waiting →
      (timer.serveAll earlier).Noticed waiting →
        (¬ timer.Postponed earlier → ∃ startsIn ≤ timer.lead,
          (timer.serveAll earlier).announcedAll waiting = [.warningRaised startsIn]) ∧
        (timer.Postponed earlier → (timer.serveAll earlier).announcedAll waiting = []) := by
  refine ⟨truthful_at_all_iff hstart hascending, ?_⟩
  intro earlier waiting later _ hscheduled hawaits hnoticed
  obtain ⟨harmed, hup⟩ := hscheduled.standing hstart
  constructor
  · intro hkept
    have hdown := eq_false_of_ne_true (hup.not.mpr hkept)
    rw [← (timer.lengths_serveAll earlier).2]
    exact announcedAll_of_noticed harmed hdown hawaits hnoticed
  · intro hpostponed
    exact announcedAll_of_warning (hup.mpr hpostponed) hawaits

end HourlyTimer

/-- An event every minute, with ten seconds of warning. -/
def Settings.minutely : Settings :=
  { standard with hourlyIntervalSeconds := 60, hourlyWarningSeconds := 10 }

namespace HourlyTimer

def disarmed : List (Instant × Call) :=
  [(50000000000, .poll), (52000000000, .disarm)]

def rearmed : List (Instant × Call) :=
  disarmed ++ [(55000000000, .arm)]

/-- A timer that is disarmed under a warning announces the event it is then armed for. -/
theorem minutely_truthful_and_announced :
    ∃ timer, start Settings.minutely 0 = .ok timer ∧
      (∀ earlier later, rearmed ++ [(106000000000, .poll)] = earlier ++ later →
        ∀ now, Behind 0 earlier now → (timer.serveAll earlier).Truthful now) ∧
      ∃ startsIn ≤ timer.lead,
        (timer.serveAll rearmed).announcedAll [(106000000000, .poll)] =
          [.warningRaised startsIn] := by
  obtain ⟨timer, hstart, hdown, hsettled, hnear, hahead⟩ :
      ∃ timer, start Settings.minutely 0 = .ok timer ∧
        (timer.serveAll disarmed).warning = false ∧
        ((timer.serveAll disarmed).arm 55000000000).2 = .settled ∧
        (timer.serveAll rearmed).nextEvent - 106000000000 ≤ (timer.serveAll rearmed).lead ∧
        106000000000 < (timer.serveAll rearmed).nextEvent := by
    apply Time.exists_ok_of_any
    decide +kernel
  have hascending : Ascending 0 (rearmed ++ [(106000000000, .poll)]) := by
    unfold Ascending
    decide +kernel
  obtain ⟨htruthful, hannounced⟩ := truthful_and_announced hstart hascending
  refine ⟨timer, hstart, htruthful.mpr ?_, ?_⟩
  · rintro earlier now call later hcalls ⟨rfl, hup, -⟩
    -- The only arming follows the disarming.
    rcases concat_eq_append_cons_iff.mp hcalls with ⟨-, hlast, -⟩ | ⟨_, -, hrearmed⟩
    · exact absurd (congrArg Prod.snd hlast) (by simp)
    · rcases concat_eq_append_cons_iff.mp hrearmed with ⟨rfl, -, -⟩ | ⟨_, -, hdisarmed⟩
      · exact absurd hup (Bool.eq_false_iff.mp hdown)
      · have hmem : (now, Call.arm) ∈ disarmed :=
          hdisarmed ▸ List.mem_append_right _ List.mem_cons_self
        exact absurd hmem (by simp [disarmed])
  · refine (hannounced rearmed _ [] (List.append_nil _).symm (.next hsettled) ?_ ?_).1 ?_
    · exact List.forall_mem_singleton.mpr (.inl ⟨rfl, hahead⟩)
    · exact ⟨106000000000, List.mem_singleton_self _, hnear⟩
    · unfold rearmed
      rw [postponed_concat]
      rintro ⟨-, hup, -⟩
      exact absurd hup (Bool.eq_false_iff.mp hdown)

def hasty : List (Instant × Call) :=
  [(50000000000, .poll), (55000000000, .arm)]

/-- Armed again without having been disarmed, the timer keeps the warning up although the
event is a minute away, and never announces that event. -/
theorem minutely_arm_unannounced :
    ∃ timer, start Settings.minutely 0 = .ok timer ∧
      Ascending 0 (hasty ++ [(106000000000, .poll)]) ∧
      (timer.serveAll hasty).untilNext? 55000000000 = some 60000000000 ∧
      timer.lead = 10000000000 ∧ ¬ (timer.serveAll hasty).Truthful 55000000000 ∧
      timer.Scheduled hasty ∧
      (timer.serveAll hasty).Awaits [(106000000000, .poll)] ∧
      (timer.serveAll hasty).Noticed [(106000000000, .poll)] ∧
      (timer.serveAll hasty).announcedAll [(106000000000, .poll)] = [] := by
  obtain ⟨timer, hstart, hsettled, hup, huntil, hlead, hshort, hahead, hnear, hsilent⟩ :
      ∃ timer, start Settings.minutely 0 = .ok timer ∧
        ((timer.serveAll [(50000000000, .poll)]).arm 55000000000).2 = .settled ∧
        (timer.serveAll hasty).warning = true ∧
        (timer.serveAll hasty).untilNext? 55000000000 = some 60000000000 ∧
        timer.lead = 10000000000 ∧ (timer.serveAll hasty).lead < 60000000000 ∧
        106000000000 < (timer.serveAll hasty).nextEvent ∧
        (timer.serveAll hasty).nextEvent - 106000000000 ≤ (timer.serveAll hasty).lead ∧
        (timer.serveAll hasty).announcedAll [(106000000000, .poll)] = [] := by
    apply Time.exists_ok_of_any
    decide +kernel
  have hscheduled : timer.Scheduled ([(50000000000, .poll)] ++ [(55000000000, .arm)]) :=
    .next hsettled
  refine ⟨timer, hstart, ?_, huntil, hlead, ?_, hscheduled, ?_, ?_, hsilent⟩
  · unfold Ascending
    decide +kernel
  · intro htruthful
    obtain ⟨remaining, hremaining, hnear⟩ := htruthful hup
    obtain rfl := Option.some.inj (huntil.symm.trans hremaining)
    exact absurd hnear hshort.not_ge
  · exact List.forall_mem_singleton.mpr (.inl ⟨rfl, hahead⟩)
  · exact ⟨106000000000, List.mem_singleton_self _, hnear⟩

end HourlyTimer

end TickArena

import TickArena.Arena.Evaluation
import TickArena.Clock.HourlyTimer
import TickArena.Proofs.Conversion

/-!
# Settings in range

The checks of the settings keep every length of time from being negative.  They
bound none of them from above, and not-a-number passes three of the comparisons; what
is left for the settings to stay in range is stated here, and it is exact.
-/

namespace TickArena

open Time

/-! ## What the checks say -/

/-- Settings without a problem have no negative seconds. -/
structure Settings.Checked (settings : Settings) : Prop where
  building : ¬ settings.buildingSeconds < 0
  evaluating : ¬ settings.evaluatingSeconds < 0
  results : ¬ settings.resultsSeconds < 0
  interval : ¬ settings.hourlyIntervalSeconds < 0
  warning : ¬ settings.hourlyWarningSeconds < 0
  timeout : ¬ settings.timeoutSeconds < 0

theorem Settings.not_neg_of_phaseProblem? {name : String} {seconds : Float}
    (h : phaseProblem? name seconds = none) : ¬ seconds < 0 := by
  unfold phaseProblem? at h
  split_ifs at h with hproblem
  apply Double.not_lt_of_not_le
  intro hle
  apply hproblem
  simp [hle]

theorem Settings.checked_of_problem?_eq_none {settings : Settings}
    (h : settings.problem? = none) : settings.Checked := by
  unfold problem? at h
  simp only [Option.orElse_eq_none] at h
  obtain ⟨hbuilding, hevaluating, hresults, -, hhourly, hbatch⟩ := h
  simp only [hourlyProblem?] at hhourly
  split_ifs at hhourly with hinterval hwarning
  simp only [batchProblem?] at hbatch
  split_ifs at hbatch with hsize hthreshold htimeout
  constructor
  · exact not_neg_of_phaseProblem? hbuilding
  · exact not_neg_of_phaseProblem? hevaluating
  · exact not_neg_of_phaseProblem? hresults
  · exact Double.not_lt_of_not_le hinterval
  · intro hneg
    apply hwarning
    simp [hneg]
  · exact Double.not_lt_of_not_le htimeout

/-! ## Durations in range -/

theorem Settings.tick_isOk_iff {settings : Settings} {building evaluating results : Duration}
    (hbuilding : settings.building = .ok building)
    (hevaluating : settings.evaluating = .ok evaluating)
    (hresults : settings.results = .ok results) :
    (∃ length, settings.tick = .ok length) ↔
      building + evaluating + results < durationLimit := by
  unfold tick
  rw [hbuilding, hevaluating, hresults]
  exact Time.sum_sum_isOk_iff

theorem PhaseClock.start_eq_ok {settings : Settings} {building evaluating results : Duration}
    (hbuilding : settings.building = .ok building)
    (hevaluating : settings.evaluating = .ok evaluating)
    (hresults : settings.results = .ok results) (now : Instant) :
    PhaseClock.start settings now =
      .ok ⟨.building, 1, now, building, evaluating, results⟩ := by
  unfold PhaseClock.start
  rw [hbuilding, hevaluating, hresults]
  rfl

theorem HourlyTimer.start_isOk_iff {settings : Settings} {interval lead : Duration}
    (hinterval : settings.hourlyInterval = .ok interval)
    (hlead : settings.hourlyWarning = .ok lead) (now : Instant) :
    (∃ timer, HourlyTimer.start settings now = .ok timer) ↔ now + interval < instantLimit := by
  unfold HourlyTimer.start
  rw [hinterval, hlead, ← Time.after_isOk_iff]
  cases hafter : Time.after now interval with
  | ok nextEvent => simp [bind, Except.bind, pure, Except.pure, hafter]
  | error fault => simp [bind, Except.bind, hafter]

theorem Arena.openEvaluation_isOk_iff {arena : Arena} {timeout : Duration}
    (htimeout : arena.settings.timeout = .ok timeout) (request : Request) (now : Instant) :
    (∃ evaluation, arena.openEvaluation request now = .ok evaluation) ↔
      now + timeout < instantLimit := by
  unfold Arena.openEvaluation
  rw [htimeout, ← Time.after_isOk_iff]
  cases hafter : Time.after now timeout with
  | ok deadline => simp [bind, Except.bind, pure, Except.pure, hafter]
  | error fault => simp [bind, Except.bind, hafter]

/-! ## Settings that never leave the range -/

/-- No length of the settings, no clock that starts at the origin and no evaluation
that begins there leaves the range of time. -/
structure Settings.NeverFaults (settings : Settings) : Prop where
  building : ∃ length, settings.building = .ok length
  evaluating : ∃ length, settings.evaluating = .ok length
  results : ∃ length, settings.results = .ok length
  tick : ∃ length, settings.tick = .ok length
  interval : ∃ length, settings.hourlyInterval = .ok length
  warning : ∃ length, settings.hourlyWarning = .ok length
  timeout : ∃ length, settings.timeout = .ok length
  clock : ∃ clock, PhaseClock.start settings 0 = .ok clock ∧
    ∃ length, clock.tickLength = .ok length
  timer : ∃ timer, HourlyTimer.start settings 0 = .ok timer
  deadline : ∀ arena : Arena, arena.settings = settings → ∀ request,
    ∃ evaluation, arena.openEvaluation request 0 = .ok evaluation

/-- The seconds are numbers below the limits of durations and instants, and so is
the sum of the three phases.  A comparison with not-a-number fails. -/
structure Settings.WithinRange (settings : Settings) : Prop where
  building : settings.buildingSeconds < 18446744073709551616
  evaluating : settings.evaluatingSeconds < 18446744073709551616
  results : settings.resultsSeconds < 18446744073709551616
  tick : ∀ building evaluating results, settings.building = .ok building →
    settings.evaluating = .ok evaluating → settings.results = .ok results →
    building + evaluating + results < durationLimit
  interval : settings.hourlyIntervalSeconds < 9223372036854775808
  warning : settings.hourlyWarningSeconds < 18446744073709551616
  timeout : settings.timeoutSeconds < 9223372036854775808

theorem Settings.NeverFaults.withinRange {settings : Settings} (hchecked : settings.Checked)
    (h : settings.NeverFaults) : settings.WithinRange := by
  obtain ⟨interval, hinterval⟩ := h.interval
  obtain ⟨lead, hlead⟩ := h.warning
  obtain ⟨timeout, htimeout⟩ := h.timeout
  constructor
  · exact (ofSeconds_isOk_iff hchecked.building).mp h.building
  · exact (ofSeconds_isOk_iff hchecked.evaluating).mp h.evaluating
  · exact (ofSeconds_isOk_iff hchecked.results).mp h.results
  · intro building evaluating results hbuilding hevaluating hresults
    exact (tick_isOk_iff hbuilding hevaluating hresults).mp h.tick
  · have hlimit := (HourlyTimer.start_isOk_iff hinterval hlead 0).mp h.timer
    rw [Nat.zero_add] at hlimit
    exact (ofSeconds_lt_instantLimit_iff hinterval).mp hlimit
  · exact (ofSeconds_isOk_iff hchecked.warning).mp h.warning
  · have hsettings : (Arena.create ∅ settings .everyone).settings.timeout = .ok timeout := htimeout
    have hopen := h.deadline (Arena.create ∅ settings .everyone) rfl (Request.regular 1)
    have hlimit := (Arena.openEvaluation_isOk_iff hsettings _ 0).mp hopen
    rw [Nat.zero_add] at hlimit
    exact (ofSeconds_lt_instantLimit_iff htimeout).mp hlimit

theorem Settings.WithinRange.neverFaults {settings : Settings} (hchecked : settings.Checked)
    (h : settings.WithinRange) : settings.NeverFaults := by
  obtain ⟨building, hbuilding⟩ := (ofSeconds_isOk_iff hchecked.building).mpr h.building
  obtain ⟨evaluating, hevaluating⟩ := (ofSeconds_isOk_iff hchecked.evaluating).mpr h.evaluating
  obtain ⟨results, hresults⟩ := (ofSeconds_isOk_iff hchecked.results).mpr h.results
  obtain ⟨lead, hlead⟩ := (ofSeconds_isOk_iff hchecked.warning).mpr h.warning
  have htick := h.tick building evaluating results hbuilding hevaluating hresults
  have hlimits : (9223372036854775808 : Float) < 18446744073709551616 := by decide +kernel
  obtain ⟨interval, hinterval⟩ :=
    (ofSeconds_isOk_iff hchecked.interval).mpr (Double.lt_trans h.interval hlimits)
  obtain ⟨timeout, htimeout⟩ :=
    (ofSeconds_isOk_iff hchecked.timeout).mpr (Double.lt_trans h.timeout hlimits)
  refine ⟨⟨_, hbuilding⟩, ⟨_, hevaluating⟩, ⟨_, hresults⟩, ?_, ⟨_, hinterval⟩, ⟨_, hlead⟩,
    ⟨_, htimeout⟩, ?_, ?_, ?_⟩
  · exact (tick_isOk_iff hbuilding hevaluating hresults).mpr htick
  · exact ⟨_, PhaseClock.start_eq_ok hbuilding hevaluating hresults 0,
      Time.sum_sum_isOk_iff.mpr htick⟩
  · apply (HourlyTimer.start_isOk_iff hinterval hlead 0).mpr
    rw [Nat.zero_add]
    exact (ofSeconds_lt_instantLimit_iff hinterval).mpr h.interval
  · rintro arena rfl request
    apply (Arena.openEvaluation_isOk_iff htimeout request 0).mpr
    rw [Nat.zero_add]
    exact (ofSeconds_lt_instantLimit_iff htimeout).mpr h.timeout

/-- Settings without a problem never fault if and only if their seconds lie in range. -/
theorem Settings.neverFaults_iff_withinRange {settings : Settings}
    (hvalid : settings.problem? = none) : settings.NeverFaults ↔ settings.WithinRange := by
  have hchecked := checked_of_problem?_eq_none hvalid
  constructor
  · exact NeverFaults.withinRange hchecked
  · exact WithinRange.neverFaults hchecked

theorem Settings.standard_neverFaults :
    Settings.standard.problem? = none ∧ Settings.standard.NeverFaults := by
  have hvalid : Settings.standard.problem? = none := by decide +kernel
  refine ⟨hvalid, (neverFaults_iff_withinRange hvalid).mpr ?_⟩
  constructor
  · decide +kernel
  · decide +kernel
  · decide +kernel
  · intro building evaluating results hbuilding hevaluating hresults
    have htick : Settings.standard.tick.isOk = true := by decide +kernel
    exact (tick_isOk_iff hbuilding hevaluating hresults).mp (exists_ok_of_isOk htick)
  · decide +kernel
  · decide +kernel
  · decide +kernel

def Settings.endlessHour : Settings :=
  { Settings.standard with hourlyIntervalSeconds := 0 / 0 }

/-- Not-a-number passes the check that the hourly interval is positive, and has no length. -/
theorem Settings.endlessHour_faults :
    endlessHour.problem? = none ∧ endlessHour.hourlyInterval = .error .secondsOutOfRange ∧
      ¬ endlessHour.NeverFaults := by
  refine ⟨by decide +kernel, rfl, ?_⟩
  intro h
  obtain ⟨length, hlength⟩ := h.interval
  contradiction

end TickArena

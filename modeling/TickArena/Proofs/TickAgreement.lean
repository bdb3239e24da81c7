import TickArena.Catalog.Standard
import TickArena.Proofs.EvaluationRuns
import TickArena.Proofs.TableLookups

/-!
# Ticks that agree

The outcome of a tick that is finished in time depends on the catalog, the seed, the
length of the leaderboard and the stored slots.  How the submissions came in, how they
are cut into batches, which batches are evaluated at once and how long the pauses are
makes no difference.
-/

namespace TickArena.Arena

/-- The reports of everyone who has submitted, in the order of the participants. -/
def allReports (arena : Arena) (request : Request) : List Evaluated :=
  arena.submissions.rows.map (arena.evaluateOne request)

variable {arena other : Arena} {request : Request}

theorem reports_opened (arena : Arena) (request : Request) (deadline : Instant) :
    arena.reports (arena.opened request deadline) = arena.allReports request := by
  rw [reports, opened, flatten_batches, List.nil_append]
  rfl

theorem nodup_allReports (arena : Arena) (request : Request) :
    ((arena.allReports request).map Prod.fst).Nodup := by
  rw [allReports, List.map_map]
  exact Rows.nodup_keys_of_ascending arena.submissions.ascending

theorem mem_allReports {participant : Nat} {submission : Submission}
    (h : arena.submissions.get? participant = some submission) :
    (participant, arena.evaluate participant request.tick submission.slots) ∈
      arena.allReports request :=
  List.mem_map_of_mem (f := arena.evaluateOne request)
    ((Rows.mem_iff_get?_eq_some arena.submissions.ascending).mpr h)

/-! ## A tick in time -/

/-- What a tick leaves behind whose time suffices. -/
structure Timely (arena : Arena) (request : Request) (completed : Completed) : Prop where
  announced : finalResults completed.sent =
    (rankAll request (arena.allReports request)).map FinalResult.ofStanding
  stored : ∀ participant, completed.arena.standings.get? participant =
    if arena.submissions.contains participant then
      (rankAll request (arena.allReports request)).find? (·.participant = participant)
    else none
  summary : completed.summary =
    if arena.submissions.size = 0 then .empty request.tick
    else .ofStandings request.tick arena.settings.topPerformers false
      (rankAll request (arena.allReports request))

theorem timely_of_no_submissions (hempty : arena.submissions.size = 0) (readings : Nat → Readings)
    (deadline : Instant) :
    arena.Timely request (arena.complete readings (arena.opened request deadline)) := by
  have hrows : arena.submissions.rows = [] := List.length_eq_zero_iff.mp hempty
  have hstep : arena.step (arena.opened request deadline) (readings 0) =
      arena.publishEmpty request.tick := if_pos hempty
  have hfinished : (arena.step (arena.opened request deadline) (readings 0)).progress =
      .finished (.empty request.tick) := by
    rw [hstep]
    rfl
  have hnone : rankAll request (arena.allReports request) = [] := by
    simp [allReports, hrows, rankAll]
  rw [complete_of_finished hfinished, hstep]
  constructor
  · rw [hnone]
    rfl
  · intro participant
    rw [hnone]
    split_ifs <;> rfl
  · exact (if_pos hempty).symm

theorem timely_of_submissions (hsome : arena.submissions.size ≠ 0) {readings : Nat → Readings}
    {deadline : Instant}
    (hinTime : (arena.complete readings (arena.opened request deadline)).summary.timedOut = false) :
    arena.Timely request (arena.complete readings (arena.opened request deadline)) := by
  have hdistinct := nodup_participant_rankAll request (arena.nodup_allReports request)
  obtain ⟨harena, hsummary, hresults⟩ := complete_of_inTime hsome hinTime
  rw [reports_opened] at harena hsummary hresults
  constructor
  · exact hresults
  · intro participant
    rw [harena]
    exact get?_standings_storeAll arena hdistinct participant
  · rw [if_neg hsome, hsummary]
    rfl

theorem timely_of_inTime {now : Instant} {readings : Nat → Readings} {completed : Completed}
    (h : arena.processTick request now readings = .ok completed)
    (hinTime : completed.summary.timedOut = false) : arena.Timely request completed := by
  unfold processTick at h
  cases hopen : arena.openEvaluation request now with
  | error fault =>
    rw [hopen] at h
    contradiction
  | ok evaluation =>
    rw [hopen] at h
    obtain rfl : arena.complete readings evaluation = completed := Except.ok.inj h
    obtain ⟨deadline, rfl⟩ := openEvaluation_eq_ok hopen
    by_cases hempty : arena.submissions.size = 0
    · exact timely_of_no_submissions hempty readings deadline
    · exact timely_of_submissions hempty hinTime

namespace Timely

variable {completed : Completed} {participant : Nat}

theorem get?_of_mem (h : arena.Timely request completed) {standing : Standing}
    (hstanding : standing ∈ rankAll request (arena.allReports request)) :
    completed.arena.standings.get? standing.participant = some standing := by
  have hdistinct := arena.nodup_allReports request
  have hcontains : arena.submissions.contains standing.participant = true := by
    obtain ⟨⟨participant, submission⟩, hrow, heq⟩ :=
      List.mem_map.mp ((mem_map_evaluated_rankAll request _).mp (List.mem_map_of_mem hstanding))
    have hsubmission := (Rows.mem_iff_get?_eq_some arena.submissions.ascending).mp hrow
    have hsame : participant = standing.participant := congrArg Prod.fst heq
    rw [← hsame]
    exact Option.isSome_iff_exists.mpr ⟨_, hsubmission⟩
  rw [h.stored, if_pos hcontains]
  exact find?_participant_of_mem (nodup_participant_rankAll request hdistinct) hstanding

/-- Whoever has a result is stored with it. -/
theorem exists_standing_of_mem (h : arena.Timely request completed) {result : FinalResult}
    (hresult : result ∈ finalResults completed.sent) :
    ∃ standing, completed.arena.standings.get? result.participant = some standing ∧
      result.Tells standing := by
  rw [h.announced] at hresult
  obtain ⟨standing, hstanding, rfl⟩ := List.mem_map.mp hresult
  exact ⟨standing, h.get?_of_mem hstanding, FinalResult.tells_ofStanding standing⟩

/-- Whoever has submitted has a standing with the report of the submission, and nobody else
has one. -/
theorem get?_report (h : arena.Timely request completed) :
    (completed.arena.standings.get? participant).map Standing.report =
      (arena.submissions.get? participant).map fun submission =>
        arena.evaluate participant request.tick submission.slots := by
  cases hsubmission : arena.submissions.get? participant with
  | none =>
    rw [h.stored]
    simp [Table.contains, hsubmission]
  | some submission =>
    obtain ⟨standing, hstanding, heq⟩ :=
      List.mem_map.mp ((mem_map_evaluated_rankAll request _).mpr (mem_allReports hsubmission))
    have hsame : standing.participant = participant := congrArg Prod.fst heq
    have hreport : standing.report = _ := congrArg Prod.snd heq
    rw [← hsame, h.get?_of_mem hstanding, hsame, Option.map_some, Option.map_some, hreport]

end Timely

/-! ## Two arenas -/

/-- The same participants have submitted the same slots. -/
def SameSlots (arena other : Arena) : Prop :=
  ∀ participant, (arena.submissions.get? participant).map Submission.slots =
    (other.submissions.get? participant).map Submission.slots

theorem sameSlots_of_map_eq
    (h : arena.submissions.map Submission.slots = other.submissions.map Submission.slots) :
    arena.SameSlots other := by
  intro participant
  rw [← Table.get?_map, h, Table.get?_map]

theorem SameSlots.contains_eq (h : arena.SameSlots other) (participant : Nat) :
    arena.submissions.contains participant = other.submissions.contains participant := by
  have hsome := congrArg Option.isSome (h participant)
  rw [Option.isSome_map, Option.isSome_map] at hsome
  exact hsome

theorem SameSlots.map_eq (h : arena.SameSlots other) :
    arena.submissions.map Submission.slots = other.submissions.map Submission.slots := by
  apply Table.ext_get?
  intro participant
  rw [Table.get?_map, Table.get?_map]
  exact h participant

theorem SameSlots.size_eq (h : arena.SameSlots other) :
    arena.submissions.size = other.submissions.size := by
  have hsize := congrArg Table.size h.map_eq
  simpa only [Table.size, Table.map, List.length_map] using hsize

theorem SameSlots.allReports_eq (h : arena.SameSlots other)
    (hcatalog : arena.catalog = other.catalog)
    (hseed : arena.settings.seed = other.settings.seed) (request : Request) :
    arena.allReports request = other.allReports request := by
  have hreports : ∀ arena : Arena, arena.allReports request =
      (arena.submissions.map Submission.slots).rows.map fun row =>
        (row.1, arena.evaluate row.1 request.tick row.2) := by
    intro arena
    simp only [allReports, Table.map, List.map_map]
    rfl
  have hevaluate : arena.evaluate = other.evaluate := by
    unfold evaluate draws
    rw [hcatalog, hseed]
  rw [hreports arena, hreports other, h.map_eq, hevaluate]

/-- Arenas that hold the same slots agree on every tick that neither breaks off, and everyone
gets the report of the slots that are stored for them. -/
theorem processTick_agree (hcatalog : arena.catalog = other.catalog)
    (hseed : arena.settings.seed = other.settings.seed)
    (hleaders : arena.settings.topPerformers = other.settings.topPerformers)
    (hslots : arena.SameSlots other) {now now' : Instant} {readings readings' : Nat → Readings}
    {completed completed' : Completed}
    (htick : arena.processTick request now readings = .ok completed)
    (htick' : other.processTick request now' readings' = .ok completed')
    (hinTime : completed.summary.timedOut = false)
    (hinTime' : completed'.summary.timedOut = false) :
    completed.summary = completed'.summary ∧
      finalResults completed.sent = finalResults completed'.sent ∧
      completed.arena.standings = completed'.arena.standings ∧
      (∀ participant, (completed.arena.standings.get? participant).map Standing.report =
        (arena.submissions.get? participant).map fun submission =>
          arena.evaluate participant request.tick submission.slots) ∧
      ∀ result ∈ finalResults completed.sent, ∃ standing,
        completed.arena.standings.get? result.participant = some standing ∧
          result.Tells standing := by
  have htimely := timely_of_inTime htick hinTime
  have htimely' := timely_of_inTime htick' hinTime'
  have hreports := hslots.allReports_eq hcatalog hseed request
  refine ⟨?_, ?_, ?_, fun _ => htimely.get?_report, fun _ => htimely.exists_standing_of_mem⟩
  · rw [htimely.summary, htimely'.summary, hslots.size_eq, hleaders, hreports]
  · rw [htimely.announced, htimely'.announced, hreports]
  · apply Table.ext_get?
    intro participant
    rw [htimely.stored, htimely'.stored, hslots.contains_eq, hreports]

/-! ## One by one and all at once -/

/-- An arena that takes one participant at a time. -/
def patient : Arena :=
  { create .standard { Settings.standard with batchSize := 1 } .everyone with
    submissions := .ofList
      [(9, ⟨[none, some (.plain "ember_core")], "late"⟩),
        (4, ⟨[some (.plain "ember_core"), some (.plain "amplifier")], "early"⟩)] }

/-- The same slots under other hashes, in an arena that takes all participants at once. -/
def hasty : Arena :=
  { create .standard { Settings.standard with parallelThreshold := 1 } .everyone with
    submissions := .ofList
      [(4, ⟨[some (.plain "ember_core"), some (.plain "amplifier")], "first"⟩),
        (9, ⟨[none, some (.plain "ember_core")], "second"⟩)] }

theorem patient_processTick_agree :
    let request := Request.duringHour 7 2.5
    patient.SameSlots hasty ∧ ∃ completed completed',
      patient.processTick request 0 (fun number reading => (number + reading) % 1000) =
        .ok completed ∧
      hasty.processTick request 5 (fun _ _ => 6) = .ok completed' ∧
      completed.summary.timedOut = false ∧ completed'.summary.timedOut = false ∧
      completed.summary = completed'.summary ∧
      finalResults completed.sent = finalResults completed'.sent ∧
      completed.arena.standings = completed'.arena.standings := by
  intro request
  have hslots : patient.SameSlots hasty := sameSlots_of_map_eq (by decide +kernel)
  have htimeout : Settings.standard.timeout = .ok (10 * Time.second) := by decide +kernel
  have hopen : patient.openEvaluation request 0 =
      .ok (patient.opened request (10 * Time.second)) :=
    openEvaluation_of_timeout htimeout (by decide +kernel)
  have hopen' : hasty.openEvaluation request 5 =
      .ok (hasty.opened request (10 * Time.second + 5)) :=
    openEvaluation_of_timeout htimeout (by decide +kernel)
  have hsecond : Time.second = 1000000000 := by decide +kernel
  have hearly : ∀ number reading : Nat, (number + reading) % 1000 < 10 * Time.second := by
    intro number reading
    rw [hsecond]
    omega
  have hearly' : ∀ number reading : Nat, 6 < 10 * Time.second + 5 := by
    intro number reading
    rw [hsecond]
    decide
  have hsome : patient.submissions.size ≠ 0 := by decide +kernel
  have hsome' : hasty.submissions.size ≠ 0 := by decide +kernel
  have hinTime := @inTime_complete patient (fun number reading => (number + reading) % 1000)
    (patient.opened request (10 * Time.second)) hsome hearly
  have hinTime' := @inTime_complete hasty (fun _ _ => 6)
    (hasty.opened request (10 * Time.second + 5)) hsome' hearly'
  have htick := processTick_of_open hopen fun number reading => (number + reading) % 1000
  have htick' := processTick_of_open hopen' fun _ _ => 6
  have hcatalog : patient.catalog = hasty.catalog := rfl
  have hseed : patient.settings.seed = hasty.settings.seed := rfl
  have hleaders : patient.settings.topPerformers = hasty.settings.topPerformers := rfl
  obtain ⟨hsummary, hannounced, hstored, -⟩ :=
    processTick_agree hcatalog hseed hleaders hslots htick htick' hinTime hinTime'
  exact ⟨hslots, _, _, htick, htick', hinTime, hinTime', hsummary, hannounced, hstored⟩

end TickArena.Arena

import TickArena.Catalog.Standard
import TickArena.Proofs.KeptRecords

/-!
# Departures during a tick

A tick works on the sequences that were stored when it was opened.  A participant that
departs in the meantime loses everything that is kept of it, and nothing that the tick has
still computed should come back to it.  The publication asks only who is here at that
moment: the departure is final as long as the participant stays away.
-/

namespace TickArena

/-! ## Where a sequence comes from -/

/-- A participant has submitted a sequence in the course of some moves, and it has not departed
since then. -/
def Filed (moves : List Move) (participant : Nat) (submission : Submission) : Prop :=
  ∃ earlier later, moves = earlier ++ .submit participant submission :: later ∧
    .depart participant ∉ later

theorem Filed.concat {moves : List Move} {participant : Nat} {submission : Submission}
    (h : Filed moves participant submission) {last : Move} (hlast : last ≠ .depart participant) :
    Filed (moves ++ [last]) participant submission := by
  obtain ⟨earlier, later, rfl, hstays⟩ := h
  refine ⟨earlier, later ++ [last], by simp, ?_⟩
  simpa [hstays] using hlast.symm

namespace LiveArena

theorem submissions_takeBatch (live : LiveArena) (readings : Readings) :
    (live.takeBatch readings).arena.submissions = live.arena.submissions := by
  rw [live.arena_takeBatch readings]

theorem filed_of_run {catalog : Catalog} {settings : Settings} {ownership : Ownership}
    {moves : List Move} {participant : Nat} {submission : Submission}
    (h : ((idle (.create catalog settings ownership)).run moves).arena.submissions.get?
      participant = some submission) : Filed moves participant submission := by
  induction moves using List.reverseRecOn with
  | nil => contradiction
  | append_singleton moves last ih =>
    rw [run_concat] at h
    generalize (idle (.create catalog settings ownership)).run moves = live at h ih
    -- Only a submission brings a sequence in, and only a departure takes one out.
    cases last with
    | submit other stored =>
      rcases live.submit_cases other stored with hsame | hstored
      · rw [move, hsame] at h
        exact (ih h).concat (by simp)
      · rw [move, hstored] at h
        by_cases hother : participant = other
        · subst hother
          obtain rfl : stored = submission := by simpa using h
          exact ⟨moves, [], rfl, by simp⟩
        · exact (ih ((Table.get?_insert_of_ne _ _ hother).symm.trans h)).concat (by simp)
    | depart other =>
      by_cases hother : participant = other
      · subst hother
        exact absurd (h.symm.trans (Table.get?_erase_self _ _)) (by simp)
      · exact (ih ((Table.get?_erase_of_ne _ hother).symm.trans h)).concat
          fun heq => hother (Move.depart.inj heq).symm
    | openTick request now =>
      rw [move, arena_openTick] at h
      exact (ih h).concat (by simp)
    | takeBatch readings =>
      rw [move, submissions_takeBatch] at h
      exact (ih h).concat (by simp)
    | abandon => exact (ih h).concat (by simp)

end LiveArena

/-- Neither a result nor a performance is kept of a participant. -/
def Arena.Unrecorded (arena : Arena) (participant : Nat) : Prop :=
  arena.standings.get? participant = none ∧ arena.performances.get? participant = none

theorem Arena.unrecorded_depart (arena : Arena) (participant : Nat) :
    (arena.depart participant).Unrecorded participant :=
  ⟨Table.get?_erase_self _ _, Table.get?_erase_self _ _⟩

/-! ## Who is here -/

def Move.keepsHere (arena : Arena) (participant : Nat) (here : Bool) : Move → Bool
  | submit other submission =>
    here || (other = participant && (arena.problem? participant submission.slots).isNone)
  | depart other => here && other ≠ participant
  | _ => here

/-- Whether a participant is here after some moves: it was before, or it has submitted a
sequence that the arena does not refuse, and it has not departed since. -/
def Arena.hosts (arena : Arena) (participant : Nat) (moves : List Move) : Bool :=
  moves.foldl (Move.keepsHere arena participant) (arena.submissions.contains participant)

namespace LiveArena

theorem contains_submit (live : LiveArena) (other : Nat) (submission : Submission)
    (participant : Nat) :
    (live.submit other submission).arena.submissions.contains participant =
      (Move.submit other submission).keepsHere live.arena participant
        (live.arena.submissions.contains participant) := by
  unfold submit Arena.submit Move.keepsHere
  by_cases hsame : other = participant
  · subst hsame
    split_ifs with hagain
    · have hhere : live.arena.submissions.contains other = true := by
        unfold Table.contains
        cases hstored : live.arena.submissions.get? other with
        | none => simp [hstored] at hagain
        | some stored => rfl
      simp [hhere]
    · cases hproblem : live.arena.problem? other submission.slots with
      | some problem => simp [hproblem]
      | none => simp [hproblem, Table.contains]
  · split_ifs
    · simp [hsame]
    · cases live.arena.problem? other submission.slots with
      | some problem => simp [hsame]
      | none => simp [hsame, Table.contains, Table.get?_insert_of_ne _ _ (Ne.symm hsame)]

theorem contains_depart (live : LiveArena) (other participant : Nat) :
    (live.depart other).arena.submissions.contains participant =
      (Move.depart other).keepsHere live.arena participant
        (live.arena.submissions.contains participant) := by
  change (live.arena.submissions.erase other).contains participant = _
  unfold Table.contains Move.keepsHere
  by_cases hsame : other = participant
  · subst hsame
    simp [Table.get?_erase_self]
  · rw [Table.get?_erase_of_ne _ (Ne.symm hsame)]
    simp [hsame]

/-! ## In the middle of a tick -/

/-- A tick is under way all along some moves. -/
def Lasts (live : LiveArena) (moves : List Move) : Prop :=
  ∀ earlier, earlier <+: moves → (live.run earlier).running.isSome

instance (live : LiveArena) (moves : List Move) : Decidable (live.Lasts moves) :=
  decidable_of_iff (∀ earlier ∈ moves.inits, (live.run earlier).running.isSome) <| by
    simp only [Lasts, List.mem_inits]

theorem Lasts.of_concat {live : LiveArena} {moves : List Move} {last : Move}
    (h : live.Lasts (moves ++ [last])) :
    live.Lasts moves ∧ ((live.run moves).move last).running.isSome := by
  constructor
  · exact fun earlier hearlier => h earlier (hearlier.trans (List.prefix_append _ _))
  · rw [← run_concat]
    exact h _ List.prefix_rfl

/-- In the middle of a tick the reports to come are those of the opening, and the arena
differs from that of the opening in its tables only. -/
structure UnderWay (opening : Arena) (request : Request) (live : LiveArena) : Prop where
  evaluation : ∃ evaluation, live.running = some evaluation ∧ evaluation.request = request ∧
    evaluation.total = opening.submissions.size ∧
      live.arena.reports evaluation = opening.allReports request
  arena : live.arena = { opening with
    submissions := live.arena.submissions
    standings := live.arena.standings
    performances := live.arena.performances }

theorem underWay_openTick {live : LiveArena} {request : Request} {now : Instant}
    (hidle : live.running = none) (hopens : (live.openTick request now).running.isSome) :
    (live.openTick request now).UnderWay live.arena request := by
  rcases live.openTick_cases request now with hsame | ⟨-, deadline, hopened⟩
  · rw [hsame, hidle] at hopens
    contradiction
  · rw [hopened]
    exact ⟨⟨_, rfl, rfl, rfl, live.arena.reports_opened request deadline⟩, rfl⟩

namespace UnderWay

variable {opening : Arena} {request : Request} {live : LiveArena}

theorem distinct (h : live.UnderWay opening request) : live.Distinct := by
  obtain ⟨evaluation, hrunning, -, -, hreports⟩ := h.evaluation
  intro other hother
  obtain rfl : evaluation = other := Option.some.inj (hrunning.symm.trans hother)
  rw [hreports]
  exact opening.nodup_allReports request

theorem problem?_eq (h : live.UnderWay opening request) :
    live.arena.problem? = opening.problem? := by
  rw [h.arena]
  rfl

theorem submit (h : live.UnderWay opening request) (participant : Nat)
    (submission : Submission) : (live.submit participant submission).UnderWay opening request := by
  rcases live.submit_cases participant submission with hsame | hstored
  · rwa [hsame]
  · rw [hstored]
    refine ⟨h.evaluation, ?_⟩
    conv_lhs => rw [h.arena]

theorem depart (h : live.UnderWay opening request) (participant : Nat) :
    (live.depart participant).UnderWay opening request := by
  refine ⟨h.evaluation, ?_⟩
  change live.arena.depart participant = _
  unfold Arena.depart
  conv_lhs => rw [h.arena]
  rfl

theorem openTick_eq (h : live.UnderWay opening request) (other : Request) (now : Instant) :
    live.openTick other now = live := by
  obtain ⟨evaluation, hrunning, -⟩ := h.evaluation
  rcases live.openTick_cases other now with hsame | ⟨hidle, -⟩
  · exact hsame
  · rw [hidle] at hrunning
    contradiction

/-- A batch that is not the last one leaves the arena as it is. -/
theorem takeBatch_waits (h : live.UnderWay opening request) {readings : Readings}
    (hlasts : (live.takeBatch readings).running.isSome) :
    (live.takeBatch readings).UnderWay opening request ∧
      (live.takeBatch readings).arena = live.arena := by
  obtain ⟨evaluation, hrunning, hrequest, htotal, hreports⟩ := h.evaluation
  rcases takeBatch_cases readings hrunning (h.distinct evaluation hrunning) with
    ⟨following, htaken, hcontinues⟩ | ⟨publication, after, htaken, -⟩
  · rw [htaken]
    exact ⟨⟨⟨following, rfl, hcontinues.request.trans hrequest, hcontinues.total.trans htotal,
      hcontinues.reports.trans hreports⟩, h.arena⟩, rfl⟩
  · rw [htaken] at hlasts
    contradiction

theorem takeBatch_publishes (h : live.UnderWay opening request) {readings : Readings}
    (hends : (live.takeBatch readings).running = none) :
    ∃ evaluation publication after,
      live.takeBatch readings = ⟨after, none, live.history ++ [.published publication]⟩ ∧
        live.arena.Publishes evaluation publication after ∧ evaluation.request = request ∧
        evaluation.total = opening.submissions.size ∧
        live.arena.reports evaluation = opening.allReports request := by
  obtain ⟨evaluation, hrunning, hevaluation⟩ := h.evaluation
  rcases takeBatch_cases readings hrunning (h.distinct evaluation hrunning) with
    ⟨following, htaken, -⟩ | ⟨publication, after, htaken, hpublishes⟩
  · rw [htaken] at hends
    contradiction
  · exact ⟨evaluation, publication, after, htaken, hpublishes, hevaluation⟩

theorem move (h : live.UnderWay opening request) {move : Move}
    (hlasts : (live.move move).running.isSome) : (live.move move).UnderWay opening request := by
  cases move with
  | submit participant submission => exact h.submit participant submission
  | depart participant => exact h.depart participant
  | openTick other now =>
    rw [LiveArena.move, h.openTick_eq other now]
    exact h
  | takeBatch readings => exact (h.takeBatch_waits hlasts).1
  | abandon => contradiction

theorem contains_move (h : live.UnderWay opening request) {move : Move}
    (hlasts : (live.move move).running.isSome) (participant : Nat) :
    (live.move move).arena.submissions.contains participant =
      move.keepsHere opening participant (live.arena.submissions.contains participant) := by
  cases move with
  | submit other submission =>
    rw [LiveArena.move, contains_submit, Move.keepsHere, h.problem?_eq]
    rfl
  | depart other => exact live.contains_depart other participant
  | openTick other now =>
    rw [LiveArena.move, h.openTick_eq other now]
    rfl
  | takeBatch readings =>
    rw [LiveArena.move, (h.takeBatch_waits hlasts).2]
    rfl
  | abandon => contradiction

/-- Before its end a tick stores nothing. -/
theorem unrecorded_move (h : live.UnderWay opening request) {move : Move}
    (hlasts : (live.move move).running.isSome) {participant : Nat}
    (hnothing : live.arena.Unrecorded participant) :
    (live.move move).arena.Unrecorded participant := by
  cases move with
  | submit other submission =>
    rw [LiveArena.move]
    rcases live.submit_cases other submission with hsame | hstored
    · rwa [hsame]
    · rw [hstored]
      exact hnothing
  | depart other =>
    by_cases hother : participant = other
    · subst hother
      exact live.arena.unrecorded_depart participant
    · exact ⟨(Table.get?_erase_of_ne _ hother).trans hnothing.1,
        (Table.get?_erase_of_ne _ hother).trans hnothing.2⟩
  | openTick other now => rwa [LiveArena.move, h.openTick_eq other now]
  | takeBatch readings => rwa [LiveArena.move, (h.takeBatch_waits hlasts).2]
  | abandon => contradiction

theorem run (h : live.UnderWay opening request) {moves : List Move} (hlasts : live.Lasts moves) :
    (live.run moves).UnderWay opening request := by
  induction moves using List.reverseRecOn with
  | nil => exact h
  | append_singleton moves last ih =>
    obtain ⟨hbefore, hnow⟩ := hlasts.of_concat
    rw [run_concat]
    exact (ih hbefore).move hnow

theorem contains_run (h : live.UnderWay opening request) {moves : List Move}
    (hlasts : live.Lasts moves) (participant : Nat) :
    (live.run moves).arena.submissions.contains participant =
      moves.foldl (Move.keepsHere opening participant)
        (live.arena.submissions.contains participant) := by
  induction moves using List.reverseRecOn with
  | nil => rfl
  | append_singleton moves last ih =>
    obtain ⟨hbefore, hnow⟩ := hlasts.of_concat
    rw [run_concat, List.foldl_concat, (h.run hbefore).contains_move hnow, ih hbefore]

theorem unrecorded_run (h : live.UnderWay opening request) {moves : List Move}
    (hlasts : live.Lasts moves) {participant : Nat} (hdeparts : .depart participant ∈ moves) :
    (live.run moves).arena.Unrecorded participant := by
  induction moves using List.reverseRecOn with
  | nil => contradiction
  | append_singleton moves last ih =>
    obtain ⟨hbefore, hnow⟩ := hlasts.of_concat
    rw [run_concat]
    rcases List.mem_append.mp hdeparts with hearlier | hlast
    · exact (h.run hbefore).unrecorded_move hnow (ih hbefore hearlier)
    · rw [← List.mem_singleton.mp hlast]
      exact Arena.unrecorded_depart _ participant

end UnderWay

end LiveArena

/-! ## The end of a tick -/

namespace Arena

/-- A participant is passed by: it has no result, and its performance is what it was. -/
structure Spares (before after : Arena) (participant : Nat) : Prop where
  result : after.standings.get? participant = none
  performance : after.performances.get? participant = before.performances.get? participant

/-- A standing becomes the result of a participant and is added to its performance. -/
structure Credits (before after : Arena) (participant : Nat) (standing : Standing) : Prop where
  result : after.standings.get? participant = some standing
  performance : after.performances.get? participant =
    some (((before.performances.get? participant).getD .none).record standing)

namespace Publishes

variable {opening arena after : Arena} {request : Request} {evaluation : Evaluation}
  {publication : Publication} {participant : Nat}

theorem spares (h : arena.Publishes evaluation publication after)
    (hnone : publication.standing? participant = none) : arena.Spares after participant := by
  constructor
  · rw [h.standings, hnone]
  · rw [h.performances, hnone]
    rfl

theorem credits (h : arena.Publishes evaluation publication after) {standing : Standing}
    (hsome : publication.standing? participant = some standing) :
    arena.Credits after participant standing := by
  constructor
  · rw [h.standings, hsome]
  · rw [h.performances, hsome]
    rfl

theorem unrecorded_iff (h : arena.Publishes evaluation publication after)
    (hnothing : arena.Unrecorded participant) :
    after.Unrecorded participant ↔ publication.standing? participant = none := by
  constructor
  · rintro ⟨hresult, -⟩
    rwa [h.standings] at hresult
  · intro hnone
    have hspares := h.spares hnone
    exact ⟨hspares.result, hspares.performance.trans hnothing.2⟩

theorem report_eq (h : arena.Publishes evaluation publication after)
    (hrequest : evaluation.request = request)
    (hreports : arena.reports evaluation = opening.allReports request)
    {standing : Standing} (hsome : publication.standing? participant = some standing) :
    ∃ submission, opening.submissions.get? participant = some submission ∧
      standing.report = opening.evaluate participant request.tick submission.slots := by
  have hbegun := h.begun
  obtain ⟨hmem, rfl, -⟩ := Publication.mem_of_standing?_eq_some hsome
  rw [hreports] at hbegun
  rw [Publication.standings, h.request, hrequest] at hmem
  have hcomputed : standing.evaluated ∈ publication.computed :=
    (mem_map_evaluated_rankAll request _).mp (List.mem_map_of_mem hmem)
  obtain ⟨⟨participant, submission⟩, hrow, heq⟩ := List.mem_map.mp (hbegun.subset hcomputed)
  obtain ⟨rfl, hreport⟩ := Prod.mk.inj heq
  exact ⟨submission, (Rows.mem_iff_get?_eq_some opening.submissions.ascending).mp hrow,
    hreport.symm⟩

/-- If the time suffices, whoever is here at the end of a tick gets the result of the sequence
of the opening, whatever has happened to that sequence since. -/
theorem report_of_inTime (h : arena.Publishes evaluation publication after)
    (hrequest : evaluation.request = request)
    (htotal : evaluation.total = opening.submissions.size)
    (hreports : arena.reports evaluation = opening.allReports request)
    (hinTime : publication.summary.timedOut = false) {submission : Submission}
    (hsubmission : opening.submissions.get? participant = some submission)
    (hhere : arena.submissions.contains participant) :
    ∃ standing, publication.standing? participant = some standing ∧
      standing.report = opening.evaluate participant request.tick submission.slots := by
  have hrow := (Rows.mem_iff_get?_eq_some opening.submissions.ascending).mpr hsubmission
  have hsome : evaluation.total ≠ 0 := by
    rw [htotal]
    exact (List.length_pos_of_mem hrow).ne'
  have hstandings : publication.standings = rankAll request (opening.allReports request) := by
    rw [Publication.standings, h.whole hsome hinTime, h.request, hrequest, hreports]
  have hreported : (participant, opening.evaluate participant request.tick submission.slots) ∈
      opening.allReports request := mem_allReports hsubmission
  obtain ⟨standing, hstanding, heq⟩ :=
    List.mem_map.mp ((mem_map_evaluated_rankAll request _).mpr hreported)
  obtain ⟨rfl, hreport⟩ := Prod.mk.inj heq
  refine ⟨standing, ?_, hreport⟩
  rw [Publication.standing?, h.present, if_pos hhere, hstandings]
  exact find?_participant_of_mem
    (nodup_participant_rankAll _ (opening.nodup_allReports request)) hstanding

end Publishes

end Arena

namespace LiveArena

/-- The end of a tick writes nothing of a participant but the report of the sequence that was
stored for it at the opening, submitted since it last departed.  Those who depart in the
middle of the tick are left without any record if and only if each of them that was computed
has stayed away. -/
theorem departures_final_iff (catalog : Catalog) (settings : Settings) (ownership : Ownership)
    (moves between : List Move) {request : Request} {now : Instant} {readings : Readings}
    {start last : LiveArena}
    (hstart : (idle (.create catalog settings ownership)).run moves = start)
    (hidle : start.running = none) (hlasts : (start.openTick request now).Lasts between)
    (hlast : (start.openTick request now).run between = last)
    (hends : (last.takeBatch readings).running = none) :
    let after := (last.takeBatch readings).arena
    ∃ publication, (last.takeBatch readings).history = last.history ++ [.published publication] ∧
      (∀ participant, last.arena.Spares after participant ∨
        ∃ submission standing, start.arena.submissions.get? participant = some submission ∧
          Filed moves participant submission ∧
          standing.report = start.arena.evaluate participant request.tick submission.slots ∧
          last.arena.Credits after participant standing) ∧
      ((∀ participant, .depart participant ∈ between → after.Unrecorded participant) ↔
        ∀ participant, .depart participant ∈ between →
          participant ∈ publication.standings.map Standing.participant →
            start.arena.hosts participant between = false) := by
  intro after
  have hopened := underWay_openTick hidle (hlasts [] List.nil_prefix)
  have hunderWay := hopened.run hlasts
  have hhosts := hopened.contains_run hlasts
  have hnothing : ∀ participant, .depart participant ∈ between →
      ((start.openTick request now).run between).arena.Unrecorded participant :=
    fun _ => hopened.unrecorded_run hlasts
  rw [hlast] at hunderWay hhosts hnothing
  rw [arena_openTick] at hhosts
  obtain ⟨evaluation, publication, arena, htaken, hpublishes, hrequest, -, hreports⟩ :=
    hunderWay.takeBatch_publishes hends
  have hafter : after = arena := congrArg LiveArena.arena htaken
  rw [hafter]
  refine ⟨publication, congrArg history htaken, fun participant => ?_, ?_⟩
  · cases hstanding : publication.standing? participant with
    | none => exact .inl (hpublishes.spares hstanding)
    | some standing =>
      obtain ⟨submission, hsubmission, hreport⟩ :=
        hpublishes.report_eq hrequest hreports hstanding
      exact .inr ⟨submission, standing, hsubmission, filed_of_run (hstart ▸ hsubmission),
        hreport, hpublishes.credits hstanding⟩
  · -- Until its end the tick has stored nothing of the departed.
    refine forall₂_congr fun participant hdeparts => ?_
    rw [hpublishes.unrecorded_iff (hnothing participant hdeparts),
      Publication.standing?_eq_none_iff, hpublishes.present, hhosts]
    rfl

/-- Two participants in an arena that takes one at a time. -/
def couple : LiveArena :=
  (idle (.create ⟨[Standard.emberCore, Standard.vanguardCore], .standard⟩
    { Settings.standard with batchSize := 1 } .everyone)).run
      [.submit 1 ⟨[some (.plain "ember_core")], "old"⟩,
        .submit 2 ⟨[some (.plain "ember_core")], "other"⟩]

/-- The first participant departs after its batch, and what it then submits is refused. -/
theorem couple_departures_final :
    let between : List Move := [.takeBatch fun _ => 0, .depart 1,
      .submit 1 ⟨[some (.plain "unheard_of")], "new"⟩]
    let last := (couple.openTick (.regular 1) 0).run between
    couple.running = none ∧ (couple.openTick (.regular 1) 0).Lasts between ∧
      (last.takeBatch fun _ => 0).running = none ∧ .depart 1 ∈ between ∧
      (last.takeBatch fun _ => 0).arena.Unrecorded 1 := by
  intro between last
  have hidle : couple.running = none := Option.isNone_iff_eq_none.mp (by decide +kernel)
  have hlasts : (couple.openTick (.regular 1) 0).Lasts between := by decide +kernel
  have hends : (last.takeBatch fun _ => 0).running = none :=
    Option.isNone_iff_eq_none.mp (by decide +kernel)
  have hdeparts : Move.depart 1 ∈ between := by simp [between]
  have haway : couple.arena.hosts 1 between = false := by decide +kernel
  obtain ⟨publication, -, -, hfinal⟩ :=
    departures_final_iff _ _ _ _ between (rfl : _ = couple) hidle hlasts rfl hends
  have hstays : ∀ participant, .depart participant ∈ between →
      participant ∈ publication.standings.map Standing.participant →
        couple.arena.hosts participant between = false := by
    intro participant hparticipant _
    obtain rfl : participant = 1 := by simpa [between] using hparticipant
    exact haway
  exact ⟨hidle, hlasts, hends, hdeparts, hfinal.mpr hstays 1 hdeparts⟩

/-- The first participant departs after its batch and comes back with another sequence.  The
result of the old one is stored for it. -/
theorem couple_departure_undone :
    let old : Slots := [some (.plain "ember_core")]
    let new : Slots := [some (.plain "vanguard_core")]
    let between : List Move := [.takeBatch fun _ => 0, .depart 1, .submit 1 ⟨new, "new"⟩]
    let last := (couple.openTick (.regular 1) 0).run between
    let after := (last.takeBatch fun _ => 0).arena
    last.arena.Unrecorded 1 ∧ (last.arena.submissions.get? 1).map Submission.slots = some new ∧
      ∃ standing, last.arena.Credits after 1 standing ∧
        standing.report = couple.arena.evaluate 1 1 old ∧
        standing.report ≠ couple.arena.evaluate 1 1 new := by
  intro old new between last after
  have hidle : couple.running = none := Option.isNone_iff_eq_none.mp (by decide +kernel)
  have hlasts : (couple.openTick (.regular 1) 0).Lasts between := by decide +kernel
  have hends : (last.takeBatch fun _ => 0).running = none :=
    Option.isNone_iff_eq_none.mp (by decide +kernel)
  have hopened : (couple.openTick (.regular 1) 0).UnderWay couple.arena (.regular 1) :=
    underWay_openTick hidle (hlasts [] List.nil_prefix)
  obtain ⟨evaluation, publication, arena, htaken, hpublishes, hrequest, htotal, hreports⟩ :=
    (hopened.run hlasts).takeBatch_publishes hends
  have hinTime : publication.summary.timedOut = false := by
    have hall : ∀ publication ∈ (last.takeBatch fun _ => 0).publications,
        publication.summary.timedOut = false := by decide +kernel
    rw [htaken, publications_published] at hall
    exact hall publication (by simp)
  have hsubmission : couple.arena.submissions.get? 1 = some ⟨old, "old"⟩ := by decide +kernel
  have hhere : last.arena.submissions.contains 1 := by decide +kernel
  obtain ⟨standing, hstanding, hreport⟩ :=
    hpublishes.report_of_inTime hrequest htotal hreports hinTime hsubmission hhere
  have hafter : after = arena := congrArg LiveArena.arena htaken
  refine ⟨hopened.unrecorded_run hlasts (by simp [between]), by decide +kernel, standing,
    hafter ▸ hpublishes.credits hstanding, hreport, fun hsame => ?_⟩
  have hdamage : (couple.arena.evaluate 1 1 old).totalDamage ≠
      (couple.arena.evaluate 1 1 new).totalDamage := by decide +kernel
  exact hdamage (congrArg Report.totalDamage (hreport.symm.trans hsame))

end LiveArena

end TickArena

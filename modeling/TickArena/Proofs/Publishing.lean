import TickArena.Proofs.EvaluationRuns

/-!
# What a tick leaves behind

The last step of an evaluation ranks what has been computed, puts it in place of the
results of the tick before, and adds it to the performances.  Whoever is not here at that
moment gets an announcement and nothing else.
-/

namespace TickArena

/-- What a tick makes public: the results it announces and a summary, with the reports that
it has computed and the submissions of that moment. -/
structure Publication where
  request : Request
  computed : List Evaluated
  results : List FinalResult
  summary : Summary
  present : Table Nat Submission

/-- Everyone whose report was computed, in the order of the ranks. -/
def Publication.standings (publication : Publication) : List Standing :=
  rankAll publication.request publication.computed

/-- The standing that is kept for a participant, if it was computed and is still here. -/
def Publication.standing? (publication : Publication) (participant : Nat) : Option Standing :=
  if publication.present.contains participant then
    publication.standings.find? (·.participant = participant)
  else none

theorem Publication.mem_of_standing?_eq_some {publication : Publication} {participant : Nat}
    {standing : Standing} (h : publication.standing? participant = some standing) :
    standing ∈ publication.standings ∧ standing.participant = participant ∧
      publication.present.contains participant := by
  unfold standing? at h
  split_ifs at h with hpresent
  exact ⟨List.mem_of_find?_eq_some h, by simpa using List.find?_some h, hpresent⟩

theorem Publication.standing?_eq_none_iff {publication : Publication} {participant : Nat} :
    publication.standing? participant = none ↔
      (participant ∈ publication.standings.map Standing.participant →
        publication.present.contains participant = false) := by
  unfold standing?
  by_cases hpresent : publication.present.contains participant
  · rw [if_pos hpresent]
    simp [hpresent]
  · rw [if_neg hpresent]
    simp [hpresent]

namespace Arena

/-! ## Performances -/

/-- A standing is recorded for its participant, if that is still here, and for nobody else. -/
theorem get?_performances_store (arena : Arena) (standing : Standing) (participant : Nat) :
    (arena.store standing).performances.get? participant =
      if arena.submissions.contains participant ∧ standing.participant = participant then
        some (((arena.performances.get? participant).getD .none).record standing)
      else arena.performances.get? participant := by
  unfold store
  by_cases hsame : standing.participant = participant
  · subst hsame
    split_ifs with hcontains <;> simp_all
  · have hother : ¬ (arena.submissions.contains participant ∧
        standing.participant = participant) := fun h => hsame h.2
    rw [if_neg hother]
    split_ifs
    · exact Table.get?_insert_of_ne _ _ (Ne.symm hsame)
    · rfl

theorem get?_performances_foldl_store (arena : Arena) {standings : List Standing}
    (hdistinct : (standings.map Standing.participant).Nodup) (participant : Nat) :
    (standings.foldl store arena).performances.get? participant =
      if arena.submissions.contains participant then
        ((standings.find? (·.participant = participant)).map
          ((arena.performances.get? participant).getD .none).record).or
            (arena.performances.get? participant)
      else arena.performances.get? participant := by
  induction standings generalizing arena with
  | nil => simp
  | cons standing later ih =>
    obtain ⟨hnew, hdistinct⟩ := List.nodup_cons.mp hdistinct
    rw [List.foldl_cons, ih _ hdistinct, submissions_store, get?_performances_store]
    by_cases hcontains : arena.submissions.contains participant
    · by_cases hsame : standing.participant = participant
      · have hlater := find?_participant_of_not_mem (hsame ▸ hnew)
        simp [hcontains, hsame, hlater]
      · simp [hcontains, hsame]
    · simp [hcontains]

/-- Storing touches the results and the performances only. -/
theorem foldl_store_eq (arena : Arena) (standings : List Standing) :
    standings.foldl store arena =
      { arena with
        standings := (standings.foldl store arena).standings
        performances := (standings.foldl store arena).performances } := by
  induction standings generalizing arena with
  | nil => rfl
  | cons standing later ih =>
    rw [List.foldl_cons, ih]
    unfold store
    split_ifs <;> rfl

/-- A publication writes results, performances and counts, and nothing else. -/
theorem publish_eq (arena : Arena) (evaluation : Evaluation) (timedOut : Bool) :
    let after := (arena.publish evaluation timedOut).1
    after = { arena with
      standings := after.standings
      performances := after.performances
      highestDamage := after.highestDamage
      ticksProcessed := after.ticksProcessed } := by
  have hstored := foldl_store_eq { arena with standings := ∅ }
    (rankAll evaluation.request evaluation.computed)
  unfold publish storeAll
  dsimp only
  rw [hstored]

theorem step_eq (arena : Arena) (evaluation : Evaluation) (readings : Readings) :
    let after := (arena.step evaluation readings).arena
    after = { arena with
      standings := after.standings
      performances := after.performances
      highestDamage := after.highestDamage
      ticksProcessed := after.ticksProcessed } := by
  by_cases htotal : evaluation.total = 0
  · rw [step, if_pos htotal]
    rfl
  · rcases arena.step_cases htotal readings with
      ⟨last, sent, timedOut, hstep, -, -⟩ | ⟨following, sent, hstep, -, -⟩
    · rw [hstep]
      exact arena.publish_eq last timedOut
    · rw [hstep]

/-! ## The last step -/

/-- What the next step of an evaluation makes public, if it is the last one. -/
def publication (arena : Arena) (evaluation : Evaluation) (readings : Readings)
    (summary : Summary) : Publication where
  request := evaluation.request
  computed := arena.computedAfter evaluation readings
  results := finalResults (arena.step evaluation readings).sent
  summary := summary
  present := arena.submissions

/-- All that the last step of an evaluation does to an arena. -/
structure Publishes (arena : Arena) (evaluation : Evaluation) (publication : Publication)
    (after : Arena) : Prop where
  request : publication.request = evaluation.request
  begun : publication.computed <+: arena.reports evaluation
  whole : evaluation.total ≠ 0 → publication.summary.timedOut = false →
    publication.computed = arena.reports evaluation
  results : publication.results = publication.standings.map FinalResult.ofStanding
  topDamage : publication.summary.topDamage =
    (publication.standings.head?.map Standing.totalDamage).getD 0
  tick : publication.summary.tick = evaluation.request.tick
  present : publication.present = arena.submissions
  standings : ∀ participant,
    after.standings.get? participant = publication.standing? participant
  performances : ∀ participant, after.performances.get? participant =
    ((publication.standing? participant).map
      ((arena.performances.get? participant).getD .none).record).or
        (arena.performances.get? participant)
  ticksProcessed : after.ticksProcessed = arena.ticksProcessed + 1
  highestDamage :
    after.highestDamage = Double.larger arena.highestDamage publication.summary.topDamage ∨
      after.highestDamage = arena.highestDamage ∧ publication.summary.topDamage = 0
  submissions : after.submissions = arena.submissions

theorem publishes_publish {arena : Arena} {evaluation last : Evaluation} {readings : Readings}
    {timedOut : Bool} (hlast : arena.Concludes evaluation readings last timedOut)
    (hdistinct : ((arena.reports evaluation).map Prod.fst).Nodup) :
    let (after, sent, summary) := arena.publish last timedOut
    arena.Publishes evaluation
      ⟨last.request, last.computed, finalResults sent, summary, arena.submissions⟩ after := by
  have hcomputed : (last.computed.map Prod.fst).Nodup :=
    (hlast.begun.map Prod.fst).sublist.nodup hdistinct
  have hparticipants := nodup_participant_rankAll last.request hcomputed
  have hstored := foldl_store_eq { arena with standings := ∅ }
    (rankAll last.request last.computed)
  constructor
  · exact hlast.request
  · exact hlast.begun
  · exact fun _ => hlast.computed
  · exact finalResults_publish arena last timedOut
  · rfl
  · exact congrArg Request.tick hlast.request
  · rfl
  · exact arena.get?_standings_storeAll hparticipants
  · intro participant
    change ((rankAll last.request last.computed).foldl store
      { arena with standings := ∅ }).performances.get? participant = _
    rw [get?_performances_foldl_store _ hparticipants]
    unfold Publication.standing?
    dsimp only
    split_ifs <;> rfl
  · change ((rankAll last.request last.computed).foldl store
      { arena with standings := ∅ }).ticksProcessed + 1 = _
    rw [hstored]
  · left
    change Double.larger ((rankAll last.request last.computed).foldl store
      { arena with standings := ∅ }).highestDamage _ = _
    rw [hstored]
  · change ((rankAll last.request last.computed).foldl store
      { arena with standings := ∅ }).submissions = _
    rw [hstored]

theorem publishes_publishEmpty (arena : Arena) {evaluation : Evaluation}
    (htotal : evaluation.total = 0) :
    arena.Publishes evaluation
      ⟨evaluation.request, [], [], .empty evaluation.request.tick, arena.submissions⟩
      (arena.publishEmpty evaluation.request.tick).arena := by
  have hstandings : rankAll evaluation.request [] = [] := by simp [rankAll]
  have hnone : ∀ participant, Publication.standing?
      ⟨evaluation.request, [], [], .empty evaluation.request.tick, arena.submissions⟩
        participant = none := by
    intro participant
    unfold Publication.standing? Publication.standings
    rw [hstandings]
    split_ifs <;> rfl
  constructor
  · rfl
  · exact List.nil_prefix
  · exact fun hsome => absurd htotal hsome
  · simp [Publication.standings, hstandings]
  · simp only [Publication.standings, hstandings]
    rfl
  · rfl
  · rfl
  · exact fun participant => (hnone participant).symm
  · intro participant
    rw [hnone]
    rfl
  · rfl
  · exact .inr ⟨rfl, rfl⟩
  · rfl

theorem step_publishes {arena : Arena} {evaluation : Evaluation} {readings : Readings}
    {summary : Summary} (hdistinct : ((arena.reports evaluation).map Prod.fst).Nodup)
    (h : (arena.step evaluation readings).progress = .finished summary) :
    arena.Publishes evaluation (arena.publication evaluation readings summary)
      (arena.step evaluation readings).arena := by
  unfold publication
  by_cases htotal : evaluation.total = 0
  · have hstep : arena.step evaluation readings = arena.publishEmpty evaluation.request.tick :=
      if_pos htotal
    have hcomputed : arena.computedAfter evaluation readings = [] := if_pos htotal
    rw [hstep] at h ⊢
    obtain rfl := Progress.finished.inj h
    rw [hcomputed]
    exact arena.publishes_publishEmpty htotal
  · rcases arena.step_cases htotal readings with
      ⟨last, sent, timedOut, hstep, hsent, hlast⟩ | ⟨following, sent, hstep, -, -⟩
    · rw [hstep] at h ⊢
      obtain rfl := Progress.finished.inj h
      dsimp only
      rw [finalResults_append, hsent, List.nil_append, ← hlast.request, ← hlast.taken]
      exact publishes_publish hlast hdistinct
    · rw [hstep] at h
      contradiction

end Arena

end TickArena

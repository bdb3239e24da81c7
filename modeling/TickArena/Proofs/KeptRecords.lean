import TickArena.Proofs.ArenaRuns

/-!
# Records that agree

The results, the performances and the counts of an arena are updated by submissions,
departures and publications.  After any run they are what the history says: the results
are those of the last publication without the departed, a performance sums up everything
since its participant last came, and the counts go over all publications.
-/

namespace TickArena

/-! ## The greatest damage -/

/-- The greatest of some damages that is more than none. -/
def greatest (damages : List Float) : Float :=
  damages.foldl Double.larger 0

theorem greatest_concat (damages : List Float) (damage : Float) :
    greatest (damages ++ [damage]) = Double.larger (greatest damages) damage :=
  List.foldl_concat ..

theorem greatest_eq_zero_or_pos (damages : List Float) :
    greatest damages = 0 ∨ 0 < greatest damages := by
  induction damages using List.reverseRecOn with
  | nil => exact .inl rfl
  | append_singleton damages damage ih =>
    have hnumber : ¬ (greatest damages).isNaN := by
      rcases ih with hzero | hpos
      · exact hzero ▸ Double.not_isNaN_zero
      · exact Double.not_isNaN_of_pos hpos
    rw [greatest_concat, Double.larger, if_neg hnumber]
    split_ifs with hless
    · right
      rcases ih with hzero | hpos
      · rwa [hzero] at hless
      · exact Double.lt_trans hpos hless
    · exact ih

theorem larger_greatest_zero (damages : List Float) :
    Double.larger (greatest damages) 0 = greatest damages := by
  rcases greatest_eq_zero_or_pos damages with hzero | hpos
  · rw [hzero]
    decide +kernel
  · obtain ⟨-, hnumber, hkey⟩ := (Double.lt_iff _ _).mp hpos
    have hless : ¬ greatest damages < 0 := fun h =>
      absurd ((Double.lt_iff _ _).mp h).2.2 hkey.asymm
    rw [Double.larger, if_neg hnumber, if_neg hless]

/-! ## What the history says -/

namespace Performance

/-- The performance of a participant with some standings, in their order. -/
def ofStandings (standings : List Standing) : Performance where
  ticks := standings.length
  bestDamage := greatest (standings.map Standing.totalDamage)
  cumulativeDamage := (standings.map Standing.totalDamage).foldl (· + ·) 0
  lastRank := standings.getLast?.map Standing.rank

/-- Without standings there is no performance. -/
def ofStandings? (standings : List Standing) : Option Performance :=
  if standings = [] then Option.none else some (ofStandings standings)

theorem ofStandings_concat (standings : List Standing) (standing : Standing) :
    ofStandings (standings ++ [standing]) = (ofStandings standings).record standing := by
  simp [ofStandings, record, greatest_concat]

theorem ofStandings?_concat (standings : List Standing) (standing : Standing) :
    ofStandings? (standings ++ [standing]) =
      some (((ofStandings? standings).getD .none).record standing) := by
  have hbefore : (ofStandings? standings).getD .none = ofStandings standings := by
    unfold ofStandings?
    split_ifs with hempty
    · subst hempty
      rfl
    · rfl
  rw [hbefore, ← ofStandings_concat]
  exact if_neg (by simp)

theorem ofStandings?_eq_some {standings : List Standing} {performance : Performance}
    (h : ofStandings? standings = some performance) :
    standings ≠ [] ∧ performance = ofStandings standings := by
  unfold ofStandings? at h
  split_ifs at h with hempty
  exact ⟨hempty, (Option.some.inj h).symm⟩

end Performance

namespace Incident

/-- The standings kept for a participant, after one more incident. -/
def keep (participant : Nat) (kept : List Standing) : Incident → List Standing
  | departed other => if other = participant then [] else kept
  | published publication => kept ++ (publication.standing? participant).toList

/-- The result of a participant, after one more incident. -/
def replace (participant : Nat) (result : Option Standing) : Incident → Option Standing
  | departed other => if other = participant then none else result
  | published publication => publication.standing? participant

end Incident

namespace LiveArena

/-- The standings of a participant in the ticks since it last departed whose publication
found it computed and still here. -/
def kept (live : LiveArena) (participant : Nat) : List Standing :=
  live.history.foldl (Incident.keep participant) []

def result? (live : LiveArena) (participant : Nat) : Option Standing :=
  live.history.foldl (Incident.replace participant) none

theorem getLast?_kept {live : LiveArena} {participant : Nat} {standing : Standing}
    (h : live.result? participant = some standing) :
    (live.kept participant).getLast? = some standing := by
  obtain ⟨arena, running, history⟩ := live
  simp only [result?, kept] at h ⊢
  induction history using List.reverseRecOn with
  | nil => contradiction
  | append_singleton history incident ih =>
    rw [List.foldl_concat] at h ⊢
    cases incident with
    | departed other =>
      simp only [Incident.replace, Incident.keep] at h ⊢
      split_ifs at h ⊢
      exact ih h
    | published publication =>
      simp only [Incident.replace, Incident.keep] at h ⊢
      simp [h]

theorem exists_publication_of_result? {live : LiveArena} {participant : Nat}
    {standing : Standing} (h : live.result? participant = some standing) :
    ∃ publication, live.publications.getLast? = some publication ∧
      publication.standing? participant = some standing := by
  obtain ⟨arena, running, history⟩ := live
  simp only [result?, publications] at h ⊢
  induction history using List.reverseRecOn with
  | nil => contradiction
  | append_singleton history incident ih =>
    rw [List.foldl_concat] at h
    rw [List.filterMap_append]
    cases incident with
    | departed other =>
      simp only [Incident.replace] at h
      split_ifs at h
      simpa [Incident.publication?] using ih h
    | published publication =>
      exact ⟨publication, by simp [Incident.publication?], h⟩

theorem length_kept_le (live : LiveArena) (participant : Nat) :
    (live.kept participant).length ≤ live.publications.length := by
  obtain ⟨arena, running, history⟩ := live
  simp only [kept, publications]
  induction history using List.reverseRecOn with
  | nil => exact le_rfl
  | append_singleton history incident ih =>
    rw [List.foldl_concat, List.filterMap_append, List.length_append]
    cases incident with
    | departed other =>
      simp only [Incident.keep]
      split_ifs
      · exact Nat.zero_le _
      · exact ih.trans (Nat.le_add_right _ _)
    | published publication =>
      have hone : (publication.standing? participant).toList.length ≤ 1 :=
        Option.length_toList_le
      simp only [Incident.keep, List.length_append]
      exact Nat.add_le_add ih hone

end LiveArena

/-! ## The tables say the same -/

/-- A publication ranks the reports that its tick has computed, announces them in that order
and keeps those of the participants who are still here. -/
structure Publication.Lawful (publication : Publication) : Prop where
  ranked : Ranked publication.request publication.computed publication.standings
  results : publication.results =
    (rankAll publication.request publication.computed).map FinalResult.ofStanding
  topDamage : publication.summary.topDamage =
    (publication.standings.head?.map Standing.totalDamage).getD 0
  tick : publication.summary.tick = publication.request.tick
  keeps : ∀ participant, (publication.standing? participant).isSome ↔
    publication.present.contains participant ∧
      participant ∈ publication.computed.map Prod.fst

theorem Publication.tick_of_mem_standings {publication : Publication} {standing : Standing}
    (h : standing ∈ publication.standings) : standing.tick = publication.request.tick := by
  obtain ⟨evaluated, rank, rfl⟩ := exists_of_mem_rankAll _ _ h
  rfl

theorem Publication.mem_participants_iff (publication : Publication) (participant : Nat) :
    participant ∈ publication.standings.map Standing.participant ↔
      participant ∈ publication.computed.map Prod.fst := by
  have hmap : publication.standings.map Standing.participant =
      (publication.computed.mergeSort Standing.precedes).map Prod.fst := by
    rw [← map_evaluated_rankAll publication.request, List.map_map]
    rfl
  rw [hmap, ((List.mergeSort_perm ..).map Prod.fst).mem_iff]

theorem Publication.isSome_standing?_iff (publication : Publication) (participant : Nat) :
    (publication.standing? participant).isSome ↔ publication.present.contains participant ∧
      participant ∈ publication.computed.map Prod.fst := by
  rw [Option.isSome_iff_ne_none, Ne, standing?_eq_none_iff, mem_participants_iff, Classical.not_imp,
    Bool.not_eq_false, and_comm]

theorem Arena.Publishes.lawful {arena after : Arena} {evaluation : Evaluation}
    {publication : Publication} (h : arena.Publishes evaluation publication after)
    (hdistinct : ((arena.reports evaluation).map Prod.fst).Nodup) : publication.Lawful where
  ranked := ranked_rankAll _ ((h.begun.map Prod.fst).sublist.nodup hdistinct)
  results := h.results
  topDamage := h.topDamage
  tick := by rw [h.tick, h.request]
  keeps := publication.isSome_standing?_iff

namespace LiveArena

structure Recorded (live : LiveArena) : Prop where
  standings : ∀ participant,
    live.arena.standings.get? participant = live.result? participant
  performances : ∀ participant, live.arena.performances.get? participant =
    Performance.ofStandings? (live.kept participant)
  present : ∀ participant, live.kept participant ≠ [] →
    live.arena.submissions.contains participant
  ticksProcessed : live.arena.ticksProcessed = live.publications.length
  highestDamage : live.arena.highestDamage =
    greatest (live.publications.map (·.summary.topDamage))
  lawful : ∀ publication ∈ live.publications, publication.Lawful
  distinct : live.Distinct

theorem recorded_idle (catalog : Catalog) (settings : Settings) (ownership : Ownership) :
    (idle (.create catalog settings ownership)).Recorded where
  standings := fun _ => rfl
  performances := fun _ => rfl
  present := fun _ h => absurd rfl h
  ticksProcessed := rfl
  highestDamage := rfl
  lawful := by simp [publications, idle]
  distinct := by simp [Distinct, idle]

namespace Recorded

variable {live : LiveArena}

theorem submit (h : live.Recorded) (participant : Nat) (submission : Submission) :
    (live.submit participant submission).Recorded := by
  rcases live.submit_cases participant submission with hsame | hstored
  · rwa [hsame]
  · rw [hstored]
    refine { h with present := ?_ }
    intro other hkept
    have hbefore := h.present other hkept
    unfold Table.contains at hbefore ⊢
    by_cases hsame : other = participant
    · simp [hsame]
    · rwa [Table.get?_insert_of_ne _ _ hsame]

theorem depart (h : live.Recorded) (participant : Nat) : (live.depart participant).Recorded := by
  have hkept : ∀ other, (live.depart participant).kept other =
      if participant = other then [] else live.kept other :=
    fun other => List.foldl_concat ..
  have hresult : ∀ other, (live.depart participant).result? other =
      if participant = other then none else live.result? other :=
    fun other => List.foldl_concat ..
  have hpublications : (live.depart participant).publications = live.publications := by
    simp [publications, LiveArena.depart, Incident.publication?]
  refine ⟨fun other => ?_, fun other => ?_, fun other hsome => ?_, ?_, ?_, ?_, h.distinct⟩
  · rw [hresult]
    split_ifs with hsame
    · rw [← hsame]
      exact Table.get?_erase_self _ _
    · rw [← h.standings]
      exact Table.get?_erase_of_ne _ (Ne.symm hsame)
  · rw [hkept]
    split_ifs with hsame
    · rw [← hsame]
      exact Table.get?_erase_self _ _
    · rw [← h.performances]
      exact Table.get?_erase_of_ne _ (Ne.symm hsame)
  · rw [hkept] at hsome
    split_ifs at hsome with hsame
    · contradiction
    · have hbefore := h.present other hsome
      unfold Table.contains at hbefore ⊢
      rwa [← Table.get?_erase_of_ne _ (Ne.symm hsame)] at hbefore
  · rw [hpublications]
    exact h.ticksProcessed
  · rw [hpublications]
    exact h.highestDamage
  · rw [hpublications]
    exact h.lawful

theorem openTick (h : live.Recorded) (request : Request) (now : Instant) :
    (live.openTick request now).Recorded := by
  rcases live.openTick_cases request now with hsame | ⟨-, deadline, hopened⟩
  · rwa [hsame]
  · rw [hopened]
    refine { h with distinct := ?_ }
    rintro _ ⟨⟩
    change ((live.arena.reports (live.arena.opened request deadline)).map Prod.fst).Nodup
    rw [Arena.reports_opened]
    exact live.arena.nodup_allReports request

theorem publish (h : live.Recorded) {evaluation : Evaluation} {publication : Publication}
    {after : Arena} (hdistinct : ((live.arena.reports evaluation).map Prod.fst).Nodup)
    (hpublishes : live.arena.Publishes evaluation publication after) :
    (LiveArena.mk after none (live.history ++ [.published publication])).Recorded := by
  have hpublications := live.publications_published after publication
  have hkept : ∀ participant,
      (LiveArena.mk after none (live.history ++ [.published publication])).kept participant =
        live.kept participant ++ (publication.standing? participant).toList :=
    fun participant => List.foldl_concat ..
  have hresult : ∀ participant,
      (LiveArena.mk after none (live.history ++ [.published publication])).result? participant =
        publication.standing? participant :=
    fun participant => List.foldl_concat ..
  refine ⟨fun participant => ?_, fun participant => ?_, fun participant hsome => ?_, ?_, ?_, ?_,
    fun _ hnone => by contradiction⟩
  · rw [hresult]
    exact hpublishes.standings participant
  · rw [hkept]
    change after.performances.get? participant = _
    rw [hpublishes.performances, h.performances]
    cases publication.standing? participant with
    | none => simp
    | some standing => exact (Performance.ofStandings?_concat _ _).symm
  · rw [hkept] at hsome
    change after.submissions.contains participant = true
    rw [hpublishes.submissions]
    cases hstanding : publication.standing? participant with
    | none => exact h.present participant (by simpa [hstanding] using hsome)
    | some standing =>
      rw [← hpublishes.present]
      exact (Publication.mem_of_standing?_eq_some hstanding).2.2
  · rw [hpublications, List.length_append, ← h.ticksProcessed]
    exact hpublishes.ticksProcessed
  · rw [hpublications, List.map_append]
    change after.highestDamage = greatest (_ ++ [publication.summary.topDamage])
    rw [greatest_concat, ← h.highestDamage]
    -- A tick without submissions does not look at the greatest damage, but its own is zero.
    rcases hpublishes.highestDamage with hlarger | ⟨hsame, hzero⟩
    · exact hlarger
    · rw [hsame, hzero, h.highestDamage, larger_greatest_zero]
  · intro other hother
    rw [hpublications] at hother
    rcases List.mem_append.mp hother with hbefore | hlast
    · exact h.lawful other hbefore
    · rw [List.mem_singleton.mp hlast]
      exact hpublishes.lawful hdistinct

theorem takeBatch (h : live.Recorded) (readings : Readings) :
    (live.takeBatch readings).Recorded := by
  cases hrunning : live.running with
  | none => rwa [takeBatch_of_idle readings hrunning]
  | some evaluation =>
    have hdistinct := h.distinct evaluation hrunning
    rcases takeBatch_cases readings hrunning hdistinct with
      ⟨following, htaken, hcontinues⟩ | ⟨publication, after, htaken, hpublishes⟩
    · rw [htaken]
      refine { h with distinct := ?_ }
      rintro _ ⟨⟩
      change ((live.arena.reports following).map Prod.fst).Nodup
      rwa [hcontinues.reports]
    · rw [htaken]
      exact h.publish hdistinct hpublishes

theorem move (h : live.Recorded) (move : Move) : (live.move move).Recorded := by
  cases move with
  | submit participant submission => exact h.submit participant submission
  | depart participant => exact h.depart participant
  | openTick request now => exact h.openTick request now
  | takeBatch readings => exact h.takeBatch readings
  | abandon => exact { h with distinct := by simp [Distinct, LiveArena.move] }

theorem run (h : live.Recorded) (moves : List Move) : (live.run moves).Recorded := by
  induction moves using List.reverseRecOn with
  | nil => exact h
  | append_singleton moves last ih =>
    rw [run_concat]
    exact ih.move last

theorem performance_of_standing (h : live.Recorded) {participant : Nat} {standing : Standing}
    (hstanding : live.arena.standings.get? participant = some standing) :
    live.arena.performances.get? participant =
        some (.ofStandings (live.kept participant)) ∧
      (live.kept participant).getLast? = some standing := by
  rw [h.standings] at hstanding
  have hlast := getLast?_kept hstanding
  have hsome : live.kept participant ≠ [] := by
    intro hempty
    rw [hempty] at hlast
    contradiction
  exact ⟨(h.performances participant).trans (if_neg hsome), hlast⟩

theorem contains_of_performance (h : live.Recorded) {participant : Nat}
    {performance : Performance}
    (hperformance : live.arena.performances.get? participant = some performance) :
    live.arena.submissions.contains participant := by
  rw [h.performances] at hperformance
  exact h.present participant (Performance.ofStandings?_eq_some hperformance).1

theorem published_of_standing (h : live.Recorded) {participant : Nat} {standing : Standing}
    (hstanding : live.arena.standings.get? participant = some standing) :
    ∃ publication, live.publications.getLast? = some publication ∧ publication.Lawful ∧
      standing ∈ publication.standings ∧ standing.participant = participant := by
  rw [h.standings] at hstanding
  obtain ⟨publication, hlast, hfound⟩ := exists_publication_of_result? hstanding
  obtain ⟨hmem, hsame, -⟩ := Publication.mem_of_standing?_eq_some hfound
  exact ⟨publication, hlast, h.lawful _ (List.mem_of_getLast? hlast), hmem, hsame⟩

end Recorded

/-! ## How the tables agree -/

/-- The tables of an arena agree with each other and with its history. -/
structure Consistent (live : LiveArena) : Prop where
  published : ∀ publication ∈ live.publications, publication.Lawful
  results : ∀ participant,
    live.arena.standings.get? participant = live.result? participant
  present : ∀ participant,
    live.arena.standings.contains participant ∨ live.arena.performances.contains participant →
      live.arena.submissions.contains participant
  tick : ∀ participant standing,
    live.arena.standings.get? participant = some standing →
      ∃ publication, live.publications.getLast? = some publication ∧
        standing.tick = publication.summary.tick
  ranks : ∀ participant standing other standing',
    live.arena.standings.get? participant = some standing →
      live.arena.standings.get? other = some standing' →
        participant ≠ other → standing.rank ≠ standing'.rank
  lastRank : ∀ participant standing,
    live.arena.standings.get? participant = some standing →
      ∃ performance, live.arena.performances.get? participant = some performance ∧
        performance.lastRank = some standing.rank
  performances : ∀ participant, live.arena.performances.get? participant =
    Performance.ofStandings? (live.kept participant)
  ticks : ∀ participant performance,
    live.arena.performances.get? participant = some performance →
      performance.ticks ≤ live.arena.ticksProcessed
  ticksProcessed : live.arena.ticksProcessed = live.publications.length
  highestDamage : live.arena.highestDamage =
    greatest (live.publications.map (·.summary.topDamage))

/-- Whatever is submitted, whoever departs and however the ticks are cut short, the tables
agree. -/
theorem consistent_run (catalog : Catalog) (settings : Settings) (ownership : Ownership)
    (moves : List Move) : ((idle (.create catalog settings ownership)).run moves).Consistent := by
  have h := (recorded_idle catalog settings ownership).run moves
  generalize (idle (.create catalog settings ownership)).run moves = live at h
  refine ⟨h.lawful, h.standings, ?_, ?_, ?_, ?_, h.performances, ?_, h.ticksProcessed,
    h.highestDamage⟩
  · intro participant hholds
    rcases hholds with hstanding | hperformance
    · obtain ⟨standing, hstanding⟩ := Option.isSome_iff_exists.mp hstanding
      exact h.contains_of_performance (h.performance_of_standing hstanding).1
    · obtain ⟨performance, hperformance⟩ := Option.isSome_iff_exists.mp hperformance
      exact h.contains_of_performance hperformance
  · intro participant standing hstanding
    obtain ⟨publication, hlast, hlawful, hmem, -⟩ := h.published_of_standing hstanding
    exact ⟨publication, hlast, (Publication.tick_of_mem_standings hmem).trans hlawful.tick.symm⟩
  · rintro participant standing other standing' hstanding hstanding' hne hrank
    obtain ⟨publication, hlast, hlawful, hmem, rfl⟩ := h.published_of_standing hstanding
    obtain ⟨publication', hlast', -, hmem', rfl⟩ := h.published_of_standing hstanding'
    obtain rfl : publication = publication' := Option.some.inj (hlast.symm.trans hlast')
    have hranks : (publication.standings.map Standing.rank).Nodup := by
      rw [hlawful.ranked.rank]
      exact List.nodup_range'
    exact hne (congrArg Standing.participant
      (List.inj_on_of_nodup_map hranks hmem hmem' hrank))
  · intro participant standing hstanding
    obtain ⟨hperformance, hlast⟩ := h.performance_of_standing hstanding
    refine ⟨_, hperformance, ?_⟩
    rw [Performance.ofStandings, hlast]
    rfl
  · intro participant performance hperformance
    rw [h.performances] at hperformance
    obtain ⟨-, rfl⟩ := Performance.ofStandings?_eq_some hperformance
    rw [h.ticksProcessed]
    exact live.length_kept_le participant

end LiveArena

end TickArena

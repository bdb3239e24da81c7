import TickArena.Arena.Evaluation
import TickArena.Proofs.DoubleOrder

/-!
# Ranks

Publishing puts the computed reports in one order: more damage first, and of equal damage
the smaller participant.  The announced results, the summary, its leaderboard and the
stored standings are four views of that order, and the order in which the reports were
computed shows in none of them.
-/

namespace TickArena

namespace Standing

def evaluated (standing : Standing) : Evaluated :=
  (standing.participant, standing.report)

/-- More damage in the total order of doubles, or equal damage and a smaller number. -/
def Above (standing other : Standing) : Prop :=
  Double.orderKey other.baseDamage < Double.orderKey standing.baseDamage ∨
    Double.orderKey standing.baseDamage = Double.orderKey other.baseDamage ∧
      standing.participant < other.participant

theorem above_of_lt {standing other : Standing} (h : other.baseDamage < standing.baseDamage) :
    standing.Above other :=
  .inl ((Double.lt_iff _ _).mp h).2.2

theorem Above.asymm {standing other : Standing} (h : standing.Above other) :
    ¬ other.Above standing := by
  unfold Above at h ⊢
  omega

/-! ### The order of the evaluated -/

theorem precedes_iff (a b : Evaluated) : precedes a b = true ↔
    Double.orderKey b.2.totalDamage < Double.orderKey a.2.totalDamage ∨
      Double.orderKey a.2.totalDamage = Double.orderKey b.2.totalDamage ∧ a.1 ≤ b.1 := by
  simp [precedes]

theorem precedes_trans (a b c : Evaluated) (hab : precedes a b = true)
    (hbc : precedes b c = true) : precedes a c = true := by
  rw [precedes_iff] at hab hbc ⊢
  omega

theorem precedes_total (a b : Evaluated) : (precedes a b || precedes b a) = true := by
  rw [Bool.or_eq_true, precedes_iff, precedes_iff]
  omega

theorem fst_eq_of_precedes {a b : Evaluated} (hab : precedes a b = true)
    (hba : precedes b a = true) : a.1 = b.1 := by
  rw [precedes_iff] at hab hba
  omega

theorem pairwise_mergeSort_precedes (computed : List Evaluated) :
    (computed.mergeSort precedes).Pairwise fun a b => precedes a b = true :=
  List.pairwise_mergeSort precedes_trans precedes_total computed

/-- Distinct participants have one order, from wherever the sorting starts. -/
theorem mergeSort_precedes_congr {computed other : List Evaluated}
    (hdistinct : (computed.map Prod.fst).Nodup) (hperm : other.Perm computed) :
    other.mergeSort precedes = computed.mergeSort precedes := by
  have hsorted := (List.mergeSort_perm other precedes).trans hperm
  apply List.Perm.eq_of_pairwise _ (pairwise_mergeSort_precedes other)
    (pairwise_mergeSort_precedes computed)
    (hsorted.trans (List.mergeSort_perm computed precedes).symm)
  intro a b ha hb hab hba
  exact List.inj_on_of_nodup_map hdistinct (hsorted.mem_iff.mp ha)
    ((List.mergeSort_perm computed precedes).mem_iff.mp hb) (fst_eq_of_precedes hab hba)

end Standing

/-! ## Ranking -/

/-- The standings of computed reports under a request. -/
structure Ranked (request : Request) (computed : List Evaluated) (standings : List Standing) :
    Prop where
  rank : standings.map Standing.rank = List.range' 1 computed.length
  perm : (standings.map Standing.evaluated).Perm computed
  above : ∀ standing ∈ standings, ∀ other ∈ standings,
    standing.rank < other.rank ↔ standing.Above other
  more : ∀ standing ∈ standings, ∀ other ∈ standings,
    other.baseDamage < standing.baseDamage → standing.rank < other.rank
  base : ∀ standing ∈ standings, standing.baseDamage = standing.report.totalDamage
  total : ∀ standing ∈ standings,
    standing.totalDamage = standing.baseDamage * request.multiplier

section RankAll

variable (request : Request) (computed : List Evaluated)

theorem map_evaluated_rankAll :
    (rankAll request computed).map Standing.evaluated = computed.mergeSort Standing.precedes := by
  have hevaluated : Standing.evaluated ∘ (fun ranked : Evaluated × Nat =>
      Standing.ofEvaluated request ranked.1 ranked.2) = Prod.fst := rfl
  rw [rankAll, List.map_map, hevaluated, List.zipIdx_map_fst]

theorem mem_map_evaluated_rankAll {evaluated : Evaluated} :
    evaluated ∈ (rankAll request computed).map Standing.evaluated ↔ evaluated ∈ computed := by
  rw [map_evaluated_rankAll, List.mem_mergeSort]

theorem map_rank_rankAll :
    (rankAll request computed).map Standing.rank = List.range' 1 computed.length := by
  have hrank : Standing.rank ∘ (fun ranked : Evaluated × Nat =>
      Standing.ofEvaluated request ranked.1 ranked.2) = Prod.snd := rfl
  rw [rankAll, List.map_map, hrank, List.zipIdx_map_snd, List.length_mergeSort]

theorem exists_of_mem_rankAll {standing : Standing} (h : standing ∈ rankAll request computed) :
    ∃ evaluated rank, standing = .ofEvaluated request evaluated rank := by
  obtain ⟨ranked, -, rfl⟩ := List.mem_map.mp h
  exact ⟨_, _, rfl⟩

variable {computed}

/-- Of two standings the earlier one has the smaller rank and is above the later one. -/
theorem pairwise_rankAll (hdistinct : (computed.map Prod.fst).Nodup) :
    (rankAll request computed).Pairwise fun standing other =>
      standing.rank < other.rank ∧ standing.Above other := by
  have hrank : (rankAll request computed).Pairwise fun standing other =>
      standing.rank < other.rank := by
    rw [← @List.pairwise_map _ _ Standing.rank (· < ·), map_rank_rankAll]
    exact List.pairwise_lt_range'
  have hsorted : (computed.mergeSort Standing.precedes).Pairwise fun a b =>
      Standing.precedes a b = true ∧ a.1 ≠ b.1 := by
    refine (Standing.pairwise_mergeSort_precedes computed).and ?_
    rw [← List.pairwise_map (f := Prod.fst) (R := (· ≠ ·))]
    exact (((List.mergeSort_perm computed _).map Prod.fst).nodup_iff.mpr hdistinct)
  rw [← map_evaluated_rankAll request, List.pairwise_map] at hsorted
  refine (hrank.and hsorted).imp_of_mem ?_
  intro standing other hstanding hother ⟨hlt, hprecedes, hne⟩
  refine ⟨hlt, ?_⟩
  obtain ⟨evaluated, rank, rfl⟩ := exists_of_mem_rankAll _ _ hstanding
  obtain ⟨evaluated', rank', rfl⟩ := exists_of_mem_rankAll _ _ hother
  rw [Standing.precedes_iff] at hprecedes
  exact hprecedes.imp_right fun ⟨hequal, hle⟩ => ⟨hequal, lt_of_le_of_ne hle hne⟩

theorem rank_lt_iff_above (hdistinct : (computed.map Prod.fst).Nodup) {standing other : Standing}
    (hstanding : standing ∈ rankAll request computed) (hother : other ∈ rankAll request computed) :
    standing.rank < other.rank ↔ standing.Above other := by
  let Agree (a b : Standing) : Prop :=
    (a.rank < b.rank ↔ a.Above b) ∧ (b.rank < a.rank ↔ b.Above a)
  have hsymm : Std.Symm Agree := ⟨fun _ _ h => ⟨h.2, h.1⟩⟩
  have hself : ∀ a ∈ rankAll request computed, Agree a a := by
    intro a _
    have hiff : a.rank < a.rank ↔ a.Above a :=
      iff_of_false (lt_irrefl _) fun h => h.asymm h
    exact ⟨hiff, hiff⟩
  have hpairs : (rankAll request computed).Pairwise Agree :=
    (pairwise_rankAll request hdistinct).imp fun ⟨hlt, habove⟩ =>
      ⟨iff_of_true hlt habove, iff_of_false hlt.asymm habove.asymm⟩
  exact (hpairs.forall_of_forall hself hstanding hother).1

theorem ranked_rankAll (hdistinct : (computed.map Prod.fst).Nodup) :
    Ranked request computed (rankAll request computed) where
  rank := map_rank_rankAll request computed
  perm := by
    rw [map_evaluated_rankAll]
    exact List.mergeSort_perm computed _
  above := fun _ hstanding _ hother => rank_lt_iff_above request hdistinct hstanding hother
  more := fun _ hstanding _ hother hlt =>
    (rank_lt_iff_above request hdistinct hstanding hother).mpr (Standing.above_of_lt hlt)
  base := by
    intro standing hstanding
    obtain ⟨evaluated, rank, rfl⟩ := exists_of_mem_rankAll _ _ hstanding
    rfl
  total := by
    intro standing hstanding
    obtain ⟨evaluated, rank, rfl⟩ := exists_of_mem_rankAll _ _ hstanding
    rfl

theorem rankAll_congr {other : List Evaluated} (hdistinct : (computed.map Prod.fst).Nodup)
    (hperm : other.Perm computed) : rankAll request other = rankAll request computed := by
  rw [rankAll, rankAll, Standing.mergeSort_precedes_congr hdistinct hperm]

end RankAll

theorem nodup_participant_rankAll (request : Request) {computed : List Evaluated}
    (hdistinct : (computed.map Prod.fst).Nodup) :
    ((rankAll request computed).map Standing.participant).Nodup := by
  have hperm := (ranked_rankAll request hdistinct).perm.map Prod.fst
  rw [List.map_map] at hperm
  exact hperm.nodup_iff.mpr hdistinct

theorem find?_participant_of_mem {standings : List Standing} {standing : Standing}
    (hdistinct : (standings.map Standing.participant).Nodup) (h : standing ∈ standings) :
    standings.find? (·.participant = standing.participant) = some standing := by
  cases hfound : standings.find? (·.participant = standing.participant) with
  | none =>
    rw [List.find?_eq_none] at hfound
    simpa using hfound standing h
  | some found =>
    have hmem := List.mem_of_find?_eq_some hfound
    have hsame := List.find?_some hfound
    rw [List.inj_on_of_nodup_map hdistinct hmem h (by simpa using hsame)]

theorem find?_participant_of_not_mem {standings : List Standing} {participant : Nat}
    (h : participant ∉ standings.map Standing.participant) :
    standings.find? (·.participant = participant) = none := by
  rw [List.find?_eq_none]
  intro standing hstanding
  have hne : standing.participant ≠ participant := fun heq =>
    h (heq ▸ List.mem_map_of_mem hstanding)
  simpa using hne

/-! ## Storing -/

namespace Arena

theorem submissions_store (arena : Arena) (standing : Standing) :
    (arena.store standing).submissions = arena.submissions := by
  unfold store
  split_ifs <;> rfl

/-- A standing is stored for its participant, if that is still here, and for nobody else. -/
theorem get?_standings_store (arena : Arena) (standing : Standing) (participant : Nat) :
    (arena.store standing).standings.get? participant =
      if arena.submissions.contains participant ∧ standing.participant = participant then
        some standing
      else arena.standings.get? participant := by
  unfold store
  by_cases hsame : standing.participant = participant
  · subst hsame
    split_ifs with hcontains <;> simp_all
  · have hother : ¬ (arena.submissions.contains participant ∧
        standing.participant = participant) := fun h => hsame h.2
    rw [if_neg hother]
    split_ifs
    · exact Table.get?_insert_of_ne _ _ (Ne.symm hsame)
    · rfl

theorem get?_standings_foldl_store (arena : Arena) {standings : List Standing}
    (hdistinct : (standings.map Standing.participant).Nodup) (participant : Nat) :
    (standings.foldl store arena).standings.get? participant =
      if arena.submissions.contains participant then
        (standings.find? (·.participant = participant)).or (arena.standings.get? participant)
      else arena.standings.get? participant := by
  induction standings generalizing arena with
  | nil => simp
  | cons standing later ih =>
    obtain ⟨hnew, hdistinct⟩ := List.nodup_cons.mp hdistinct
    rw [List.foldl_cons, ih _ hdistinct, submissions_store, get?_standings_store]
    by_cases hcontains : arena.submissions.contains participant
    · by_cases hsame : standing.participant = participant
      · have hlater := find?_participant_of_not_mem (hsame ▸ hnew)
        simp [hcontains, hsame, hlater]
      · simp [hcontains, hsame]
    · simp [hcontains]

theorem get?_standings_storeAll (arena : Arena) {standings : List Standing}
    (hdistinct : (standings.map Standing.participant).Nodup) (participant : Nat) :
    (arena.storeAll standings).standings.get? participant =
      if arena.submissions.contains participant then
        standings.find? (·.participant = participant)
      else none := by
  rw [storeAll, get?_standings_foldl_store _ hdistinct]
  simp

end Arena

/-! ## Publishing -/

def Message.result? : Message → Option FinalResult
  | finalResult result => some result
  | _ => none

/-- The results that some messages announce, in the order of the messages. -/
def finalResults (sent : List Message) : List FinalResult :=
  sent.filterMap Message.result?

@[simp]
theorem finalResults_append (sent later : List Message) :
    finalResults (sent ++ later) = finalResults sent ++ finalResults later :=
  List.filterMap_append

@[simp]
theorem finalResults_map_finalResult (results : List FinalResult) :
    finalResults (results.map .finalResult) = results := by
  have hall : Message.result? ∘ Message.finalResult = some := rfl
  rw [finalResults, List.filterMap_map, hall, List.filterMap_some]

theorem finalResults_publish (arena : Arena) (evaluation : Evaluation) (timedOut : Bool) :
    finalResults (arena.publish evaluation timedOut).2.1 =
      (rankAll evaluation.request evaluation.computed).map FinalResult.ofStanding := by
  change finalResults (List.map .finalResult _ ++ [.tickSummary _]) = _
  rw [finalResults_append, finalResults_map_finalResult]
  exact List.append_nil _

/-- A result tells the same as a standing, field by field. -/
structure FinalResult.Tells (result : FinalResult) (standing : Standing) : Prop where
  participant : result.participant = standing.participant
  tick : result.tick = standing.tick
  rank : result.rank = standing.rank
  baseDamage : result.baseDamage = standing.baseDamage
  totalDamage : result.totalDamage = standing.totalDamage
  multiplier : result.multiplier = standing.multiplier
  hourly : result.hourly = standing.hourly
  activeComponents : result.activeComponents = standing.report.activeComponents
  rows : result.rows = standing.report.rows

theorem FinalResult.tells_ofStanding (standing : Standing) :
    (ofStanding standing).Tells standing where
  participant := rfl
  tick := rfl
  rank := rfl
  baseDamage := rfl
  totalDamage := rfl
  multiplier := rfl
  hourly := rfl
  activeComponents := rfl
  rows := rfl

theorem FinalResult.tells_map_ofStanding (standings : List Standing) :
    List.Forall₂ Tells (standings.map ofStanding) standings := by
  rw [List.forall₂_map_left_iff, List.forall₂_same]
  exact fun standing _ => tells_ofStanding standing

/-- The last messages of a tick: the results of all standings in their order, and a summary. -/
structure Announces (standings : List Standing) (summary : Summary) (sent : List Message) :
    Prop where
  messages : sent = (finalResults sent).map .finalResult ++ [.tickSummary summary]
  results : List.Forall₂ FinalResult.Tells (finalResults sent) standings

theorem announces_publish (arena : Arena) (evaluation : Evaluation) (timedOut : Bool) :
    let published := arena.publish evaluation timedOut
    Announces (rankAll evaluation.request evaluation.computed) published.2.2 published.2.1 := by
  have hresults := finalResults_publish arena evaluation timedOut
  constructor
  · rw [hresults]
    rfl
  · rw [hresults]
    exact FinalResult.tells_map_ofStanding _

/-- The summary of standings in the order of their ranks. -/
structure Summarised (limit : Nat) (standings : List Standing) (summary : Summary) : Prop where
  players : summary.players = standings.length
  top : ∀ standing ∈ standings, standing.rank = 1 → summary.topDamage = standing.totalDamage
  top_of_empty : standings = [] → summary.topDamage = 0
  total : summary.totalDamage = Double.leftSum (standings.map Standing.totalDamage)
  leaders : summary.leaders = (standings.take (min standings.length limit)).map fun standing =>
    ⟨standing.participant, standing.totalDamage, standing.rank⟩

theorem summarised_ofStandings (tick limit : Nat) (timedOut : Bool) {standings : List Standing}
    (hrank : standings.map Standing.rank = List.range' 1 standings.length) :
    Summarised limit standings (.ofStandings tick limit timedOut standings) where
  players := rfl
  top := by
    intro standing hstanding hfirst
    cases standings with
    | nil => contradiction
    | cons leader later =>
      rcases List.mem_cons.mp hstanding with rfl | hlater
      · rfl
      · have hmem : standing.rank ∈ List.range' 2 later.length := by
          have hlater := List.mem_map_of_mem (f := Standing.rank) hlater
          have htail : later.map Standing.rank = List.range' 2 later.length :=
            congrArg List.tail hrank
          rwa [htail] at hlater
        rw [List.mem_range'_1] at hmem
        omega
  top_of_empty := by
    rintro rfl
    rfl
  total := rfl
  leaders := by
    rw [min_comm, ← List.take_eq_take_min]
    rfl

/-- One order shows in everything that is published. -/
theorem Arena.publish_ranked (arena : Arena) (evaluation : Evaluation) (timedOut : Bool)
    (hdistinct : (evaluation.computed.map Prod.fst).Nodup) :
    let published := arena.publish evaluation timedOut
    let places := fun standings : List Standing => standings.map fun standing =>
      (standing.rank, standing.participant, standing.baseDamage, standing.report)
    ∃ standings, Announces standings published.2.2 published.2.1 ∧
      Ranked evaluation.request evaluation.computed standings ∧
      Summarised arena.settings.topPerformers standings published.2.2 ∧
      (∀ participant, published.1.standings.get? participant =
        if arena.submissions.contains participant then
          standings.find? (·.participant = participant)
        else none) ∧
      (∀ computed, computed.Perm evaluation.computed →
        arena.publish { evaluation with computed } timedOut = published) ∧
      ∀ request, let other := arena.publish { evaluation with request } timedOut
        ∃ standings', Announces standings' other.2.2 other.2.1 ∧
          Ranked request evaluation.computed standings' ∧ places standings' = places standings := by
  intro published places
  have hranked := fun request => ranked_rankAll request hdistinct
  refine ⟨rankAll evaluation.request evaluation.computed,
    announces_publish arena evaluation timedOut, hranked _, ?_, ?_, ?_, ?_⟩
  · apply summarised_ofStandings
    rw [(hranked _).rank]
    simp [rankAll]
  · exact arena.get?_standings_storeAll (nodup_participant_rankAll _ hdistinct)
  · intro computed hperm
    have hsame := rankAll_congr evaluation.request hdistinct hperm
    simp only [published, publish, hsame]
  · intro request
    have hplaces : ∀ request, places (rankAll request evaluation.computed) =
        ((evaluation.computed.mergeSort Standing.precedes).zipIdx 1).map fun ranked =>
          (ranked.2, ranked.1.1, ranked.1.2.totalDamage, ranked.1.2) := by
      intro request
      simp only [places, rankAll, List.map_map]
      rfl
    refine ⟨rankAll request evaluation.computed,
      announces_publish arena { evaluation with request } timedOut, hranked _, ?_⟩
    rw [hplaces, hplaces]

/-- Three computed reports, the best two of equal damage and all in the wrong order. -/
def Evaluation.trio : Evaluation :=
  { request := .duringHour 3 2.5
    deadline := 0
    total := 3
    pending := []
    computed := [(5, ⟨[], 0, [], []⟩), (7, ⟨[], 10, [], []⟩), (2, ⟨[], 10, [], []⟩)]
    lastProgress := none }

theorem Arena.trio_publish_ranked :
    let arena := create ∅ .standard .everyone
    (Evaluation.trio.computed.map Prod.fst).Nodup ∧
      (finalResults (arena.publish .trio false).2.1).map
          (fun result => (result.rank, result.participant, result.totalDamage)) =
        [(1, 2, 25), (2, 7, 25), (3, 5, 0)] := by
  intro arena
  have hdistinct : (Evaluation.trio.computed.map Prod.fst).Nodup := by decide
  obtain ⟨-, -, -, -, -, hperm, -⟩ := arena.publish_ranked .trio false hdistinct
  have hsorted : Evaluation.trio.computed.reverse.Pairwise fun a b =>
      Standing.precedes a b = true := by decide +kernel
  refine ⟨hdistinct, ?_⟩
  rw [← hperm _ (List.reverse_perm _), finalResults_publish, rankAll,
    List.mergeSort_of_pairwise hsorted]
  decide +kernel

end TickArena

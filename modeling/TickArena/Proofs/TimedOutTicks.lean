import TickArena.Proofs.Conversion
import TickArena.Proofs.TickMessages

/-!
# Ticks whose time runs out

Where computing takes no time and every pause takes its length, a batch begins as many pauses
after the opening as there are batches before it.  A tick evaluates the batches that begin
before its deadline, each of them as a whole, whether at once or in turn.  It has timed out if
somebody was left out; and whoever was left out is treated as if there had been no tick, except
that the old result is gone.
-/

namespace TickArena

/-! ## Batches that begin in time -/

/-- The batches that begin before the time is used up, with a pause between any two.  Some have
been taken before them. -/
def begun {α : Type} (timeout delay : Duration) (taken : Nat) (batches : List α) : List α :=
  ((batches.zipIdx taken).filter fun row => row.2 * delay < timeout).map Prod.fst

section Begun

variable {α : Type} {timeout delay : Duration} {taken : Nat}

theorem begun_cons (batch : α) (rest : List α) :
    begun timeout delay taken (batch :: rest) =
      (if taken * delay < timeout then [batch] else []) ++
        begun timeout delay (taken + 1) rest := by
  unfold begun
  rw [List.zipIdx_cons, List.filter_cons]
  split_ifs with hearly hearly' hearly' <;> simp_all

theorem begun_of_late (hlate : timeout ≤ taken * delay) (batches : List α) :
    begun timeout delay taken batches = [] := by
  induction batches generalizing taken with
  | nil => rfl
  | cons batch rest ih =>
    have hlater : timeout ≤ (taken + 1) * delay :=
      hlate.trans (Nat.mul_le_mul_right delay (Nat.le_succ taken))
    rw [begun_cons, if_neg hlate.not_gt, ih hlater, List.nil_append]

/-- No batch begins in time behind one that does not. -/
theorem begun_prefix (taken : Nat) (batches : List α) :
    begun timeout delay taken batches <+: batches := by
  induction batches generalizing taken with
  | nil => exact List.nil_prefix
  | cons batch rest ih =>
    by_cases hearly : taken * delay < timeout
    · rw [begun_cons, if_pos hearly]
      exact (List.prefix_cons_inj batch).mpr (ih (taken + 1))
    · rw [begun_of_late (Nat.le_of_not_lt hearly)]
      exact List.nil_prefix

theorem ne_nil_of_mem_pieces {size steps : Nat} {items piece : List α} (hsize : 1 ≤ size)
    (hpiece : piece ∈ pieces size steps items) : piece ≠ [] := by
  induction steps generalizing items with
  | zero => simp [pieces] at hpiece
  | succ steps ih =>
    cases items with
    | nil => simp [pieces] at hpiece
    | cons first later =>
      rcases List.mem_cons.mp hpiece with rfl | hpiece
      · simpa using Nat.ne_of_gt hsize
      · exact ih hpiece

/-- The items of one piece have places that tell its number. -/
theorem place_div_of_mem_zipIdx {size : Nat} {items : List α} {row : α × Nat}
    (hrow : row ∈ (items.take size).zipIdx (taken * size)) : row.2 / size = taken := by
  have hge := List.le_snd_of_mem_zipIdx hrow
  have hlt := List.snd_lt_add_of_mem_zipIdx hrow
  have hlength := items.length_take_le size
  apply Nat.div_eq_of_lt_le
  · exact hge
  · rw [Nat.add_one_mul]
    omega

theorem map_fst_filter_piece (size : Nat) (items : List α) :
    (((items.take size).zipIdx (taken * size)).filter fun row =>
        row.2 / size * delay < timeout).map Prod.fst =
      if taken * delay < timeout then items.take size else [] := by
  have hsame : ((items.take size).zipIdx (taken * size)).filter (fun row =>
      row.2 / size * delay < timeout) =
        ((items.take size).zipIdx (taken * size)).filter fun _ => taken * delay < timeout := by
    refine List.filter_congr fun row hrow => ?_
    rw [place_div_of_mem_zipIdx hrow]
  rw [hsame]
  split_ifs with hearly <;> simp [hearly]

/-- Whether an item stands in a piece that begins in time follows from its own place. -/
theorem flatten_begun_pieces {size steps : Nat} {items : List α} (hsize : 1 ≤ size)
    (hsteps : items.length ≤ steps) :
    (begun timeout delay taken (pieces size steps items)).flatten =
      ((items.zipIdx (taken * size)).filter fun row =>
        row.2 / size * delay < timeout).map Prod.fst := by
  induction steps generalizing items taken with
  | zero =>
    obtain rfl := List.length_eq_zero_iff.mp (Nat.le_zero.mp hsteps)
    rfl
  | succ steps ih =>
    cases items with
    | nil => rfl
    | cons first later =>
      change (begun timeout delay taken ((first :: later).take size ::
        pieces size steps ((first :: later).drop size))).flatten = _
      have hdropped : ((first :: later).drop size).length ≤ steps := by
        rw [List.length_drop]
        omega
      generalize first :: later = items at hdropped ⊢
      have hrest : (items.drop size).zipIdx (taken * size + (items.take size).length) =
          (items.drop size).zipIdx ((taken + 1) * size) := by
        rcases Nat.le_total items.length size with hshort | hlong
        · rw [List.drop_of_length_le hshort]
          rfl
        · rw [List.length_take_of_le hlong, Nat.add_one_mul]
      conv_rhs => rw [← List.take_append_drop size items]
      rw [List.zipIdx_append, List.filter_append, List.map_append, map_fst_filter_piece, hrest,
        ← ih hdropped, begun_cons, List.flatten_append]
      split_ifs <;> simp

end Begun

/-! ## Pauses that take their length -/

namespace Arena

section Steps

variable {arena : Arena} {evaluation : Evaluation} {readings : Readings}
  {batch : List (Nat × Submission)} {rest : List (List (Nat × Submission))}

theorem step_of_late (htotal : evaluation.total ≠ 0)
    (hpending : evaluation.pending = batch :: rest) (hlate : evaluation.deadline ≤ readings 0) :
    arena.step evaluation readings = arena.finish evaluation true := by
  rw [step, if_neg htotal, hpending]
  exact if_pos hlate

/-- A batch is evaluated as a whole if the clock does not show the deadline in it. -/
theorem reportBatch_of_early (hearly : ∀ reading, readings reading < evaluation.deadline)
    (number : Nat) :
    arena.reportBatch evaluation readings number batch =
      (batch.map (arena.evaluateOne evaluation.request), false) := by
  have hinTime : (arena.reportBatch evaluation readings number batch).2 = false := by
    by_contra htimedOut
    obtain ⟨reading, hlate⟩ := exists_late_of_reportBatch (eq_true_of_ne_false htimedOut)
    exact absurd (hearly reading) hlate.not_gt
  exact Prod.ext (reportBatch_of_inTime hinTime) hinTime

theorem computed_evaluateBatch (hearly : ∀ reading, readings reading < evaluation.deadline) :
    (arena.evaluateBatch evaluation readings batch rest).1.computed =
      evaluation.computed ++ batch.map (arena.evaluateOne evaluation.request) := by
  simp only [evaluateBatch, reportBatch_of_early hearly]

theorem liveFeats_evaluateBatch (hearly : ∀ reading, readings reading < evaluation.deadline) :
    liveFeats (arena.evaluateBatch evaluation readings batch rest).2.1 =
      (batch.map (arena.evaluateOne evaluation.request)).map evaluation.request.feat := by
  simp only [evaluateBatch, reportBatch_of_early hearly, liveFeats_append, liveFeats_liveUpdates]
  split_ifs <;> rfl

theorem step_of_early (htotal : evaluation.total ≠ 0)
    (hpending : evaluation.pending = batch :: rest)
    (hearly : ∀ reading, readings reading < evaluation.deadline) :
    let following := (arena.evaluateBatch evaluation readings batch rest).1
    let sent := (arena.evaluateBatch evaluation readings batch rest).2.1
    arena.step evaluation readings =
      if rest = [] then
        { arena.finish following false with sent := sent ++ (arena.finish following false).sent }
      else { arena, sent, progress := .waiting following } := by
  intro following sent
  have hinTime : (arena.evaluateBatch evaluation readings batch rest).2.2 = false :=
    congrArg Prod.snd (reportBatch_of_early hearly 2)
  rw [step, if_neg htotal, hpending]
  dsimp only
  rw [if_neg (hearly 0).not_ge, hinTime]
  cases rest <;> rfl

theorem liveFeats_finish (arena : Arena) (last : Evaluation) (timedOut : Bool) :
    liveFeats (arena.finish last timedOut).sent = [] := by
  have hresult : Message.feat? ∘ Message.finalResult = fun _ => none := rfl
  change liveFeats (List.map .finalResult _ ++ [_]) = []
  rw [liveFeats_append, liveFeats, List.filterMap_map, hresult, List.filterMap_none]
  rfl

end Steps

/-- An evaluation has come to its end after some batches more: it has told of each of their
reports and publishes them with those before.  It has timed out if there were other batches. -/
structure BreaksOff (arena : Arena) (evaluation : Evaluation)
    (batches : List (List (Nat × Submission))) (completed : Completed) : Prop where
  published : ∃ last timedOut, last.request = evaluation.request ∧
    last.computed = evaluation.computed ++
      batches.flatten.map (arena.evaluateOne evaluation.request) ∧
    (timedOut = true ↔ batches.length < evaluation.pending.length) ∧
    completed.arena = (arena.publish last timedOut).1 ∧
    completed.summary = (arena.publish last timedOut).2.2 ∧
    finalResults completed.sent =
      (rankAll last.request last.computed).map FinalResult.ofStanding
  told : liveFeats completed.sent =
    (batches.flatten.map (arena.evaluateOne evaluation.request)).map evaluation.request.feat

section BreaksOff

variable {arena : Arena} {evaluation : Evaluation} {readings : Nat → Readings}
  {batch : List (Nat × Submission)} {rest : List (List (Nat × Submission))}

theorem breaksOff_of_late (htotal : evaluation.total ≠ 0)
    (hpending : evaluation.pending = batch :: rest) (hlate : evaluation.deadline ≤ readings 0 0) :
    arena.BreaksOff evaluation [] (arena.complete readings evaluation) := by
  have hstep := @step_of_late arena _ _ _ _ htotal hpending hlate
  have hfinished : (arena.step evaluation (readings 0)).progress =
      .finished (arena.publish evaluation true).2.2 := by
    rw [hstep]
    rfl
  rw [complete_of_finished hfinished, hstep]
  refine ⟨⟨evaluation, true, rfl, by simp, by simp [hpending], rfl, rfl, ?_⟩, ?_⟩
  · exact arena.finalResults_finish evaluation true
  · exact arena.liveFeats_finish evaluation true

theorem breaksOff_of_last (htotal : evaluation.total ≠ 0) (hpending : evaluation.pending = [batch])
    (hearly : ∀ reading, readings 0 reading < evaluation.deadline) :
    arena.BreaksOff evaluation [batch] (arena.complete readings evaluation) := by
  let last := (arena.evaluateBatch evaluation (readings 0) batch []).1
  have hstep := @step_of_early arena _ _ _ _ htotal hpending hearly
  dsimp only at hstep
  rw [if_pos rfl] at hstep
  have hfinished : (arena.step evaluation (readings 0)).progress =
      .finished (arena.publish last false).2.2 := by
    rw [hstep]
    rfl
  rw [complete_of_finished hfinished, hstep]
  refine ⟨⟨last, false, rfl, ?_, by simp [hpending], rfl, rfl, ?_⟩, ?_⟩
  · simpa using computed_evaluateBatch hearly
  · rw [finalResults_append, finalResults_evaluateBatch, List.nil_append]
    exact arena.finalResults_finish last false
  · rw [liveFeats_append, liveFeats_evaluateBatch hearly, liveFeats_finish]
    simp

/-- An evaluation goes on behind a batch that is not the last one. -/
theorem BreaksOff.cons {later : List (List (Nat × Submission))} (htotal : evaluation.total ≠ 0)
    (hpending : evaluation.pending = batch :: rest) (hrest : rest ≠ [])
    (hearly : ∀ reading, readings 0 reading < evaluation.deadline)
    (h : arena.BreaksOff (arena.evaluateBatch evaluation (readings 0) batch rest).1 later
      (arena.complete (fun number => readings (number + 1))
        (arena.evaluateBatch evaluation (readings 0) batch rest).1)) :
    arena.BreaksOff evaluation (batch :: later) (arena.complete readings evaluation) := by
  have hstep := @step_of_early arena _ _ _ _ htotal hpending hearly
  dsimp only at hstep
  rw [if_neg hrest] at hstep
  have hwaiting : (arena.step evaluation (readings 0)).progress =
      .waiting (arena.evaluateBatch evaluation (readings 0) batch rest).1 := by
    rw [hstep]
  obtain ⟨last, timedOut, hrequest, hcomputed, htimedOut, harena, hsummary, hannounced⟩ :=
    h.published
  rw [complete_of_waiting hwaiting, hstep]
  constructor
  · refine ⟨last, timedOut, hrequest, ?_, ?_, harena, hsummary, ?_⟩
    · rw [hcomputed, computed_evaluateBatch hearly, List.flatten_cons, List.map_append,
        List.append_assoc]
      rfl
    · rw [htimedOut, hpending]
      simp [evaluateBatch]
    · rw [Completed.after, finalResults_append, finalResults_evaluateBatch, List.nil_append,
        hannounced]
  · rw [Completed.after, liveFeats_append, liveFeats_evaluateBatch hearly, h.told,
      List.flatten_cons, List.map_append, List.map_append]
    rfl

/-- An evaluation that has taken some batches evaluates those of the others that begin in
time. -/
theorem breaksOff_complete {opened : Instant} {timeout : Duration} {taken : Nat}
    (htotal : evaluation.total ≠ 0) (hleft : evaluation.pending ≠ [])
    (hdeadline : evaluation.deadline = opened + timeout)
    (hreadings : ∀ number reading,
      readings number reading = opened + (taken + number) * arena.settings.batchDelay) :
    arena.BreaksOff evaluation (begun timeout arena.settings.batchDelay taken evaluation.pending)
      (arena.complete readings evaluation) := by
  induction hpending : evaluation.pending generalizing evaluation readings taken with
  | nil => exact absurd hpending hleft
  | cons batch rest ih =>
    have hnow : ∀ reading, readings 0 reading = opened + taken * arena.settings.batchDelay :=
      fun reading => hreadings 0 reading
    by_cases hlate : timeout ≤ taken * arena.settings.batchDelay
    · rw [begun_of_late hlate]
      refine breaksOff_of_late htotal hpending ?_
      rw [hdeadline, hnow]
      exact Nat.add_le_add_left hlate opened
    · have hless : taken * arena.settings.batchDelay < timeout := Nat.lt_of_not_le hlate
      have hearly : ∀ reading, readings 0 reading < evaluation.deadline := by
        intro reading
        rw [hdeadline, hnow]
        exact Nat.add_lt_add_left hless opened
      rw [begun_cons, if_pos hless, List.singleton_append]
      by_cases hrest : rest = []
      · subst hrest
        exact breaksOff_of_last htotal hpending hearly
      · refine BreaksOff.cons htotal hpending hrest hearly ?_
        refine ih htotal hrest hdeadline (fun number reading => ?_) rfl
        rw [hreadings, Nat.add_right_comm, Nat.add_assoc]

end BreaksOff

/-! ## Ticks of limited length -/

/-- The batches of the snapshot that begin before a tick has used up its time. -/
def batchesInTime (arena : Arena) (timeout : Duration) : List (List (Nat × Submission)) :=
  begun timeout arena.settings.batchDelay 0 arena.batches

/-- Everyone whose place in the snapshot is in a batch that begins in time. -/
def entrantsInTime (arena : Arena) (timeout : Duration) : List (Nat × Submission) :=
  (arena.submissions.rows.zipIdx.filter fun row =>
    row.2 / max arena.settings.batchSize 1 * arena.settings.batchDelay < timeout).map Prod.fst

def reportsInTime (arena : Arena) (request : Request) (timeout : Duration) : List Evaluated :=
  (arena.entrantsInTime timeout).map (arena.evaluateOne request)

/-- What becomes of a tick that is given some time.  It evaluates whole batches, the first ones
of the snapshot.  Whoever stands in a later one has no result and the performance of before. -/
structure TimeLimited (arena : Arena) (request : Request) (timeout : Duration) (after : Arena)
    (sent : List Message) (summary : Summary) : Prop where
  batches : arena.batchesInTime timeout <+: arena.batches
  whole : arena.entrantsInTime timeout = (arena.batchesInTime timeout).flatten
  told : liveFeats sent = (arena.reportsInTime request timeout).map request.feat
  announced : finalResults sent =
    (rankAll request (arena.reportsInTime request timeout)).map FinalResult.ofStanding
  players : summary.players = (arena.entrantsInTime timeout).length
  timedOut : summary.timedOut = true ↔ summary.players < arena.submissions.size
  evaluated : ∀ entrant ∈ arena.entrantsInTime timeout,
    (after.standings.get? entrant.1).map Standing.report =
      some (arena.evaluate entrant.1 request.tick entrant.2.slots)
  skipped : ∀ participant, participant ∉ (arena.entrantsInTime timeout).map Prod.fst →
    after.standings.get? participant = none ∧
      after.performances.get? participant = arena.performances.get? participant

variable {arena : Arena} {request : Request} {timeout : Duration}

theorem entrantsInTime_eq (arena : Arena) (timeout : Duration) :
    arena.entrantsInTime timeout = (arena.batchesInTime timeout).flatten := by
  have hsize : 1 ≤ max arena.settings.batchSize 1 := Nat.le_max_right _ _
  have hflatten := @flatten_begun_pieces _ timeout arena.settings.batchDelay 0 _ _
    arena.submissions.rows hsize le_rfl
  rw [Nat.zero_mul] at hflatten
  exact hflatten.symm

theorem entrantsInTime_prefix (arena : Arena) (timeout : Duration) :
    arena.entrantsInTime timeout <+: arena.submissions.rows := by
  obtain ⟨later, hbatches⟩ := begun_prefix 0 arena.batches
  rw [entrantsInTime_eq, ← flatten_batches]
  refine ⟨later.flatten, ?_⟩
  rw [← hbatches, List.flatten_append]
  rfl

/-- No batch is empty, so that a batch is left over exactly if somebody is. -/
theorem length_batchesInTime_lt_iff (arena : Arena) (timeout : Duration) :
    (arena.batchesInTime timeout).length < arena.batches.length ↔
      (arena.entrantsInTime timeout).length < arena.submissions.size := by
  obtain ⟨later, hbatches⟩ : arena.batchesInTime timeout <+: arena.batches :=
    begun_prefix 0 arena.batches
  have hentrants : arena.submissions.size =
      (arena.entrantsInTime timeout).length + later.flatten.length := by
    rw [Table.size, ← flatten_batches, ← hbatches, List.flatten_append, List.length_append,
      entrantsInTime_eq]
  rw [← hbatches, List.length_append, hentrants, Nat.lt_add_right_iff_pos,
    Nat.lt_add_right_iff_pos]
  constructor
  · intro hlater
    obtain ⟨batch, hbatch⟩ := List.exists_mem_of_length_pos hlater
    have hpiece : batch ∈ arena.batches := hbatches ▸ List.mem_append_right _ hbatch
    obtain ⟨entrant, hentrant⟩ :=
      List.exists_mem_of_ne_nil _ (ne_nil_of_mem_pieces (Nat.le_max_right _ _) hpiece)
    exact List.length_pos_of_mem (List.mem_flatten_of_mem hbatch hentrant)
  · intro hsomebody
    obtain ⟨entrant, hentrant⟩ := List.exists_mem_of_length_pos hsomebody
    obtain ⟨batch, hbatch, -⟩ := List.mem_flatten.mp hentrant
    exact List.length_pos_of_mem hbatch

theorem map_fst_reportsInTime (arena : Arena) (request : Request) (timeout : Duration) :
    (arena.reportsInTime request timeout).map Prod.fst =
      (arena.entrantsInTime timeout).map Prod.fst :=
  List.map_map

theorem nodup_reportsInTime (arena : Arena) (request : Request) (timeout : Duration) :
    ((arena.reportsInTime request timeout).map Prod.fst).Nodup := by
  rw [map_fst_reportsInTime]
  exact ((arena.entrantsInTime_prefix timeout).map Prod.fst).sublist.nodup
    (Rows.nodup_keys_of_ascending arena.submissions.ascending)

theorem contains_of_mem_entrantsInTime {entrant : Nat × Submission}
    (h : entrant ∈ arena.entrantsInTime timeout) :
    arena.submissions.contains entrant.1 = true := by
  have hrow := (arena.entrantsInTime_prefix timeout).subset h
  exact Option.isSome_iff_exists.mpr
    ⟨_, (Rows.mem_iff_get?_eq_some arena.submissions.ascending).mp hrow⟩

/-- Those who were evaluated have the standing of their report. -/
theorem exists_find?_rankAll_reportsInTime {entrant : Nat × Submission}
    (h : entrant ∈ arena.entrantsInTime timeout) :
    ∃ standing, (rankAll request (arena.reportsInTime request timeout)).find?
        (·.participant = entrant.1) = some standing ∧
      standing.report = arena.evaluate entrant.1 request.tick entrant.2.slots := by
  have hreport := List.mem_map_of_mem (f := arena.evaluateOne request) h
  obtain ⟨standing, hstanding, heq⟩ :=
    List.mem_map.mp ((mem_map_evaluated_rankAll request _).mpr hreport)
  have hsame : standing.participant = entrant.1 := congrArg Prod.fst heq
  refine ⟨standing, ?_, congrArg Prod.snd heq⟩
  rw [← hsame]
  exact find?_participant_of_mem
    (nodup_participant_rankAll request (arena.nodup_reportsInTime request timeout)) hstanding

/-- Those who were skipped have no standing. -/
theorem find?_rankAll_reportsInTime_of_skipped {participant : Nat}
    (h : participant ∉ (arena.entrantsInTime timeout).map Prod.fst) :
    (rankAll request (arena.reportsInTime request timeout)).find?
      (·.participant = participant) = none := by
  apply find?_participant_of_not_mem
  intro hmem
  obtain ⟨standing, hstanding, rfl⟩ := List.mem_map.mp hmem
  have hreport := (mem_map_evaluated_rankAll request _).mp
    (List.mem_map_of_mem (f := Standing.evaluated) hstanding)
  exact h (map_fst_reportsInTime arena request timeout ▸ List.mem_map_of_mem hreport)

/-- A publication of the reports that were computed in time. -/
theorem BreaksOff.timeLimited {deadline : Instant} {completed : Completed}
    (h : arena.BreaksOff (arena.opened request deadline) (arena.batchesInTime timeout) completed) :
    arena.TimeLimited request timeout completed.arena completed.sent completed.summary := by
  obtain ⟨last, timedOut, hrequest, hcomputed, htimedOut, harena, hsummary, hannounced⟩ :=
    h.published
  have hreports : last.computed = arena.reportsInTime request timeout := by
    rw [hcomputed, reportsInTime, entrantsInTime_eq]
    rfl
  have hlast : last.request = request := hrequest
  have hparticipants :=
    nodup_participant_rankAll request (arena.nodup_reportsInTime request timeout)
  have hplayers : completed.summary.players = (arena.entrantsInTime timeout).length := by
    rw [hsummary]
    change (rankAll last.request last.computed).length = _
    rw [hreports, ← List.length_map (f := Standing.rank), map_rank_rankAll, List.length_range',
      reportsInTime, List.length_map]
  have hstandings : ∀ participant, completed.arena.standings.get? participant =
      if arena.submissions.contains participant then
        (rankAll request (arena.reportsInTime request timeout)).find? (·.participant = participant)
      else none := by
    intro participant
    rw [harena, ← get?_standings_storeAll arena hparticipants, ← hreports, ← hlast]
    rfl
  constructor
  · exact begun_prefix 0 arena.batches
  · exact arena.entrantsInTime_eq timeout
  · rw [h.told, reportsInTime, entrantsInTime_eq]
    rfl
  · rw [hannounced, hlast, hreports]
  · exact hplayers
  · rw [hplayers, ← length_batchesInTime_lt_iff, hsummary]
    exact htimedOut
  · intro entrant hentrant
    obtain ⟨standing, hfound, hreport⟩ :=
      @exists_find?_rankAll_reportsInTime arena request timeout entrant hentrant
    rw [hstandings, if_pos (contains_of_mem_entrantsInTime hentrant), hfound, Option.map_some,
      hreport]
  · intro participant hskipped
    have hnone := @find?_rankAll_reportsInTime_of_skipped arena request timeout _ hskipped
    constructor
    · rw [hstandings, hnone, ite_self]
    · rw [harena]
      change ((rankAll last.request last.computed).foldl store
        { arena with standings := ∅ }).performances.get? participant = _
      rw [hlast, hreports, get?_performances_foldl_store _ hparticipants, hnone]
      exact ite_self _

theorem timeLimited_of_no_submissions (hempty : arena.submissions.size = 0)
    (readings : Nat → Readings) (timeout : Duration) (deadline : Instant) :
    let completed := arena.complete readings (arena.opened request deadline)
    arena.TimeLimited request timeout completed.arena completed.sent completed.summary := by
  have hrows : arena.submissions.rows = [] := List.length_eq_zero_iff.mp hempty
  have hentrants : arena.entrantsInTime timeout = [] := by
    rw [entrantsInTime, hrows]
    rfl
  have hreports : arena.reportsInTime request timeout = [] := by
    rw [reportsInTime, hentrants, List.map_nil]
  have hstep : arena.step (arena.opened request deadline) (readings 0) =
      arena.publishEmpty request.tick := if_pos hempty
  have hfinished : (arena.step (arena.opened request deadline) (readings 0)).progress =
      .finished (.empty request.tick) := by
    rw [hstep]
    rfl
  intro completed
  have hcompleted : completed =
      ⟨(arena.publishEmpty request.tick).arena, (arena.publishEmpty request.tick).sent,
        .empty request.tick⟩ := by
    rw [← hstep]
    exact complete_of_finished hfinished
  rw [hcompleted]
  constructor
  · exact begun_prefix 0 arena.batches
  · exact arena.entrantsInTime_eq timeout
  · rw [hreports]
    rfl
  · rw [hreports, rankAll, List.mergeSort_nil]
    rfl
  · rw [hentrants]
    rfl
  · rw [hempty]
    simp [Summary.empty]
  · rw [hentrants]
    exact fun entrant hentrant => absurd hentrant List.not_mem_nil
  · exact fun participant _ => ⟨rfl, rfl⟩

theorem timeLimited_complete {opened : Instant} {readings : Nat → Readings}
    (hreadings : ∀ number reading,
      readings number reading = opened + number * arena.settings.batchDelay) :
    let completed := arena.complete readings (arena.opened request (opened + timeout))
    arena.TimeLimited request timeout completed.arena completed.sent completed.summary := by
  by_cases hempty : arena.submissions.size = 0
  · exact timeLimited_of_no_submissions hempty readings timeout (opened + timeout)
  · have hleft : arena.batches ≠ [] := by
      intro hnone
      rw [Table.size, ← flatten_batches, hnone] at hempty
      exact hempty rfl
    refine BreaksOff.timeLimited (breaksOff_complete hempty hleft rfl fun number reading => ?_)
    rw [hreadings, Nat.zero_add]

end Arena

/-! ## On a virtual clock -/

namespace VirtualClock

/-- However often it sleeps for a length, a clock has moved on by so many of these lengths. -/
def Exact (clock : VirtualClock) (length : Duration) : Prop :=
  ∀ number reading, clock.readings length number reading = clock.now + number * length

/-- A clock that shows a whole number of milliseconds, and has no alarms ahead of it. -/
structure Whole (clock : VirtualClock) : Prop where
  now : Time.millisecond ∣ clock.now
  rung : clock.rung ≤ clock.now / Time.millisecond

theorem Whole.afterSleep {clock : VirtualClock} (h : clock.Whole) (count : Nat) :
    (clock.afterSleep (Time.ofMilliseconds count)).Whole ∧
      (clock.afterSleep (Time.ofMilliseconds count)).now =
        clock.now + Time.ofMilliseconds count := by
  have hpos : 0 < Time.millisecond := by decide
  obtain ⟨shown, hnow⟩ := h.now
  have hshown : clock.now / Time.millisecond = shown := by
    rw [hnow, Nat.mul_div_cancel_left shown hpos]
  have hrung : clock.rung ≤ shown := hshown ▸ h.rung
  have halarm : clock.alarmAfter (Time.ofMilliseconds count) = shown + count := by
    have hsum : clock.now + Time.ofMilliseconds count + Time.millisecond - 1 =
        Time.millisecond * (shown + count) + (Time.millisecond - 1) := by
      rw [hnow, Time.ofMilliseconds, Nat.mul_comm count, ← Nat.mul_add, Nat.add_sub_assoc hpos]
    rw [alarmAfter, alarmAt, hsum, Nat.mul_add_div hpos,
      Nat.div_eq_of_lt (Nat.sub_lt hpos Nat.one_pos), Nat.add_zero]
  unfold VirtualClock.afterSleep
  rw [halarm]
  split_ifs with hgone
  · have hcount : count = 0 := by
      have hpast : shown + count ≤ clock.rung := of_decide_eq_true hgone
      omega
    refine ⟨h, ?_⟩
    rw [hcount, Time.ofMilliseconds, Nat.zero_mul, Nat.add_zero]
  · have hmoved : (clock.moveTo (shown + count)).now =
        clock.now + Time.ofMilliseconds count := by
      rw [moveTo, hshown, Nat.add_sub_cancel_left]
    have hlater : (clock.moveTo (shown + count)).now = Time.millisecond * (shown + count) := by
      rw [hmoved, hnow, Time.ofMilliseconds, Nat.mul_comm count, ← Nat.mul_add]
    refine ⟨⟨hlater ▸ Nat.dvd_mul_right _ _, ?_⟩, hmoved⟩
    rw [hlater, Nat.mul_div_cancel_left _ hpos]
    exact max_le (hrung.trans (Nat.le_add_right _ _)) le_rfl

theorem Whole.exact {clock : VirtualClock} (h : clock.Whole) (count : Nat) :
    clock.Exact (Time.ofMilliseconds count) := by
  intro number reading
  induction number generalizing clock with
  | zero => simp [readings]
  | succ number ih =>
    obtain ⟨hwhole, hnow⟩ := h.afterSleep count
    rw [readings, ih hwhole, hnow, Nat.add_one_mul, Nat.add_assoc, Nat.add_comm (number * _)]

end VirtualClock

namespace LiveTick

/-- A tick evaluates the batches that begin before its time is up, whole batches in the order
of the participants, and says that it has timed out if that was not everyone. -/
theorem finish_timeLimited {arena : Arena} {clock : VirtualClock} {request : Request}
    {timeout : Duration} (hexact : clock.Exact arena.settings.batchDelay)
    (htimeout : arena.settings.timeout = .ok timeout)
    (hdeadline : clock.now + timeout < Time.instantLimit) :
    let tick := (start arena clock request).finish
    ∃ summary, tick.task = .finished summary ∧
      arena.TimeLimited request timeout tick.arena tick.sent summary := by
  intro tick
  have hafter : Time.after clock.now timeout = .ok (clock.now + timeout) :=
    Time.after_eq_ok_iff.mpr ⟨hdeadline, rfl⟩
  obtain ⟨harena, hsent, htask⟩ := @ends_finish_start arena clock request _
    (Arena.openEvaluation_of_timeout htimeout hafter)
  refine ⟨_, htask, ?_⟩
  rw [harena, hsent, List.nil_append]
  exact Arena.timeLimited_complete hexact

end LiveTick

/-- Three participants in pairs, and as much time as passes between two pairs.  The last
participant has been ranked before. -/
def Arena.tight : Arena :=
  { create ⟨[Standard.emberCore, Standard.vanguardCore], .standard⟩
      { Settings.standard with batchSize := 2, batchDelayMs := 100, timeoutSeconds := 0.1 }
      .everyone with
    submissions := .ofList
      [(9, ⟨[some (.plain "ember_core")], "late"⟩), (1, ⟨[some (.plain "ember_core")], "first"⟩),
        (4, ⟨[none], "empty"⟩)]
    performances := .ofList [(9, ⟨3, 12, 30, some 1⟩)] }

/-- The time is up when the second pair begins. -/
theorem LiveTick.tight_finish_timeLimited :
    let tick := (start .tight .start (.regular 1)).finish
    VirtualClock.start.Exact Arena.tight.settings.batchDelay ∧
      Arena.tight.settings.timeout = .ok 100000000 ∧
      VirtualClock.start.now + 100000000 < Time.instantLimit ∧
      ∃ summary, tick.task = .finished summary ∧
        Arena.tight.TimeLimited (.regular 1) 100000000 tick.arena tick.sent summary ∧
        summary.players = 2 ∧ summary.timedOut = true ∧
        tick.arena.standings.get? 9 = none ∧
        tick.arena.performances.get? 9 = some ⟨3, 12, 30, some 1⟩ := by
  intro tick
  have hwhole : VirtualClock.start.Whole := ⟨Nat.dvd_zero _, Nat.zero_le _⟩
  have hexact : VirtualClock.start.Exact Arena.tight.settings.batchDelay := hwhole.exact 100
  have htimeout : Arena.tight.settings.timeout = .ok 100000000 := by decide +kernel
  have hdeadline : VirtualClock.start.now + 100000000 < Time.instantLimit := by decide +kernel
  obtain ⟨summary, htask, hlimited⟩ :=
    @finish_timeLimited .tight .start (.regular 1) _ hexact htimeout hdeadline
  have hentrants : (Arena.tight.entrantsInTime 100000000).map Prod.fst = [1, 4] := by
    decide +kernel
  have hplayers : summary.players = 2 := by
    rw [hlimited.players, ← List.length_map (f := Prod.fst), hentrants]
    rfl
  have hsize : Arena.tight.submissions.size = 3 := by decide +kernel
  have hskipped : 9 ∉ (Arena.tight.entrantsInTime 100000000).map Prod.fst := by
    rw [hentrants]
    decide
  obtain ⟨hstanding, hperformance⟩ := hlimited.skipped 9 hskipped
  refine ⟨hexact, htimeout, hdeadline, summary, htask, hlimited, hplayers, ?_, hstanding,
    hperformance.trans rfl⟩
  rw [hlimited.timedOut, hplayers, hsize]
  decide

end TickArena

import TickArena.Proofs.Departures

/-!
# The messages of a tick

A tick tells how far it has come, batch by batch and not before all of them, and what each
participant of the batch has done; at last the results in the order of their ranks, and a
summary.  How the snapshot is cut into batches, when the time is used up and what happens to
the submissions in the meantime decide how much is told.  The order of it is always the same,
and nobody is told one thing first and another in the end.
-/

namespace TickArena

/-! ## Live updates and progress -/

/-- What a live update and a result both tell: the participant, its damage, and how many of
its components are active. -/
abbrev Feat :=
  Nat × Float × Nat

def Message.feat? : Message → Option Feat
  | liveUpdate participant damage active _ => some (participant, damage, active)
  | _ => none

/-- The feats that some messages tell live, in the order of the messages. -/
def liveFeats (sent : List Message) : List Feat :=
  sent.filterMap Message.feat?

@[simp]
theorem liveFeats_append (sent later : List Message) :
    liveFeats (sent ++ later) = liveFeats sent ++ liveFeats later :=
  List.filterMap_append

def FinalResult.feat (result : FinalResult) : Feat :=
  (result.participant, result.totalDamage, result.activeComponents)

def Standing.feat (standing : Standing) : Feat :=
  (standing.participant, standing.totalDamage, standing.report.activeComponents)

def Request.feat (request : Request) (evaluated : Evaluated) : Feat :=
  (evaluated.1, evaluated.2.totalDamage * request.multiplier, evaluated.2.activeComponents)

@[simp]
theorem liveFeats_liveUpdates (request : Request) (computed : List Evaluated) :
    liveFeats (computed.map (Arena.liveUpdate request)) = computed.map request.feat := by
  have hfeat : Message.feat? ∘ Arena.liveUpdate request = some ∘ request.feat := rfl
  rw [liveFeats, List.filterMap_map, hfeat, List.filterMap_eq_map]

/-- How far a tick has come. -/
def share (computed total : Nat) : Float :=
  Double.ofCount computed / Double.ofCount total

/-- Each notice of progress tells how many live updates have been sent before it, as a share
of a total. -/
def Tallied (total : Nat) (sent : List Message) : Prop :=
  ∀ earlier done processing later, sent = earlier ++ .progress done processing :: later →
    done = share (liveFeats earlier).length total

namespace Tallied

variable {total : Nat} {sent later : List Message}

theorem nil : Tallied total [] := by
  intro earlier done processing later hsplit
  simp at hsplit

theorem concat (h : Tallied total sent) {message : Message}
    (hmessage : ∀ done processing, message = .progress done processing →
      done = share (liveFeats sent).length total) : Tallied total (sent ++ [message]) := by
  intro earlier done processing later hsplit
  rcases concat_eq_append_cons_iff.mp hsplit with ⟨rfl, hlast, -⟩ | ⟨rest, -, hsent⟩
  · exact hmessage done processing hlast
  · exact h earlier done processing rest hsent

theorem progress (h : Tallied total sent) (processing : Nat) :
    Tallied total (sent ++ [.progress (share (liveFeats sent).length total) processing]) := by
  refine h.concat fun done other heq => ?_
  cases heq
  rfl

/-- Other messages can follow. -/
theorem append (h : Tallied total sent)
    (hlater : ∀ message ∈ later, ∀ done processing, message ≠ .progress done processing) :
    Tallied total (sent ++ later) := by
  induction later generalizing sent with
  | nil => simpa using h
  | cons message later ih =>
    obtain ⟨hmessage, hlater⟩ := List.forall_mem_cons.mp hlater
    rw [List.append_cons]
    exact ih (h.concat fun done processing heq => absurd heq (hmessage done processing)) hlater

end Tallied

theorem FinalResult.Tells.feat_eq {result : FinalResult} {standing : Standing}
    (h : result.Tells standing) : result.feat = standing.feat := by
  rw [FinalResult.feat, h.participant, h.totalDamage, h.activeComponents]
  rfl

theorem map_feat_eq_of_tells {results : List FinalResult} {standings : List Standing}
    (h : List.Forall₂ FinalResult.Tells results standings) :
    results.map FinalResult.feat = standings.map Standing.feat := by
  rw [← List.forall₂_eq_eq_eq, List.forall₂_map_left_iff, List.forall₂_map_right_iff]
  exact h.imp fun _ _ htells => htells.feat_eq

theorem Ranked.map_feat_perm {request : Request} {computed : List Evaluated}
    {standings : List Standing} (h : Ranked request computed standings) :
    (computed.map request.feat).Perm (standings.map Standing.feat) := by
  have hfeats : standings.map Standing.feat =
      (standings.map Standing.evaluated).map request.feat := by
    rw [List.map_map]
    refine List.map_congr_left fun standing hstanding => ?_
    rw [Standing.feat, h.total standing hstanding, h.base standing hstanding]
    rfl
  rw [hfeats]
  exact (h.perm.map request.feat).symm

/-! ## Rounds -/

/-- What becomes of one batch: whether progress is announced before it, and the reports of
those who have been evaluated. -/
structure Round where
  announced : Bool
  batch : List (Nat × Submission)
  reports : List Evaluated

/-- The messages of a round after those that have been sent before. -/
def Round.messages (request : Request) (total : Nat) (sent : List Message) (round : Round) :
    List Message :=
  (if round.announced then [.progress (share (liveFeats sent).length total) round.batch.length]
    else []) ++ round.reports.map (Arena.liveUpdate request)

/-- The messages of some rounds, one round after another. -/
def transcript (request : Request) (total : Nat) (rounds : List Round) : List Message :=
  rounds.foldl (fun sent round => sent ++ round.messages request total sent) []

/-- What the rounds have computed. -/
def reported (rounds : List Round) : List Evaluated :=
  rounds.flatMap Round.reports

section Transcripts

variable {request : Request} {total : Nat} (rounds : List Round) (round : Round)

theorem transcript_concat :
    transcript request total (rounds ++ [round]) = transcript request total rounds ++
      round.messages request total (transcript request total rounds) :=
  List.foldl_concat ..

@[simp]
theorem reported_concat : reported (rounds ++ [round]) = reported rounds ++ round.reports := by
  simp [reported]

theorem liveFeats_transcript :
    liveFeats (transcript request total rounds) = (reported rounds).map request.feat := by
  induction rounds using List.reverseRecOn with
  | nil => rfl
  | append_singleton rounds round ih =>
    rw [transcript_concat, liveFeats_append, ih, reported_concat, List.map_append, Round.messages,
      liveFeats_append, liveFeats_liveUpdates]
    split_ifs <;> rfl

theorem finalResults_transcript : finalResults (transcript request total rounds) = [] := by
  induction rounds using List.reverseRecOn with
  | nil => rfl
  | append_singleton rounds round ih =>
    have hupdates : Message.result? ∘ Arena.liveUpdate request = fun _ => none := rfl
    rw [transcript_concat, finalResults_append, ih, Round.messages, finalResults_append,
      finalResults, finalResults, List.filterMap_map, hupdates, List.filterMap_none]
    split_ifs <;> rfl

theorem length_liveFeats_transcript :
    (liveFeats (transcript request total rounds)).length = (reported rounds).length := by
  rw [liveFeats_transcript, List.length_map]

theorem tallied_transcript : Tallied total (transcript request total rounds) := by
  induction rounds using List.reverseRecOn with
  | nil => exact .nil
  | append_singleton rounds round ih =>
    have hupdates : ∀ message ∈ round.reports.map (Arena.liveUpdate request),
        ∀ done processing, message ≠ .progress done processing := by
      intro message hmessage done processing
      obtain ⟨evaluated, -, rfl⟩ := List.mem_map.mp hmessage
      simp [Arena.liveUpdate]
    rw [transcript_concat, Round.messages, ← List.append_assoc]
    refine Tallied.append ?_ hupdates
    split_ifs
    · exact ih.progress _
    · simpa using ih

end Transcripts

namespace Arena

/-- The rounds of a tick.  They take the first batches of the opening, and the first of them
is announced.  The reports of each round are those of its batch, perhaps not of all of it, and
all of them together are the first ones of everybody's. -/
structure Plays (opening : Arena) (request : Request) (rounds : List Round) : Prop where
  batches : rounds.map Round.batch <+: opening.batches
  announced : ∀ round ∈ rounds.head?, round.announced = true
  reports : ∀ round ∈ rounds, round.reports <+: round.batch.map (opening.evaluateOne request)
  begun : reported rounds <+: opening.allReports request

/-- An evaluation has gone through some rounds, and none of them has used up its time. -/
structure Played (opening : Arena) (request : Request) (evaluation : Evaluation)
    (rounds : List Round) : Prop where
  plays : opening.Plays request rounds
  batches : rounds.map Round.batch ++ evaluation.pending = opening.batches
  computed : evaluation.computed = reported rounds
  reports : opening.reports evaluation = opening.allReports request
  unannounced : rounds = [] → evaluation.lastProgress = none
  total : evaluation.total = opening.submissions.size
  request : evaluation.request = request

/-- An evaluation is about to publish what some rounds have computed. -/
structure Concluded (opening : Arena) (request : Request) (last : Evaluation) (timedOut : Bool)
    (rounds : List Round) : Prop where
  plays : opening.Plays request rounds
  computed : last.computed = reported rounds
  whole : timedOut = false → reported rounds = opening.allReports request
  total : last.total = opening.submissions.size
  request : last.request = request

/-- The round in which an evaluation takes a batch. -/
def round (arena : Arena) (evaluation : Evaluation) (readings : Readings)
    (batch : List (Nat × Submission)) : Round :=
  ⟨arena.progressDue evaluation (readings 1), batch,
    (arena.reportBatch evaluation readings 2 batch).1⟩

theorem played_opened (opening : Arena) (request : Request) (deadline : Instant) :
    opening.Played request (opening.opened request deadline) [] where
  request := rfl
  total := rfl
  batches := rfl
  computed := rfl
  reports := opening.reports_opened request deadline
  plays := ⟨List.nil_prefix, by simp, by simp, List.nil_prefix⟩
  unannounced := fun _ => rfl

theorem reports_congr {arena other : Arena} (h : arena.evaluateOne = other.evaluateOne)
    (evaluation : Evaluation) : arena.reports evaluation = other.reports evaluation := by
  rw [reports, reports, h]

namespace Played

variable {opening arena : Arena} {request : Request} {evaluation : Evaluation}
  {rounds : List Round} {readings : Readings} {batch : List (Nat × Submission)}
  {rest : List (List (Nat × Submission))}

theorem concluded (h : opening.Played request evaluation rounds) {timedOut : Bool}
    (hend : timedOut = false → evaluation.pending = []) :
    opening.Concluded request evaluation timedOut rounds where
  request := h.request
  total := h.total
  computed := h.computed
  plays := h.plays
  whole := by
    intro hinTime
    rw [← h.reports, ← h.computed]
    simp [Arena.reports, hend hinTime]

theorem transcript_append (h : opening.Played request evaluation rounds)
    (rest : List (List (Nat × Submission))) :
    transcript request opening.submissions.size rounds ++
        (arena.evaluateBatch evaluation readings batch rest).2.1 =
      transcript request opening.submissions.size
        (rounds ++ [arena.round evaluation readings batch]) := by
  have hdone : done evaluation = share (liveFeats
      (transcript request opening.submissions.size rounds)).length opening.submissions.size := by
    rw [length_liveFeats_transcript, ← h.computed, ← h.total]
    rfl
  rw [transcript_concat, Round.messages, ← hdone, ← h.request]
  rfl

/-- The reports of a batch follow those of the rounds before. -/
theorem computed_evaluateBatch (h : opening.Played request evaluation rounds) :
    (arena.evaluateBatch evaluation readings batch rest).1.computed =
      reported (rounds ++ [arena.round evaluation readings batch]) := by
  rw [reported_concat, ← h.computed]
  rfl

section Batch

variable (h : opening.Played request evaluation rounds)
  (hsame : arena.evaluateOne = opening.evaluateOne) (hpending : evaluation.pending = batch :: rest)

include h hsame hpending

theorem plays_concat :
    opening.Plays request (rounds ++ [arena.round evaluation readings batch]) where
  batches := by
    rw [← h.batches, hpending, List.map_append, List.append_cons]
    exact List.prefix_append _ _
  announced := by
    cases rounds with
    | nil =>
      rintro round ⟨⟩
      change arena.progressDue evaluation (readings 1) = true
      rw [progressDue, h.unannounced rfl]
      rfl
    | cons first later => exact h.plays.announced
  reports := by
    rw [List.forall_mem_append, List.forall_mem_singleton]
    refine ⟨h.plays.reports, ?_⟩
    rw [← hsame, ← h.request]
    exact arena.prefix_reportBatch evaluation readings 2 batch
  begun := by
    have hbegun : _ <+: arena.reports evaluation := prefix_evaluateBatch readings hpending
    rwa [h.computed_evaluateBatch, reports_congr hsame, h.reports] at hbegun

theorem evaluateBatch (hinTime : (arena.evaluateBatch evaluation readings batch rest).2.2 = false) :
    opening.Played request (arena.evaluateBatch evaluation readings batch rest).1
      (rounds ++ [arena.round evaluation readings batch]) where
  plays := h.plays_concat hsame hpending
  batches := by
    rw [← h.batches, hpending, List.map_append, List.append_assoc]
    rfl
  computed := h.computed_evaluateBatch
  reports := by
    rw [← reports_congr hsame, reports_evaluateBatch hpending hinTime, reports_congr hsame,
      h.reports]
  unannounced := fun hnil => by simp at hnil
  total := h.total
  request := h.request

end Batch

/-- A step plays one more round or none, and tells it; then it publishes, unless there are
batches left. -/
theorem step_cases (h : opening.Played request evaluation rounds)
    (hsame : arena.evaluateOne = opening.evaluateOne) (hsome : opening.submissions.size ≠ 0)
    (readings : Readings) :
    let told := transcript request opening.submissions.size
    (∃ last timedOut later rounds', arena.step evaluation readings =
        { arena.finish last timedOut with sent := later ++ (arena.finish last timedOut).sent } ∧
      opening.Concluded request last timedOut rounds' ∧ told rounds ++ later = told rounds') ∨
    ∃ following later rounds', arena.step evaluation readings =
        ⟨arena, later, .waiting following⟩ ∧
      opening.Played request following rounds' ∧ told rounds ++ later = told rounds' := by
  intro told
  unfold step
  rw [if_neg (h.total ▸ hsome)]
  cases hpending : evaluation.pending with
  | nil => exact .inl ⟨evaluation, false, [], rounds, rfl, h.concluded fun _ => hpending, by simp⟩
  | cons batch rest =>
    dsimp only
    split_ifs with hlate hend
    · exact .inl ⟨evaluation, true, [], rounds, rfl, h.concluded (by simp), by simp⟩
    · refine .inl ⟨_, _, _, _, rfl, ⟨h.plays_concat hsame hpending, h.computed_evaluateBatch,
        fun hinTime => ?_, h.total, h.request⟩, h.transcript_append rest⟩
      have hrest : rest = [] := by simpa [hinTime] using hend
      exact ((h.evaluateBatch hsame hpending hinTime).concluded fun _ => hrest).whole hinTime
    · have hinTime : (arena.evaluateBatch evaluation readings batch rest).2.2 = false := by
        simp_all
      exact .inr ⟨_, _, _, rfl, h.evaluateBatch hsame hpending hinTime, h.transcript_append rest⟩

end Played

/-! ## The end -/

/-- The last messages of a tick. -/
def closing (opening : Arena) (computed : Nat) (results : List FinalResult) (summary : Summary) :
    List Message :=
  .progress (share computed opening.submissions.size) 0 ::
    (results.map .finalResult ++ [.tickSummary summary])

/-- The messages of a whole tick.  Rounds are told in their order, then come a last notice of
progress, the results in the order of their ranks and the summary.  A participant has one
live update and one result, which tell the same; and what is stored for it, if it is still
here, is what its result tells. -/
structure Account (opening after : Arena) (request : Request) (sent : List Message)
    (rounds : List Round) (standings : List Standing) (timedOut : Bool) : Prop where
  plays : opening.Plays request rounds
  whole : timedOut = false → reported rounds = opening.allReports request
  ranked : Ranked request (reported rounds) standings
  results : List.Forall₂ FinalResult.Tells (finalResults sent) standings
  order : sent = transcript request opening.submissions.size rounds ++
    opening.closing (reported rounds).length (finalResults sent)
      (.ofStandings request.tick opening.settings.topPerformers timedOut standings)
  ranks : (finalResults sent).map FinalResult.rank = List.range' 1 (reported rounds).length
  tallied : Tallied opening.submissions.size sent
  ascending : (liveFeats sent).Pairwise fun feat later => feat.1 < later.1
  agree : (liveFeats sent).Perm ((finalResults sent).map FinalResult.feat)
  stored : ∀ participant, after.standings.get? participant =
    if after.submissions.contains participant then
      standings.find? (·.participant = participant)
    else none
  matched : ∀ participant standing, after.standings.get? participant = some standing →
    ∃ result ∈ finalResults sent, result.participant = participant ∧ result.Tells standing

theorem pairwise_allReports (arena : Arena) (request : Request) :
    (arena.allReports request).Pairwise fun evaluated later => evaluated.1 < later.1 := by
  rw [allReports, List.pairwise_map]
  exact arena.submissions.ascending.imp Nat.compare_eq_lt.mp

section Closing

variable (opening : Arena) (request : Request) (rounds : List Round)
  (results : List FinalResult) (summary : Summary)

theorem liveFeats_closing (computed : Nat) :
    liveFeats (opening.closing computed results summary) = [] := by
  have hresult : Message.feat? ∘ Message.finalResult = fun _ => none := rfl
  change liveFeats (results.map .finalResult ++ _) = []
  rw [liveFeats_append, liveFeats, List.filterMap_map, hresult, List.filterMap_none]
  rfl

theorem finalResults_closing (computed : Nat) :
    finalResults (opening.closing computed results summary) = results := by
  change finalResults (results.map .finalResult ++ _) = results
  rw [finalResults_append, finalResults_map_finalResult]
  exact List.append_nil _

theorem liveFeats_account :
    liveFeats (transcript request opening.submissions.size rounds ++
      opening.closing (reported rounds).length results summary) =
        (reported rounds).map request.feat := by
  rw [liveFeats_append, liveFeats_transcript, liveFeats_closing, List.append_nil]

theorem finalResults_account :
    finalResults (transcript request opening.submissions.size rounds ++
      opening.closing (reported rounds).length results summary) = results := by
  rw [finalResults_append, finalResults_transcript, finalResults_closing, List.nil_append]

theorem tallied_account :
    Tallied opening.submissions.size (transcript request opening.submissions.size rounds ++
      opening.closing (reported rounds).length results summary) := by
  rw [closing, List.append_cons, ← @length_liveFeats_transcript request opening.submissions.size]
  refine ((tallied_transcript rounds).progress 0).append ?_
  rintro message hmessage done processing rfl
  simp at hmessage

end Closing

namespace Concluded

variable {opening arena : Arena} {request : Request} {last : Evaluation} {timedOut : Bool}
  {rounds : List Round}

theorem sent_finish (h : opening.Concluded request last timedOut rounds)
    (hsettings : arena.settings = opening.settings) :
    (arena.finish last timedOut).sent = opening.closing (reported rounds).length
      ((rankAll request (reported rounds)).map FinalResult.ofStanding)
      (.ofStandings request.tick opening.settings.topPerformers timedOut
        (rankAll request (reported rounds))) := by
  rw [closing, ← h.request, ← h.computed, ← h.total, ← hsettings]
  rfl

theorem get?_finish (h : opening.Concluded request last timedOut rounds)
    (hdistinct : ((reported rounds).map Prod.fst).Nodup) (participant : Nat) :
    let after := (arena.finish last timedOut).arena
    after.standings.get? participant =
      if after.submissions.contains participant then
        (rankAll request (reported rounds)).find? (·.participant = participant)
      else none := by
  intro after
  have hpublished : after.submissions = arena.submissions := by
    change (arena.publish last timedOut).1.submissions = arena.submissions
    rw [arena.publish_eq last timedOut]
  have hstored : after.standings =
      (arena.storeAll (rankAll request (reported rounds))).standings := by
    rw [← h.request, ← h.computed]
    rfl
  rw [hstored, hpublished,
    get?_standings_storeAll arena (nodup_participant_rankAll request hdistinct)]

theorem account (h : opening.Concluded request last timedOut rounds)
    (hsettings : arena.settings = opening.settings) :
    opening.Account (arena.finish last timedOut).arena request
      (transcript request opening.submissions.size rounds ++ (arena.finish last timedOut).sent)
      rounds (rankAll request (reported rounds)) timedOut := by
  have hdistinct : ((reported rounds).map Prod.fst).Nodup :=
    (h.plays.begun.map Prod.fst).sublist.nodup (opening.nodup_allReports request)
  have hranked := ranked_rankAll request hdistinct
  have htells := FinalResult.tells_map_ofStanding (rankAll request (reported rounds))
  have hstored := @get?_finish opening arena _ _ _ _ h hdistinct
  rw [h.sent_finish hsettings]
  refine ⟨h.plays, h.whole, hranked, ?_, ?_, ?_, opening.tallied_account _ _ _ _, ?_, ?_, hstored,
    ?_⟩
  · rwa [finalResults_account]
  · rw [finalResults_account]
  · rw [finalResults_account, List.map_map]
    exact hranked.rank
  · rw [liveFeats_account, List.pairwise_map]
    exact (opening.pairwise_allReports request).sublist h.plays.begun.sublist
  · rw [liveFeats_account, finalResults_account, map_feat_eq_of_tells htells]
    exact hranked.map_feat_perm
  · intro participant standing hstanding
    rw [hstored] at hstanding
    split_ifs at hstanding
    have hsame : standing.participant = participant := by
      simpa using List.find?_some hstanding
    rw [finalResults_account]
    exact ⟨_, List.mem_map_of_mem (List.mem_of_find?_eq_some hstanding), hsame,
      FinalResult.tells_ofStanding standing⟩

end Concluded

end Arena

/-! ## Runs -/

namespace LiveArena

/-- In the middle of a tick its rounds have been told, and nothing else. -/
def Tells (live : LiveArena) (opening : Arena) (request : Request) (sent : List Message) : Prop :=
  ∃ evaluation rounds, live.running = some evaluation ∧
    opening.Played request evaluation rounds ∧
      sent = transcript request opening.submissions.size rounds

theorem tells_openTick {live : LiveArena} {request : Request} {now : Instant}
    (hidle : live.running = none) (hopens : (live.openTick request now).running.isSome) :
    (live.openTick request now).Tells live.arena request [] := by
  rcases live.openTick_cases request now with hsame | ⟨-, deadline, hopened⟩
  · rw [hsame, hidle] at hopens
    contradiction
  · rw [hopened]
    exact ⟨_, [], rfl, live.arena.played_opened request deadline, rfl⟩

theorem UnderWay.evaluateOne_eq {opening : Arena} {request : Request} {live : LiveArena}
    (h : live.UnderWay opening request) : live.arena.evaluateOne = opening.evaluateOne := by
  rw [h.arena]
  rfl

theorem UnderWay.settings_eq {opening : Arena} {request : Request} {live : LiveArena}
    (h : live.UnderWay opening request) : live.arena.settings = opening.settings := by
  rw [h.arena]

namespace Tells

variable {live : LiveArena} {opening : Arena} {request : Request} {sent : List Message}

theorem nil_of_empty (h : live.Tells opening request sent)
    (hempty : opening.submissions.size = 0) : sent = [] := by
  obtain ⟨evaluation, rounds, -, hplayed, rfl⟩ := h
  have hbatches : opening.batches = [] := by
    rw [Arena.batches, hempty]
    rfl
  have hrounds := hplayed.plays.batches
  rw [hbatches, List.prefix_nil, List.map_eq_nil_iff] at hrounds
  rw [hrounds]
  rfl

/-- A tick without participants ends at once. -/
theorem takeBatch_of_empty (h : live.Tells opening request sent)
    (hempty : opening.submissions.size = 0) (readings : Readings) :
    (live.takeBatch readings).running = none ∧
      live.sentBy (.takeBatch readings) = [.tickSummary (.empty request.tick)] := by
  obtain ⟨evaluation, rounds, hrunning, hplayed, -⟩ := h
  have hstep : live.arena.step evaluation readings = live.arena.publishEmpty request.tick := by
    rw [Arena.step, if_pos (hplayed.total.trans hempty), hplayed.request]
  constructor
  · simp only [takeBatch, hrunning, hstep]
    rfl
  · simp only [sentBy, hrunning, Option.elim_some, hstep]
    rfl

/-- A batch goes on with the rounds, or its messages are the last ones of the account. -/
theorem takeBatch_cases (h : live.Tells opening request sent)
    (hunderWay : live.UnderWay opening request) (hsome : opening.submissions.size ≠ 0)
    (readings : Readings) :
    (∃ rounds standings timedOut, (live.takeBatch readings).running = none ∧
      opening.Account (live.takeBatch readings).arena request
        (sent ++ live.sentBy (.takeBatch readings)) rounds standings timedOut) ∨
    (live.takeBatch readings).Tells opening request
      (sent ++ live.sentBy (.takeBatch readings)) := by
  obtain ⟨evaluation, rounds, hrunning, hplayed, rfl⟩ := h
  rcases hplayed.step_cases hunderWay.evaluateOne_eq hsome readings with
    ⟨last, timedOut, later, rounds', hstep, hconcluded, htold⟩ |
      ⟨following, later, rounds', hstep, hplayed', htold⟩
  · have hsent : live.sentBy (.takeBatch readings) =
        later ++ (live.arena.finish last timedOut).sent := by
      simp only [sentBy, hrunning, Option.elim_some, hstep]
    have hended : (live.takeBatch readings).running = none := by
      simp only [takeBatch, hrunning, hstep]
      rfl
    have hafter : (live.takeBatch readings).arena =
        (live.arena.finish last timedOut).arena := by
      simp only [takeBatch, hrunning, hstep]
      rfl
    refine .inl ⟨rounds', rankAll request (reported rounds'), timedOut, hended, ?_⟩
    rw [hsent, hafter, ← List.append_assoc, htold]
    exact hconcluded.account hunderWay.settings_eq
  · have hsent : live.sentBy (.takeBatch readings) = later := by
      simp only [sentBy, hrunning, Option.elim_some, hstep]
    have hnext : (live.takeBatch readings).running = some following := by
      simp only [takeBatch, hrunning, hstep]
    rw [hsent, htold]
    exact .inr ⟨following, rounds', hnext, hplayed', rfl⟩

theorem move (h : live.Tells opening request sent) (hunderWay : live.UnderWay opening request)
    {move : Move} (hlasts : (live.move move).running.isSome) :
    (live.move move).Tells opening request (sent ++ live.sentBy move) := by
  cases move with
  | submit participant submission =>
    obtain ⟨evaluation, rounds, hrunning, hplayed, hsent⟩ := h
    refine ⟨evaluation, rounds, ?_, hplayed, (List.append_nil _).trans hsent⟩
    rcases live.submit_cases participant submission with hsame | hstored
    · rw [LiveArena.move, hsame, hrunning]
    · rw [LiveArena.move, hstored, hrunning]
  | depart participant =>
    obtain ⟨evaluation, rounds, hrunning, hplayed, hsent⟩ := h
    exact ⟨evaluation, rounds, hrunning, hplayed, (List.append_nil _).trans hsent⟩
  | openTick other now =>
    rw [LiveArena.move, hunderWay.openTick_eq other now]
    simpa [sentBy] using h
  | takeBatch readings =>
    have hgoesOn : (live.takeBatch readings).running ≠ none := Option.isSome_iff_ne_none.mp hlasts
    by_cases hempty : opening.submissions.size = 0
    · exact absurd (h.takeBatch_of_empty hempty readings).1 hgoesOn
    · rcases h.takeBatch_cases hunderWay hempty readings with
        ⟨rounds, standings, timedOut, hended, -⟩ | htells
      · exact absurd hended hgoesOn
      · exact htells
  | abandon => contradiction

theorem run (h : live.Tells opening request sent) (hunderWay : live.UnderWay opening request)
    {moves : List Move} (hlasts : live.Lasts moves) :
    (live.run moves).Tells opening request (sent ++ live.sentDuring moves) := by
  induction moves using List.reverseRecOn with
  | nil =>
    rw [sentDuring, List.append_nil]
    exact h
  | append_singleton moves last ih =>
    obtain ⟨hbefore, hnow⟩ := hlasts.of_concat
    rw [run_concat, sentDuring_concat, ← List.append_assoc]
    exact (ih hbefore).move (hunderWay.run hbefore) hnow

end Tells

/-- Whatever happens between its batches, a tick without participants sends its summary only,
and any other tick gives a full account of what it has computed. -/
theorem tick_messages {start last : LiveArena} {request : Request} {now : Instant}
    {between : List Move} {readings : Readings} (hidle : start.running = none)
    (hlasts : (start.openTick request now).Lasts between)
    (hlast : (start.openTick request now).run between = last)
    (hends : (last.takeBatch readings).running = none) :
    let opening := start.arena
    let sent := (start.openTick request now).sentDuring (between ++ [.takeBatch readings])
    (opening.submissions.size = 0 → sent = [.tickSummary (.empty request.tick)]) ∧
      (opening.submissions.size ≠ 0 → ∃ rounds standings timedOut,
        opening.Account (last.takeBatch readings).arena request sent rounds standings
          timedOut) := by
  intro opening sent
  have hopens := hlasts [] List.nil_prefix
  have hunderWay := underWay_openTick hidle hopens
  have htells := (tells_openTick hidle hopens).run hunderWay hlasts
  have hunderWay := hunderWay.run hlasts
  rw [hlast] at htells hunderWay
  have hsent : sent = (start.openTick request now).sentDuring between ++
      last.sentBy (.takeBatch readings) := by
    rw [← hlast]
    exact sentDuring_concat _ _ _
  rw [List.nil_append] at htells
  rw [hsent]
  constructor
  · intro hempty
    rw [htells.nil_of_empty hempty, (htells.takeBatch_of_empty hempty readings).2]
    rfl
  · intro hsome
    rcases htells.takeBatch_cases hunderWay hsome readings with
      ⟨rounds, standings, timedOut, -, haccount⟩ | ⟨evaluation, rounds, hrunning, -⟩
    · exact ⟨rounds, standings, timedOut, haccount⟩
    · rw [hends] at hrunning
      contradiction

/-- The first participant departs after its batch.  It is told of all the same, but nothing is
stored for it. -/
theorem couple_tick_messages :
    let between : List Move := [.takeBatch fun _ => 0, .depart 1]
    let opened := couple.openTick (.regular 1) 0
    let sent := opened.sentDuring (between ++ [.takeBatch fun _ => 0])
    let after := (opened.run between).takeBatch fun _ => 0
    couple.running = none ∧ opened.Lasts between ∧ after.running = none ∧
      couple.arena.submissions.size = 2 ∧
      (∃ rounds standings timedOut,
        couple.arena.Account after.arena (.regular 1) sent rounds standings timedOut) ∧
      (sent.take 4).map Message.type = ["progress", "liveUpdate", "liveUpdate", "progress"] ∧
      after.arena.standings.get? 1 = none := by
  intro between opened sent after
  have hidle : couple.running = none := Option.isNone_iff_eq_none.mp (by decide +kernel)
  have hlasts : opened.Lasts between := by decide +kernel
  have hends : after.running = none := Option.isNone_iff_eq_none.mp (by decide +kernel)
  have hsize : couple.arena.submissions.size = 2 := by decide +kernel
  have hsome : couple.arena.submissions.size ≠ 0 := by
    rw [hsize]
    decide
  obtain ⟨rounds, standings, timedOut, haccount⟩ :=
    (tick_messages hidle hlasts rfl hends).2 hsome
  have haway : after.arena.submissions.contains 1 = false := by
    rw [submissions_takeBatch]
    decide +kernel
  exact ⟨hidle, hlasts, hends, hsize, ⟨rounds, standings, timedOut, haccount⟩, by decide +kernel,
    (haccount.stored 1).trans (if_neg (Bool.eq_false_iff.mp haway))⟩

end LiveArena

end TickArena

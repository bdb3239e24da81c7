import TickArena.Proofs.DispatchedTicks
import TickArena.Proofs.Publishing

/-!
# Runs of a timeline

Calls of the scheduler, waits and stops come at any time, and the evaluations go on between
them, each as far as its next pause.  A run is a list of such moves.  Every dispatch has a
number of its own, and only the latest one is in reach of the next dispatch and of a stop.
-/

namespace TickArena

/-! ## How a task goes on -/

namespace Task

/-- The request of a task that has not come to its end. -/
def request? : Task → Option Request
  | queued request _ => some request
  | sleeping evaluation _ => some evaluation.request
  | finished _ | crashed => none

def isLive (task : Task) : Bool :=
  task.request?.isSome

theorem isLive_eq_isSome_alarm? (task : Task) : task.isLive = task.alarm?.isSome := by
  cases task <;> rfl

/-- The evaluation that a task goes on with; a queued one is opened, if it can be. -/
def evaluation? (arena : Arena) (now : Instant) : Task → Option Evaluation
  | queued request _ => (arena.openEvaluation request now).toOption
  | sleeping evaluation _ => some evaluation
  | finished _ | crashed => none

/-- One step of the evaluation, up to the sleep behind it. -/
def takeBatch (arena : Arena) (clock : VirtualClock) (readings : Readings) (task : Task) :
    Arena × List Message × Task :=
  match task.evaluation? arena clock.now with
  | none => (arena, [], if task.isLive then crashed else task)
  | some evaluation =>
    let stepped := arena.step evaluation readings
    match stepped.progress with
    | .finished summary => (stepped.arena, stepped.sent, finished summary)
    | .waiting following =>
      (stepped.arena, stepped.sent,
        sleeping following (clock.alarmAfter arena.settings.batchDelay))

/-- The notice of progress before a batch that is computed elsewhere: the task pauses there,
and takes the batch later. -/
def announceBatch (arena : Arena) (clock : VirtualClock) (readings : Readings) (task : Task) :
    Arena × List Message × Task :=
  match task.evaluation? arena clock.now with
  | none => (arena, [], task)
  | some evaluation =>
    match evaluation.pending with
    | [] => (arena, [], task)
    | batch :: _ =>
      if arena.settings.parallelThreshold ≤ batch.length ∧ readings 0 < evaluation.deadline then
        let due := arena.progressDue evaluation (readings 1)
        let lastProgress := if due then some (readings 1) else evaluation.lastProgress
        (arena, if due then [.progress (Arena.done evaluation) batch.length] else [],
          sleeping { evaluation with lastProgress } (clock.alarmAfter 0))
      else (arena, [], task)

end Task

namespace Arena

/-- All results that are kept come from one tick. -/
def ResultsOf (arena : Arena) (tick : Nat) : Prop :=
  ∀ participant standing, arena.standings.get? participant = some standing → standing.tick = tick

theorem resultsOf_storeAll (arena : Arena) {standings : List Standing} {tick : Nat}
    (h : ∀ standing ∈ standings, standing.tick = tick) :
    (arena.storeAll standings).ResultsOf tick := by
  have hstore : ∀ (arena : Arena), ∀ standing ∈ standings, arena.ResultsOf tick →
      (arena.store standing).ResultsOf tick := by
    intro arena standing hstanding harena participant kept hkept
    unfold store at hkept
    split_ifs at hkept
    · by_cases hsame : participant = standing.participant
      · rw [hsame, Table.get?_insert_self] at hkept
        obtain rfl := Option.some_inj.mp hkept
        exact h _ hstanding
      · rw [Table.get?_insert_of_ne _ _ hsame] at hkept
        exact harena _ _ hkept
    · exact harena _ _ hkept
  have hempty : ({ arena with standings := ∅ } : Arena).ResultsOf tick := by
    intro participant standing hstanding
    contradiction
  exact List.foldlRecOn standings store hempty fun before hbefore standing hstanding =>
    hstore before standing hstanding hbefore

theorem summaries_finish (arena : Arena) (evaluation : Evaluation) (timedOut : Bool) :
    Host.summaries (arena.finish evaluation timedOut).sent =
      [(arena.publish evaluation timedOut).2.2] := by
  have hresults : ∀ results : List FinalResult,
      Host.summaries (results.map Message.finalResult) = [] := by
    intro results
    apply Host.summaries_eq_nil
    intro message hmem summary
    obtain ⟨result, -, rfl⟩ := List.mem_map.mp hmem
    exact Message.noConfusion
  change Host.summaries ([Message.progress _ 0] ++ (List.map Message.finalResult _ ++ [_])) = _
  rw [Host.summaries_append, Host.summaries_append, hresults]
  rfl

theorem summaries_evaluateBatch (arena : Arena) (evaluation : Evaluation) (readings : Readings)
    (batch : List (Nat × Submission)) (rest : List (List (Nat × Submission))) :
    Host.summaries (arena.evaluateBatch evaluation readings batch rest).2.1 = [] := by
  apply Host.summaries_eq_nil
  intro message hmem summary
  simp only [evaluateBatch, List.mem_append, List.mem_map] at hmem
  rcases hmem with hprogress | ⟨evaluated, -, rfl⟩
  · split_ifs at hprogress
    · rw [List.mem_singleton.mp hprogress]
      exact Message.noConfusion
    · contradiction
  · exact Message.noConfusion

/-- What a step that ends an evaluation leaves behind. -/
structure Closes (arena : Arena) (request : Request) (after : Arena) (sent : List Message)
    (summary : Summary) : Prop where
  tick : summary.tick = request.tick
  sent : Host.summaries sent = [summary]
  results : after.ResultsOf request.tick
  settings : after.settings = arena.settings
  submissions : after.submissions = arena.submissions

theorem closes_finish (arena : Arena) (evaluation : Evaluation) (timedOut : Bool)
    {before : List Message} (hbefore : Host.summaries before = []) :
    arena.Closes evaluation.request (arena.finish evaluation timedOut).arena
      (before ++ (arena.finish evaluation timedOut).sent)
      (arena.publish evaluation timedOut).2.2 := by
  have hstandings : ∀ standing ∈ rankAll evaluation.request evaluation.computed,
      standing.tick = evaluation.request.tick := by
    intro standing hstanding
    obtain ⟨ranked, -, rfl⟩ := List.mem_map.mp hstanding
    rfl
  have hsettings : ∀ standings, (arena.storeAll standings).settings = arena.settings :=
    fun standings => by rw [storeAll, foldl_store_eq]
  have hsubmissions : ∀ standings, (arena.storeAll standings).submissions = arena.submissions :=
    fun standings => by rw [storeAll, foldl_store_eq]
  constructor
  · rfl
  · rw [Host.summaries_append, hbefore, List.nil_append, summaries_finish]
  · exact arena.resultsOf_storeAll hstandings
  · exact hsettings _
  · exact hsubmissions _

theorem closes_publishEmpty (arena : Arena) (request : Request) :
    arena.Closes request (arena.publishEmpty request.tick).arena
      (arena.publishEmpty request.tick).sent (.empty request.tick) :=
  ⟨rfl, rfl, fun _ _ hkept => by contradiction, rfl, rfl⟩

theorem step_outcome (arena : Arena) (evaluation : Evaluation) (readings : Readings) :
    (∃ following sent, arena.step evaluation readings =
        { arena, sent, progress := .waiting following } ∧
      following.request = evaluation.request ∧ Host.summaries sent = []) ∨
    ∃ after sent summary, arena.step evaluation readings =
        { arena := after, sent, progress := .finished summary } ∧
      arena.Closes evaluation.request after sent summary := by
  unfold step
  by_cases htotal : evaluation.total = 0
  · rw [if_pos htotal]
    exact .inr ⟨_, _, _, rfl, arena.closes_publishEmpty evaluation.request⟩
  · rw [if_neg htotal]
    cases evaluation.pending with
    | nil => exact .inr ⟨_, _, _, rfl, @closes_finish arena evaluation false [] rfl⟩
    | cons batch rest =>
      have hsent := arena.summaries_evaluateBatch evaluation readings batch rest
      dsimp only
      split_ifs
      · exact .inr ⟨_, _, _, rfl, @closes_finish arena evaluation true [] rfl⟩
      · exact .inr ⟨_, _, _, rfl, arena.closes_finish
          (arena.evaluateBatch evaluation readings batch rest).1 _ hsent⟩
      · exact .inl ⟨_, _, rfl, rfl, hsent⟩

theorem submit_eq_ok {arena after : Arena} {participant : Nat} {submission : Submission}
    (h : arena.submit participant submission = .ok after) :
    after = { arena with submissions := after.submissions } := by
  unfold submit at h
  split_ifs at h
  · obtain rfl := Except.ok.inj h
    rfl
  · split at h
    · contradiction
    · obtain rfl := Except.ok.inj h
      rfl

end Arena

namespace Task

/-- What comes of a task up to its next pause.  It rests when there is nothing to do, it
crashes when it cannot be opened, it goes on with its request, or it publishes. -/
inductive Advances (arena : Arena) (task : Task) : Arena → List Message → Task → Prop where
  | rests : Advances arena task arena [] task
  | crashes (hlive : task.isLive = true) : Advances arena task arena [] crashed
  | goesOn {evaluation : Evaluation} {alarm : Nat} {sent : List Message}
    (hrequest : task.request? = some evaluation.request) (hsent : Host.summaries sent = []) :
    Advances arena task arena sent (sleeping evaluation alarm)
  | publishes {request : Request} {after : Arena} {sent : List Message} {summary : Summary}
    (hrequest : task.request? = some request) (hcloses : arena.Closes request after sent summary) :
    Advances arena task after sent (finished summary)

variable {arena : Arena} {task : Task} {clock : VirtualClock} {readings : Readings}

theorem request?_of_evaluation? {now : Instant} {evaluation : Evaluation}
    (h : task.evaluation? arena now = some evaluation) :
    task.request? = some evaluation.request := by
  cases task with
  | queued request alarm =>
    cases hopened : arena.openEvaluation request now with
    | error fault =>
      rw [evaluation?, hopened] at h
      contradiction
    | ok opened =>
      rw [evaluation?, hopened] at h
      obtain rfl := Option.some_inj.mp h
      obtain ⟨deadline, rfl⟩ := Arena.openEvaluation_eq_ok hopened
      rfl
  | sleeping own alarm =>
    obtain rfl := Option.some_inj.mp h
    rfl
  | finished summary => contradiction
  | crashed => contradiction

/-- What lets a task go on as far as some pause. -/
def IsPortion (portion : Arena → Task → Arena × List Message × Task) : Prop :=
  ∀ (arena : Arena) (task : Task), task.Advances arena (portion arena task).1
    (portion arena task).2.1 (portion arena task).2.2

theorem isPortion_takeBatch (clock : VirtualClock) (readings : Readings) :
    IsPortion (takeBatch · clock readings ·) := by
  intro arena task
  beta_reduce
  unfold takeBatch
  cases hevaluation : task.evaluation? arena clock.now with
  | none =>
    dsimp only
    split_ifs with hlive
    · exact .crashes hlive
    · exact .rests
  | some evaluation =>
    have hrequest := request?_of_evaluation? hevaluation
    dsimp only
    rcases arena.step_outcome evaluation readings with
      ⟨following, sent, hstep, hsame, hsent⟩ | ⟨after, sent, summary, hstep, hcloses⟩
    · rw [hstep]
      exact .goesOn (hsame ▸ hrequest) hsent
    · rw [hstep]
      exact .publishes hrequest hcloses

theorem isPortion_announceBatch (clock : VirtualClock) (readings : Readings) :
    IsPortion (announceBatch · clock readings ·) := by
  intro arena task
  beta_reduce
  unfold announceBatch
  cases hevaluation : task.evaluation? arena clock.now with
  | none => exact .rests
  | some evaluation =>
    have hrequest := request?_of_evaluation? hevaluation
    dsimp only
    split
    · exact .rests
    · rename_i batch rest hpending
      split_ifs with hlarge hdue
      · have hnotice : Host.summaries
            [Message.progress (Arena.done evaluation) batch.length] = [] := rfl
        exact .goesOn hrequest hnotice
      · have hnotice : Host.summaries [] = [] := rfl
        exact .goesOn hrequest hnotice
      · exact .rests

theorem Advances.eq_of_not_live {after : Arena} {sent : List Message} {task' : Task}
    (h : task.Advances arena after sent task') (hlive : task.isLive = false) :
    after = arena ∧ sent = [] ∧ task' = task := by
  cases h with
  | rests => exact ⟨rfl, rfl, rfl⟩
  | crashes hcrashed =>
    rw [hlive] at hcrashed
    contradiction
  | goesOn hrequest hsent =>
    rw [isLive, hrequest] at hlive
    contradiction
  | publishes hrequest hcloses =>
    rw [isLive, hrequest] at hlive
    contradiction

theorem Advances.request?_eq_some {after : Arena} {sent : List Message} {task' : Task}
    (h : task.Advances arena after sent task') {request : Request}
    (hrequest : task'.request? = some request) : task.request? = some request := by
  cases h with
  | rests => exact hrequest
  | crashes hlive => contradiction
  | goesOn hsame hsent =>
    obtain rfl := Option.some_inj.mp hrequest
    exact hsame
  | publishes hsame hcloses => contradiction

theorem Advances.settings_eq {after : Arena} {sent : List Message} {task' : Task}
    (h : task.Advances arena after sent task') : after.settings = arena.settings := by
  cases h with
  | rests => rfl
  | crashes hlive => rfl
  | goesOn hrequest hsent => rfl
  | publishes hrequest hcloses => exact hcloses.settings

end Task

/-! ## Evaluations of a timeline -/

namespace Actor

def evaluation? : Actor → Option (Nat × Task)
  | clockLoop _ _ => none
  | evaluation number task => some (number, task)

/-- The evaluation of a number with another task. -/
def become (number : Nat) (task : Task) : Actor → Actor
  | clockLoop deadline alarm => clockLoop deadline alarm
  | evaluation own old => evaluation own (if own = number then task else old)

end Actor

namespace Timeline

/-- The evaluations that are kept, with the numbers of their dispatches. -/
def evaluations (timeline : Timeline) : List (Nat × Task) :=
  timeline.actors.filterMap Actor.evaluation?

/-- The evaluations that are neither aborted nor over. -/
def live (timeline : Timeline) : List (Nat × Task) :=
  timeline.evaluations.filter (·.2.isLive)

/-- The live evaluations that a dispatch does not reach, since somebody waits for them. -/
def held (timeline : Timeline) : List (Nat × Task) :=
  timeline.live.filter fun evaluation => some evaluation.1 ≠ timeline.latest

def summaries (timeline : Timeline) : List Summary :=
  Host.summaries timeline.sent

theorem evaluations_drop (timeline : Timeline) (number : Nat) :
    (timeline.drop number).evaluations = timeline.evaluations.filter (·.1 ≠ number) := by
  unfold evaluations drop
  dsimp only
  rw [List.filterMap_filter, List.filter_filterMap]
  apply List.filterMap_congr
  intro actor _
  cases actor with
  | clockLoop deadline alarm => rfl
  | evaluation own task =>
    by_cases hsame : own = number <;>
      simp [Actor.task?, Actor.evaluation?, hsame, Option.filter]

theorem evaluations_dropLatest (timeline : Timeline) :
    timeline.dropLatest.evaluations =
      timeline.evaluations.filter fun evaluation => some evaluation.1 ≠ timeline.latest := by
  unfold dropLatest
  cases timeline.latest with
  | none => simp
  | some number => simpa using timeline.evaluations_drop number

theorem dropLatest_eq (timeline : Timeline) :
    timeline.dropLatest = { timeline with actors := timeline.dropLatest.actors } := by
  obtain ⟨arena, scheduler, clock, actors, latest, dispatches, observers, sent⟩ := timeline
  cases latest <;> rfl

theorem evaluations_dispatch (timeline : Timeline) (request : Request) :
    (timeline.dispatch request).evaluations =
      (timeline.evaluations.filter fun evaluation => some evaluation.1 ≠ timeline.latest) ++
        [(timeline.dispatches, .queued request timeline.clock.rung)] := by
  rw [← evaluations_dropLatest]
  simp [dispatch, evaluations, Actor.evaluation?]

theorem dispatch_eq (timeline : Timeline) (request : Request) :
    timeline.dispatch request =
      { timeline with
        actors := (timeline.dispatch request).actors
        latest := some timeline.dispatches
        dispatches := timeline.dispatches + 1 } := by
  unfold dispatch
  dsimp only
  rw [dropLatest_eq]

theorem latest_dispatch (timeline : Timeline) (request : Request) :
    (timeline.dispatch request).latest = some timeline.dispatches :=
  rfl

theorem dispatches_dispatch (timeline : Timeline) (request : Request) :
    (timeline.dispatch request).dispatches = timeline.dispatches + 1 :=
  rfl

theorem clock_dispatch (timeline : Timeline) (request : Request) :
    (timeline.dispatch request).clock = timeline.clock := by
  rw [dispatch_eq]

/-- The numbers of the evaluations are those of different dispatches, and the latest one is
that of the last dispatch. -/
structure Numbered (timeline : Timeline) : Prop where
  lt : ∀ evaluation ∈ timeline.evaluations, evaluation.1 < timeline.dispatches
  nodup : (timeline.evaluations.map Prod.fst).Nodup
  latest : ∀ number, timeline.latest = some number → number + 1 = timeline.dispatches

theorem Numbered.filter {timeline other : Timeline} (h : timeline.Numbered)
    {p : Nat × Task → Bool} (hevaluations : other.evaluations = timeline.evaluations.filter p)
    (hlatest : ∀ number, other.latest = some number → timeline.latest = some number)
    (hdispatches : other.dispatches = timeline.dispatches) : other.Numbered := by
  constructor
  · intro evaluation hmem
    rw [hevaluations] at hmem
    rw [hdispatches]
    exact h.lt _ (List.mem_of_mem_filter hmem)
  · rw [hevaluations]
    exact h.nodup.sublist (List.filter_sublist.map _)
  · intro number hnumber
    rw [hdispatches]
    exact h.latest number (hlatest number hnumber)

theorem Numbered.dispatch {timeline : Timeline} (h : timeline.Numbered) (request : Request) :
    (timeline.dispatch request).Numbered := by
  constructor
  · intro evaluation hmem
    rw [evaluations_dispatch] at hmem
    rw [dispatches_dispatch]
    rcases List.mem_append.mp hmem with hold | hnew
    · exact Nat.lt_succ_of_lt (h.lt _ (List.mem_of_mem_filter hold))
    · rw [List.mem_singleton.mp hnew]
      exact Nat.lt_succ_self _
  · rw [evaluations_dispatch, List.map_append]
    apply List.Nodup.append
    · exact h.nodup.sublist (List.filter_sublist.map _)
    · exact List.nodup_singleton _
    · rw [List.map_singleton, List.disjoint_singleton]
      intro hmem
      obtain ⟨evaluation, hold, heq⟩ := List.mem_map.mp hmem
      exact absurd heq (h.lt _ (List.mem_of_mem_filter hold)).ne
  · intro number hnumber
    rw [latest_dispatch] at hnumber
    rw [dispatches_dispatch, Option.some_inj.mp hnumber]

theorem Numbered.evaluations_foldl_dispatch {timeline : Timeline} (h : timeline.Numbered)
    (earlier : List Request) (last : Request) :
    ((earlier ++ [last]).foldl Timeline.dispatch timeline).evaluations =
      (timeline.evaluations.filter fun evaluation => some evaluation.1 ≠ timeline.latest) ++
        [(timeline.dispatches + earlier.length, .queued last timeline.clock.rung)] := by
  induction earlier generalizing timeline with
  | nil => exact timeline.evaluations_dispatch last
  | cons first earlier ih =>
    rw [List.cons_append, List.foldl_cons, ih (h.dispatch first), evaluations_dispatch,
      List.filter_append, List.filter_filter]
    have hkept : (timeline.evaluations.filter fun evaluation =>
        some evaluation.1 ≠ (timeline.dispatch first).latest &&
          some evaluation.1 ≠ timeline.latest) =
        timeline.evaluations.filter fun evaluation => some evaluation.1 ≠ timeline.latest := by
      apply List.filter_congr
      intro evaluation hmem
      have hne := (h.lt evaluation hmem).ne
      simp [latest_dispatch, hne]
    rw [hkept, latest_dispatch, dispatches_dispatch, clock_dispatch]
    simp [Nat.add_assoc, Nat.add_comm 1]

/-! ## What a call leaves behind -/

theorem absorb_eq (timeline : Timeline) (turn : Turn) :
    timeline.absorb turn =
      { timeline with
        scheduler := turn.scheduler
        actors := (timeline.absorb turn).actors
        latest := (timeline.absorb turn).latest
        dispatches := (timeline.absorb turn).dispatches
        observers := (timeline.absorb turn).observers
        sent := timeline.sent ++ turn.sent } := by
  have hfoldl : ∀ (called : Timeline) (requests : List Request),
      requests.foldl dispatch called =
        { called with
          actors := (requests.foldl dispatch called).actors
          latest := (requests.foldl dispatch called).latest
          dispatches := (requests.foldl dispatch called).dispatches } := by
    intro called requests
    induction requests generalizing called with
    | nil => rfl
    | cons first later ih =>
      rw [List.foldl_cons, ih, dispatch_eq]
  unfold absorb
  dsimp only
  rw [hfoldl]

theorem arena_absorb (timeline : Timeline) (turn : Turn) :
    (timeline.absorb turn).arena = timeline.arena := by
  rw [absorb_eq]

theorem scheduler_absorb (timeline : Timeline) (turn : Turn) :
    (timeline.absorb turn).scheduler = turn.scheduler := by
  rw [absorb_eq]

theorem sent_absorb (timeline : Timeline) (turn : Turn) :
    (timeline.absorb turn).sent = timeline.sent ++ turn.sent := by
  rw [absorb_eq]

theorem dispatches_foldl_dispatch (timeline : Timeline) (requests : List Request) :
    (requests.foldl dispatch timeline).dispatches = timeline.dispatches + requests.length := by
  induction requests generalizing timeline with
  | nil => rfl
  | cons first later ih =>
    rw [List.foldl_cons, ih, dispatches_dispatch, List.length_cons]
    exact Nat.add_right_comm _ _ _

theorem dispatches_absorb (timeline : Timeline) (turn : Turn) :
    (timeline.absorb turn).dispatches = timeline.dispatches + turn.dispatched.length :=
  dispatches_foldl_dispatch _ _

theorem absorb_of_not_dispatched (timeline : Timeline) {turn : Turn} (h : turn.dispatched = []) :
    (timeline.absorb turn).evaluations = timeline.evaluations ∧
      (timeline.absorb turn).latest = timeline.latest := by
  unfold absorb
  rw [h]
  exact ⟨rfl, rfl⟩

theorem Numbered.absorb {timeline : Timeline} (h : timeline.Numbered) (turn : Turn) :
    (timeline.absorb turn).Numbered := by
  have hcalled : ∀ scheduler observers sent, Numbered
      { timeline with scheduler := scheduler, observers := observers, sent := sent } :=
    fun _ _ _ => ⟨h.lt, h.nodup, h.latest⟩
  exact List.foldlRecOn turn.dispatched Timeline.dispatch (hcalled _ _ _)
    fun called hnumbered request _ => hnumbered.dispatch request

/-- A call that dispatches drops the latest evaluation and queues its last one. -/
theorem Numbered.absorb_of_dispatched {timeline : Timeline} (h : timeline.Numbered) {turn : Turn}
    {earlier : List Request} {last : Request} (hdispatched : turn.dispatched = earlier ++ [last]) :
    (timeline.absorb turn).evaluations =
        (timeline.evaluations.filter fun evaluation => some evaluation.1 ≠ timeline.latest) ++
          [(timeline.dispatches + earlier.length, .queued last timeline.clock.rung)] ∧
      (timeline.absorb turn).latest = some (timeline.dispatches + earlier.length) := by
  have hcalled : ∀ scheduler observers sent, Numbered
      { timeline with scheduler := scheduler, observers := observers, sent := sent } :=
    fun _ _ _ => ⟨h.lt, h.nodup, h.latest⟩
  unfold Timeline.absorb
  dsimp only
  rw [hdispatched]
  constructor
  · exact (hcalled _ _ _).evaluations_foldl_dispatch earlier last
  · rw [List.foldl_concat, latest_dispatch]
    exact congrArg some (dispatches_foldl_dispatch _ _)

/-! ## Moves -/

def goOn (timeline : Timeline) (number : Nat)
    (portion : Arena → Task → Arena × List Message × Task) : Timeline :=
  match timeline.task? number with
  | none => timeline
  | some task =>
    let (arena, sent, task) := portion timeline.arena task
    { timeline with
      arena
      actors := timeline.actors.map (Actor.become number task)
      sent := timeline.sent ++ sent }

/-- A wait takes the latest evaluation to itself, as `wait` does before time passes. -/
def hold (timeline : Timeline) : Timeline :=
  { timeline with latest := none }

def submit (timeline : Timeline) (participant : Nat) (submission : Submission) : Timeline :=
  match timeline.arena.submit participant submission with
  | .ok arena => { timeline with arena }
  | .error _ => timeline

/-- What can happen next: a call with the instant that it is given, a stop, the beginning
of a wait, a portion of an evaluation with what the clocks show then, or a change of the
submissions. -/
inductive Move where
  | call (call : Call)
  | stop
  | hold
  | announceBatch (number : Nat) (clock : VirtualClock) (readings : Readings)
  | takeBatch (number : Nat) (clock : VirtualClock) (readings : Readings)
  | submit (participant : Nat) (submission : Submission)
  | depart (participant : Nat)

def move (timeline : Timeline) : Move → Timeline
  | .call call => timeline.absorb (timeline.scheduler.call call)
  | .stop => timeline.stop.1
  | .hold => timeline.hold
  | .announceBatch number clock readings =>
    timeline.goOn number fun arena => Task.announceBatch arena clock readings
  | .takeBatch number clock readings =>
    timeline.goOn number fun arena => Task.takeBatch arena clock readings
  | .submit participant submission => timeline.submit participant submission
  | .depart participant => { timeline with arena := timeline.arena.depart participant }

def run (timeline : Timeline) (moves : List Move) : Timeline :=
  moves.foldl move timeline

theorem run_concat (timeline : Timeline) (moves : List Move) (last : Move) :
    timeline.run (moves ++ [last]) = (timeline.run moves).move last :=
  List.foldl_concat ..

theorem run_append (timeline : Timeline) (moves later : List Move) :
    timeline.run (moves ++ later) = (timeline.run moves).run later :=
  List.foldl_append

theorem mem_of_task?_eq_some {timeline : Timeline} {number : Nat} {task : Task}
    (h : timeline.task? number = some task) : (number, task) ∈ timeline.evaluations := by
  obtain ⟨actor, hactor, htask⟩ := List.exists_of_findSome?_eq_some h
  refine List.mem_filterMap.mpr ⟨actor, hactor, ?_⟩
  cases actor with
  | clockLoop deadline alarm => contradiction
  | evaluation own task' =>
    simp only [Actor.task?] at htask
    split_ifs at htask with hsame
    rw [Actor.evaluation?, hsame, Option.some_inj.mp htask]

theorem Numbered.task?_eq_some {timeline : Timeline} (h : timeline.Numbered) {number : Nat}
    {task : Task} (hmem : (number, task) ∈ timeline.evaluations) :
    timeline.task? number = some task := by
  cases hfound : timeline.task? number with
  | none =>
    obtain ⟨actor, hactor, hevaluation⟩ := List.mem_filterMap.mp hmem
    have hnone := List.findSome?_eq_none_iff.mp hfound actor hactor
    cases actor with
    | clockLoop deadline alarm => contradiction
    | evaluation own task' =>
      obtain ⟨rfl, rfl⟩ := Prod.mk.inj (Option.some_inj.mp hevaluation)
      simp [Actor.task?] at hnone
  | some found =>
    have hsame := List.inj_on_of_nodup_map h.nodup (mem_of_task?_eq_some hfound) hmem rfl
    exact congrArg some (Prod.mk.inj hsame).2

def replaced (timeline : Timeline) (number : Nat) (task : Task) : List (Nat × Task) :=
  timeline.evaluations.map fun evaluation =>
    (evaluation.1, if evaluation.1 = number then task else evaluation.2)

theorem evaluations_become (timeline : Timeline) (number : Nat) (task : Task) :
    (timeline.actors.map (Actor.become number task)).filterMap Actor.evaluation? =
      timeline.replaced number task := by
  unfold replaced evaluations
  rw [List.filterMap_map, List.map_filterMap]
  apply List.filterMap_congr
  intro actor _
  cases actor with
  | clockLoop deadline alarm => rfl
  | evaluation own old =>
    simp [Actor.become, Actor.evaluation?]

/-- A portion of an evaluation changes its task and what the task has changed. -/
structure GoesOn (timeline : Timeline) (number : Nat) (task : Task) (sent : List Message)
    (task' : Task) (after : Timeline) : Prop where
  mem : (number, task) ∈ timeline.evaluations
  advances : task.Advances timeline.arena after.arena sent task'
  evaluations : after.evaluations = timeline.replaced number task'
  sent : after.sent = timeline.sent ++ sent
  scheduler : after.scheduler = timeline.scheduler
  clock : after.clock = timeline.clock
  latest : after.latest = timeline.latest
  dispatches : after.dispatches = timeline.dispatches

theorem goesOn_goOn {timeline : Timeline} {number : Nat} {task : Task}
    (htask : timeline.task? number = some task)
    {portion : Arena → Task → Arena × List Message × Task}
    (hportion : Task.IsPortion portion) :
    timeline.GoesOn number task (portion timeline.arena task).2.1
      (portion timeline.arena task).2.2 (timeline.goOn number portion) := by
  have hadvances := hportion timeline.arena task
  unfold goOn
  rw [htask]
  exact ⟨mem_of_task?_eq_some htask, hadvances, timeline.evaluations_become number _,
    rfl, rfl, rfl, rfl, rfl⟩

theorem goOn_cases (timeline : Timeline) (number : Nat)
    {portion : Arena → Task → Arena × List Message × Task}
    (hportion : Task.IsPortion portion) :
    timeline.goOn number portion = timeline ∨
      ∃ task sent task', timeline.GoesOn number task sent task' (timeline.goOn number portion) := by
  cases htask : timeline.task? number with
  | none =>
    unfold goOn
    rw [htask]
    exact .inl rfl
  | some task => exact .inr ⟨task, _, _, goesOn_goOn htask hportion⟩

theorem submit_eq (timeline : Timeline) (participant : Nat) (submission : Submission) :
    timeline.submit participant submission =
      { timeline with arena := { timeline.arena with
          submissions := (timeline.submit participant submission).arena.submissions } } := by
  unfold submit
  cases hsubmit : timeline.arena.submit participant submission with
  | ok after => exact congrArg (fun arena => { timeline with arena }) (Arena.submit_eq_ok hsubmit)
  | error problem => rfl

theorem evaluations_stop (timeline : Timeline) :
    timeline.stop.1.evaluations =
      timeline.evaluations.filter fun evaluation => some evaluation.1 ≠ timeline.latest := by
  rw [← evaluations_dropLatest]
  unfold stop evaluations
  dsimp only
  rw [List.filterMap_filter]
  apply List.filterMap_congr
  intro actor _
  cases actor <;> rfl

theorem stop_eq (timeline : Timeline) :
    timeline.stop.1 = { timeline with actors := timeline.stop.1.actors, latest := none } := by
  unfold stop
  dsimp only
  rw [dropLatest_eq]

theorem GoesOn.numbered {timeline after : Timeline} (h : timeline.Numbered) {number : Nat}
    {task task' : Task} {sent : List Message}
    (hgoes : timeline.GoesOn number task sent task' after) : after.Numbered := by
  have hnumbers : after.evaluations.map Prod.fst = timeline.evaluations.map Prod.fst := by
    rw [hgoes.evaluations, replaced, List.map_map]
    rfl
  constructor
  · intro evaluation hmem
    have hnumber : evaluation.1 ∈ timeline.evaluations.map Prod.fst :=
      hnumbers ▸ List.mem_map_of_mem hmem
    obtain ⟨old, hold, heq⟩ := List.mem_map.mp hnumber
    rw [hgoes.dispatches, ← heq]
    exact h.lt old hold
  · rw [hnumbers]
    exact h.nodup
  · rw [hgoes.latest, hgoes.dispatches]
    exact h.latest

/-- A move that neither calls the scheduler nor lets an evaluation go on can but take
evaluations and results away. -/
structure Rests (timeline after : Timeline) : Prop where
  evaluations : ∃ p, after.evaluations = timeline.evaluations.filter p
  latest : ∀ number, after.latest = some number → timeline.latest = some number
  dispatches : after.dispatches = timeline.dispatches
  scheduler : after.scheduler = timeline.scheduler
  sent : after.sent = timeline.sent
  results : ∀ participant standing, after.arena.standings.get? participant = some standing →
    timeline.arena.standings.get? participant = some standing

theorem Rests.refl (timeline : Timeline) : timeline.Rests timeline :=
  ⟨⟨fun _ => true, (List.filter_true _).symm⟩, fun _ => id, rfl, rfl, rfl, fun _ _ => id⟩

theorem rests_stop (timeline : Timeline) : timeline.Rests timeline.stop.1 := by
  refine ⟨⟨_, timeline.evaluations_stop⟩, ?_, ?_, ?_, ?_, ?_⟩ <;> rw [stop_eq]
  · exact fun number hnone => by contradiction
  · exact fun participant standing => id

theorem rests_submit (timeline : Timeline) (participant : Nat) (submission : Submission) :
    timeline.Rests (timeline.submit participant submission) := by
  rw [submit_eq]
  exact ⟨(Rests.refl timeline).evaluations, fun _ => id, rfl, rfl, rfl, fun _ _ => id⟩

theorem rests_depart (timeline : Timeline) (participant : Nat) :
    timeline.Rests { timeline with arena := timeline.arena.depart participant } := by
  refine ⟨(Rests.refl timeline).evaluations, fun _ => id, rfl, rfl, rfl, ?_⟩
  intro other standing hkept
  change (timeline.arena.standings.erase participant).get? other = some standing at hkept
  by_cases hsame : other = participant
  · rw [hsame, Table.get?_erase_self] at hkept
    contradiction
  · rwa [Table.get?_erase_of_ne _ hsame] at hkept

/-- A move calls the scheduler, lets an evaluation go on, or rests. -/
theorem move_cases (timeline : Timeline) (move : Move) :
    (∃ call, move = .call call) ∨
      (∃ number task sent task', timeline.GoesOn number task sent task' (timeline.move move)) ∨
      timeline.Rests (timeline.move move) := by
  have hgoOn : ∀ number portion, Task.IsPortion portion →
      (∃ task sent task', timeline.GoesOn number task sent task' (timeline.goOn number portion)) ∨
        timeline.Rests (timeline.goOn number portion) := by
    intro number portion hportion
    rcases timeline.goOn_cases number hportion with hsame | hgoes
    · rw [hsame]
      exact .inr (.refl _)
    · exact .inl hgoes
  cases move with
  | call call => exact .inl ⟨call, rfl⟩
  | stop => exact .inr (.inr timeline.rests_stop)
  | hold =>
    exact .inr (.inr ⟨(Rests.refl timeline).evaluations, fun number hnone => by contradiction,
      rfl, rfl, rfl, fun _ _ => id⟩)
  | announceBatch number clock readings =>
    exact .inr ((hgoOn number _ (Task.isPortion_announceBatch clock readings)).imp_left
      fun hgoes => ⟨number, hgoes⟩)
  | takeBatch number clock readings =>
    exact .inr ((hgoOn number _ (Task.isPortion_takeBatch clock readings)).imp_left
      fun hgoes => ⟨number, hgoes⟩)
  | submit participant submission =>
    exact .inr (.inr (timeline.rests_submit participant submission))
  | depart participant => exact .inr (.inr (timeline.rests_depart participant))

theorem Numbered.move {timeline : Timeline} (h : timeline.Numbered) (move : Move) :
    (timeline.move move).Numbered := by
  rcases timeline.move_cases move with ⟨call, rfl⟩ | ⟨number, task, sent, task', hgoes⟩ | hrests
  · exact h.absorb _
  · exact hgoes.numbered h
  · obtain ⟨p, hevaluations⟩ := hrests.evaluations
    exact h.filter hevaluations hrests.latest hrests.dispatches

theorem numbered_start {arena : Arena} {timeline : Timeline}
    (hstart : start arena = .ok timeline) : timeline.Numbered := by
  obtain ⟨scheduler, -, hstart⟩ := Time.bind_eq_ok hstart
  rw [← Except.ok.inj hstart]
  exact ⟨fun evaluation hmem => by contradiction, List.nodup_nil,
    fun number hnone => by contradiction⟩

theorem Numbered.run {timeline : Timeline} (h : timeline.Numbered) (moves : List Move) :
    (timeline.run moves).Numbered :=
  List.foldlRecOn moves Timeline.move h fun _ hnumbered move _ => hnumbered.move move

theorem sent_prefix_move (timeline : Timeline) (move : Move) :
    timeline.sent <+: (timeline.move move).sent := by
  rcases timeline.move_cases move with ⟨call, rfl⟩ | ⟨number, task, sent, task', hgoes⟩ | hrests
  · rw [Timeline.move, sent_absorb]
    exact List.prefix_append _ _
  · rw [hgoes.sent]
    exact List.prefix_append _ _
  · rw [hrests.sent]

theorem sent_prefix_run (timeline : Timeline) (moves : List Move) :
    timeline.sent <+: (timeline.run moves).sent := by
  induction moves using List.reverseRecOn with
  | nil => exact List.prefix_rfl
  | append_singleton moves last ih =>
    rw [run_concat]
    exact ih.trans (sent_prefix_move _ _)

end Timeline

end TickArena

import TickArena.Proofs.EvaluationTimes
import TickArena.Proofs.LiveEvaluations

/-!
# The budget of an evaluation

Time passes exactly: computing takes none, a sleep takes its length, and no boundary of a
phase is passed without a step.  Then dispatches are one cycle apart, and an evaluation lasts
for its sleeps.  It publishes before the next dispatch if and only if its sleeps fit into a
cycle; nothing in the settings sees to that.
-/

namespace TickArena

/-! ## Time that passes exactly -/

/-- What is noted of an evaluation: its dispatch, up to when it sleeps, how many stored
configurations it has found, when it has published, and whether a stop has ended it. -/
structure Course where
  request : Request
  dispatched : Instant
  wake : Instant
  entrants? : Option Nat
  published? : Option (Instant × Summary)
  stopped : Bool

namespace Course

def start (now : Instant) (request : Request) : Course :=
  ⟨request, now, now, none, none, false⟩

/-- After a batch that has left the evaluation with a task. -/
def note (course : Course) (now wake : Instant) (entrants : Nat) (task : Task) : Course :=
  { course with
    wake
    entrants? := course.entrants?.or (some entrants)
    published? := task.summary?.map fun summary => (now, summary) }

theorem request_note (course : Course) (now wake : Instant) (entrants : Nat) (task : Task) :
    (course.note now wake entrants task).request = course.request :=
  rfl

theorem dispatched_note (course : Course) (now wake : Instant) (entrants : Nat) (task : Task) :
    (course.note now wake entrants task).dispatched = course.dispatched :=
  rfl

theorem wake_note (course : Course) (now wake : Instant) (entrants : Nat) (task : Task) :
    (course.note now wake entrants task).wake = wake :=
  rfl

theorem entrants?_note (course : Course) (now wake : Instant) (entrants : Nat) (task : Task) :
    (course.note now wake entrants task).entrants? = course.entrants?.or (some entrants) :=
  rfl

theorem published?_note (course : Course) (now wake : Instant) (entrants : Nat) (task : Task) :
    (course.note now wake entrants task).published? =
      task.summary?.map fun summary => (now, summary) :=
  rfl

/-- A stop ends an evaluation that has not published. -/
def stop (course : Course) : Course :=
  { course with stopped := course.stopped || course.published?.isNone }

end Course

/-- A timeline at an instant, with the courses of its evaluations by their numbers. -/
structure Stage where
  timeline : Timeline
  now : Instant
  courses : List Course

namespace Stage

/-- What can happen without a forced advance. -/
inductive Move where
  | elapse (later : Instant)
  | step
  | trigger
  | hold
  | stop
  | takeBatch (number : Nat)
  | submit (participant : Nat) (submission : Submission)
  | depart (participant : Nat)

def start (timeline : Timeline) : Stage :=
  ⟨timeline, 0, []⟩

def call (stage : Stage) (call : Call) : Stage :=
  { stage with
    timeline := stage.timeline.move (.call call)
    courses := stage.courses ++
      (stage.timeline.scheduler.call call).dispatched.map (Course.start stage.now) }

/-- What comes of a task in a batch, which begins and ends at the same instant. -/
def outcome (stage : Stage) (task : Task) : Arena × List Message × Task :=
  task.takeBatch stage.timeline.arena ⟨stage.now, 0⟩ fun _ => stage.now

def note (stage : Stage) (task : Task) (course : Course) : Course :=
  course.note stage.now (stage.now + stage.timeline.arena.settings.batchDelay)
    stage.timeline.arena.submissions.size task

def takeBatch (stage : Stage) (number : Nat) : Stage :=
  match stage.timeline.task? number with
  | none => stage
  | some task =>
    { stage with
      timeline := stage.timeline.move (.takeBatch number ⟨stage.now, 0⟩ fun _ => stage.now)
      courses := stage.courses.modify number (stage.note (stage.outcome task).2.2) }

def move (stage : Stage) : Move → Stage
  | .elapse later => { stage with now := later }
  | .step => stage.call (.step stage.now)
  | .trigger => stage.call (.triggerHourly stage.now)
  | .hold => { stage with timeline := stage.timeline.move .hold }
  | .stop =>
    { stage with
      timeline := stage.timeline.move .stop
      courses := stage.timeline.latest.elim stage.courses (stage.courses.modify · Course.stop) }
  | .takeBatch number => stage.takeBatch number
  | .submit participant submission =>
    { stage with timeline := stage.timeline.move (.submit participant submission) }
  | .depart participant => { stage with timeline := stage.timeline.move (.depart participant) }

def run (stage : Stage) (moves : List Move) : Stage :=
  moves.foldl move stage

def wake (stage : Stage) (number : Nat) : Instant :=
  stage.courses[number]?.elim 0 Course.wake

/-- No time passes beyond the end of a phase without a step, or beyond the end of a sleep
without the next batch; and no sleep is cut short. -/
def Allows (stage : Stage) : Move → Prop
  | .elapse later =>
    stage.now ≤ later ∧ later ≤ stage.timeline.scheduler.clock.phaseEnd ∧
      ∀ number ∈ stage.timeline.live.map Prod.fst, later ≤ stage.wake number
  | .takeBatch number =>
    number ∈ stage.timeline.live.map Prod.fst ∧ stage.wake number ≤ stage.now
  | _ => True

instance decidableAllows (stage : Stage) : (move : Move) → Decidable (stage.Allows move)
  | .elapse _ => inferInstanceAs (Decidable (_ ∧ _ ∧ _))
  | .takeBatch _ => inferInstanceAs (Decidable (_ ∧ _))
  | .step | .trigger | .hold | .stop | .submit _ _ | .depart _ => .isTrue trivial

def OnTime (stage : Stage) : List Move → Prop
  | [] => True
  | move :: later => stage.Allows move ∧ (stage.move move).OnTime later

instance decidableOnTime (stage : Stage) : (moves : List Move) → Decidable (stage.OnTime moves)
  | [] => .isTrue trivial
  | move :: later =>
    have := decidableOnTime (stage.move move) later
    inferInstanceAs (Decidable (_ ∧ _))

end Stage

/-! ## Courses -/

namespace Course

/-- The task of a course that goes on: not opened yet, or asleep after some batches. -/
def Carries (settings : Settings) (timeout : Duration) (course : Course) : Task → Prop
  | .queued request _ =>
    request = course.request ∧ course.entrants? = none ∧ course.wake = course.dispatched
  | .sleeping evaluation _ =>
    evaluation.request = course.request ∧ course.dispatched + timeout < Time.instantLimit ∧
      ∃ entrants taken, course.entrants? = some entrants ∧
        evaluation.Since settings timeout entrants taken course.dispatched ∧
        course.wake = course.dispatched + taken * settings.batchDelay
  | .finished _ | .crashed => False

/-- A course that has published, when its sleeps were over. -/
def HasPublished (settings : Settings) (timeout : Duration) (entrants : Nat)
    (sent : List Summary) (course : Course) : Prop :=
  course.dispatched + timeout < Time.instantLimit ∧
    ∃ summary ∈ sent, summary.tick = course.request.tick ∧
      course.published? =
        some (course.dispatched + settings.evaluationTime timeout entrants, summary)

/-- A course that has come to its end: by a stop, without a deadline in range, by the next
dispatch that came before the end of its sleeps, or with its summary. -/
def Over (settings : Settings) (cycle timeout : Duration) (sent : List Summary)
    (course : Course) : Prop :=
  course.stopped = true ∨ ∃ entrants, course.entrants? = some entrants ∧
    (course.published? = none ∧ (Time.instantLimit ≤ course.dispatched + timeout ∨
        cycle ≤ settings.evaluationTime timeout entrants) ∨
      course.HasPublished settings timeout entrants sent)

variable {settings : Settings} {cycle timeout : Duration} {course : Course} {task : Task}
  {sent : List Summary}

theorem Over.mono (h : course.Over settings cycle timeout sent) {later : List Summary}
    (hsent : sent ⊆ later) : course.Over settings cycle timeout later := by
  rcases h with hstopped | ⟨entrants, hentrants, hnone | ⟨hrange, summary, hmem, hpublished⟩⟩
  · exact .inl hstopped
  · exact .inr ⟨entrants, hentrants, .inl hnone⟩
  · exact .inr ⟨entrants, hentrants, .inr ⟨hrange, summary, hsent hmem, hpublished⟩⟩

theorem Over.stop (h : course.Over settings cycle timeout sent) :
    course.stop.Over settings cycle timeout sent := by
  rcases h with hstopped | hends
  · left
    rw [Course.stop, hstopped]
    rfl
  · exact .inr hends

/-- Who still sleeps at the next dispatch has sleeps that do not fit into a cycle. -/
theorem Carries.over (h : course.Carries settings timeout task) (hcycle : 0 < cycle)
    (hunpublished : course.published? = none) (hlate : course.dispatched + cycle ≤ course.wake) :
    ∃ entrants, course.entrants? = some entrants ∧ course.published? = none ∧
      cycle ≤ settings.evaluationTime timeout entrants := by
  cases task with
  | queued request alarm =>
    obtain ⟨-, -, hwake⟩ := h
    rw [hwake] at hlate
    lia
  | sleeping evaluation alarm =>
    obtain ⟨-, -, entrants, taken, hentrants, hsince, hwake⟩ := h
    rw [hwake] at hlate
    exact ⟨entrants, hentrants, hunpublished,
      (Nat.le_of_add_le_add_left hlate).trans (mul_le_sleeps_mul hsince.begun)⟩
  | finished summary => contradiction
  | crashed => contradiction

theorem Carries.isLive (h : course.Carries settings timeout task) : task.isLive = true := by
  cases task with
  | queued request alarm => rfl
  | sleeping evaluation alarm => rfl
  | finished summary => contradiction
  | crashed => contradiction

end Course

/-! ## One batch of a course -/

namespace Task

variable {arena : Arena} {clock : VirtualClock} {readings : Readings} {task : Task}
  {evaluation : Evaluation}

theorem takeBatch_of_none (hlive : task.isLive = true)
    (hevaluation : task.evaluation? arena clock.now = none) :
    task.takeBatch arena clock readings = (arena, [], crashed) := by
  unfold takeBatch
  rw [hevaluation, hlive]
  rfl

theorem takeBatch_of_waiting (hevaluation : task.evaluation? arena clock.now = some evaluation)
    {after : Arena} {sent : List Message} {following : Evaluation}
    (hstep : arena.step evaluation readings =
      { arena := after, sent, progress := .waiting following }) :
    task.takeBatch arena clock readings =
      (after, sent, sleeping following (clock.alarmAfter arena.settings.batchDelay)) := by
  unfold takeBatch
  rw [hevaluation]
  simp only [hstep]

theorem takeBatch_of_finished (hevaluation : task.evaluation? arena clock.now = some evaluation)
    {after : Arena} {sent : List Message} {summary : Summary}
    (hstep : arena.step evaluation readings =
      { arena := after, sent, progress := .finished summary }) :
    task.takeBatch arena clock readings = (after, sent, finished summary) := by
  unfold takeBatch
  rw [hevaluation]
  simp only [hstep]

end Task

namespace Course

variable {arena : Arena} {stage : Stage} {cycle timeout : Duration} {course : Course} {task : Task}
  {now : Instant}

/-- The evaluation that a course goes on with, or its deadline is not in range. -/
theorem Carries.evaluation? (h : course.Carries arena.settings timeout task)
    (htimeout : arena.settings.timeout = .ok timeout) (hnow : now = course.wake) :
    (∃ request alarm, task = .queued request alarm ∧ course.entrants? = none ∧
        task.evaluation? arena now = none ∧
        Time.instantLimit ≤ course.dispatched + timeout) ∨
      ∃ evaluation entrants taken, task.evaluation? arena now = some evaluation ∧
        evaluation.request = course.request ∧
        course.dispatched + timeout < Time.instantLimit ∧
        course.entrants?.or (some arena.submissions.size) = some entrants ∧
        evaluation.Since arena.settings timeout entrants taken course.dispatched ∧
        now = course.dispatched + taken * arena.settings.batchDelay := by
  cases task with
  | queued request alarm =>
    obtain ⟨rfl, hentrants, hwake⟩ := h
    rw [hwake] at hnow
    cases hdeadline : Time.after now timeout with
    | error fault =>
      have hopened : arena.openEvaluation course.request now = .error fault :=
        Arena.openEvaluation_of_error htimeout hdeadline
      refine .inl ⟨_, alarm, rfl, hentrants, ?_, hnow ▸
        Time.instantLimit_le_of_after_eq_error hdeadline⟩
      rw [Task.evaluation?, hopened]
      rfl
    | ok deadline =>
      obtain ⟨hrange, rfl⟩ := Time.after_eq_ok_iff.mp hdeadline
      have hopened : arena.openEvaluation course.request now =
          .ok (arena.opened course.request (now + timeout)) :=
        Arena.openEvaluation_of_timeout htimeout hdeadline
      refine .inr ⟨_, arena.submissions.size, 0, ?_, rfl, hnow ▸ hrange, ?_,
        hnow ▸ arena.since_opened course.request timeout now, ?_⟩
      · rw [Task.evaluation?, hopened, hnow]
        rfl
      · rw [hentrants]
        rfl
      · rw [hnow, Nat.zero_mul, Nat.add_zero]
  | sleeping evaluation alarm =>
    obtain ⟨hrequest, hrange, entrants, taken, hentrants, hsince, hwake⟩ := h
    refine .inr ⟨evaluation, entrants, taken, rfl, hrequest, hrange, ?_, hsince, hnow.trans hwake⟩
    rw [hentrants]
    rfl
  | finished summary => contradiction
  | crashed => contradiction

/-- A batch leaves a course that goes on, or it brings the course to its end. -/
theorem Carries.outcome (h : course.Carries stage.timeline.arena.settings timeout task)
    (htimeout : stage.timeline.arena.settings.timeout = .ok timeout)
    (hnow : stage.now = course.wake) :
    ((stage.note (stage.outcome task).2.2 course).published? = none ∧
        (stage.note (stage.outcome task).2.2 course).Carries stage.timeline.arena.settings timeout
          (stage.outcome task).2.2) ∨
      (stage.note (stage.outcome task).2.2 course).Over stage.timeline.arena.settings cycle timeout
          (Host.summaries (stage.outcome task).2.1) ∧
        (stage.outcome task).2.2.isLive = false := by
  unfold Stage.outcome Stage.note
  rcases h.evaluation? htimeout hnow with ⟨request, alarm, rfl, hentrants, hnone, hlimit⟩ |
    ⟨evaluation, entrants, taken, hevaluation, hrequest, hrange, hentrants, hsince, htaken⟩
  · rw [Task.takeBatch_of_none rfl hnone]
    refine .inr ⟨.inr ⟨stage.timeline.arena.submissions.size, ?_,
      .inl ⟨published?_note .., .inl ?_⟩⟩, rfl⟩
    · rw [entrants?_note, hentrants]
      rfl
    · rw [dispatched_note]
      exact hlimit
  · rcases Arena.step_of_since hsince htaken with
      ⟨following, sent, hstep, hsame, -, hsince'⟩ | ⟨hend, after, sent, summary, hstep, hcloses⟩
    · rw [Task.takeBatch_of_waiting hevaluation hstep]
      refine .inl ⟨published?_note .., ?_, ?_, entrants, taken + 1, ?_, ?_, ?_⟩
      · rw [request_note]
        exact hsame.trans hrequest
      · rw [dispatched_note]
        exact hrange
      · rw [entrants?_note]
        exact hentrants
      · rw [dispatched_note]
        exact hsince'
      · rw [wake_note, dispatched_note, htaken, Nat.add_assoc, ← Nat.succ_mul]
    · rw [Task.takeBatch_of_finished hevaluation hstep]
      refine .inr ⟨.inr ⟨entrants, ?_, .inr ?_⟩, rfl⟩
      · rw [entrants?_note, hentrants]
      · rw [HasPublished, dispatched_note, request_note, published?_note]
        refine ⟨hrange, summary, ?_, ?_, congrArg (fun instant => some (instant, summary)) hend⟩
        · rw [hcloses.sent]
          exact List.mem_singleton_self _
        · rw [hcloses.tick, hrequest]

end Course

/-! ## Sound stages -/

/-- The instants and the ticks of the dispatches in a list of courses. -/
def starts (courses : List Course) : List (Instant × Nat) :=
  courses.map fun course => (course.dispatched, course.request.tick)

theorem starts_modify {f : Course → Course} (courses : List Course) (number : Nat)
    (hf : ∀ course, (f course).dispatched = course.dispatched ∧
      (f course).request = course.request) :
    starts (courses.modify number f) = starts courses := by
  unfold starts
  apply List.ext_getElem?
  intro index
  simp only [List.getElem?_map, List.getElem?_modify, Option.map_eq_map, Option.map_map]
  apply congrFun
  congr 1
  funext course
  by_cases hsame : number = index <;> simp [hsame, hf course]

namespace Stage

theorem starts_note (stage : Stage) (number : Nat) (task : Task) :
    starts (stage.courses.modify number (stage.note task)) = starts stage.courses :=
  starts_modify _ _ fun course => ⟨course.dispatched_note .., course.request_note ..⟩

variable {settings : Settings} {cycle timeout : Duration} {stage : Stage}

/-- A course goes on with its live task, and its sleep is not over before now, or it has
come to its end. -/
def Accounts (settings : Settings) (cycle timeout : Duration) (now : Instant)
    (live : List (Nat × Task)) (sent : List Summary) (number : Nat) (course : Course) : Prop :=
  (now ≤ course.wake ∧ course.published? = none ∧
      ∃ task, (number, task) ∈ live ∧ course.Carries settings timeout task) ∨
    course.Over settings cycle timeout sent ∧ ∀ task, (number, task) ∉ live

/-- What holds of every stage that is on time. -/
structure Sound (settings : Settings) (cycle timeout : Duration) (stage : Stage) : Prop where
  numbered : stage.timeline.Numbered
  unchanged : stage.timeline.arena.settings = settings
  length : stage.courses.length = stage.timeline.dispatches
  paced : stage.timeline.scheduler.clock.Paced cycle stage.now (starts stage.courses)
  accounts : ∀ number course, stage.courses[number]? = some course →
    Accounts settings cycle timeout stage.now stage.timeline.live stage.timeline.summaries
      number course

theorem sound_start {arena : Arena} {timeline : Timeline}
    (hstart : Timeline.start arena = .ok timeline) (htick : arena.settings.tick = .ok cycle) :
    (start timeline).Sound arena.settings cycle timeout := by
  have hnumbered := Timeline.numbered_start hstart
  obtain ⟨scheduler, hscheduler, hstart⟩ := Time.bind_eq_ok hstart
  obtain ⟨clock, hclock, hscheduler⟩ := Time.bind_eq_ok hscheduler
  obtain ⟨hourly, -, hscheduler⟩ := Time.bind_eq_ok hscheduler
  rw [← Except.ok.inj hscheduler] at hstart
  obtain ⟨htimed, -⟩ := PhaseClock.start_spec hclock
  rw [← Except.ok.inj hstart] at hnumbered ⊢
  refine ⟨hnumbered, rfl, rfl, ⟨htimed.cycle_eq htick, Nat.zero_le _, ?_, ?_, ?_⟩, ?_⟩
  · exact fun start hmem => by contradiction
  · exact List.isChain_nil
  · exact fun _ start hmem => by contradiction
  · exact fun number course hcourse => by contradiction

namespace Sound

theorem congr (h : stage.Sound settings cycle timeout) {after : Timeline}
    (hnumbered : after.Numbered)
    (hsettings : after.arena.settings = stage.timeline.arena.settings)
    (hdispatches : after.dispatches = stage.timeline.dispatches)
    (hscheduler : after.scheduler = stage.timeline.scheduler)
    (hlive : after.live = stage.timeline.live)
    (hsummaries : after.summaries = stage.timeline.summaries) :
    Sound settings cycle timeout { stage with timeline := after } := by
  refine ⟨hnumbered, hsettings.trans h.unchanged, h.length.trans hdispatches.symm, ?_, ?_⟩
  · rw [hscheduler]
    exact h.paced
  · rw [hlive, hsummaries]
    exact h.accounts

theorem elapse (h : stage.Sound settings cycle timeout) {later : Instant}
    (hallowed : stage.Allows (.elapse later)) :
    (stage.move (.elapse later)).Sound settings cycle timeout := by
  obtain ⟨hlater, hphase, hwake⟩ := hallowed
  refine ⟨h.numbered, h.unchanged, h.length, ?_, ?_⟩
  · exact { h.paced with
      onTime := hphase
      past := fun start hmem => (h.paced.past start hmem).trans hlater }
  · intro number course hcourse
    change stage.courses[number]? = some course at hcourse
    rcases h.accounts number course hcourse with ⟨-, hunpublished, task, hlive, hcarries⟩ | hover
    · refine .inl ⟨?_, hunpublished, task, hlive, hcarries⟩
      have hnumber := hwake number (List.mem_map_of_mem hlive)
      rw [wake, hcourse] at hnumber
      exact hnumber
    · exact .inr hover

/-- A dispatch finds the latest evaluation over, or its sleeps do not fit into a cycle. -/
theorem accounts_held (h : stage.Sound settings cycle timeout) (hcycle : 0 < cycle)
    (hdue : ∀ start ∈ (starts stage.courses).getLast?, start.1 + cycle = stage.now) {number : Nat}
    {course : Course} (hcourse : stage.courses[number]? = some course) :
    Accounts settings cycle timeout stage.now stage.timeline.held stage.timeline.summaries
      number course := by
  rcases h.accounts number course hcourse with
    ⟨hwake, hunpublished, task, hlive, hcarries⟩ | ⟨hover, hnone⟩
  · by_cases hlatest : some number = stage.timeline.latest
    · -- The latest evaluation is that of the last dispatch, which was one cycle ago.
      have hlength : number + 1 = stage.courses.length :=
        (h.numbered.latest number hlatest.symm).trans h.length.symm
      have hlast : (course.dispatched, course.request.tick) ∈
          (starts stage.courses).getLast? := by
        rw [starts, List.getLast?_map, List.getLast?_eq_getElem?, ← hlength,
          Nat.add_sub_cancel, hcourse]
        rfl
      obtain ⟨entrants, hentrants, hnone, hlong⟩ :=
        hcarries.over hcycle hunpublished ((hdue _ hlast).trans_le hwake)
      refine .inr ⟨.inr ⟨entrants, hentrants, .inl ⟨hnone, .inr hlong⟩⟩, ?_⟩
      intro task hheld
      exact absurd hlatest (of_decide_eq_true (List.mem_filter.mp hheld).2)
    · have hheld : (number, task) ∈ stage.timeline.held :=
        List.mem_filter.mpr ⟨hlive, decide_eq_true hlatest⟩
      exact .inl ⟨hwake, hunpublished, task, hheld, hcarries⟩
  · exact .inr ⟨hover, fun task hheld => hnone task (List.mem_of_mem_filter hheld)⟩

theorem accounts_dispatched (h : stage.Sound settings cycle timeout) (hcycle : 0 < cycle)
    (hdue : ∀ start ∈ (starts stage.courses).getLast?, start.1 + cycle = stage.now)
    (request : Request) (alarm : Nat) {number : Nat} {course : Course}
    (hcourse : (stage.courses ++ [.start stage.now request])[number]? = some course) :
    Accounts settings cycle timeout stage.now
      (stage.timeline.held ++ [(stage.timeline.dispatches, .queued request alarm)])
      stage.timeline.summaries number course := by
  rcases Nat.lt_or_ge number stage.courses.length with hold | hnew
  · rw [List.getElem?_append_left hold] at hcourse
    rcases h.accounts_held hcycle hdue hcourse with
      ⟨hwake, hunpublished, task, hheld, hcarries⟩ | ⟨hover, hnone⟩
    · exact .inl ⟨hwake, hunpublished, task, List.mem_append_left _ hheld, hcarries⟩
    · refine .inr ⟨hover, fun task hmem => ?_⟩
      rcases List.mem_append.mp hmem with hheld | hfirst
      · exact hnone task hheld
      · have hnumber : number = stage.timeline.dispatches :=
          congrArg Prod.fst (List.mem_singleton.mp hfirst)
        rw [h.length, hnumber] at hold
        exact lt_irrefl _ hold
  · rw [List.getElem?_append_right hnew] at hcourse
    obtain ⟨hindex, rfl⟩ := List.getElem?_eq_some_iff.mp hcourse
    rw [List.length_singleton] at hindex
    have hnumber : number = stage.timeline.dispatches := by
      rw [← h.length]
      omega
    refine .inl ⟨?_, ?_, .queued request alarm, List.mem_append_right _ ?_, ?_⟩
    · simp [Course.start]
    · simp [Course.start]
    · simp [hnumber]
    · simp [Course.start, Course.Carries]

theorem call (h : stage.Sound settings cycle timeout) (hcycle : 0 < cycle) {call : Call}
    (hpaced : (stage.timeline.scheduler.call call).scheduler.clock.Paced cycle stage.now
      (starts stage.courses ++ (stage.timeline.scheduler.call call).dispatched.map
        fun request => (stage.now, request.tick)))
    (hdispatched : (stage.timeline.scheduler.call call).dispatched = [] ∨ ∃ request,
      (stage.timeline.scheduler.call call).dispatched = [request] ∧
        ∀ start ∈ (starts stage.courses).getLast?, start.1 + cycle = stage.now) :
    (stage.call call).Sound settings cycle timeout := by
  have hsummaries := stage.timeline.summaries_absorb_call call
  have hnumbered : (stage.timeline.absorb (stage.timeline.scheduler.call call)).Numbered :=
    h.numbered.absorb _
  change Sound settings cycle timeout
    { stage with
      timeline := stage.timeline.absorb (stage.timeline.scheduler.call call)
      courses := stage.courses ++
        (stage.timeline.scheduler.call call).dispatched.map (.start stage.now) }
  generalize stage.timeline.scheduler.call call = turn at *
  refine ⟨hnumbered, ?_, ?_, ?_, ?_⟩
  · rw [Timeline.arena_absorb]
    exact h.unchanged
  · rw [List.length_append, List.length_map, h.length, Timeline.dispatches_absorb]
  · rw [Timeline.scheduler_absorb]
    dsimp only
    rw [starts, List.map_append, List.map_map]
    exact hpaced
  · intro number course hcourse
    dsimp only at hcourse ⊢
    rw [hsummaries]
    rcases hdispatched with hnone | ⟨request, hone, hdue⟩
    · rw [hnone, List.map_nil, List.append_nil] at hcourse
      rw [Timeline.live_congr (stage.timeline.absorb_of_not_dispatched hnone).1]
      exact h.accounts number course hcourse
    · rw [hone, List.map_singleton] at hcourse
      rw [@Timeline.live_absorb_of_dispatched _ h.numbered turn [] request hone]
      exact h.accounts_dispatched hcycle hdue request _ hcourse

theorem step (h : stage.Sound settings cycle timeout) (hcycle : 0 < cycle) :
    (stage.move .step).Sound settings cycle timeout := by
  obtain ⟨hpaced, hdispatched⟩ := Scheduler.paced_step h.paced hcycle
  exact h.call hcycle hpaced hdispatched

theorem trigger (h : stage.Sound settings cycle timeout) (hcycle : 0 < cycle) :
    (stage.move .trigger).Sound settings cycle timeout := by
  have hnone := stage.timeline.scheduler.dispatched_triggerHourly stage.now
  refine h.call hcycle ?_ (.inl hnone)
  change PhaseClock.Paced cycle stage.now (_ ++ (stage.timeline.scheduler.triggerHourly
    stage.now).dispatched.map _) (stage.timeline.scheduler.triggerHourly stage.now).scheduler.clock
  rw [hnone, List.map_nil, List.append_nil, Scheduler.clock_triggerHourly]
  exact h.paced

theorem accounts_stopped (h : stage.Sound settings cycle timeout) {number : Nat} {course : Course}
    (hcourse : (stage.move .stop).courses[number]? = some course) :
    Accounts settings cycle timeout stage.now stage.timeline.held stage.timeline.summaries
      number course := by
  obtain ⟨old, hold, rfl⟩ : ∃ old, stage.courses[number]? = some old ∧
      (if some number = stage.timeline.latest then old.stop else old) = course := by
    change (stage.timeline.latest.elim stage.courses _)[number]? = some course at hcourse
    cases hlatest : stage.timeline.latest with
    | none =>
      rw [hlatest] at hcourse
      exact ⟨course, hcourse, rfl⟩
    | some latest =>
      rw [hlatest, Option.elim_some, List.getElem?_modify] at hcourse
      obtain ⟨old, hold, rfl⟩ := Option.map_eq_some_iff.mp hcourse
      exact ⟨old, hold, by simp [eq_comm]⟩
  rcases h.accounts number old hold with
    ⟨hwake, hunpublished, task, hmem, hcarries⟩ | ⟨hover, hnone⟩
  · by_cases hlatest : some number = stage.timeline.latest
    · rw [if_pos hlatest]
      refine .inr ⟨.inl ?_, fun task hheld => ?_⟩
      · rw [Course.stop, hunpublished]
        exact Bool.or_true _
      · exact absurd hlatest (of_decide_eq_true (List.mem_filter.mp hheld).2)
    · rw [if_neg hlatest]
      have hheld : (number, task) ∈ stage.timeline.held :=
        List.mem_filter.mpr ⟨hmem, decide_eq_true hlatest⟩
      exact .inl ⟨hwake, hunpublished, task, hheld, hcarries⟩
  · refine .inr ⟨?_, fun task hheld => hnone task (List.mem_of_mem_filter hheld)⟩
    split_ifs
    · exact hover.stop
    · exact hover

theorem stop (h : stage.Sound settings cycle timeout) :
    (stage.move .stop).Sound settings cycle timeout := by
  have hcourses : starts (stage.move .stop).courses = starts stage.courses ∧
      (stage.move .stop).courses.length = stage.courses.length := by
    change starts (stage.timeline.latest.elim _ _) = _ ∧
      List.length (stage.timeline.latest.elim _ _) = _
    cases stage.timeline.latest with
    | none => exact ⟨rfl, rfl⟩
    | some latest =>
      exact ⟨starts_modify _ _ fun course => ⟨rfl, rfl⟩, List.length_modify ..⟩
  have hsame := stage.timeline.stop_eq
  refine ⟨h.numbered.move .stop, ?_, ?_, ?_, ?_⟩
  · change stage.timeline.stop.1.arena.settings = settings
    rw [hsame]
    exact h.unchanged
  · change _ = stage.timeline.stop.1.dispatches
    rw [hcourses.2, hsame]
    exact h.length
  · change PhaseClock.Paced cycle stage.now _ stage.timeline.stop.1.scheduler.clock
    rw [hcourses.1, hsame]
    exact h.paced
  · intro number course hcourse
    have hlive : (stage.move .stop).timeline.live = stage.timeline.held :=
      Timeline.live_filter stage.timeline.evaluations_stop
    have hsummaries : (stage.move .stop).timeline.summaries = stage.timeline.summaries := by
      change stage.timeline.stop.1.summaries = _
      rw [hsame]
      rfl
    rw [hlive, hsummaries]
    exact h.accounts_stopped hcourse

theorem course_of_live (h : stage.Sound settings cycle timeout) {number : Nat} {task : Task}
    (hlive : (number, task) ∈ stage.timeline.live) :
    ∃ course, stage.courses[number]? = some course ∧ stage.now ≤ course.wake ∧
      course.Carries settings timeout task := by
  have hlt := h.numbered.lt _ (Timeline.mem_live.mp hlive).1
  rw [← h.length] at hlt
  refine ⟨_, List.getElem?_eq_getElem hlt, ?_⟩
  rcases h.accounts number _ (List.getElem?_eq_getElem hlt) with
    ⟨hwake, -, found, hfound, hcarries⟩ | ⟨-, hnone⟩
  · have hsame := List.inj_on_of_nodup_map h.numbered.nodup
      (Timeline.mem_live.mp hfound).1 (Timeline.mem_live.mp hlive).1 rfl
    obtain rfl := (Prod.mk.inj hsame).2
    exact ⟨hwake, hcarries⟩
  · exact absurd hlive (hnone task)

theorem accounts_noted (h : stage.Sound stage.timeline.arena.settings cycle timeout)
    (htimeout : stage.timeline.arena.settings.timeout = .ok timeout) {number : Nat} {task : Task}
    (hlive : (number, task) ∈ stage.timeline.live) (hdue : stage.wake number ≤ stage.now)
    {after : Timeline} (hgoes : stage.timeline.GoesOn number task (stage.outcome task).2.1
      (stage.outcome task).2.2 after) {other : Nat} {noted : Course}
    (hnoted : (stage.courses.modify number (stage.note (stage.outcome task).2.2))[other]? =
      some noted) :
    Accounts stage.timeline.arena.settings cycle timeout stage.now after.live
      (stage.timeline.summaries ++ Host.summaries (stage.outcome task).2.1) other noted := by
  rw [List.getElem?_modify] at hnoted
  obtain ⟨old, hold, rfl⟩ := Option.map_eq_some_iff.mp hnoted
  by_cases hsame : number = other
  · subst hsame
    rw [if_pos rfl]
    obtain ⟨course, hcourse, hwake, hcarries⟩ := h.course_of_live hlive
    rw [wake, hcourse, Option.elim_some] at hdue
    obtain rfl := Option.some_inj.mp (hcourse.symm.trans hold)
    rcases @Course.Carries.outcome stage cycle timeout course task hcarries htimeout
        (le_antisymm hwake hdue) with ⟨hunpublished, hgoesOn⟩ | ⟨hover, hdead⟩
    · exact .inl ⟨Nat.le_add_right _ _, hunpublished, (stage.outcome task).2.2,
        hgoes.mem_live_self_iff.mpr ⟨rfl, hgoesOn.isLive⟩, hgoesOn⟩
    · refine .inr ⟨hover.mono (List.subset_append_right _ _), fun found hfound => ?_⟩
      obtain ⟨-, hlive'⟩ := hgoes.mem_live_self_iff.mp hfound
      exact Bool.false_ne_true (hdead.symm.trans hlive')
  · rw [if_neg hsame]
    rcases h.accounts other old hold with
      ⟨hwake, hunpublished, found, hfound, hcarries⟩ | ⟨hover, hnone⟩
    · exact .inl ⟨hwake, hunpublished, found,
        (hgoes.mem_live_iff_of_ne (Ne.symm hsame)).mpr hfound, hcarries⟩
    · refine .inr ⟨hover.mono (List.subset_append_left _ _), fun found hfound => ?_⟩
      exact hnone found ((hgoes.mem_live_iff_of_ne (Ne.symm hsame)).mp hfound)

theorem takeBatch (h : stage.Sound settings cycle timeout)
    (htimeout : settings.timeout = .ok timeout) {number : Nat}
    (hallowed : stage.Allows (.takeBatch number)) :
    (stage.move (.takeBatch number)).Sound settings cycle timeout := by
  obtain ⟨hnumber, hdue⟩ := hallowed
  obtain ⟨⟨own, task⟩, hlive, rfl⟩ := List.mem_map.mp hnumber
  dsimp only at hdue ⊢
  have htask := h.numbered.task?_eq_some (Timeline.mem_live.mp hlive).1
  have hnumbered := h.numbered.move (.takeBatch own ⟨stage.now, 0⟩ fun _ => stage.now)
  have hgoes : stage.timeline.GoesOn own task (stage.outcome task).2.1 (stage.outcome task).2.2
      (stage.timeline.move (.takeBatch own ⟨stage.now, 0⟩ fun _ => stage.now)) :=
    Timeline.goesOn_goOn htask (Task.isPortion_takeBatch ⟨stage.now, 0⟩ fun _ => stage.now)
  have hmove : stage.move (.takeBatch own) =
      { stage with
        timeline := stage.timeline.move (.takeBatch own ⟨stage.now, 0⟩ fun _ => stage.now)
        courses := stage.courses.modify own (stage.note (stage.outcome task).2.2) } := by
    change stage.takeBatch own = _
    simp only [Stage.takeBatch, htask]
  have hunchanged := h.unchanged
  subst hunchanged
  rw [hmove]
  generalize stage.timeline.move _ = after at *
  refine ⟨hnumbered, hgoes.advances.settings_eq, ?_, ?_, fun other noted hnoted => ?_⟩
  · rw [List.length_modify, hgoes.dispatches]
    exact h.length
  · dsimp only
    rw [starts_note, hgoes.scheduler]
    exact h.paced
  · have hsummaries : after.summaries =
        stage.timeline.summaries ++ Host.summaries (stage.outcome task).2.1 := by
      rw [Timeline.summaries, hgoes.sent, Host.summaries_append]
      rfl
    dsimp only
    rw [hsummaries]
    exact h.accounts_noted htimeout hlive hdue hgoes hnoted

theorem move (h : stage.Sound settings cycle timeout) (hcycle : 0 < cycle)
    (htimeout : settings.timeout = .ok timeout) {move : Move} (hallowed : stage.Allows move) :
    (stage.move move).Sound settings cycle timeout := by
  cases move with
  | elapse later => exact h.elapse hallowed
  | step => exact h.step hcycle
  | trigger => exact h.trigger hcycle
  | hold => exact h.congr (h.numbered.move .hold) rfl rfl rfl rfl rfl
  | stop => exact h.stop
  | takeBatch number => exact h.takeBatch htimeout hallowed
  | submit participant submission =>
    have hnumbered := h.numbered.move (.submit participant submission)
    change Sound settings cycle timeout
      { stage with timeline := stage.timeline.submit participant submission }
    rw [Timeline.move, Timeline.submit_eq] at hnumbered
    rw [Timeline.submit_eq]
    exact h.congr hnumbered rfl rfl rfl rfl rfl
  | depart participant =>
    exact h.congr (h.numbered.move (.depart participant)) rfl rfl rfl rfl rfl

theorem run (h : stage.Sound settings cycle timeout) (hcycle : 0 < cycle)
    (htimeout : settings.timeout = .ok timeout) {moves : List Move}
    (hmoves : stage.OnTime moves) : (stage.run moves).Sound settings cycle timeout := by
  induction moves generalizing stage with
  | nil => exact h
  | cons first later ih => exact ih (h.move hcycle htimeout hmoves.1) hmoves.2

theorem regular (h : stage.Sound settings cycle timeout) {number : Nat} {course next : Course}
    (hcourse : stage.courses[number]? = some course)
    (hnext : stage.courses[number + 1]? = some next) :
    next.dispatched = course.dispatched + cycle ∧
      next.request.tick = course.request.tick + 1 := by
  obtain ⟨hlt, hnext⟩ := List.getElem?_eq_some_iff.mp hnext
  obtain ⟨hlt', hcourse⟩ := List.getElem?_eq_some_iff.mp hcourse
  have hspaced := List.isChain_iff_getElem.mp h.paced.spaced number (by simpa [starts] using hlt)
  simpa [starts, hcourse, hnext, Regular] using hspaced

/-- At the next dispatch a course has come to its end, or its sleeps do not fit into a cycle. -/
theorem over_of_next (h : stage.Sound settings cycle timeout) (hcycle : 0 < cycle) {number : Nat}
    {course next : Course} (hcourse : stage.courses[number]? = some course)
    (hnext : stage.courses[number + 1]? = some next) :
    course.Over settings cycle timeout stage.timeline.summaries := by
  rcases h.accounts number course hcourse with
    ⟨hwake, hunpublished, task, hlive, hcarries⟩ | ⟨hover, -⟩
  · have hpast : next.dispatched ≤ stage.now :=
      h.paced.past (next.dispatched, next.request.tick)
        (List.mem_map_of_mem (List.mem_of_getElem? hnext))
    have hlate := hpast.trans hwake
    rw [(h.regular hcourse hnext).1] at hlate
    obtain ⟨entrants, hentrants, hnone, hlong⟩ := hcarries.over hcycle hunpublished hlate
    exact .inr ⟨entrants, hentrants, .inl ⟨hnone, .inr hlong⟩⟩
  · exact hover

end Sound

/-- An evaluation that no stop has ended publishes when its sleeps are over, which is before
the next dispatch, one cycle after its own, if and only if they fit into the cycle. -/
theorem published_before_next_iff {arena : Arena} {timeline : Timeline}
    (hstart : Timeline.start arena = .ok timeline) (htick : arena.settings.tick = .ok cycle)
    (hcycle : 0 < cycle) (htimeout : arena.settings.timeout = .ok timeout) {moves : List Move}
    (hmoves : (start timeline).OnTime moves) {number : Nat} {course next : Course}
    (hcourse : ((start timeline).run moves).courses[number]? = some course)
    (hnext : ((start timeline).run moves).courses[number + 1]? = some next)
    (hgoing : course.stopped = false) :
    next.request.tick = course.request.tick + 1 ∧
      next.dispatched = course.dispatched + cycle ∧
      ∃ entrants, course.entrants? = some entrants ∧
        ((∃ instant summary, course.published? = some (instant, summary) ∧
            instant < next.dispatched) ↔
          course.dispatched + timeout < Time.instantLimit ∧
            arena.settings.evaluationTime timeout entrants < cycle) ∧
        ∀ instant summary, course.published? = some (instant, summary) →
          instant = course.dispatched + arena.settings.evaluationTime timeout entrants ∧
            summary ∈ ((start timeline).run moves).timeline.summaries ∧
            summary.tick = course.request.tick := by
  have hsound := (@sound_start cycle timeout arena timeline hstart htick).run hcycle htimeout hmoves
  generalize (start timeline).run moves = stage at *
  obtain ⟨hdispatched, hticks⟩ := hsound.regular hcourse hnext
  refine ⟨hticks, hdispatched, ?_⟩
  rcases hsound.over_of_next hcycle hcourse hnext with hstopped | ⟨entrants, hentrants, hover⟩
  · exact absurd (hgoing.symm.trans hstopped) Bool.false_ne_true
  refine ⟨entrants, hentrants, ?_⟩
  rcases hover with ⟨hnone, hlong⟩ | ⟨hrange, summary, hsent, htick, hpublished⟩
  · rw [hnone]
    refine ⟨iff_of_false ?_ ?_, fun instant summary hnever => by contradiction⟩
    · rintro ⟨instant, summary, hnever, -⟩
      contradiction
    · rintro ⟨hrange, hshort⟩
      exact hlong.elim hrange.not_ge hshort.not_ge
  · rw [hpublished, hdispatched]
    constructor
    · constructor
      · rintro ⟨instant, summary', hsame, hearly⟩
        obtain ⟨rfl, -⟩ := Prod.mk.inj (Option.some_inj.mp hsame)
        exact ⟨hrange, Nat.lt_of_add_lt_add_left hearly⟩
      · rintro ⟨-, hshort⟩
        exact ⟨_, summary, rfl, Nat.add_lt_add_left hshort _⟩
    · intro instant summary' hsame
      obtain ⟨rfl, rfl⟩ := Prod.mk.inj (Option.some_inj.mp hsame)
      exact ⟨rfl, hsent, htick⟩

/-- An arena that takes one participant at a time, with a pause in between. -/
def pausingArena (batchDelayMs : Nat) : Arena :=
  .create ⟨[Standard.emberCore], .standard⟩
    { Settings.quick with batchSize := 1, parallelThreshold := 1, batchDelayMs } .everyone

/-- Two participants, whose first evaluation is dispatched after four seconds. -/
def opening : List Move :=
  [.submit 1 ⟨[some (.plain "ember_core")], "first"⟩,
    .submit 2 ⟨[some (.plain "ember_core")], "second"⟩,
    .elapse 4000000000, .step, .takeBatch 0]

/-- A pause of one second fits into a cycle of seven. -/
theorem short_pause_published :
    ∃ timeline, Timeline.start (pausingArena 1000) = .ok timeline ∧
      let moves := opening ++ [.elapse 5000000000, .takeBatch 0, .elapse 6000000000, .step,
        .elapse 7000000000, .step, .elapse 11000000000, .step]
      (start timeline).OnTime moves ∧
        ∃ course next, ((start timeline).run moves).courses = [course, next] ∧
          course.entrants? = some 2 ∧ ∃ summary,
            course.published? = some (5000000000, summary) ∧ next.dispatched = 11000000000 := by
  let moves := opening ++ [.elapse 5000000000, .takeBatch 0, .elapse 6000000000, .step,
    .elapse 7000000000, .step, .elapse 11000000000, .step]
  obtain ⟨timeline, hstart, honTime, hlength, hfirst⟩ :
      ∃ timeline, Timeline.start (pausingArena 1000) = .ok timeline ∧
        (start timeline).OnTime moves ∧ ((start timeline).run moves).courses.length = 2 ∧
          ∀ course ∈ ((start timeline).run moves).courses.head?, course.stopped = false ∧
            course.entrants? = some 2 ∧ course.dispatched = 4000000000 := by
    apply Time.exists_ok_of_any
    decide +kernel
  obtain ⟨course, next, hcourses⟩ := List.length_eq_two.mp hlength
  rw [hcourses] at hfirst
  obtain ⟨hgoing, hentrants, hdispatched⟩ := hfirst course rfl
  have htick : (pausingArena 1000).settings.tick = .ok 7000000000 := by decide +kernel
  have htimeout : (pausingArena 1000).settings.timeout = .ok 10000000000 := by decide +kernel
  obtain ⟨-, hnext, entrants, hsame, hpublished, hvalues⟩ :=
    @published_before_next_iff _ _ _ _ hstart htick (by decide) htimeout moves honTime 0 course next
      (by rw [hcourses]; rfl) (by rw [hcourses]; rfl) hgoing
  obtain rfl := Option.some_inj.mp (hentrants.symm.trans hsame)
  rw [hdispatched] at hnext hpublished hvalues
  obtain ⟨instant, summary, hsummary, -⟩ := hpublished.mpr (by decide +kernel)
  obtain ⟨hinstant, -⟩ := hvalues instant summary hsummary
  have hfive : instant = 5000000000 := hinstant.trans (by decide +kernel)
  exact ⟨timeline, hstart, honTime, course, next, hcourses, hentrants, summary,
    hfive ▸ hsummary, hnext⟩

/-- A pause of eight seconds does not: settings that pass all checks abort the evaluation of
a tick, and nothing is published for it. -/
theorem long_pause_aborted :
    (pausingArena 8000).settings.problem? = none ∧
      (pausingArena 8000).settings.tick = .ok 7000000000 ∧
      ∃ timeline, Timeline.start (pausingArena 8000) = .ok timeline ∧
        let moves := opening ++ [.elapse 6000000000, .step, .elapse 7000000000, .step,
          .elapse 11000000000, .step]
        (start timeline).OnTime moves ∧
          ((start timeline).run moves).timeline.dispatches = 2 ∧
          ((start timeline).run moves).timeline.task? 0 = none ∧
          ((start timeline).run moves).timeline.summaries = [] := by
  refine ⟨by decide +kernel, by decide +kernel, ?_⟩
  apply Time.exists_ok_of_any
  decide +kernel

end Stage

end TickArena

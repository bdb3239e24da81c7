import TickArena.Proofs.ArenaRuns

/-!
# What is stored for a participant

A submission is stored if it is valid and differs by its hash from what is stored already.
The check of the hash comes first, so that a sequence which would be refused today may well
be accepted, without effect, under the hash of an older one.  What a participant owns can
change from one move to the next.  Whatever happens, the stored sequence is the last one that
was taken in since the participant last departed.
-/

namespace TickArena

/-! ## One submission -/

namespace Arena

/-- The sequence that is stored for a participant has the hash. -/
def Knows (arena : Arena) (participant : Nat) (hash : String) : Prop :=
  ∃ stored, arena.submissions.get? participant = some stored ∧ stored.hash = hash

def Takes (arena : Arena) (participant : Nat) (submission : Submission) : Prop :=
  ¬ arena.Knows participant submission.hash ∧
    arena.problem? participant submission.slots = none

variable {arena : Arena} {participant : Nat} {submission : Submission}

theorem knows_iff {hash : String} :
    arena.Knows participant hash ↔
      (arena.submissions.get? participant).any (·.hash = hash) = true := by
  unfold Knows
  cases arena.submissions.get? participant <;> simp

theorem submit_of_knows (h : arena.Knows participant submission.hash) :
    arena.submit participant submission = .ok arena :=
  if_pos (knows_iff.mp h)

theorem submit_of_problem (h : ¬ arena.Knows participant submission.hash) {problem : Rejection}
    (hproblem : arena.problem? participant submission.slots = some problem) :
    arena.submit participant submission = .error problem := by
  rw [submit, if_neg (knows_iff.not.mp h), hproblem]

theorem submit_of_takes (h : arena.Takes participant submission) :
    arena.submit participant submission =
      .ok { arena with submissions := arena.submissions.insert participant submission } := by
  rw [submit, if_neg (knows_iff.not.mp h.1), h.2]

/-- No slot of a valid sequence has a problem. -/
theorem exists_slotProblem?_eq_none {slots : Slots} (h : arena.problem? participant slots = none)
    {slot : Option Slot} (hslot : slot ∈ slots) :
    ∃ number, arena.slotProblem? participant number slot = none := by
  unfold problem? at h
  split at h
  · contradiction
  · split at h
    · contradiction
    · rename_i hslots
      rw [← List.zipIdx_map_fst 1 slots] at hslot
      obtain ⟨⟨_, number⟩, hnumbered, rfl⟩ := List.mem_map.mp hslot
      exact ⟨number, List.findSome?_eq_none_iff.mp hslots _ hnumbered⟩

/-- Nothing that is kept of a participant differs. -/
structure SameFor (before after : Arena) (participant : Nat) : Prop where
  submission : after.submissions.get? participant = before.submissions.get? participant
  standing : after.standings.get? participant = before.standings.get? participant
  performance : after.performances.get? participant = before.performances.get? participant

end Arena

namespace LiveArena

variable {live : LiveArena} {participant : Nat} {submission : Submission}

theorem submit_of_takes (h : live.arena.Takes participant submission) :
    live.submit participant submission = { live with arena := { live.arena with
      submissions := live.arena.submissions.insert participant submission } } := by
  rw [submit, Arena.submit_of_takes h]

theorem submit_of_not_takes (h : ¬ live.arena.Takes participant submission) :
    live.submit participant submission = live := by
  by_cases hknows : live.arena.Knows participant submission.hash
  · rw [submit, Arena.submit_of_knows hknows]
  · cases hproblem : live.arena.problem? participant submission.slots with
    | none => exact absurd ⟨hknows, hproblem⟩ h
    | some problem => rw [submit, Arena.submit_of_problem hknows hproblem]

theorem sameFor_submit (live : LiveArena) (submission : Submission) {other : Nat}
    (h : other ≠ participant) :
    live.arena.SameFor (live.submit participant submission).arena other := by
  by_cases htakes : live.arena.Takes participant submission
  · rw [submit_of_takes htakes]
    exact ⟨Table.get?_insert_of_ne _ _ h, rfl, rfl⟩
  · rw [submit_of_not_takes htakes]
    exact ⟨rfl, rfl, rfl⟩

theorem sameFor_depart (live : LiveArena) {other : Nat} (h : other ≠ participant) :
    live.arena.SameFor (live.depart participant).arena other :=
  ⟨Table.get?_erase_of_ne _ h, Table.get?_erase_of_ne _ h, Table.get?_erase_of_ne _ h⟩

/-- How submissions and departures are answered.  A sequence under the stored hash is accepted
whatever it holds, and changes nothing; one that is refused changes nothing either; and what
one participant does leaves the others alone. -/
structure Answers (live : LiveArena) : Prop where
  known : ∀ participant (submission : Submission),
    live.arena.Knows participant submission.hash →
      live.arena.submit participant submission = .ok live.arena ∧
        live.submit participant submission = live
  refused : ∀ participant (submission : Submission) problem,
    ¬ live.arena.Knows participant submission.hash →
      live.arena.problem? participant submission.slots = some problem →
        live.arena.submit participant submission = .error problem ∧
          live.submit participant submission = live
  taken : ∀ participant submission, live.arena.Takes participant submission →
    ∃ after, live.arena.submit participant submission = .ok after ∧
      live.submit participant submission = { live with arena := after } ∧
      after.submissions.get? participant = some submission
  submit_other : ∀ participant submission other, other ≠ participant →
    live.arena.SameFor (live.submit participant submission).arena other
  depart_other : ∀ participant other, other ≠ participant →
    live.arena.SameFor (live.depart participant).arena other

theorem answers (live : LiveArena) : live.Answers where
  known := fun _ _ hknows =>
    ⟨Arena.submit_of_knows hknows, submit_of_not_takes fun htakes => htakes.1 hknows⟩
  refused := fun _ _ _ hunknown hproblem =>
    ⟨Arena.submit_of_problem hunknown hproblem, submit_of_not_takes fun htakes =>
      absurd (hproblem.symm.trans htakes.2) (by simp)⟩
  taken := fun _ _ htakes =>
    ⟨_, Arena.submit_of_takes htakes, submit_of_takes htakes, Table.get?_insert_self _ _ _⟩
  submit_other := fun _ submission _ hother => live.sameFor_submit submission hother
  depart_other := fun _ _ hother => live.sameFor_depart hother

end LiveArena

/-! ## Histories -/

/-- A move, with what everyone owns at that moment. -/
structure Occasion where
  ownership : Ownership
  move : Move

namespace LiveArena

/-- The same arena with other inventories. -/
def owning (live : LiveArena) (ownership : Ownership) : LiveArena :=
  { live with arena := { live.arena with ownership } }

def meet (live : LiveArena) (occasion : Occasion) : LiveArena :=
  (live.owning occasion.ownership).move occasion.move

def through (live : LiveArena) (occasions : List Occasion) : LiveArena :=
  occasions.foldl meet live

theorem through_concat (live : LiveArena) (occasions : List Occasion) (last : Occasion) :
    live.through (occasions ++ [last]) = (live.through occasions).meet last :=
  List.foldl_concat ..

end LiveArena

namespace Occasion

/-- The submission is made and taken in. -/
def TakesIn (occasion : Occasion) (live : LiveArena) (participant : Nat)
    (submission : Submission) : Prop :=
  occasion.move = .submit participant submission ∧
    (live.owning occasion.ownership).arena.Takes participant submission

/-- What was stored for the participant before is not stored any more. -/
def Displaces (occasion : Occasion) (live : LiveArena) (participant : Nat) : Prop :=
  occasion.move = .depart participant ∨
    ∃ submission, occasion.TakesIn live participant submission

end Occasion

namespace LiveArena

/-- The last submission of a participant that has been taken in, after which it has not
departed. -/
def LastTaken (start : LiveArena) (occasions : List Occasion) (participant : Nat)
    (submission : Submission) : Prop :=
  ∃ earlier occasion later, occasions = earlier ++ occasion :: later ∧
    occasion.TakesIn (start.through earlier) participant submission ∧
    ∀ between next rest, later = between ++ next :: rest →
      ¬ next.Displaces (start.through (earlier ++ occasion :: between)) participant

variable {start live : LiveArena} {occasions : List Occasion} {last : Occasion}
  {participant : Nat} {submission : Submission}

theorem not_lastTaken_nil : ¬ start.LastTaken [] participant submission := by
  rintro ⟨earlier, occasion, later, hsplit, -⟩
  simp at hsplit

/-- Whether a submission is the last one is decided by the last occasion, or else before it. -/
theorem lastTaken_concat : start.LastTaken (occasions ++ [last]) participant submission ↔
    last.TakesIn (start.through occasions) participant submission ∨
      start.LastTaken occasions participant submission ∧
        ¬ last.Displaces (start.through occasions) participant := by
  constructor
  · rintro ⟨earlier, occasion, later, hsplit, htaken, hstays⟩
    rcases concat_eq_append_cons_iff.mp hsplit with ⟨rfl, rfl, -⟩ | ⟨later, rfl, rfl⟩
    · exact .inl htaken
    · refine .inr ⟨⟨earlier, occasion, later, rfl, htaken, ?_⟩, hstays later last [] rfl⟩
      rintro between next rest rfl
      exact hstays between next (rest ++ [last]) (by simp)
  · rintro (htaken | ⟨⟨earlier, occasion, later, rfl, htaken, hstays⟩, hlast⟩)
    · exact ⟨occasions, last, [], rfl, htaken, by simp⟩
    · refine ⟨earlier, occasion, later ++ [last], by simp, htaken, ?_⟩
      intro between next rest hsplit
      rcases concat_eq_append_cons_iff.mp hsplit with ⟨rfl, rfl, -⟩ | ⟨rest, -, hlater⟩
      · exact hlast
      · exact hstays between next rest hlater

theorem get?_meet_of_takesIn (h : last.TakesIn live participant submission) :
    (live.meet last).arena.submissions.get? participant = some submission := by
  obtain ⟨hmove, htakes⟩ := h
  rw [meet, hmove, move, submit_of_takes htakes]
  exact Table.get?_insert_self _ _ _

theorem get?_meet_of_depart (h : last.move = .depart participant) :
    (live.meet last).arena.submissions.get? participant = none := by
  rw [meet, h]
  exact Table.get?_erase_self _ _

/-- Other moves, moves of others and submissions that are not taken in keep what is stored. -/
theorem get?_meet_of_not_displaces (h : ¬ last.Displaces live participant) :
    (live.meet last).arena.submissions.get? participant =
      live.arena.submissions.get? participant := by
  let now := live.owning last.ownership
  change (now.move last.move).arena.submissions.get? participant =
    now.arena.submissions.get? participant
  cases hmove : last.move with
  | submit other submission =>
    by_cases hother : participant = other
    · subst hother
      have htakes : ¬ now.arena.Takes participant submission := fun htakes =>
        h (.inr ⟨submission, hmove, htakes⟩)
      rw [move, submit_of_not_takes htakes]
    · exact (now.sameFor_submit submission hother).submission
  | depart other =>
    have hother : participant ≠ other := fun hsame => h (.inl (hsame ▸ hmove))
    exact (now.sameFor_depart hother).submission
  | openTick request instant => rw [move, arena_openTick]
  | takeBatch readings => rw [move, now.arena_takeBatch readings]
  | abandon => rfl

theorem get?_meet_eq_some_iff :
    (live.meet last).arena.submissions.get? participant = some submission ↔
      last.TakesIn live participant submission ∨
        live.arena.submissions.get? participant = some submission ∧
          ¬ last.Displaces live participant := by
  constructor
  · intro hstored
    by_cases hdisplaces : last.Displaces live participant
    · rcases hdisplaces with hdeparts | ⟨other, htakesIn⟩
      · rw [get?_meet_of_depart hdeparts] at hstored
        contradiction
      · rw [get?_meet_of_takesIn htakesIn] at hstored
        obtain rfl := Option.some.inj hstored
        exact .inl htakesIn
    · rw [get?_meet_of_not_displaces hdisplaces] at hstored
      exact .inr ⟨hstored, hdisplaces⟩
  · rintro (htakesIn | ⟨hstored, hkept⟩)
    · exact get?_meet_of_takesIn htakesIn
    · rwa [get?_meet_of_not_displaces hkept]

theorem get?_through_eq_some_iff (hnone : start.arena.submissions.get? participant = none) :
    (start.through occasions).arena.submissions.get? participant = some submission ↔
      start.LastTaken occasions participant submission := by
  induction occasions using List.reverseRecOn generalizing submission with
  | nil =>
    refine iff_of_false (fun hsome => ?_) not_lastTaken_nil
    exact absurd (hnone.symm.trans hsome) (by simp)
  | append_singleton occasions last ih =>
    rw [through_concat, get?_meet_eq_some_iff, lastTaken_concat, ih]

/-- After any history the sequence of the last submission that was taken in is stored, and
submissions and departures are answered as they should be. -/
theorem stored_iff_lastTaken (catalog : Catalog) (settings : Settings) (ownership : Ownership)
    (occasions : List Occasion) :
    let start := idle (.create catalog settings ownership)
    let live := start.through occasions
    (∀ participant submission,
        live.arena.submissions.get? participant = some submission ↔
          start.LastTaken occasions participant submission) ∧
      (∀ participant, live.arena.submissions.get? participant = none ↔
        ∀ submission, ¬ start.LastTaken occasions participant submission) ∧
      live.Answers := by
  intro start live
  have hstored : ∀ participant submission,
      live.arena.submissions.get? participant = some submission ↔
        start.LastTaken occasions participant submission :=
    fun _ _ => get?_through_eq_some_iff rfl
  refine ⟨hstored, fun participant => ?_, live.answers⟩
  rw [Option.eq_none_iff_forall_ne_some]
  exact forall_congr' fun submission => not_congr (hstored participant submission)

end LiveArena

end TickArena

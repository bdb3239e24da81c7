import TickArena.Proofs.StoredSubmissions

/-!
# Owned components

An inventory holds what has been granted and not been withdrawn since.  Where ownership is
enforced, a sequence is stored only if its sender owns all its components at that moment.  The
hash of the stored sequence lets others pass, but nothing is stored then.  What is withdrawn
later stays in the sequences that hold it.
-/

namespace TickArena

/-- What is done to the inventories, or to the arena that asks them. -/
inductive Deed where
  | grant (participant : Nat) (id : String)
  | revoke (participant : Nat) (id : String)
  | forget (participant : Nat)
  | move (move : Move)

/-! ## Inventories -/

namespace Deed

def change (ownership : Ownership) : Deed → Ownership
  | grant participant id => ownership.grant participant id
  | revoke participant id => ownership.revoke participant id
  | forget participant => ownership.forget participant
  | move _ => ownership

def Withdraws (deed : Deed) (participant : Nat) (id : String) : Prop :=
  deed = .revoke participant id ∨ deed = .forget participant

/-- The component has been granted to the participant, and not been withdrawn since. -/
def Held (deeds : List Deed) (participant : Nat) (id : String) : Prop :=
  ∃ earlier later, deeds = earlier ++ .grant participant id :: later ∧
    ∀ deed ∈ later, ¬ deed.Withdraws participant id

variable {deeds : List Deed} {last : Deed} {participant : Nat} {id : String}

theorem not_held_nil : ¬ Held [] participant id := by
  rintro ⟨earlier, later, hsplit, -⟩
  simp at hsplit

theorem held_concat : Held (deeds ++ [last]) participant id ↔
    last = .grant participant id ∨
      Held deeds participant id ∧ ¬ last.Withdraws participant id := by
  constructor
  · rintro ⟨earlier, later, hsplit, hkept⟩
    rcases concat_eq_append_cons_iff.mp hsplit with ⟨-, rfl, -⟩ | ⟨rest, rfl, rfl⟩
    · exact .inl rfl
    · refine .inr ⟨⟨earlier, rest, rfl, fun deed hdeed => ?_⟩, ?_⟩
      · exact hkept deed (List.mem_append_left _ hdeed)
      · exact hkept last (by simp)
  · rintro (rfl | ⟨⟨earlier, later, rfl, hkept⟩, hlast⟩)
    · exact ⟨deeds, [], rfl, by simp⟩
    · refine ⟨earlier, later ++ [last], by simp, fun deed hdeed => ?_⟩
      rcases List.mem_append.mp hdeed with hold | hnew
      · exact hkept deed hold
      · rwa [List.mem_singleton.mp hnew]

/-- What is in an inventory has just been put in, or was in it and is not taken out. -/
theorem granted_change (ownership : Ownership) :
    (last.change ownership).granted participant id = true ↔
      last = .grant participant id ∨
        ownership.granted participant id = true ∧ ¬ last.Withdraws participant id := by
  unfold Ownership.granted Withdraws
  cases last with
  | grant other given => simp [change, Ownership.grant, @eq_comm _ participant, @eq_comm _ id]
  | revoke other taken =>
    simp [-not_and, not_and_or, change, Ownership.revoke, @eq_comm _ participant, @eq_comm _ id]
  | forget other => simp [change, Ownership.forget, @eq_comm _ participant]
  | move move => simp [change]

theorem limited_change (ownership : Ownership) (deed : Deed) :
    (deed.change ownership).limited = ownership.limited := by
  cases deed <;> rfl

/-- All components of a sequence are held by a participant. -/
def HeldAll (deeds : List Deed) (participant : Nat) (slots : Slots) : Prop :=
  ∀ slot, some slot ∈ slots → Held deeds participant slot.componentId

end Deed

/-! ## An arena that asks the inventories -/

namespace Arena

theorem owns_of_problem?_eq_none {arena : Arena} {participant : Nat} {slots : Slots} {slot : Slot}
    (henforced : arena.settings.enforceOwnership = true)
    (h : arena.problem? participant slots = none) (hslot : some slot ∈ slots) :
    arena.ownership.owns participant slot.componentId = true := by
  obtain ⟨number, hnone⟩ := exists_slotProblem?_eq_none h hslot
  by_contra howns
  have hproblem : (arena.settings.enforceOwnership
      && !arena.ownership.owns participant slot.componentId) = true := by
    simpa [henforced] using howns
  rw [slotProblem?, if_pos hproblem] at hnone
  split_ifs at hnone

end Arena

namespace LiveArena

def perform (live : LiveArena) : Deed → LiveArena
  | .move move => live.move move
  | deed => live.owning (deed.change live.arena.ownership)

def performAll (live : LiveArena) (deeds : List Deed) : LiveArena :=
  deeds.foldl perform live

theorem performAll_concat (live : LiveArena) (deeds : List Deed) (last : Deed) :
    live.performAll (deeds ++ [last]) = (live.performAll deeds).perform last :=
  List.foldl_concat ..

/-- Moves ask the inventories and the settings, and do not change them. -/
theorem rules_move (live : LiveArena) (move : Move) :
    (live.move move).arena.ownership = live.arena.ownership ∧
      (live.move move).arena.settings = live.arena.settings := by
  cases move with
  | submit participant submission =>
    rcases live.submit_cases participant submission with hsame | hstored
    · rw [LiveArena.move, hsame]
      exact ⟨rfl, rfl⟩
    · rw [LiveArena.move, hstored]
      exact ⟨rfl, rfl⟩
  | depart participant => exact ⟨rfl, rfl⟩
  | openTick request now =>
    rw [LiveArena.move, arena_openTick]
    exact ⟨rfl, rfl⟩
  | takeBatch readings =>
    rw [LiveArena.move, arena_takeBatch]
    exact ⟨rfl, rfl⟩
  | abandon => exact ⟨rfl, rfl⟩

theorem ownership_perform (live : LiveArena) (deed : Deed) :
    (live.perform deed).arena.ownership = deed.change live.arena.ownership := by
  cases deed with
  | move move => exact (live.rules_move move).1
  | _ => rfl

theorem settings_performAll (live : LiveArena) (deeds : List Deed) :
    (live.performAll deeds).arena.settings = live.arena.settings := by
  let Same (now : LiveArena) : Prop := now.arena.settings = live.arena.settings
  refine List.foldlRecOn (motive := Same) _ _ rfl fun now hnow deed _ => ?_
  cases deed with
  | move move => exact (now.rules_move move).2.trans hnow
  | _ => exact hnow

/-- An inventory that was empty at first holds what has been granted and not withdrawn. -/
theorem owns_performAll_iff {start : LiveArena} (hstart : start.arena.ownership = .inventory [])
    {deeds : List Deed} {participant : Nat} {id : String} :
    (start.performAll deeds).arena.ownership.owns participant id = true ↔
      Deed.Held deeds participant id := by
  have hlimited : (start.performAll deeds).arena.ownership.limited = true ∧
      ((start.performAll deeds).arena.ownership.granted participant id = true ↔
        Deed.Held deeds participant id) := by
    induction deeds using List.reverseRecOn with
    | nil =>
      rw [performAll, List.foldl_nil, hstart]
      exact ⟨rfl, iff_of_false Bool.false_ne_true Deed.not_held_nil⟩
    | append_singleton deeds last ih =>
      rw [performAll_concat, ownership_perform, Deed.limited_change, Deed.granted_change,
        Deed.held_concat, ih.2]
      exact ⟨ih.1, Iff.rfl⟩
  rw [Ownership.owns, hlimited.1, Bool.not_true, Bool.false_or, hlimited.2]

/-- What is stored after some deeds has been owned in full when it came in, and so does what
comes next. -/
structure Enforces (live : LiveArena) (deeds : List Deed) : Prop where
  refused : ∀ participant submission, ¬ Deed.HeldAll deeds participant submission.slots →
    live.submit participant submission = live
  changed : ∀ deed participant,
    (live.perform deed).arena.submissions.get? participant ≠
        live.arena.submissions.get? participant →
      deed = .move (.depart participant) ∨
        ∃ submission, deed = .move (.submit participant submission) ∧
          (live.perform deed).arena.submissions.get? participant = some submission ∧
          Deed.HeldAll deeds participant submission.slots
  stored : ∀ participant submission,
    live.arena.submissions.get? participant = some submission →
      ∃ earlier later, deeds = earlier ++ .move (.submit participant submission) :: later ∧
        Deed.HeldAll earlier participant submission.slots

section Enforces

variable {start : LiveArena} {deeds : List Deed}

theorem heldAll_of_takes (hstart : start.arena.ownership = .inventory [])
    (henforced : start.arena.settings.enforceOwnership = true) {participant : Nat}
    {submission : Submission} (h : (start.performAll deeds).arena.Takes participant submission) :
    Deed.HeldAll deeds participant submission.slots := by
  intro slot hslot
  rw [← settings_performAll start deeds] at henforced
  exact (owns_performAll_iff hstart).mp (Arena.owns_of_problem?_eq_none henforced h.2 hslot)

theorem submit_of_not_heldAll (hstart : start.arena.ownership = .inventory [])
    (henforced : start.arena.settings.enforceOwnership = true) {participant : Nat}
    {submission : Submission} (h : ¬ Deed.HeldAll deeds participant submission.slots) :
    (start.performAll deeds).submit participant submission = start.performAll deeds :=
  submit_of_not_takes fun htakes => h (heldAll_of_takes hstart henforced htakes)

/-- A deed that changes what is stored for a participant is its departure, or a submission of
it that is owned in full. -/
theorem changed_perform (hstart : start.arena.ownership = .inventory [])
    (henforced : start.arena.settings.enforceOwnership = true) {deed : Deed} {participant : Nat}
    (h : ((start.performAll deeds).perform deed).arena.submissions.get? participant ≠
      (start.performAll deeds).arena.submissions.get? participant) :
    deed = .move (.depart participant) ∨
      ∃ submission, deed = .move (.submit participant submission) ∧
        ((start.performAll deeds).perform deed).arena.submissions.get? participant =
          some submission ∧
        Deed.HeldAll deeds participant submission.slots := by
  let live := start.performAll deeds
  cases deed with
  | move move =>
    let occasion : Occasion := ⟨live.arena.ownership, move⟩
    by_cases hdisplaces : occasion.Displaces live participant
    · rcases hdisplaces with hdeparts | ⟨submission, htakesIn⟩
      · exact .inl (congrArg Deed.move hdeparts)
      · exact .inr ⟨submission, congrArg Deed.move htakesIn.1, get?_meet_of_takesIn htakesIn,
          heldAll_of_takes hstart henforced htakesIn.2⟩
    · exact absurd (get?_meet_of_not_displaces hdisplaces) h
  | _ => exact absurd rfl h

theorem enforces_performAll (hstart : start.arena.ownership = .inventory [])
    (henforced : start.arena.settings.enforceOwnership = true)
    (hempty : start.arena.submissions = ∅) (deeds : List Deed) :
    (start.performAll deeds).Enforces deeds := by
  refine ⟨fun participant submission => submit_of_not_heldAll hstart henforced,
    fun deed participant => changed_perform hstart henforced, ?_⟩
  induction deeds using List.reverseRecOn with
  | nil =>
    intro participant submission hstored
    rw [performAll, List.foldl_nil, hempty] at hstored
    contradiction
  | append_singleton deeds last ih =>
    intro participant submission hstored
    rw [performAll_concat] at hstored
    by_cases hsame : ((start.performAll deeds).perform last).arena.submissions.get? participant =
        (start.performAll deeds).arena.submissions.get? participant
    · rw [hsame] at hstored
      obtain ⟨earlier, later, rfl, hheld⟩ := ih participant submission hstored
      exact ⟨earlier, later ++ [last], by simp, hheld⟩
    · rcases changed_perform hstart henforced hsame with rfl | ⟨other, rfl, hother, hheld⟩
      · have hgone : ((start.performAll deeds).perform
            (.move (.depart participant))).arena.submissions.get? participant = none :=
          Table.get?_erase_self _ _
        rw [hgone] at hstored
        contradiction
      · rw [hother] at hstored
        obtain rfl := Option.some.inj hstored
        exact ⟨deeds, [], rfl, hheld⟩

end Enforces

/-- Whatever is granted, withdrawn and submitted, everyone owns what has been granted and not
withdrawn since; and where ownership is enforced, nothing is stored that its sender does not
own at that moment. -/
theorem ownership_enforced (catalog : Catalog) (settings : Settings) (deeds : List Deed) :
    let live := (idle (.create catalog settings (.inventory []))).performAll deeds
    (∀ participant id, live.arena.ownership.owns participant id = true ↔
        Deed.Held deeds participant id) ∧
      (settings.enforceOwnership = true → live.Enforces deeds) :=
  ⟨fun _ _ => owns_performAll_iff rfl, fun henforced => enforces_performAll rfl henforced rfl deeds⟩

/-- A sequence stays stored when its core is taken away.  One with a core that nobody has been
granted is refused, and under the hash of the stored one it is accepted without effect. -/
theorem market_ownership_enforced :
    let catalog : Catalog := ⟨[Standard.emberCore, Standard.vanguardCore], .standard⟩
    let unowned : Slots := [some (.plain "vanguard_core")]
    let deeds : List Deed :=
      [.grant 1 "ember_core", .grant 2 "ember_core",
        .move (.submit 1 ⟨[some (.plain "ember_core")], "first"⟩), .forget 1,
        .move (.submit 1 ⟨unowned, "second"⟩), .move (.submit 1 ⟨unowned, "first"⟩)]
    let live := (idle (.create catalog .standard (.inventory []))).performAll deeds
    Settings.standard.enforceOwnership = true ∧ live.Enforces deeds ∧
      ¬ Deed.Held deeds 1 "ember_core" ∧ Deed.Held deeds 2 "ember_core" ∧
      live.arena.submissions.get? 1 = some ⟨[some (.plain "ember_core")], "first"⟩ ∧
      (live.arena.submit 1 ⟨unowned, "first"⟩).toOption.isSome ∧
      (live.arena.submit 1 ⟨unowned, "second"⟩).toOption.isNone := by
  intro catalog unowned deeds live
  obtain ⟨howns, henforces⟩ := ownership_enforced catalog .standard deeds
  exact ⟨rfl, henforces rfl, (howns 1 "ember_core").not.mp (by decide +kernel),
    (howns 2 "ember_core").mp (by decide +kernel), by decide +kernel, by decide +kernel,
    by decide +kernel⟩

end LiveArena

end TickArena

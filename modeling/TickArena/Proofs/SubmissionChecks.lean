import TickArena.Proofs.CatalogIndexes
import TickArena.Arena.Basic

/-!
# Checks of submissions

A sequence is accepted if it holds something, keeps to the limit, and each of its slots keeps
to the rules: those of the settings, of the catalog, and of who owns what.  Otherwise the
refusal names the first slot that does not, and the first rule that this slot breaks.  Who owns
what is known outside; of any answers that may come from there, an inventory gives those that
one sequence asks for.
-/

namespace TickArena

/-- What a submission is checked against. -/
structure Rules where
  catalog : Catalog
  settings : Settings
  owns : Nat → String → Prop

namespace Rules

variable (rules : Rules) (participant : Nat)

/-- The slot of a participant keeps to the rules. -/
def Permits : Option Slot → Prop
  | none => rules.settings.allowEmptySlots = true
  | some slot => slot.componentId ∈ rules.catalog.ids ∧
      slot.evolutionLevel ≤ rules.settings.maxEvolutionLevel ∧
      (rules.settings.enforceOwnership = true → rules.owns participant slot.componentId)

/-- The first rule that a slot breaks, in the order in which they are listed here. -/
inductive Faults (number : Nat) : Option Slot → Rejection → Prop
  | empty (hempty : rules.settings.allowEmptySlots = false) :
      Faults number none (.emptySlot number)
  | unknown (slot : Slot) (hunknown : slot.componentId ∉ rules.catalog.ids) :
      Faults number (some slot) (.unknownComponent number slot.componentId)
  | evolution (slot : Slot) (hknown : slot.componentId ∈ rules.catalog.ids)
      (hlevel : rules.settings.maxEvolutionLevel < slot.evolutionLevel) :
      Faults number (some slot)
        (.invalidEvolution number slot.evolutionLevel rules.settings.maxEvolutionLevel)
  | unowned (slot : Slot) (hknown : slot.componentId ∈ rules.catalog.ids)
      (hlevel : slot.evolutionLevel ≤ rules.settings.maxEvolutionLevel)
      (henforced : rules.settings.enforceOwnership = true)
      (howns : ¬rules.owns participant slot.componentId) :
      Faults number (some slot) (.notOwned participant number slot.componentId)

/-- The sequence is accepted. -/
structure Accepts (slots : Slots) : Prop where
  nonempty : slots ≠ []
  length : slots.length ≤ maxSequenceLength
  permits : ∀ slot ∈ slots, rules.Permits participant slot

/-- The sequence is refused, and for this reason. -/
inductive Refuses (slots : Slots) : Rejection → Prop
  | tooLong (hlength : maxSequenceLength < slots.length) :
      Refuses slots (.sequenceTooLong slots.length maxSequenceLength)
  | nothing (hempty : slots = []) : Refuses slots .emptySequence
  | slot (earlier : Slots) (slot : Option Slot) (later : Slots) (rejection : Rejection)
      (hlength : slots.length ≤ maxSequenceLength)
      (hslots : slots = earlier ++ slot :: later)
      (hearlier : ∀ other ∈ earlier, rules.Permits participant other)
      (hfaults : rules.Faults participant (earlier.length + 1) slot rejection) :
      Refuses slots rejection

end Rules

namespace Arena

/-- The rules of an arena, as far as the check of one sequence can tell. -/
structure Follows (arena : Arena) (rules : Rules) (participant : Nat) (slots : Slots) : Prop where
  catalog : arena.catalog = rules.catalog
  settings : arena.settings = rules.settings
  owns : ∀ slot, some slot ∈ slots →
    (arena.ownership.owns participant slot.componentId = true ↔
      rules.owns participant slot.componentId)

variable {arena : Arena} {rules : Rules} {participant : Nat} {slots : Slots}

theorem exists_follows (rules : Rules) (participant : Nat) (slots : Slots) :
    ∃ arena : Arena, arena.Follows rules participant slots := by
  classical
  let owned := (slots.filterMap id).filter fun slot => rules.owns participant slot.componentId
  let inventory := Ownership.inventory (owned.map fun slot => (participant, slot.componentId))
  refine ⟨create rules.catalog rules.settings inventory, rfl, rfl, fun slot hslot => ?_⟩
  have hgranted : inventory.owns participant slot.componentId = true ↔
      ∃ other ∈ owned, other.componentId = slot.componentId := by
    simp [inventory, Ownership.owns, Ownership.inventory, Ownership.granted]
  have howned : ∀ other, other ∈ owned ↔
      some other ∈ slots ∧ rules.owns participant other.componentId := by
    simp [owned]
  change inventory.owns participant slot.componentId = true ↔ _
  rw [hgranted]
  constructor
  · rintro ⟨other, hother, hsame⟩
    rw [← hsame]
    exact ((howned other).mp hother).2
  · exact fun howns => ⟨slot, (howned slot).mpr ⟨hslot, howns⟩, rfl⟩

namespace Follows

/-! ## One slot -/

theorem slotProblem?_eq_some_iff (h : arena.Follows rules participant slots) {slot : Option Slot}
    (hslot : slot ∈ slots) {number : Nat} {rejection : Rejection} :
    arena.slotProblem? participant number slot = some rejection ↔
      rules.Faults participant number slot rejection := by
  cases slot with
  | none =>
    rw [slotProblem?, h.settings]
    constructor
    · intro hproblem
      split_ifs at hproblem with hempty
      obtain rfl := Option.some.inj hproblem
      exact .empty (by simpa using hempty)
    · rintro ⟨⟩
      simp [*]
  | some slot =>
    have hknown : arena.catalog.contains slot.componentId = true ↔
        slot.componentId ∈ rules.catalog.ids := by
      rw [h.catalog, Catalog.contains_iff_mem_ids]
    have howns := h.owns slot hslot
    rw [slotProblem?, h.settings]
    constructor
    · intro hproblem
      split_ifs at hproblem with hunknown hlevel hunowned
      · obtain rfl := Option.some.inj hproblem
        exact .unknown slot (by simpa [← hknown] using hunknown)
      · obtain rfl := Option.some.inj hproblem
        exact .evolution slot (by simpa [← hknown] using hunknown) hlevel
      · obtain rfl := Option.some.inj hproblem
        obtain ⟨henforced, hnot⟩ := Bool.and_eq_true_iff.mp hunowned
        exact .unowned slot (by simpa [← hknown] using hunknown) (not_lt.mp hlevel) henforced
          (by simpa [← howns] using hnot)
    · intro hfaults
      cases hfaults with
      | unknown _ hunknown =>
        rw [if_pos (by simpa [← hknown] using hunknown)]
      | evolution _ hin hlevel =>
        rw [if_neg (by simpa [← hknown] using hin), if_pos hlevel]
      | unowned _ hin hlevel henforced hnot =>
        rw [if_neg (by simpa [← hknown] using hin), if_neg (not_lt.mpr hlevel), if_pos]
        simpa [henforced, ← howns] using hnot

theorem slotProblem?_eq_none_iff (h : arena.Follows rules participant slots) {slot : Option Slot}
    (hslot : slot ∈ slots) {number : Nat} :
    arena.slotProblem? participant number slot = none ↔ rules.Permits participant slot := by
  cases slot with
  | none => simp [slotProblem?, h.settings, Rules.Permits]
  | some slot =>
    have howns := h.owns slot hslot
    rw [Rules.Permits, ← howns, ← Catalog.contains_iff_mem_ids, slotProblem?, h.settings, h.catalog]
    split_ifs with hunknown hlevel hunowned <;> simp_all

/-! ## All slots -/

/-- The first slot with a problem. -/
theorem findSome?_slotProblem?_eq_some_iff (h : arena.Follows rules participant slots)
    {rejection : Rejection} :
    (slots.zipIdx 1).findSome? (fun (slot, number) =>
        arena.slotProblem? participant number slot) = some rejection ↔
      ∃ earlier slot later, slots = earlier ++ slot :: later ∧
        (∀ other ∈ earlier, rules.Permits participant other) ∧
        rules.Faults participant (earlier.length + 1) slot rejection := by
  rw [List.findSome?_eq_some_iff]
  constructor
  · rintro ⟨before, numbered, after, hsplit, hproblem, hbefore⟩
    obtain ⟨earlier, rest, hslots, rfl, hrest⟩ := List.zipIdx_eq_append_iff.mp hsplit
    obtain ⟨slot, later, rfl, rfl, -⟩ := List.zipIdx_eq_cons_iff.mp hrest.symm
    refine ⟨earlier, slot, later, hslots, fun other hother => ?_, ?_⟩
    · have hmem : other ∈ slots := by simp [hslots, hother]
      rw [← List.zipIdx_map_fst 1 earlier] at hother
      obtain ⟨numbered, hnumbered, rfl⟩ := List.mem_map.mp hother
      exact (h.slotProblem?_eq_none_iff hmem).mp (hbefore _ hnumbered)
    · rw [Nat.add_comm]
      exact (h.slotProblem?_eq_some_iff (by simp [hslots])).mp hproblem
  · rintro ⟨earlier, slot, later, hslots, hearlier, hfaults⟩
    refine ⟨earlier.zipIdx 1, (slot, 1 + earlier.length), later.zipIdx (1 + earlier.length + 1),
      ?_, ?_, ?_⟩
    · rw [hslots, List.zipIdx_append, List.zipIdx_cons]
    · rw [Nat.add_comm] at hfaults
      exact (h.slotProblem?_eq_some_iff (by simp [hslots])).mpr hfaults
    · rintro ⟨other, number⟩ hmem
      have hother := List.fst_mem_of_mem_zipIdx hmem
      exact (h.slotProblem?_eq_none_iff (by simp [hslots, hother])).mpr (hearlier other hother)

theorem findSome?_slotProblem?_eq_none_iff (h : arena.Follows rules participant slots) :
    (slots.zipIdx 1).findSome? (fun (slot, number) =>
        arena.slotProblem? participant number slot) = none ↔
      ∀ slot ∈ slots, rules.Permits participant slot := by
  rw [List.findSome?_eq_none_iff]
  constructor
  · intro hnone slot hslot
    rw [← List.zipIdx_map_fst 1 slots] at hslot
    obtain ⟨numbered, hmem, rfl⟩ := List.mem_map.mp hslot
    exact (h.slotProblem?_eq_none_iff (List.fst_mem_of_mem_zipIdx hmem)).mp (hnone _ hmem)
  · intro hpermits numbered hmem
    have hslot := List.fst_mem_of_mem_zipIdx hmem
    exact (h.slotProblem?_eq_none_iff hslot).mpr (hpermits _ hslot)

/-! ## The whole sequence -/

theorem problem?_of_tooLong (hlength : maxSequenceLength < slots.length) :
    arena.problem? participant slots = some (.sequenceTooLong slots.length maxSequenceLength) :=
  if_pos hlength

/-- Where no slot has a problem, only a sequence without slots holds nothing. -/
theorem holdsSomething_iff (h : arena.Follows rules participant slots)
    (hpermits : ∀ slot ∈ slots, rules.Permits participant slot) :
    (slots.any Option.isSome || (arena.settings.allowEmptySlots && !slots.isEmpty)) = true ↔
      slots ≠ [] := by
  cases slots with
  | nil => simp
  | cons slot rest =>
    refine iff_of_true ?_ (List.cons_ne_nil slot rest)
    have hslot := hpermits slot List.mem_cons_self
    cases slot with
    | none =>
      have hallowed : arena.settings.allowEmptySlots = true := by
        rw [h.settings]
        exact hslot
      simp [hallowed]
    | some slot => simp

theorem problem?_of_refuses (h : arena.Follows rules participant slots) {rejection : Rejection}
    (hrefuses : rules.Refuses participant slots rejection) :
    arena.problem? participant slots = some rejection := by
  cases hrefuses with
  | tooLong hlength => exact problem?_of_tooLong hlength
  | nothing hempty =>
    subst hempty
    simp [problem?]
  | slot earlier slot later _ hlength hslots hearlier hfaults =>
    have hfirst := h.findSome?_slotProblem?_eq_some_iff.mpr
      ⟨earlier, slot, later, hslots, hearlier, hfaults⟩
    rw [problem?, if_neg (not_lt.mpr hlength), hfirst]

theorem problem?_of_accepts (h : arena.Follows rules participant slots)
    (haccepts : rules.Accepts participant slots) : arena.problem? participant slots = none := by
  have hfirst := h.findSome?_slotProblem?_eq_none_iff.mpr haccepts.permits
  have hsomething := (h.holdsSomething_iff haccepts.permits).mpr haccepts.nonempty
  rw [problem?, if_neg (not_lt.mpr haccepts.length), hfirst]
  exact if_pos hsomething

end Follows

end Arena

/-- There is no third way. -/
theorem Rules.accepts_or_refuses {arena : Arena} {rules : Rules} {participant : Nat}
    {slots : Slots} (h : arena.Follows rules participant slots) :
    rules.Accepts participant slots ∨ ∃ rejection, rules.Refuses participant slots rejection := by
  by_cases hlength : maxSequenceLength < slots.length
  · exact .inr ⟨_, .tooLong hlength⟩
  by_cases hempty : slots = []
  · exact .inr ⟨_, .nothing hempty⟩
  cases hfirst : (slots.zipIdx 1).findSome? fun (slot, number) =>
      arena.slotProblem? participant number slot with
  | none =>
    have hpermits := h.findSome?_slotProblem?_eq_none_iff.mp hfirst
    exact .inl ⟨hempty, not_lt.mp hlength, hpermits⟩
  | some rejection =>
    obtain ⟨earlier, slot, later, hslots, hearlier, hfaults⟩ :=
      h.findSome?_slotProblem?_eq_some_iff.mp hfirst
    exact .inr ⟨rejection,
      .slot earlier slot later rejection (not_lt.mp hlength) hslots hearlier hfaults⟩

/-- Whatever the settings, the catalog and the ownership, the check of a sequence accepts what
keeps to the rules, and refuses everything else for the first reason that there is. -/
theorem Arena.problem?_exact (rules : Rules) (participant : Nat) (slots : Slots) :
    (∃ arena : Arena, arena.Follows rules participant slots) ∧
      ∀ arena : Arena, arena.Follows rules participant slots →
        (arena.problem? participant slots = none ↔ rules.Accepts participant slots) ∧
        ∀ rejection, arena.problem? participant slots = some rejection ↔
          rules.Refuses participant slots rejection := by
  refine ⟨exists_follows rules participant slots, fun arena h => ⟨⟨fun hnone => ?_,
    h.problem?_of_accepts⟩, fun rejection => ⟨fun hsome => ?_, h.problem?_of_refuses⟩⟩⟩
  · rcases Rules.accepts_or_refuses h with haccepts | ⟨rejection, hrefuses⟩
    · exact haccepts
    · have hsome := h.problem?_of_refuses hrefuses
      rw [hnone] at hsome
      contradiction
  · rcases Rules.accepts_or_refuses h with haccepts | ⟨other, hrefuses⟩
    · have hnone := h.problem?_of_accepts haccepts
      rw [hsome] at hnone
      contradiction
    · have hother := h.problem?_of_refuses hrefuses
      rw [hsome] at hother
      rwa [Option.some.inj hother]

/-- The third slot breaks two rules and the fourth another one; the level of the third comes
first.  Nobody can list all that the participant owns, but two grants answer for this sequence. -/
theorem Arena.stormless_problem?_exact :
    let rules : Rules := ⟨⟨[Standard.emberCore, Standard.stormCore], .standard⟩, .standard,
      fun participant id => participant = 1 ∧ id ≠ "storm_core"⟩
    let arena := create rules.catalog rules.settings
      (.inventory [(1, "ember_core"), (1, "moon_core")])
    let accepted : Slots := [none, some ⟨"ember_core", none, 10⟩]
    let refused : Slots := accepted ++ [some ⟨"storm_core", none, 11⟩, some (.plain "moon_core")]
    arena.Follows rules 1 accepted ∧ rules.Accepts 1 accepted ∧
      arena.Follows rules 1 refused ∧ rules.Refuses 1 refused (.invalidEvolution 3 11 10) := by
  intro rules arena accepted refused
  have haccepted : arena.Follows rules 1 accepted := ⟨rfl, rfl, by
    simp [accepted, rules, arena, create, Ownership.owns, Ownership.inventory, Ownership.granted]⟩
  have hrefused : arena.Follows rules 1 refused := ⟨rfl, rfl, by
    simp [refused, accepted, rules, arena, create, Ownership.owns, Ownership.inventory,
      Ownership.granted, Slot.plain]⟩
  have hnone : arena.problem? 1 accepted = none := by decide +kernel
  have hsome : arena.problem? 1 refused = some (.invalidEvolution 3 11 10) := by decide +kernel
  exact ⟨haccepted, ((problem?_exact rules 1 accepted).2 arena haccepted).1.mp hnone, hrefused,
    (((problem?_exact rules 1 refused).2 arena hrefused).2 _).mp hsome⟩

end TickArena

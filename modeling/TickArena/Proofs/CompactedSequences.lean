import TickArena.Catalog.Basic
import TickArena.Proofs.SequencePositions

/-!
# Compacted sequences

Building a context closes the gaps of a sequence.  Every filled slot is accounted for: it takes
the next position, if its number is within the limit and the catalog knows its component, and
otherwise it is noted.  So the entries are a part of the filled slots, in the same order, and a
position and the number of its slot determine each other.
-/

namespace TickArena

namespace Slots

/-- The filled slots, with their numbers from a first one on. -/
def filledFrom (number : Nat) (slots : Slots) : List (Slot × Nat) :=
  (slots.zipIdx number).filterMap fun (slot?, number) => slot?.map (·, number)

def filled (slots : Slots) : List (Slot × Nat) :=
  slots.filledFrom 1

variable (number : Nat) (slots : Slots)

theorem filledFrom_cons_none : filledFrom number (none :: slots) = slots.filledFrom (number + 1) :=
  rfl

theorem filledFrom_cons_some (slot : Slot) :
    filledFrom number (some slot :: slots) = (slot, number) :: slots.filledFrom (number + 1) :=
  rfl

theorem length_filledFrom : (slots.filledFrom number).length = slots.countP Option.isSome := by
  induction slots generalizing number with
  | nil => rfl
  | cons slot? later ih =>
    cases slot? with
    | none => rw [filledFrom_cons_none, ih, List.countP_cons_of_neg (by simp)]
    | some slot =>
      rw [filledFrom_cons_some, List.length_cons, ih, List.countP_cons_of_pos (by simp)]

theorem some_mem_of_mem_filledFrom {number : Nat} {slots : Slots} {filled : Slot × Nat}
    (h : filled ∈ slots.filledFrom number) : some filled.1 ∈ slots := by
  obtain ⟨⟨slot?, numbered⟩, hmem, hfilled⟩ := List.mem_filterMap.mp h
  obtain ⟨slot, rfl, rfl⟩ := Option.map_eq_some_iff.mp hfilled
  exact List.fst_mem_of_mem_zipIdx hmem

/-- The numbers of the filled slots are some of the numbers of all slots, in their order. -/
theorem numbers_filledFrom_sublist :
    ((slots.filledFrom number).map Prod.snd).Sublist (List.range' number slots.length) := by
  induction slots generalizing number with
  | nil => exact .slnil
  | cons slot? later ih =>
    rw [List.length_cons, List.range'_succ]
    cases slot? with
    | none => exact (ih (number + 1)).cons _
    | some slot => exact (ih (number + 1)).cons_cons _

end Slots

/-! ## What becomes of a filled slot -/

variable {catalog : Catalog} {filled : Slot × Nat}

/-- A filled slot takes a position if its number is within the limit and its component known. -/
def Catalog.places (catalog : Catalog) (filled : Slot × Nat) : Bool :=
  filled.2 ≤ maxSequenceLength && catalog.contains filled.1.componentId

/-- The filled slots that take positions. -/
def Catalog.placed (catalog : Catalog) (slots : Slots) : List (Slot × Nat) :=
  slots.filled.filter catalog.places

/-- What is noted of a filled slot that takes no position. -/
def Slot.remark (slot : Slot) (number : Nat) : String :=
  if maxSequenceLength < number then
    s!"slot {number} ('{slot.componentId}') is beyond the sequence limit and was ignored"
  else s!"slot {number}: {(Failure.unknownComponent slot.componentId).message}"

/-- The slot overrides the rarity of its component, if it names one. -/
structure Entry.Fills (catalog : Catalog) (filled : Slot × Nat) (entry : Entry) : Prop where
  component : catalog.get? filled.1.componentId = some entry.component
  componentId : entry.placement.componentId = filled.1.componentId
  slot : entry.placement.slot = filled.2
  rarity : entry.placement.rarity = filled.1.rarity.getD entry.component.rarity
  evolutionLevel : entry.placement.evolutionLevel = filled.1.evolutionLevel

namespace Context

/-- A slot that takes a position gets its entry, and nothing is noted of it. -/
theorem takeIn_of_places (context : Context) {slot : Slot} {number : Nat}
    (hplaces : catalog.places (slot, number) = true) :
    let after := context.takeIn catalog.get? number (some slot)
    after.diagnostics = context.diagnostics ∧ ∃ entry : Entry,
      entry.Fills catalog (slot, number) ∧ after.entries = context.entries ++ [entry] := by
  obtain ⟨hnumber, hknown⟩ := Bool.and_eq_true_iff.mp hplaces
  have hnumber : number ≤ maxSequenceLength := of_decide_eq_true hnumber
  obtain ⟨component, hcomponent⟩ := Option.isSome_iff_exists.mp hknown
  have htaken : context.takeIn catalog.get? number (some slot) =
      context.place number slot component := by
    unfold takeIn
    dsimp only
    rw [if_neg hnumber.not_gt, hcomponent]
  rw [htaken]
  exact ⟨rfl, _, ⟨hcomponent, rfl, rfl, rfl, rfl⟩, rfl⟩

theorem takeIn_of_not_places (context : Context) {slot : Slot} {number : Nat}
    (hplaces : catalog.places (slot, number) = false) :
    context.takeIn catalog.get? number (some slot) = context.note (slot.remark number) := by
  unfold takeIn Slot.remark
  dsimp only
  split_ifs with hbeyond
  · rfl
  · have hunknown : catalog.get? slot.componentId = none := by
      simpa [Catalog.places, Catalog.contains, Nat.le_of_not_lt hbeyond] using hplaces
    rw [hunknown]

/-- The filled slots are taken in one after another, and each leaves its entry or its remark. -/
theorem foldl_takeIn_accounts (slots : Slots) (context : Context) (number : Nat) :
    let built := (slots.zipIdx number).foldl
      (fun context (slot?, number) => context.takeIn catalog.get? number slot?) context
    (∃ taken, List.Forall₂ (Entry.Fills catalog)
        ((slots.filledFrom number).filter catalog.places) taken ∧
      built.entries = context.entries ++ taken) ∧
    built.diagnostics = context.diagnostics ++
      ((slots.filledFrom number).filter (!catalog.places ·)).map
        fun filled => filled.1.remark filled.2 := by
  induction slots generalizing context number with
  | nil => exact ⟨⟨[], .nil, (List.append_nil _).symm⟩, (List.append_nil _).symm⟩
  | cons slot? later ih =>
    rw [List.zipIdx_cons, List.foldl_cons]
    cases slot? with
    | none =>
      rw [Slots.filledFrom_cons_none]
      exact ih context (number + 1)
    | some slot =>
      rw [Slots.filledFrom_cons_some]
      obtain ⟨⟨taken, hfills, hentries⟩, hdiagnostics⟩ :=
        ih (context.takeIn catalog.get? number (some slot)) (number + 1)
      dsimp only
      by_cases hplaces : catalog.places (slot, number) = true
      · obtain ⟨hnoted, entry, hentry, htaken⟩ := context.takeIn_of_places hplaces
        rw [List.filter_cons_of_pos hplaces, List.filter_cons_of_neg (by simpa using hplaces),
          hentries, hdiagnostics, htaken, hnoted]
        exact ⟨⟨entry :: taken, .cons hentry hfills, List.append_assoc _ _ _⟩, rfl⟩
      · rw [Bool.not_eq_true] at hplaces
        rw [List.filter_cons_of_neg (by simp [hplaces]),
          List.filter_cons_of_pos (by simp [hplaces]), hentries, hdiagnostics,
          context.takeIn_of_not_places hplaces]
        exact ⟨⟨taken, hfills, rfl⟩, List.append_assoc _ _ _⟩

theorem fills_build (catalog : Catalog) (slots : Slots) :
    List.Forall₂ (Entry.Fills catalog) (catalog.placed slots)
      (build catalog.get? slots).entries := by
  obtain ⟨⟨taken, hfills, hentries⟩, -⟩ := @foldl_takeIn_accounts catalog slots ∅ 1
  have hentries : (build catalog.get? slots).entries = [] ++ taken := hentries
  rw [hentries]
  exact hfills

theorem diagnostics_build (catalog : Catalog) (slots : Slots) :
    (build catalog.get? slots).diagnostics =
      (slots.filled.filter (!catalog.places ·)).map fun filled => filled.1.remark filled.2 :=
  (@foldl_takeIn_accounts catalog slots ∅ 1).2

/-! ## Slot numbers and positions -/

def slotNumbers (context : Context) : List Nat :=
  context.entries.map fun entry => entry.placement.slot

theorem slotNumbers_build (catalog : Catalog) (slots : Slots) :
    (build catalog.get? slots).slotNumbers = (catalog.placed slots).map Prod.snd := by
  rw [slotNumbers, ← List.forall₂_eq_eq_eq, List.forall₂_map_left_iff, List.forall₂_map_right_iff]
  exact (fills_build catalog slots).flip.imp fun _ _ hfills => hfills.slot

theorem slotNumbers_ascending (catalog : Catalog) (slots : Slots) :
    (build catalog.get? slots).slotNumbers.Pairwise (· < ·) := by
  rw [slotNumbers_build]
  have hplaced : ((catalog.placed slots).map Prod.snd).Sublist (slots.filled.map Prod.snd) :=
    List.filter_sublist.map _
  exact List.Pairwise.sublist (hplaced.trans (slots.numbers_filledFrom_sublist 1))
    List.pairwise_lt_range'

theorem slotNumbers_bounds {catalog : Catalog} {slots : Slots} {number : Nat}
    (hnumber : number ∈ (build catalog.get? slots).slotNumbers) :
    1 ≤ number ∧ number ≤ maxSequenceLength := by
  rw [slotNumbers_build] at hnumber
  obtain ⟨filled, hfilled, rfl⟩ := List.mem_map.mp hnumber
  obtain ⟨hfilled, hplaces⟩ := List.mem_filter.mp hfilled
  have hrange := (slots.numbers_filledFrom_sublist 1).subset (List.mem_map_of_mem hfilled)
  exact ⟨(List.mem_range'_1.mp hrange).1, of_decide_eq_true (Bool.and_eq_true_iff.mp hplaces).1⟩

theorem Numbered.entry?_position {context : Context} (h : context.Numbered) {entry : Entry}
    (hentry : entry ∈ context.entries) : context.entry? entry.position = some entry := by
  obtain ⟨index, hindex, rfl⟩ := List.getElem_of_mem hentry
  have hposition : (context.entries.map Entry.position)[index]? = some (1 + 1 * index) := by
    rw [h]
    exact List.getElem?_range' hindex
  rw [List.getElem?_map, List.getElem?_eq_getElem hindex, Option.map_some] at hposition
  rw [Option.some.inj hposition, Nat.one_mul, Nat.add_comm]
  exact List.getElem?_eq_getElem hindex

/-! ## The index of the slots -/

/-- The index of the slots is in step with the entries, while the slots from a number on are
still to come: it has room for every slot up to the limit, and it leads from the slots of the
entries to their positions and from no other slot to any. -/
structure Indexed (number : Nat) (context : Context) : Prop where
  room : context.slotPositions.length = maxSequenceLength + 1
  before : ∀ entry ∈ context.entries, entry.placement.slot < number
  leads : ∀ slot position, context.positionOfSlot? slot = some position ↔
    ∃ entry ∈ context.entries, entry.placement.slot = slot ∧ entry.position = position

theorem indexed_empty (number : Nat) : Indexed number ∅ := by
  refine ⟨List.length_replicate, by simp [EmptyCollection.emptyCollection], ?_⟩
  intro slot position
  simp only [EmptyCollection.emptyCollection, positionOfSlot?, List.getElem?_replicate]
  split_ifs <;> simp

theorem positionOfSlot?_place (context : Context) {number : Nat}
    (hroom : number < context.slotPositions.length) (slot : Slot) (component : Component)
    (other : Nat) :
    (context.place number slot component).positionOfSlot? other =
      if number = other then some (context.size + 1) else context.positionOfSlot? other := by
  unfold positionOfSlot? place
  dsimp only
  rw [List.getElem?_set]
  split_ifs <;> rfl

namespace Indexed

variable {context : Context} {number : Nat}

theorem later (h : context.Indexed number) : context.Indexed (number + 1) :=
  { h with before := fun entry hentry => (h.before entry hentry).trans (Nat.lt_succ_self _) }

/-- The slot that is placed has not been there before, so no other entry loses its place. -/
theorem place (h : context.Indexed number) (hnumber : number ≤ maxSequenceLength) (slot : Slot)
    (component : Component) : (context.place number slot component).Indexed (number + 1) := by
  have hroom : number < context.slotPositions.length := by
    rw [h.room]
    exact Nat.lt_succ_of_le hnumber
  refine ⟨(List.length_set ..).trans h.room, ?_, ?_⟩
  · intro entry hentry
    rcases List.mem_append.mp hentry with hold | hnew
    · exact h.later.before entry hold
    · rw [List.mem_singleton.mp hnew]
      exact Nat.lt_succ_self _
  · intro other position
    have hentries : (∃ entry ∈ (context.place number slot component).entries,
        entry.placement.slot = other ∧ entry.position = position) ↔
      (∃ entry ∈ context.entries, entry.placement.slot = other ∧ entry.position = position) ∨
        number = other ∧ context.size + 1 = position := by
      simp [Context.place, Entry.position, or_and_right, exists_or]
    rw [context.positionOfSlot?_place hroom, hentries]
    split_ifs with hsame
    · have hnew : ¬ ∃ entry ∈ context.entries,
          entry.placement.slot = other ∧ entry.position = position := by
        rintro ⟨entry, hentry, hslot, -⟩
        exact absurd (h.before entry hentry) (by omega)
      simp [hnew, hsame]
    · simp [h.leads, hsame]

theorem takeIn (h : context.Indexed number) (lookup : String → Option Component)
    (slot? : Option Slot) : (context.takeIn lookup number slot?).Indexed (number + 1) := by
  rcases context.takeIn_cases lookup number slot? with
    hsame | ⟨diagnostic, hnoted⟩ | ⟨slot, component, -, hnumber, -, hplaced⟩
  · rw [hsame]
    exact h.later
  · rw [hnoted]
    exact { h.later with }
  · rw [hplaced]
    exact h.place hnumber slot component

theorem foldl_takeIn (h : context.Indexed number) (lookup : String → Option Component)
    (slots : Slots) :
    ((slots.zipIdx number).foldl
      (fun context (slot?, number) => context.takeIn lookup number slot?) context).Indexed
        (number + slots.length) := by
  induction slots generalizing context number with
  | nil => exact h
  | cons slot? later ih =>
    rw [List.zipIdx_cons, List.foldl_cons, List.length_cons, Nat.add_comm later.length,
      ← Nat.add_assoc]
    exact ih (h.takeIn lookup slot?)

theorem positionOfSlot?_eq_some_iff (h : context.Indexed number) (hnumbered : context.Numbered)
    {slot position : Nat} : context.positionOfSlot? slot = some position ↔
      ∃ entry, context.entry? position = some entry ∧ entry.placement.slot = slot := by
  rw [h.leads]
  constructor
  · rintro ⟨entry, hentry, hslot, rfl⟩
    exact ⟨entry, hnumbered.entry?_position hentry, hslot⟩
  · rintro ⟨entry, hentry, hslot⟩
    exact ⟨entry, mem_of_entry?_eq_some hentry, hslot, hnumbered.position_eq hentry⟩

end Indexed

theorem indexed_build (lookup : String → Option Component) (slots : Slots) :
    (build lookup slots).Indexed (1 + slots.length) :=
  (indexed_empty 1).foldl_takeIn lookup slots

/-- What building has made of the slots: entries at the positions from one on, for the placed
slots in their order, and a remark for every other filled slot. -/
structure Compacts (catalog : Catalog) (slots : Slots) (context : Context) : Prop where
  positions : context.entries.map Entry.position = List.range' 1 context.size
  size_le : context.size ≤ maxSequenceLength
  ascending : context.slotNumbers.Pairwise (· < ·)
  bounds : ∀ number ∈ context.slotNumbers, 1 ≤ number ∧ number ≤ maxSequenceLength
  entries : List.Forall₂ (Entry.Fills catalog) (catalog.placed slots) context.entries
  positionOfSlot : ∀ number position, context.positionOfSlot? number = some position ↔
    ∃ entry, context.entry? position = some entry ∧ entry.placement.slot = number
  diagnostics : context.diagnostics =
    (slots.filled.filter (!catalog.places ·)).map fun filled => filled.1.remark filled.2
  accounted : context.diagnostics.length + context.size = slots.countP Option.isSome

end Context

/-- Every filled slot of a sequence is placed or noted, once. -/
theorem Catalog.compacts_build (catalog : Catalog) (slots : Slots) :
    (Context.build catalog.get? slots).Compacts catalog slots := by
  have hnumbered := Context.numbered_build catalog.get? slots
  have hascending := Context.slotNumbers_ascending catalog slots
  have hnodup : (Context.build catalog.get? slots).slotNumbers.Nodup :=
    hascending.imp Nat.ne_of_lt
  refine ⟨hnumbered, ?_, hascending, fun _ => Context.slotNumbers_bounds,
    Context.fills_build catalog slots,
    fun _ _ => (Context.indexed_build _ slots).positionOfSlot?_eq_some_iff hnumbered,
    Context.diagnostics_build catalog slots, ?_⟩
  · have hrange : (Context.build catalog.get? slots).slotNumbers ⊆
        List.range' 1 maxSequenceLength := by
      intro number hnumber
      have hbounds := Context.slotNumbers_bounds hnumber
      rw [List.mem_range'_1]
      omega
    simpa [Context.slotNumbers, Context.size] using (hnodup.subperm hrange).length_le
  · rw [Context.diagnostics_build, Context.size,
      ← (Context.fills_build catalog slots).length_eq, List.length_map, Nat.add_comm,
      ← slots.length_filledFrom 1]
    exact (List.length_eq_length_filter_add catalog.places).symm

end TickArena

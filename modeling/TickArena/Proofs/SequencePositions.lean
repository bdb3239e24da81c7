import TickArena.Ability.Action
import Mathlib

/-!
# Positions of a sequence

A context that was built from slots numbers its entries from one, without a gap.  So
an entry is known by its position, and a bonus for a neighbour, or for any other entry,
finds its target: nothing that an ability writes is dropped.
-/

namespace TickArena

namespace Context

/-! ## Building -/

/-- Taking in a slot places its component, leaves a diagnostic or does nothing. -/
theorem takeIn_cases (lookup : String → Option Component) (context : Context) (number : Nat)
    (slot? : Option Slot) :
    context.takeIn lookup number slot? = context ∨
      (∃ diagnostic, context.takeIn lookup number slot? = context.note diagnostic) ∨
      ∃ slot component, slot? = some slot ∧ number ≤ maxSequenceLength ∧
        lookup slot.componentId = some component ∧
        context.takeIn lookup number slot? = context.place number slot component := by
  cases slot? with
  | none => exact .inl rfl
  | some slot =>
    right
    unfold takeIn
    split_ifs with hbeyond
    · exact .inl ⟨_, rfl⟩
    · cases hlookup : lookup slot.componentId with
      | none => exact .inl ⟨_, by simp only [hlookup]; rfl⟩
      | some component =>
        exact .inr ⟨slot, component, rfl, Nat.le_of_not_lt hbeyond, hlookup, by simp only [hlookup]⟩

/-- What is true of the empty context, and stays true whatever is taken in, is true of
every context that is built. -/
theorem build_induction {motive : Context → Prop} (lookup : String → Option Component)
    (slots : Slots) (hempty : motive ∅)
    (hnote : ∀ context diagnostic, motive context → motive (context.note diagnostic))
    (hplace : ∀ context number slot component, lookup slot.componentId = some component →
      motive context → motive (context.place number slot component)) :
    motive (build lookup slots) := by
  refine List.foldlRecOn _ _ hempty fun context hcontext numbered _ => ?_
  obtain ⟨slot?, number⟩ := numbered
  change motive (context.takeIn lookup number slot?)
  rcases context.takeIn_cases lookup number slot? with
    hsame | ⟨diagnostic, hnoted⟩ | ⟨slot, component, -, -, hlookup, hplaced⟩
  · rw [hsame]
    exact hcontext
  · rw [hnoted]
    exact hnote _ _ hcontext
  · rw [hplaced]
    exact hplace _ _ _ _ hlookup hcontext

/-- Nothing has been written yet. -/
structure Fresh (context : Context) : Prop where
  ledger : context.ledger = ∅
  strikes : context.strikes = ∅

theorem fresh_build (lookup : String → Option Component) (slots : Slots) :
    (build lookup slots).Fresh := by
  apply build_induction
  · exact ⟨rfl, rfl⟩
  · exact fun context diagnostic h => ⟨h.ledger, h.strikes⟩
  · exact fun context number slot component _ h => ⟨h.ledger, h.strikes⟩

/-- Every entry holds the definition that its id was looked up to. -/
theorem lookup_of_mem_build {lookup : String → Option Component} {slots : Slots} :
    ∀ entry ∈ (build lookup slots).entries,
      lookup entry.placement.componentId = some entry.component := by
  apply build_induction (motive := fun context =>
    ∀ entry ∈ context.entries, lookup entry.placement.componentId = some entry.component)
  · intro entry hentry
    contradiction
  · exact fun context diagnostic h => h
  · intro context number slot component hlookup h entry hentry
    rcases List.mem_append.mp hentry with hold | hnew
    · exact h entry hold
    · obtain rfl := List.mem_singleton.mp hnew
      exact hlookup

/-- The entries stand at the positions from one on. -/
def Numbered (context : Context) : Prop :=
  context.entries.map Entry.position = List.range' 1 context.size

theorem Numbered.place {context : Context} (h : context.Numbered) (number : Nat) (slot : Slot)
    (component : Component) : (context.place number slot component).Numbered := by
  unfold Numbered at h ⊢
  have hsize : (context.place number slot component).size = context.size + 1 := by
    simp [size, Context.place]
  rw [hsize, List.range'_concat, ← h]
  simp [Context.place, Entry.position, Nat.add_comm]

theorem numbered_build (lookup : String → Option Component) (slots : Slots) :
    (build lookup slots).Numbered := by
  apply build_induction
  · rfl
  · exact fun context diagnostic h => h
  · exact fun context number slot component _ h => h.place number slot component

theorem Numbered.congr {context other : Context} (h : context.Numbered)
    (hentries : other.entries = context.entries) : other.Numbered := by
  unfold Numbered size
  rw [hentries]
  exact h

theorem Numbered.position_bounds {context : Context} (h : context.Numbered) {entry : Entry}
    (hentry : entry ∈ context.entries) : 1 ≤ entry.position ∧ entry.position ≤ context.size := by
  have hmem : entry.position ∈ List.range' 1 context.size := by
    rw [← h]
    exact List.mem_map_of_mem hentry
  rw [List.mem_range'_1] at hmem
  omega

theorem Numbered.ascending {context : Context} (h : context.Numbered) :
    context.entries.Pairwise fun a b => a.position < b.position := by
  rw [← List.pairwise_map (f := Entry.position) (R := (· < ·)), h]
  exact List.pairwise_lt_range'

theorem Numbered.nodup {context : Context} (h : context.Numbered) :
    (context.entries.map Entry.position).Nodup := by
  rw [h]
  exact List.nodup_range'

/-! ## Entries and their neighbours -/

theorem mem_of_entry?_eq_some {context : Context} {position : Nat} {entry : Entry}
    (h : context.entry? position = some entry) : entry ∈ context.entries := by
  cases position with
  | zero => contradiction
  | succ index => exact List.mem_of_getElem? h

theorem mem_of_mem_neighbors {context : Context} {position : Nat} {direction : Direction}
    {entry : Entry} (h : entry ∈ context.neighbors position direction) :
    entry ∈ context.entries := by
  cases direction with
  | previous => exact mem_of_entry?_eq_some (Option.mem_toList.mp h)
  | next => exact mem_of_entry?_eq_some (Option.mem_toList.mp h)
  | either =>
    rcases List.mem_append.mp h with hprevious | hnext
    · exact mem_of_entry?_eq_some (Option.mem_toList.mp hprevious)
    · exact mem_of_entry?_eq_some (Option.mem_toList.mp hnext)

theorem Numbered.position_eq {context : Context} (h : context.Numbered) {position : Nat}
    {entry : Entry} (hentry : context.entry? position = some entry) :
    entry.position = position := by
  cases position with
  | zero => contradiction
  | succ index =>
    have hposition := congrArg (Option.map Entry.position) hentry
    change (context.entries[index]?).map Entry.position = _ at hposition
    rw [← List.getElem?_map, h] at hposition
    obtain ⟨hindex, heq⟩ := List.getElem?_eq_some_iff.mp hposition
    rw [List.getElem_range'] at heq
    omega

theorem Numbered.position_ne_of_mem_neighbors {context : Context} (h : context.Numbered)
    {position : Nat} {direction : Direction} {entry : Entry}
    (hentry : entry ∈ context.neighbors position direction) : entry.position ≠ position := by
  have hprevious : entry ∈ (context.previous? position).toList → entry.position ≠ position := by
    intro hentry
    have hentry : context.entry? (position - 1) = some entry := Option.mem_toList.mp hentry
    have hbounds := h.position_bounds (mem_of_entry?_eq_some hentry)
    have hposition := h.position_eq hentry
    omega
  have hnext : entry ∈ (context.next? position).toList → entry.position ≠ position := by
    intro hentry
    have hposition := h.position_eq (Option.mem_toList.mp hentry)
    omega
  cases direction with
  | previous => exact hprevious hentry
  | next => exact hnext hentry
  | either => exact (List.mem_append.mp hentry).elim hprevious hnext

/-! ## Commits -/

/-- Bonuses for positions of the sequence are all written, in their order. -/
theorem commit_eq_append {context : Context} {bonuses : List Bonus}
    (h : ∀ bonus ∈ bonuses, 1 ≤ bonus.target ∧ bonus.target ≤ context.size) :
    context.commit bonuses = { context with ledger := context.ledger.append bonuses } := by
  induction bonuses generalizing context with
  | nil => simp [commit, Ledger.append]
  | cons bonus later ih =>
    obtain ⟨hbonus, hlater⟩ := List.forall_mem_cons.mp h
    have hone : context.commitOne bonus = { context with ledger := context.ledger.push bonus } := by
      unfold commitOne
      rw [if_neg (by omega)]
    have hcommit : context.commit (bonus :: later) = (context.commitOne bonus).commit later := rfl
    rw [hcommit, hone, @ih { context with ledger := context.ledger.push bonus } hlater]
    simp [Ledger.append, Ledger.push]

theorem recordStrike_of_mem (context : Context) {position : Nat}
    (h : 1 ≤ position ∧ position ≤ context.size) (damage : Float) :
    context.recordStrike position damage =
      { context with strikes := context.strikes.insert position damage } := by
  unfold recordStrike
  rw [if_neg (by omega)]

end Context

/-! ## Targets -/

namespace Stance

variable {stance : Stance}

@[simp]
theorem emitted_strike (behavior : StrikeBehavior) (draw : Float) :
    (stance.strike behavior draw).emitted = (stance.swing behavior).emitted := by
  unfold strike critical
  dsimp only
  split
  · split_ifs <;> rfl
  · rfl

/-- A strike writes onto the next component or onto none. -/
theorem exists_next_of_swing {behavior : StrikeBehavior} {bonus : Bonus}
    (h : bonus ∈ (stance.swing behavior).emitted) :
    ∃ next ∈ stance.context.neighbors stance.position .next,
      bonus.source = stance.position ∧ bonus.target = next.position := by
  cases behavior with
  | kindling =>
    obtain ⟨next, hnext, rfl⟩ := List.mem_map.mp h
    exact ⟨next, List.mem_of_mem_filter hnext, rfl, rfl⟩
  | vanguard => contradiction
  | ember => contradiction
  | frost => contradiction
  | storm => contradiction
  | echo => contradiction
  | prism => contradiction
  | genesis => contradiction
  | relic => contradiction
  | voidShard => contradiction

theorem exists_target_of_swing {behavior : StrikeBehavior} {bonus : Bonus}
    (h : bonus ∈ (stance.swing behavior).emitted) :
    ∃ entry ∈ stance.context.entries, bonus.target = entry.position := by
  obtain ⟨next, hnext, -, htarget⟩ := exists_next_of_swing h
  exact ⟨next, Context.mem_of_mem_neighbors hnext, htarget⟩

theorem exists_target_of_onto {entries : List Entry} {op : BonusOp} {kind : BonusKind}
    {value : Float} {bonus : Bonus} (hentries : ∀ entry ∈ entries, entry ∈ stance.context.entries)
    (h : bonus ∈ stance.onto entries op kind value) :
    ∃ entry ∈ stance.context.entries, bonus.target = entry.position := by
  obtain ⟨entry, hentry, rfl⟩ := List.mem_map.mp h
  exact ⟨entry, hentries entry hentry, rfl⟩

theorem exists_target_of_bonuses {behavior : WeaveBehavior} {bonus : Bonus}
    (h : bonus ∈ stance.bonuses behavior) :
    ∃ entry ∈ stance.context.entries, bonus.target = entry.position := by
  have hsiblings : ∀ entry ∈ stance.siblings, entry ∈ stance.context.entries :=
    fun _ => Context.mem_of_mem_neighbors
  have hfilter : ∀ (p : Entry → Bool), ∀ entry ∈ stance.context.entries.filter p,
      entry ∈ stance.context.entries := fun _ _ hentry => (List.mem_filter.mp hentry).1
  cases behavior with
  | amplify =>
    exact exists_target_of_onto
      (fun entry hentry => hsiblings entry (List.mem_filter.mp hentry).1) h
  | catalyze =>
    exact exists_target_of_onto
      (fun _ hentry => Context.mem_of_entry?_eq_some (Option.mem_toList.mp hentry)) h
  | resonate => exact exists_target_of_onto (hfilter _) h
  | overclock => exact exists_target_of_onto (hfilter _) h
  | chainLink => exact exists_target_of_onto hsiblings h
  | conduit => exact exists_target_of_onto (hfilter _) h
  | seed => exact exists_target_of_onto (hfilter _) h

/-- Whatever an ability writes, it writes onto an entry of the sequence. -/
theorem exists_target {draw : Float} {bonus : Bonus} (h : bonus ∈ (stance.act draw).emitted) :
    ∃ entry ∈ stance.context.entries, bonus.target = entry.position := by
  unfold act at h
  split at h
  · exact exists_target_of_swing (by simpa [Outcome.emitted] using h)
  · exact exists_target_of_bonuses h

end Stance

end TickArena

import TickArena.Proofs.Lists
import TickArena.Proofs.RequirementMeaning

/-!
# Where bonuses go

An ability that writes onto its siblings writes one bonus onto each position of a set, the same
for all of them.  The set is told by the ability and the entries of the sequence: no target is
missed, none is hit twice, and none lies outside the sequence, so that nothing is dropped when the
bonuses are committed.
-/

namespace TickArena

/-- The ability of a component at a position writes onto the sibling that stands at the target. -/
def Component.Touches (component : Component) (position target : Nat) (sibling : Entry) : Prop :=
  match component.ability with
  | .weave .amplify => Direction.either.Leads position target ∧ sibling.type.dealsDamage = true
  | .weave .catalyze => Direction.next.Leads position target
  | .weave .resonate =>
    target ≠ position ∧
      ∃ tag, sibling.component.hasTag tag = true ∧ component.hasTag tag = true
  | .weave .overclock | .weave .seed => sibling.type = .core
  | .weave .chainLink => Direction.either.Leads position target
  | .weave .conduit => sibling.type.dealsDamage = true
  | .strike .kindling => Direction.next.Leads position target ∧ sibling.type.dealsDamage = true
  | .strike _ => False

/-- The bonuses come from one position and are all alike, and each of the targets, which lie in
the sequence, gets one. -/
structure Context.Aims (context : Context) (position : Nat) (targets : Nat → Prop)
    (bonuses : List Bonus) : Prop where
  source : ∀ bonus ∈ bonuses, bonus.source = position
  bounds : ∀ bonus ∈ bonuses, 1 ≤ bonus.target ∧ bonus.target ≤ context.size
  alike : ∃ kind op value, ∀ bonus ∈ bonuses,
    bonus.kind = kind ∧ bonus.op = op ∧ bonus.value = value
  nodup : (bonuses.map Bonus.target).Nodup
  targets : ∀ target, target ∈ bonuses.map Bonus.target ↔ targets target
  commit : context.commit bonuses = { context with ledger := context.ledger.append bonuses }

/-! ## Neighbours -/

namespace Context.Numbered

variable {context : Context} (h : context.Numbered) {position : Nat} {direction : Direction}

include h

theorem mem_neighbors_iff {entry : Entry} :
    entry ∈ context.neighbors position direction ↔
      entry ∈ context.entries ∧ direction.Leads position entry.position := by
  rw [Context.mem_neighbors_iff]
  constructor
  · rintro ⟨place, hleads, hentry⟩
    obtain ⟨hmem, rfl⟩ := h.entry?_eq_some_iff.mp hentry
    exact ⟨hmem, hleads⟩
  · rintro ⟨hmem, hleads⟩
    exact ⟨entry.position, hleads, h.entry?_position hmem⟩

theorem nodup_neighbors :
    ((context.neighbors position direction).map Entry.position).Nodup := by
  have hone : ∀ found : Option Entry, (found.toList.map Entry.position).Nodup := by
    intro found
    cases found <;> simp
  cases direction with
  | previous => exact hone _
  | next => exact hone _
  | either =>
    have hsides : context.neighbors position .either =
        context.neighbors position .previous ++ context.neighbors position .next := rfl
    rw [hsides, List.map_append, List.nodup_append]
    refine ⟨hone _, hone _, ?_⟩
    simp only [List.mem_map]
    rintro _ ⟨before, hbefore, rfl⟩ _ ⟨after, hafter, rfl⟩
    have hprevious := (h.mem_neighbors_iff.mp hbefore).2
    have hnext := (h.mem_neighbors_iff.mp hafter).2
    unfold Direction.Leads at hprevious hnext
    omega

end Context.Numbered

theorem TagSet.meets_iff {set other : TagSet} :
    set.meets other = true ↔ ∃ tag, set.has tag = true ∧ other.has tag = true := by
  simp [meets, Vocabulary.mem_all]

/-! ## Bonuses of an ability -/

/-- Targets that get one bonus each are touched as often as bonuses are written. -/
theorem WeaveOutcome.touched_eq_length {outcome : WeaveOutcome}
    (h : (outcome.emitted.map Bonus.target).Nodup) :
    outcome.touched = outcome.emitted.length := by
  rw [touched, eraseDups_eq_self h, List.length_map]

namespace Stance

/-- The positions that the ability writes onto. -/
def Hits (stance : Stance) (target : Nat) : Prop :=
  ∃ sibling ∈ stance.context.entry? target,
    stance.component.Touches stance.position target sibling

variable {stance : Stance} {entry : Entry}

theorem mem_damageDealers {entries : List Entry} :
    entry ∈ damageDealers entries ↔ entry ∈ entries ∧ entry.type.dealsDamage = true :=
  List.mem_filter

theorem mem_cores :
    entry ∈ stance.cores ↔ entry ∈ stance.context.entries ∧ entry.type = .core := by
  simp [cores]

theorem mem_kin :
    entry ∈ stance.kin ↔ entry ∈ stance.context.entries ∧ entry.position ≠ stance.position ∧
      ∃ tag, entry.component.hasTag tag = true ∧ stance.component.hasTag tag = true := by
  simp [kin, TagSet.meets_iff, Component.hasTag]

section Numbered

variable (hnumbered : stance.context.Numbered)

include hnumbered

theorem mem_siblings :
    entry ∈ stance.siblings ↔
      entry ∈ stance.context.entries ∧ Direction.either.Leads stance.position entry.position :=
  hnumbered.mem_neighbors_iff

theorem mem_next :
    entry ∈ (stance.context.next? stance.position).toList ↔
      entry ∈ stance.context.entries ∧ Direction.next.Leads stance.position entry.position :=
  @Context.Numbered.mem_neighbors_iff _ hnumbered stance.position .next entry

/-- The same bonus onto each of those entries that the ability touches. -/
theorem aims_onto {entries : List Entry} (op : BonusOp) (kind : BonusKind) (value : Float)
    (hnodup : (entries.map Entry.position).Nodup)
    (htouched : ∀ entry, entry ∈ entries ↔ entry ∈ stance.context.entries ∧
      stance.component.Touches stance.position entry.position entry) :
    stance.context.Aims stance.position stance.Hits (stance.onto entries op kind value) := by
  have htargets : (stance.onto entries op kind value).map Bonus.target =
      entries.map Entry.position := by
    simp [onto, Function.comp_def]
  have hbounds : ∀ bonus ∈ stance.onto entries op kind value,
      1 ≤ bonus.target ∧ bonus.target ≤ stance.context.size := by
    intro bonus hbonus
    obtain ⟨entry, hentry, rfl⟩ := List.mem_map.mp hbonus
    exact hnumbered.position_bounds ((htouched entry).mp hentry).1
  refine ⟨?_, hbounds, ⟨kind, op, value, ?_⟩, ?_, ?_, Context.commit_eq_append hbounds⟩
  · intro bonus hbonus
    obtain ⟨entry, -, rfl⟩ := List.mem_map.mp hbonus
    rfl
  · intro bonus hbonus
    obtain ⟨entry, -, rfl⟩ := List.mem_map.mp hbonus
    exact ⟨rfl, rfl, rfl⟩
  · rwa [htargets]
  · intro target
    simp only [Hits, htargets, List.mem_map, htouched, Option.mem_def,
      hnumbered.entry?_eq_some_iff]
    constructor
    · rintro ⟨entry, ⟨hentry, htouches⟩, rfl⟩
      exact ⟨entry, ⟨hentry, rfl⟩, htouches⟩
    · rintro ⟨entry, ⟨hentry, rfl⟩, htouches⟩
      exact ⟨entry, ⟨hentry, htouches⟩, rfl⟩

theorem aims_swing {behavior : StrikeBehavior}
    (hability : stance.component.ability = .strike behavior) :
    stance.context.Aims stance.position stance.Hits (stance.swing behavior).emitted := by
  -- All but one write nothing, which is a bonus onto each of no entries.
  have hnothing : (∀ target sibling, ¬stance.component.Touches stance.position target sibling) →
      stance.context.Aims stance.position stance.Hits [] := by
    intro hnone
    refine @aims_onto _ hnumbered [] .add .damageAdditive 0 List.nodup_nil fun entry => ?_
    simp [hnone]
  cases behavior with
  | kindling =>
    have hnodup := @Context.Numbered.nodup_neighbors _ hnumbered stance.position .next
    refine aims_onto hnumbered .add .damageAdditive (stance.stat "kindle_amount" 0)
      (hnodup.sublist (List.filter_sublist.map _)) fun entry => ?_
    rw [List.mem_filter, mem_next hnumbered, and_assoc]
    simp only [Component.Touches, hability]
  | vanguard => exact hnothing (by simp [Component.Touches, hability])
  | ember => exact hnothing (by simp [Component.Touches, hability])
  | frost => exact hnothing (by simp [Component.Touches, hability])
  | storm => exact hnothing (by simp [Component.Touches, hability])
  | echo => exact hnothing (by simp [Component.Touches, hability])
  | prism => exact hnothing (by simp [Component.Touches, hability])
  | genesis => exact hnothing (by simp [Component.Touches, hability])
  | relic => exact hnothing (by simp [Component.Touches, hability])
  | voidShard => exact hnothing (by simp [Component.Touches, hability])

theorem aims_bonuses {behavior : WeaveBehavior}
    (hability : stance.component.ability = .weave behavior) :
    stance.context.Aims stance.position stance.Hits (stance.bonuses behavior) := by
  have hfilter : ∀ p : Entry → Bool,
      ((stance.context.entries.filter p).map Entry.position).Nodup :=
    fun _ => hnumbered.nodup.sublist (List.filter_sublist.map _)
  have hneighbors : ∀ direction,
      ((stance.context.neighbors stance.position direction).map Entry.position).Nodup :=
    fun _ => hnumbered.nodup_neighbors
  cases behavior with
  | amplify =>
    refine aims_onto hnumbered _ _ _ ((hneighbors .either).sublist (List.filter_sublist.map _))
      fun entry => ?_
    rw [mem_damageDealers, mem_siblings hnumbered, and_assoc]
    simp only [Component.Touches, hability]
  | catalyze =>
    refine aims_onto hnumbered _ _ _ (hneighbors .next) fun entry => ?_
    rw [mem_next hnumbered]
    simp only [Component.Touches, hability]
  | resonate =>
    refine aims_onto hnumbered _ _ _ (hfilter _) fun entry => ?_
    simp only [mem_kin, Component.Touches, hability]
  | overclock =>
    refine aims_onto hnumbered _ _ _ (hfilter _) fun entry => ?_
    simp only [mem_cores, Component.Touches, hability]
  | chainLink =>
    refine aims_onto hnumbered _ _ _ (hneighbors .either) fun entry => ?_
    rw [mem_siblings hnumbered]
    simp only [Component.Touches, hability]
  | conduit =>
    refine aims_onto hnumbered _ _ _ (hfilter _) fun entry => ?_
    simp only [mem_damageDealers, Component.Touches, hability]
  | seed =>
    refine aims_onto hnumbered _ _ _ (hfilter _) fun entry => ?_
    simp only [mem_cores, Component.Touches, hability]

theorem aims_act (draw : Float) :
    stance.context.Aims stance.position stance.Hits (stance.act draw).emitted := by
  unfold act
  cases hability : stance.component.ability with
  | strike behavior =>
    dsimp only [Outcome.emitted]
    rw [emitted_strike]
    exact aims_swing hnumbered hability
  | weave behavior => exact aims_bonuses hnumbered hability

end Numbered

/-- In a sequence that was built, whatever has been written since, an ability at a position writes
one bonus onto each target of its kind, and a weave counts as many positions as it has touched. -/
theorem emitted_aims {lookup : String → Option Component} {slots : Slots} {context : Context}
    (hbuilt : context.entries = (Context.build lookup slots).entries) {position : Nat}
    {entry : Entry} (hentry : context.entry? position = some entry) (component : Component)
    (draw : Float) :
    let outcome := (Stance.mk component entry.placement context).act draw
    context.Aims position
        (fun target => ∃ sibling ∈ context.entry? target,
          component.Touches position target sibling)
        outcome.emitted ∧
      ∀ woven, outcome = .weave woven → woven.touched = woven.emitted.length := by
  intro outcome
  have hnumbered : context.Numbered := (Context.numbered_build lookup slots).congr hbuilt
  have haims := @aims_act ⟨component, entry.placement, context⟩ hnumbered draw
  have hposition : entry.placement.position = position := hnumbered.position_eq hentry
  refine ⟨hposition ▸ haims, ?_⟩
  rintro woven hwoven
  have hnodup : (outcome.emitted.map Bonus.target).Nodup := haims.nodup
  rw [hwoven] at hnodup
  exact WeaveOutcome.touched_eq_length hnodup

/-- A chain between two cores, in the third slot, touches both of them. -/
theorem bridge_emitted_aims :
    let slots : Slots := [some (.plain "ember_core"), none, some (.plain "chain_link"),
      some (.plain "frost_core")]
    let context := Context.build Catalog.bridge.get? slots
    let link : Entry := ⟨⟨"chain_link", 3, 2, .common, 0⟩, Standard.chainLink⟩
    let outcome := (Stance.mk link.component link.placement context).act 0
    context.entry? 2 = some link ∧
      context.Aims 2
        (fun target => ∃ sibling ∈ context.entry? target,
          link.component.Touches 2 target sibling)
        outcome.emitted ∧
      (∀ woven, outcome = .weave woven → woven.touched = woven.emitted.length) ∧
      outcome.emitted.map (fun bonus => (bonus.source, bonus.target)) = [(2, 1), (2, 3)] := by
  intro slots context link outcome
  have hlink : context.entry? 2 = some link := rfl
  obtain ⟨haims, htouched⟩ := @emitted_aims _ slots context rfl 2 link hlink link.component 0
  exact ⟨hlink, haims, htouched, rfl⟩

end Stance

end TickArena

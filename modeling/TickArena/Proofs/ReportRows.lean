import TickArena.Proofs.BrokenConditions
import TickArena.Proofs.CompactedSequences
import TickArena.Proofs.Lists
import TickArena.Proofs.ValidatedRuns

/-!
# Rows and totals

A report says what became of each component, and what became of the whole sequence.  The
totals are kept beside the rows while a sequence is resolved, in the order of the turns, but
they are what one gets from the rows, read from the first to the last: web shapers, which have
their turns first, add neither damage nor effects.
-/

namespace TickArena

/-! ## Rows -/

variable {catalog : Catalog} {filled : Slot × Nat}

/-- The row shows what the slot asks for. -/
structure Row.Shows (catalog : Catalog) (filled : Slot × Nat) (row : Row) : Prop where
  componentId : row.componentId = filled.1.componentId
  slot : row.slot = filled.2
  component : ∃ component, catalog.get? filled.1.componentId = some component ∧
    row.type = component.type ∧ row.rarity = filled.1.rarity.getD component.rarity

/-- Whatever the fate of the entry, its row shows the slot. -/
theorem Entry.Fills.shows_row {entry : Entry} (h : entry.Fills catalog filled) (fates : Fates) :
    (fates.row entry).Shows catalog filled := by
  unfold Fates.row
  cases fates entry.position with
  | idle reason => exact ⟨h.componentId, h.slot, _, h.component, rfl, h.rarity⟩
  | acted outcome drew =>
    cases outcome <;> exact ⟨h.componentId, h.slot, _, h.component, rfl, h.rarity⟩

/-- A web shaper does nothing to an opponent. -/
structure Row.Harmless (row : Row) : Prop where
  damage : row.damage = 0
  damageType : row.damageType = none
  critical : row.critical = false
  effects : row.effects = []

/-- The parts of a row fit each other and its type. -/
structure Row.Consistent (row : Row) : Prop where
  active_iff : row.active = true ↔ row.reason = none
  idle : row.active = false → row.Idle
  shaper : row.type.shapesWeb = true → row.Harmless
  dealer : row.type.dealsDamage = true → row.touched = 0

/-- A row that counts in the total damage. -/
def Row.deals (row : Row) : Bool :=
  row.active && row.type.dealsDamage

namespace Row

@[simp]
theorem slot_meet (row : Row) (fate : Fate) : (row.meet fate).slot = row.slot := by
  cases fate with
  | idle reason => rfl
  | acted outcome drew => cases outcome <;> rfl

@[simp]
theorem type_meet (row : Row) (fate : Fate) : (row.meet fate).type = row.type := by
  cases fate with
  | idle reason => rfl
  | acted outcome drew => cases outcome <;> rfl

variable (entry : Entry) {fate : Fate}

theorem active_meet_iff : ((ofEntry entry).meet fate).active = true ↔
    ((ofEntry entry).meet fate).reason = none := by
  cases fate with
  | idle reason => simp [ofEntry, meet, fail]
  | acted outcome drew => cases outcome <;> exact ⟨fun _ => rfl, fun _ => rfl⟩

theorem idle_meet (h : ((ofEntry entry).meet fate).active = false) :
    ((ofEntry entry).meet fate).Idle := by
  cases fate with
  | idle reason => exact idle_fail entry reason
  | acted outcome drew => cases outcome <;> contradiction

theorem harmless_meet (h : fate.struck = []) : ((ofEntry entry).meet fate).Harmless := by
  cases fate with
  | idle reason => exact ⟨rfl, rfl, rfl, rfl⟩
  | acted outcome drew =>
    cases outcome with
    | strike outcome => contradiction
    | weave outcome => exact ⟨rfl, rfl, rfl, rfl⟩

theorem touched_meet (h : fate.struck.map StrikeOutcome.damage = fate.damage?.toList) :
    ((ofEntry entry).meet fate).touched = 0 := by
  cases fate with
  | idle reason => rfl
  | acted outcome drew =>
    cases outcome with
    | strike outcome => rfl
    | weave outcome => contradiction

/-- The damage of a component that has acted stands in its row, and is nil if it did not
strike. -/
theorem damage?_eq_meet : fate.damage? =
    if ((ofEntry entry).meet fate).active then some ((ofEntry entry).meet fate).damage
    else none := by
  cases fate with
  | idle reason => rfl
  | acted outcome drew => cases outcome <;> rfl

end Row

namespace Fates

variable {fates : Fates} {entry : Entry} {built : Context}

theorem positions_rows (fates : Fates) (entries : List Entry) :
    (entries.map fates.row).map Row.position = entries.map Entry.position := by
  simp [Function.comp_def]

theorem slots_rows (fates : Fates) (entries : List Entry) :
    (entries.map fates.row).map Row.slot = entries.map fun entry => entry.placement.slot := by
  simp [Function.comp_def, row, Row.ofEntry]

theorem type_row (fates : Fates) (entry : Entry) : (fates.row entry).type = entry.type :=
  Row.type_meet _ _

theorem Suit.consistent_row (h : fates.Suit built) (hentry : entry ∈ built.entries) :
    (fates.row entry).Consistent := by
  refine ⟨Row.active_meet_iff entry, Row.idle_meet entry, ?_, ?_⟩
  · intro hshapes
    rw [type_row] at hshapes
    exact Row.harmless_meet entry (h.struck entry (List.mem_filter.mpr ⟨hentry, hshapes⟩))
  · intro hdeals
    rw [type_row] at hdeals
    exact Row.touched_meet entry (h.damage entry (List.mem_filter.mpr ⟨hentry, hdeals⟩))

/-! ## Totals -/

theorem damages_dealers (fates : Fates) (built : Context) :
    (fates.damages built.dealers).map Prod.snd =
      ((built.entries.map fates.row).filter Row.deals).map Row.damage := by
  -- Both sides read the entries in order, and keep the damage of the dealers that have acted.
  have hrow : ∀ entry : Entry,
      (if entry.type.dealsDamage then (fates entry.position).damage? else none) =
        (Option.guard Row.deals (fates.row entry)).map Row.damage := by
    intro entry
    have hdamage : (fates entry.position).damage? =
        if (fates.row entry).active then some (fates.row entry).damage else none :=
      Row.damage?_eq_meet entry
    rw [hdamage]
    cases hdeals : entry.type.dealsDamage <;> cases hactive : (fates.row entry).active <;>
      simp [Row.deals, type_row, hdeals, hactive]
  calc (fates.damages built.dealers).map Prod.snd
    _ = built.dealers.filterMap fun entry => (fates entry.position).damage? := by
      simp [damages, List.map_filterMap, Function.comp_def]
    _ = built.entries.filterMap fun entry =>
        if entry.type.dealsDamage then (fates entry.position).damage? else none :=
      List.filterMap_filter
    _ = built.entries.filterMap fun entry =>
        (Option.guard Row.deals (fates.row entry)).map Row.damage :=
      List.filterMap_congr fun entry _ => hrow entry
    _ = ((built.entries.map fates.row).filterMap (Option.guard Row.deals)).map Row.damage := by
      rw [List.map_filterMap, List.filterMap_map]
      rfl
    _ = _ := by rw [List.filterMap_eq_filter]

theorem Suit.effects_dealers (h : fates.Suit built) :
    (built.dealers.flatMap fun entry => (fates.row entry).effects) =
      (built.entries.map fates.row).flatMap Row.effects := by
  -- Shapers may stand between the dealers, but their rows have no effects.
  have hnone : ∀ entry ∈ built.entries, entry.type.dealsDamage = false →
      (fates.row entry).effects = [] := by
    intro entry hentry hdeals
    have hshapes : entry.type.shapesWeb = true := by
      rw [ComponentType.shapesWeb_eq_not_dealsDamage, hdeals]
      rfl
    rw [← type_row fates] at hshapes
    exact ((h.consistent_row hentry).shaper hshapes).effects
  rw [List.flatMap_map]
  exact flatMap_filter_of_nil hnone

end Fates

/-! ## Reports -/

/-- The totals of the report are those of its rows, from the first to the last. -/
structure Report.AddsUp (report : Report) : Prop where
  totalDamage : report.totalDamage =
    ((report.rows.filter Row.deals).map Row.damage).foldl (· + ·) 0
  effects : report.effects = report.rows.flatMap Row.effects
  activeComponents : report.activeComponents = (report.rows.filter Row.active).length

/-- The row of an entry after its turn. -/
def Context.rowOfTurn (conditions : Conditions) (draws : Random.Units) (built : Context)
    (entry : Entry) : Row :=
  let reached := built.reached conditions draws entry.position
  (Row.ofEntry entry).meet (entry.fate conditions reached.context (draws reached.taken))

/-- The report has a row for every slot that takes a position, in the order of the sequence.
It tells what came of the turn, and all that is said goes together. -/
structure Report.Consistent (catalog : Catalog) (draws : Random.Units) (slots : Slots)
    (report : Report) : Prop where
  turns :
    let built := Context.build catalog.get? slots
    report.rows = built.entries.map (built.rowOfTurn catalog.conditions draws)
  shown : List.Forall₂ (Row.Shows catalog) (catalog.placed slots) report.rows
  positions : report.rows.map Row.position = List.range' 1 (catalog.placed slots).length
  ascending : (report.rows.map Row.slot).Pairwise (· < ·)
  rows : ∀ row ∈ report.rows, row.Consistent
  addsUp : report.AddsUp

theorem Fates.Suit.addsUp_phaseReport {fates : Fates} {built : Context} (h : fates.Suit built) :
    (fates.phaseReport built).AddsUp := by
  constructor
  · rw [phaseReport, damages_dealers]
  · exact h.effects_dealers
  · exact List.countP_eq_length_filter

/-- Whatever takes part and whatever is drawn, the report of a simulation is consistent. -/
theorem Catalog.simulate_consistent (hbuilt : catalog.Built) (draws : Random.Units)
    (slots : Slots) : (catalog.simulate draws slots).Consistent catalog draws slots := by
  have hfresh := Context.fresh_build catalog.get? slots
  have hnumbered := Context.numbered_build catalog.get? slots
  have hfitting := hbuilt.fitting slots
  have hentries := Context.fills_build catalog slots
  obtain ⟨fates, hphases⟩ : ∃ fates : Fates, fates.TwoPhases catalog.conditions draws _ :=
    Fates.exists_twoPhases hfresh hnumbered hfitting
  have hsuit := hphases.suit hfitting
  rw [simulate, Context.resolve_eq _ _ hfresh hnumbered hfitting hphases]
  refine ⟨?_, ?_, ?_, ?_, ?_, hsuit.addsUp_phaseReport⟩
  · have hfollow := hphases.follow hfresh hnumbered hfitting
    refine List.map_congr_left fun entry hentry => ?_
    rw [Fates.row, hfollow.fate_reached hnumbered hentry]
    rfl
  · exact List.forall₂_map_right_iff.mpr (hentries.imp fun _ _ hfills => hfills.shows_row fates)
  · rw [Fates.phaseReport, Fates.positions_rows, hentries.length_eq]
    exact hnumbered
  · rw [Fates.phaseReport, Fates.slots_rows]
    exact Context.slotNumbers_ascending catalog slots
  · intro row hrow
    obtain ⟨entry, hentry, rfl⟩ := List.mem_map.mp hrow
    exact hsuit.consistent_row hentry

/-- Two overclocks are not unique, so both stay idle.  The cores between them strike. -/
theorem Catalog.forge_simulate_consistent :
    let draws : Random.Units := fun _ => 0
    let slots : Slots := [some (.plain "overclock"), some (.plain "kindling_core"), none,
      some (.plain "storm_core"), some (.plain "overclock")]
    let report := forge.simulate draws slots
    forge.Built ∧ report.Consistent forge draws slots ∧
      report.rows.map (fun row => (row.position, row.slot, row.active)) =
        [(1, 1, false), (2, 2, true), (3, 4, true), (4, 5, false)] ∧
      report.rows.map Row.damage = [0, 50, 310, 0] ∧ report.totalDamage = 360 ∧
      report.activeComponents = 2 ∧ report.effects.map Effect.kind = [.burn, .shock] := by
  intro draws slots report
  exact ⟨built_forge, simulate_consistent built_forge draws slots, by decide +kernel,
    by decide +kernel, by decide +kernel, by decide +kernel, by decide +kernel⟩

end TickArena

import TickArena.Proofs.PairedRuns
import TickArena.Proofs.StaticActivation

/-!
# Gaps in a sequence

Empty slots and unknown components leave gaps.  Building closes them, and from then on
everything goes by position: the number of a slot is carried into its row and read by
nobody.  So sequences with the same components in the same order have the same report,
whatever gaps lie between them.
-/

namespace TickArena

def Row.unslotted (row : Row) : Row :=
  { row with slot := 0 }

/-- A context without slot numbers, and without what was noted when it was built. -/
def Context.unslotted (context : Context) : Context :=
  { context with
    entries := context.entries.map Entry.unslotted
    slotPositions := []
    diagnostics := [] }

/-- A report without slot numbers and diagnostics. -/
def Report.unslotted (report : Report) : Report :=
  { report with rows := report.rows.map Row.unslotted, diagnostics := [] }

/-- The filled slots that name a component of the catalog, without the gaps. -/
def Catalog.populated (catalog : Catalog) (slots : Slots) : List Slot :=
  slots.reduceOption.filter fun slot => catalog.contains slot.componentId

/-! ## Building -/

namespace Context

/-- Places the component of a slot, if there is one, as if the slot had no number. -/
def placeNext (lookup : String → Option Component) (context : Context) (slot : Slot) : Context :=
  (lookup slot.componentId).elim context (context.place 0 slot)

theorem unslotted_eq_iff {context other : Context} :
    context.unslotted = other.unslotted ↔
      context.entries.map Entry.unslotted = other.entries.map Entry.unslotted ∧
        context.ledger = other.ledger ∧ context.strikes = other.strikes := by
  simp [unslotted]

theorem unslotted_place (context : Context) (number : Nat) (slot : Slot) (component : Component) :
    (context.place number slot component).unslotted = context.unslotted.place 0 slot component := by
  simp [unslotted, place, size, Entry.unslotted, Placement.unslotted]

theorem unslotted_takeIn (lookup : String → Option Component) (context : Context) {number : Nat}
    (hnumber : number ≤ maxSequenceLength) (slot? : Option Slot) :
    (context.takeIn lookup number slot?).unslotted =
      slot?.elim context.unslotted (context.unslotted.placeNext lookup) := by
  cases slot? with
  | none => rfl
  | some slot =>
    unfold takeIn
    dsimp only
    rw [if_neg hnumber.not_gt, Option.elim_some, placeNext]
    cases lookup slot.componentId with
    | none => rfl
    | some component => exact unslotted_place _ _ _ _

theorem unslotted_foldl_takeIn (lookup : String → Option Component) (slots : Slots)
    (context : Context) {number : Nat}
    (hnumber : number + slots.length ≤ maxSequenceLength + 1) :
    ((slots.zipIdx number).foldl
        (fun context (slot?, number) => context.takeIn lookup number slot?) context).unslotted =
      slots.reduceOption.foldl (placeNext lookup) context.unslotted := by
  induction slots generalizing context number with
  | nil => rfl
  | cons slot? slots ih =>
    rw [List.length_cons] at hnumber
    rw [List.zipIdx_cons, List.foldl_cons, ih _ (by omega),
      unslotted_takeIn lookup context (by omega)]
    cases slot? with
    | none => rfl
    | some slot => rfl

end Context

/-- Gaps apart, a sequence is built from its populated slots. -/
theorem Catalog.unslotted_build (catalog : Catalog) {slots : Slots}
    (hlength : slots.length ≤ maxSequenceLength) :
    (Context.build catalog.get? slots).unslotted =
      (catalog.populated slots).foldl (Context.placeNext catalog.get?)
        (∅ : Context).unslotted := by
  have hskip : ∀ (context : Context) (slot : Slot),
      (if catalog.contains slot.componentId then context.placeNext catalog.get? slot else context) =
        context.placeNext catalog.get? slot := by
    intro context slot
    unfold contains Context.placeNext
    cases catalog.get? slot.componentId <;> rfl
  unfold populated Context.build
  rw [List.foldl_filter, Context.unslotted_foldl_takeIn _ _ _ (by omega)]
  simp only [hskip]

/-! ## Resolving -/

@[simp]
theorem Row.unslotted_meet (row : Row) (fate : Fate) :
    (row.meet fate).unslotted = row.unslotted.meet fate := by
  cases fate with
  | idle reason => rfl
  | acted outcome drew => cases outcome <;> rfl

theorem Fates.unslotted_row (fates : Fates) (entry : Entry) :
    (fates.row entry).unslotted = fates.row entry.unslotted :=
  Row.unslotted_meet _ _

namespace Context

variable {built built' : Context}

theorem map_unslotted_turns (h : built.entries.map Entry.unslotted =
    built'.entries.map Entry.unslotted) :
    built.turns.map Entry.unslotted = built'.turns.map Entry.unslotted := by
  have hfilter : ∀ p : Entry → Bool, p ∘ Entry.unslotted = p →
      (built.entries.filter p).map Entry.unslotted =
        (built'.entries.filter p).map Entry.unslotted := by
    intro p hp
    have hpassed := congrArg (List.filter p) h
    rwa [List.filter_map, List.filter_map, hp] at hpassed
  unfold turns
  rw [List.map_append, List.map_append, hfilter _ rfl, hfilter _ rfl]

/-- The slot numbers of a context change nothing but those of the report. -/
theorem unslotted_resolve {conditions : Conditions} (hconditions : conditions.ReadSilhouettes)
    (draws : Random.Units) (hnumbered : built.Numbered) (hnumbered' : built'.Numbered)
    (h : built.unslotted = built'.unslotted) :
    (built.resolve conditions draws).unslotted = (built'.resolve conditions draws).unslotted := by
  obtain ⟨hentries, hledger, hstrikes⟩ := unslotted_eq_iff.mp h
  obtain ⟨fates, hfollow, hreport⟩ := exists_resolve_eq conditions draws hnumbered
  obtain ⟨others, hfollow', hreport'⟩ := exists_resolve_eq conditions draws hnumbered'
  have hresemble : Resemble built.entries built'.entries :=
    .of_map_eq Entry.unslotted rfl hentries
  have hturns := forall₂_of_map_eq (map_unslotted_turns hentries)
  have hpaired : Fates.Paired Eq fates others built.turns built'.turns := by
    refine Fates.Follow.paired (fun _ _ => congrArg Fate.deed) ?_ hturns hfollow hfollow'
    intro entry other hsame
    obtain ⟨hplacement, -⟩ := Entry.unslotted_eq_iff.mp hsame
    obtain ⟨-, hposition, -, -⟩ := Placement.unslotted_eq_iff.mp hplacement
    exact ⟨hposition, Entry.fate_record_eq hconditions hsame hresemble hledger hstrikes⟩
  have hfates : ∀ entry ∈ built.entries.map Entry.unslotted,
      fates.row entry = others.row entry := by
    intro entry hentry
    obtain ⟨slotted, hslotted, rfl⟩ := List.mem_map.mp hentry
    have hfate := hpaired.forall_mem slotted (built.turns_perm.mem_iff.mpr hslotted)
    exact congrArg (Row.meet _) hfate
  have hstruck := hpaired.strikes_eq fun _ _ => congrArg Fate.deed
  have hrows : (built.entries.map fates.row).map Row.unslotted =
      (built'.entries.map others.row).map Row.unslotted := by
    simp only [List.map_map, Function.comp_def, Fates.unslotted_row]
    rw [← Function.comp_def fates.row, ← List.map_map, ← Function.comp_def others.row,
      ← List.map_map, ← hentries]
    exact List.map_congr_left hfates
  rw [hreport, hreport']
  unfold Report.unslotted Fates.report Fates.totalDamage Fates.effects
  rw [hrows, hstruck]

end Context

/-- Sequences of the same populated slots have the same report, slot numbers and diagnostics
apart; in particular, a slot that names no component can be put in or left out. -/
theorem Catalog.simulate_gaps {catalog : Catalog} (hconditions : catalog.conditions = .standard)
    (draws : Random.Units) :
    (∀ slots slots' : Slots, slots.length ≤ maxSequenceLength →
        slots'.length ≤ maxSequenceLength → catalog.populated slots = catalog.populated slots' →
        (catalog.simulate draws slots).unslotted = (catalog.simulate draws slots').unslotted) ∧
      ∀ (before after : Slots) (gap : Option Slot),
        (before ++ gap :: after).length ≤ maxSequenceLength →
        (∀ slot, gap = some slot → catalog.get? slot.componentId = none) →
        (catalog.simulate draws (before ++ gap :: after)).unslotted =
          (catalog.simulate draws (before ++ after)).unslotted := by
  have hsame : ∀ slots slots' : Slots, slots.length ≤ maxSequenceLength →
      slots'.length ≤ maxSequenceLength → catalog.populated slots = catalog.populated slots' →
      (catalog.simulate draws slots).unslotted = (catalog.simulate draws slots').unslotted := by
    intro slots slots' hlength hlength' hpopulated
    apply Context.unslotted_resolve
    · rw [hconditions]
      exact Conditions.standard_readSilhouettes
    · exact Context.numbered_build _ _
    · exact Context.numbered_build _ _
    · rw [catalog.unslotted_build hlength, catalog.unslotted_build hlength', hpopulated]
  refine ⟨hsame, fun before after gap hlength hgap => ?_⟩
  have hpopulated : catalog.populated (before ++ gap :: after) =
      catalog.populated (before ++ after) := by
    cases gap with
    | none => simp [populated, List.reduceOption_append]
    | some slot => simp [populated, List.reduceOption_append, contains, hgap slot rfl]
  refine hsame _ _ hlength ?_ hpopulated
  simp only [List.length_append, List.length_cons] at hlength ⊢
  omega

/-- A core, two modifiers and names that nobody knows, spread over five slots and moved
together: the rows show other slots, and the unknown name is noted only where it stands. -/
theorem Catalog.tempest_simulate_gaps :
    let spread : Slots := [none, some (.plain "storm_core"), some (.plain "ghost"),
      some (.plain "overclock"), none]
    let close : Slots := [some (.plain "storm_core"), some (.plain "overclock")]
    let draws : Random.Units := fun _ => 0
    tempest.conditions = .standard ∧ tempest.populated spread = tempest.populated close ∧
      (tempest.simulate draws spread).unslotted = (tempest.simulate draws close).unslotted ∧
      (tempest.simulate draws spread).rows.map Row.slot = [2, 4] ∧
      (tempest.simulate draws close).rows.map Row.slot = [1, 2] ∧
      (tempest.simulate draws spread).diagnostics.length = 1 ∧
      (tempest.simulate draws close).diagnostics.length = 0 := by
  intro spread close draws
  have hpopulated : tempest.populated spread = tempest.populated close := by decide +kernel
  have hsame := (@simulate_gaps tempest rfl draws).1 spread close (by decide) (by decide)
    hpopulated
  exact ⟨rfl, hpopulated, hsame, by decide +kernel, by decide +kernel, by decide +kernel,
    by decide +kernel⟩

end TickArena

import TickArena.Proofs.Silhouettes
import TickArena.Proofs.TwoPhases

/-!
# Activation does not wait for the run

Which components act, and why the others do not, is settled when the sequence has been
built.  No requirement looks at what the run writes, and of the definitions it reads
only the outline: everything but the base stats and the ability.  A custom condition can
look at these too, since the entries show it the whole definitions, and then they matter.
-/

namespace TickArena

/-- What a report says about whether a component acts. -/
structure Activation where
  componentId : String
  position : Nat
  active : Bool
  reason : Option String
  deriving DecidableEq

def Row.activation (row : Row) : Activation :=
  ⟨row.componentId, row.position, row.active, row.reason⟩

def Entry.activation (conditions : Conditions) (context : Context) (entry : Entry) : Activation :=
  let failure? := Requirement.firstFailure? conditions entry.placement context
    entry.component.requirements
  ⟨entry.placement.componentId, entry.position, failure?.isNone, failure?⟩

def Context.activations (conditions : Conditions) (context : Context) : List Activation :=
  context.entries.map (Entry.activation conditions context)

def Report.activations (report : Report) : List Activation :=
  report.rows.map Row.activation

/-! ## Outlines -/

def Component.outline (component : Component) : Component :=
  { component with baseStats := ∅, ability := .weave .amplify }

def Entry.outline (entry : Entry) : Entry :=
  { entry with component := entry.component.outline }

namespace Context

/-- The entries without their numbers, and nothing of what has been written. -/
def outline (context : Context) : Context :=
  { entries := context.entries.map Entry.outline
    slotPositions := []
    ledger := ∅
    strikes := ∅
    diagnostics := [] }

theorem outline_eq_of_entries_eq {context other : Context}
    (h : context.entries = other.entries) : context.outline = other.outline := by
  simp [outline, h]

/-- The outline shows more than the silhouettes. -/
theorem resemble_of_outline_eq {context other : Context} (h : context.outline = other.outline) :
    Resemble context.entries other.entries :=
  .of_map_eq Entry.outline rfl (congrArg Context.entries h)

end Context

/-! ## Requirements -/

theorem Requirement.firstFailure?_congr {conditions : Conditions} {placement : Placement}
    {context other : Context} (houtline : context.outline = other.outline)
    (hverdicts : ∀ name condition, conditions.get? name = some condition →
      condition placement context = condition placement other)
    (requirements : List Requirement) :
    firstFailure? conditions placement context requirements =
      firstFailure? conditions placement other requirements :=
  firstFailure?_eq_of_resemble rfl (Context.resemble_of_outline_eq houtline) hverdicts requirements

/-! ## Conditions -/

/-- The condition looks at the placement and the entries, not at what has been written. -/
def Condition.ReadsEntries (condition : Condition) : Prop :=
  ∀ placement context other, context.entries = other.entries →
    condition placement context = condition placement other

/-- The condition looks at no more than the placement and the outlines of the entries. -/
def Condition.ReadsOutlines (condition : Condition) : Prop :=
  ∀ placement context other, context.outline = other.outline →
    condition placement context = condition placement other

namespace Conditions

def ReadEntries (conditions : Conditions) : Prop :=
  ∀ name condition, conditions.get? name = some condition → Condition.ReadsEntries condition

def ReadOutlines (conditions : Conditions) : Prop :=
  ∀ name condition, conditions.get? name = some condition → Condition.ReadsOutlines condition

theorem ReadOutlines.readEntries {conditions : Conditions} (h : conditions.ReadOutlines) :
    conditions.ReadEntries :=
  fun name condition hcondition placement _ _ hentries =>
    h name condition hcondition placement _ _ (Context.outline_eq_of_entries_eq hentries)

theorem ReadSilhouettes.readOutlines {conditions : Conditions} (h : conditions.ReadSilhouettes) :
    conditions.ReadOutlines :=
  fun name condition hcondition _ _ _ houtline =>
    h name condition hcondition _ _ _ _ rfl (Context.resemble_of_outline_eq houtline)

theorem standard_readOutlines : standard.ReadOutlines :=
  standard_readSilhouettes.readOutlines

end Conditions

/-! ## Built sequences -/

variable {conditions : Conditions} {context other : Context}

theorem Entry.activation_congr {entry : Entry} (houtline : context.outline = other.outline)
    (hverdicts : ∀ name condition, conditions.get? name = some condition →
      ∀ placement, condition placement context = condition placement other) :
    entry.activation conditions context = entry.activation conditions other := by
  have hfailure := @Requirement.firstFailure?_congr conditions entry.placement context other
    houtline (fun name condition hcondition => hverdicts name condition hcondition _)
  simp only [activation, hfailure]

namespace Context

theorem activations_congr (houtline : context.outline = other.outline)
    (hverdicts : ∀ name condition, conditions.get? name = some condition →
      ∀ placement, condition placement context = condition placement other) :
    context.activations conditions = other.activations conditions := by
  have hentry : Entry.activation conditions context = Entry.activation conditions other := by
    funext entry
    exact Entry.activation_congr houtline hverdicts
  have hentries : context.entries.map Entry.outline = other.entries.map Entry.outline :=
    congrArg Context.entries houtline
  have houtlines : ∀ entries : List Entry, entries.map (Entry.activation conditions other) =
      (entries.map Entry.outline).map (Entry.activation conditions other) :=
    fun entries => by
      rw [List.map_map]
      rfl
  unfold activations
  rw [hentry, houtlines, hentries, ← houtlines]

theorem outline_place (context : Context) (number : Nat) (slot : Slot) (component : Component) :
    (context.place number slot component).outline =
      context.outline.place number slot component.outline := by
  simp [outline, place, size, Entry.outline]
  rfl

theorem outline_takeIn {lookup lookup' : String → Option Component}
    (hlookup : ∀ id, (lookup id).map Component.outline = (lookup' id).map Component.outline)
    (houtline : context.outline = other.outline) (number : Nat) (slot? : Option Slot) :
    (context.takeIn lookup number slot?).outline =
      (other.takeIn lookup' number slot?).outline := by
  cases slot? with
  | none => exact houtline
  | some slot =>
    unfold takeIn
    dsimp only
    split_ifs
    · exact houtline
    · have hcomponent := hlookup slot.componentId
      cases hfirst : lookup slot.componentId with
      | none =>
        rw [hfirst, Option.map_none, eq_comm, Option.map_eq_none_iff] at hcomponent
        rw [hcomponent]
        exact houtline
      | some component =>
        rw [hfirst, Option.map_some, eq_comm, Option.map_eq_some_iff] at hcomponent
        obtain ⟨component', hsecond, hcomponent⟩ := hcomponent
        rw [hsecond]
        dsimp only
        rw [outline_place, outline_place, houtline, hcomponent]

/-- Definitions of the same outlines make sequences of the same outlines. -/
theorem outline_build {lookup lookup' : String → Option Component}
    (hlookup : ∀ id, (lookup id).map Component.outline = (lookup' id).map Component.outline)
    (slots : Slots) : (build lookup slots).outline = (build lookup' slots).outline :=
  @List.foldl_rel _ _ _ _ _ _ _ _ (fun context other : Context => context.outline = other.outline)
    rfl fun _ _ _ _ houtline => outline_takeIn hlookup houtline _ _

end Context

/-! ## Runs -/

theorem Entry.activation_meet (conditions : Conditions) (context : Context) (draw : Float)
    (entry : Entry) :
    ((Row.ofEntry entry).meet (entry.fate conditions context draw)).activation =
      entry.activation conditions context := by
  unfold Entry.fate Entry.activation
  cases Requirement.firstFailure? conditions entry.placement context
      entry.component.requirements with
  | some reason => rfl
  | none =>
    dsimp only [Row.meet]
    generalize (Stance.mk entry.component entry.placement context).act draw = outcome
    cases outcome <;> rfl

/-- Whatever the order of the turns and whatever has been written before them. -/
theorem Context.activations_run {conditions : Conditions} (hconditions : conditions.ReadEntries)
    (draws : Random.Units) {context : Context} (hnumbered : context.Numbered) {order : List Entry}
    (horder : order.Perm context.entries) :
    (order.foldl (Resolution.turn conditions draws) (.start context)).toReport.activations =
      context.activations conditions := by
  have hnodup : (order.map Entry.position).Nodup :=
    (horder.map Entry.position).nodup_iff.mpr hnumbered.nodup
  obtain ⟨fates, hfollow⟩ := Fates.exists_follow conditions draws context hnodup
  rw [Fates.toReport_foldl_turn hnumbered horder hfollow]
  unfold Report.activations Context.activations Fates.report
  rw [List.map_map]
  apply List.map_congr_left
  intro entry hentry
  obtain ⟨before, draw, hfate⟩ := hfollow.exists_fate (horder.mem_iff.mpr hentry)
  have hsame : (fates.contextAfter context before).entries = context.entries := rfl
  rw [Function.comp_apply, Fates.row, hfate, Entry.activation_meet]
  exact Entry.activation_congr (outline_eq_of_entries_eq hsame)
    fun name condition hcondition placement => hconditions name condition hcondition _ _ _ hsame

theorem Catalog.get?_outline {catalog other : Catalog}
    (h : other.components.map Component.outline = catalog.components.map Component.outline)
    (id : String) :
    (other.get? id).map Component.outline = (catalog.get? id).map Component.outline := by
  have hfind := congrArg (List.find? fun component => component.id = id) h
  rw [List.find?_map, List.find?_map] at hfind
  exact hfind

theorem Catalog.activations_simulate {catalog : Catalog}
    (hconditions : catalog.conditions.ReadEntries) (draws : Random.Units) (slots : Slots) :
    (catalog.simulate draws slots).activations =
      (Context.build catalog.get? slots).activations catalog.conditions :=
  Context.activations_run hconditions draws (Context.numbered_build catalog.get? slots)
    (Context.turns_perm _)

/-- The report shows the activations of the freshly built sequence: for every stream of
draws, for every order of the turns and whatever bonuses and strikes the run starts from,
and for every catalog that differs in base stats and abilities alone, unless a condition
itself looks at these. -/
theorem Catalog.simulate_activations {catalog : Catalog}
    (hconditions : catalog.conditions.ReadEntries) (slots : Slots) :
    let built := Context.build catalog.get? slots
    let settled := built.activations catalog.conditions
    built.Fresh ∧
      (∀ draws, (catalog.simulate draws slots).activations = settled) ∧
      (∀ draws (context : Context) (order : List Entry),
        context.entries = built.entries → order.Perm built.entries →
        (order.foldl (Resolution.turn catalog.conditions draws)
          (.start context)).toReport.activations = settled) ∧
      ∀ other : Catalog, other.conditions = catalog.conditions →
        other.components.map Component.outline = catalog.components.map Component.outline →
        catalog.conditions.ReadOutlines →
        ∀ draws, (other.simulate draws slots).activations = settled := by
  refine ⟨Context.fresh_build _ _, fun draws => activations_simulate hconditions draws slots,
    ?_, ?_⟩
  · intro draws context order hentries horder
    have hnumbered := (Context.numbered_build catalog.get? slots).congr hentries
    rw [Context.activations_run hconditions draws hnumbered (hentries ▸ horder)]
    exact Context.activations_congr (Context.outline_eq_of_entries_eq hentries)
      fun name condition hcondition placement =>
        hconditions name condition hcondition placement _ _ hentries
  · intro other hsame hcomponents houtlines draws
    have hbuilt := Context.outline_build (get?_outline hcomponents) slots
    rw [activations_simulate (hsame ▸ hconditions), hsame]
    exact Context.activations_congr hbuilt fun name condition hcondition placement =>
      houtlines name condition hcondition placement _ _ hbuilt

/-- A core that waits for a modifier, and a modifier that wants no twin. -/
def Catalog.tempest : Catalog :=
  ⟨[Standard.stormCore, Standard.overclock], .standard⟩

/-- Two modifiers bar each other, and the core is content with them all the same, also
when the definitions lose their numbers and abilities. -/
theorem Catalog.tempest_simulate_activations :
    let bare : Catalog := ⟨tempest.components.map Component.outline, .standard⟩
    let slots : Slots := [some (.plain "storm_core"), some (.plain "overclock"), none,
      some (.plain "overclock")]
    let settled : List Activation := [⟨"storm_core", 1, true, none⟩,
      ⟨"overclock", 2, false, some "condition 'all_unique' not met"⟩,
      ⟨"overclock", 3, false, some "condition 'all_unique' not met"⟩]
    tempest.conditions.ReadEntries ∧ tempest.conditions.ReadOutlines ∧
      (∀ draws, (tempest.simulate draws slots).activations = settled) ∧
      ∀ draws, (bare.simulate draws slots).activations = settled := by
  intro bare slots settled
  have houtlines : tempest.conditions.ReadOutlines := Conditions.standard_readOutlines
  obtain ⟨-, hdraws, -, hbare⟩ := simulate_activations houtlines.readEntries slots
  have hsettled : (Context.build tempest.get? slots).activations tempest.conditions = settled :=
    rfl
  refine ⟨houtlines.readEntries, houtlines, fun draws => ?_, fun draws => ?_⟩
  · rw [hdraws draws, hsettled]
  · rw [hbare bare rfl rfl houtlines draws, hsettled]

/-! ## A condition that looks at stats and abilities -/

/-- Some entry is an echo with a ratio of its own. -/
def Conditions.echoing : Condition := fun _ context =>
  .answer (context.entries.any fun entry =>
    entry.component.ability = .strike .echo && entry.component.baseStats.contains "echo_ratio")

theorem Conditions.echoing_readEntries :
    ((∅ : Conditions).insert "echoing" echoing).ReadEntries := by
  have hnone : (∅ : Conditions).ReadEntries := fun _ _ h => by cases h
  have hechoing : Condition.ReadsEntries echoing := by
    intro placement context other hentries
    unfold echoing
    rw [hentries]
  exact forall_get?_insert hnone "echoing" hechoing

/-- A core that waits for an echo, and the core beside it. -/
def Catalog.cavern (beside : Component) : Catalog :=
  ⟨[{ Standard.emberCore with requirements := [.custom "echoing"] }, beside],
    (∅ : Conditions).insert "echoing" Conditions.echoing⟩

theorem Catalog.built_cavern {beside : Component}
    (hvalid : (ofConditions (cavern beside).conditions).validate beside = .ok ())
    (hid : beside.id = "echo_core") : (cavern beside).Built := by
  refine built_of_validated ?_ ?_
  · rw [List.forall_mem_cons, List.forall_mem_singleton]
    exact ⟨validate_eq_ok (by decide +kernel) rfl (by decide +kernel) rfl, hvalid⟩
  · rw [List.map_cons, List.map_singleton, hid]
    decide +kernel

/-- The core beside has lost its ability or its stats and acts all the same, but the one that
waits for it does not: here it matters what its condition looks at within the entries. -/
theorem Catalog.cavern_activations_differ :
    let mute : Component := { Standard.echoCore with ability := .strike .ember }
    let bare : Component := { Standard.echoCore with baseStats := ∅ }
    let slots : Slots := [some (.plain "ember_core"), some (.plain "echo_core")]
    (cavern Standard.echoCore).Built ∧ (cavern Standard.echoCore).conditions.ReadEntries ∧
      (∀ draws, ((cavern Standard.echoCore).simulate draws slots).activations =
        [⟨"ember_core", 1, true, none⟩, ⟨"echo_core", 2, true, none⟩]) ∧
      ∀ beside ∈ [mute, bare], (cavern beside).Built ∧
        (cavern beside).conditions = (cavern Standard.echoCore).conditions ∧
        beside.outline = Standard.echoCore.outline ∧
        ∀ draws, ((cavern beside).simulate draws slots).activations =
          [⟨"ember_core", 1, false, some "condition 'echoing' not met"⟩,
            ⟨"echo_core", 2, true, none⟩] := by
  intro mute bare slots
  have hread : ∀ beside, (cavern beside).conditions.ReadEntries :=
    fun _ => Conditions.echoing_readEntries
  refine ⟨built_cavern (validate_eq_ok (by decide +kernel) rfl (by decide +kernel) rfl) rfl,
    hread _, fun draws => activations_simulate (hread _) draws slots, ?_⟩
  rw [List.forall_mem_cons, List.forall_mem_singleton]
  exact ⟨⟨built_cavern (validate_eq_ok (by decide +kernel) rfl (by decide +kernel) rfl) rfl, rfl,
      rfl, fun draws => activations_simulate (hread _) draws slots⟩,
    ⟨built_cavern (validate_eq_ok (by decide +kernel) rfl (by decide +kernel) rfl) rfl, rfl,
      rfl, fun draws => activations_simulate (hread _) draws slots⟩⟩

end TickArena

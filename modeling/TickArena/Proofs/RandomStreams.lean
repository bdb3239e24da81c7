import TickArena.Proofs.PairedRuns
import TickArena.Proofs.StaticActivation

/-!
# Two streams of draws

A draw decides whether a strike is critical, and nothing else.  A critical hit changes the
damage of its strike, and only echoes read that damage again.  So two runs of one sequence,
each on a stream of its own, write the same bonuses and strike at the same positions; what
differs between their reports is damage.
-/

namespace TickArena

/-! ## What a component finds -/

/-- What the component at a position finds at its turn. -/
def Context.found (conditions : Conditions) (draws : Random.Units) (built : Context)
    (position : Nat) : Context :=
  ((built.turns.takeWhile fun entry => entry.position ≠ position).foldl
    (Resolution.turn conditions draws) (.start built)).context

namespace Entry

def Echoes (entry : Entry) : Prop :=
  entry.component.ability = .strike .echo

/-- The base chance of a critical hit and what the ledger adds to it. -/
def critChance (context : Context) (entry : Entry) : Float :=
  entry.component.stat "crit_chance" 0 + context.ledger.additive entry.position .critChance

/-- The entry is a core with a positive chance of a critical hit, and does not echo. -/
def MayCrit (context : Context) (entry : Entry) : Prop :=
  entry.type = .core ∧ ¬ entry.Echoes ∧ 0 < entry.critChance context

end Entry

theorem Stance.isSome_critChance?_iff {context : Context} {entry : Entry}
    {behavior : StrikeBehavior} (hability : entry.component.ability = .strike behavior) :
    ((Stance.mk entry.component entry.placement context).critChance? behavior).isSome = true ↔
      entry.MayCrit context := by
  have hechoes : entry.Echoes ↔ behavior = .echo := by simp [Entry.Echoes, hability]
  have hchance : (Stance.mk entry.component entry.placement context).critChance? behavior =
      if entry.type = .core ∧ behavior ≠ .echo then
        if 0 < entry.critChance context then some (entry.critChance context) else none
      else none := rfl
  rw [hchance, Entry.MayCrit, hechoes, ← and_assoc]
  split_ifs <;> simp_all

theorem Stance.draws_imp_mayCrit {context : Context} {entry : Entry}
    (h : (Stance.mk entry.component entry.placement context).draws = true) :
    entry.MayCrit context := by
  unfold draws at h
  split at h
  · rename_i behavior hability
    exact (isSome_critChance?_iff hability).mp h
  · contradiction

/-! ## What two runs agree on -/

/-- Strikes of one component in two runs.  A critical hit tells only if one may come, and
an echo differs in the damage it has read and in its own. -/
structure StrikeOutcome.Agrees (echoes mayCrit : Prop) (outcome other : StrikeOutcome) :
    Prop where
  damageType : outcome.damageType = other.damageType
  effects : outcome.effects = other.effects
  emitted : outcome.emitted = other.emitted
  telemetry : ¬ echoes → outcome.telemetry = other.telemetry
  unechoed : ∀ key, key ≠ "echoed_damage" →
    outcome.telemetry.get? key = other.telemetry.get? key
  critical : ¬ mayCrit → outcome.critical = other.critical
  damage : ¬ mayCrit → ¬ echoes → outcome.damage = other.damage

theorem StrikeOutcome.Agrees.refl (echoes mayCrit : Prop) (outcome : StrikeOutcome) :
    outcome.Agrees echoes mayCrit outcome :=
  ⟨rfl, rfl, rfl, fun _ => rfl, fun _ _ => rfl, fun _ => rfl, fun _ _ => rfl⟩

inductive Fate.Agrees (echoes mayCrit : Prop) : Fate → Fate → Prop where
  | idle (reason : String) : Agrees echoes mayCrit (.idle reason) (.idle reason)
  | weave (outcome : WeaveOutcome) (drew : Bool) :
    Agrees echoes mayCrit (.acted (.weave outcome) drew) (.acted (.weave outcome) drew)
  | strike {outcome other : StrikeOutcome} (drew : Bool)
    (hstrike : outcome.Agrees echoes mayCrit other) :
    Agrees echoes mayCrit (.acted (.strike outcome) drew) (.acted (.strike other) drew)

structure Row.Agrees (echoes mayCrit : Prop) (row other : Row) : Prop where
  componentId : row.componentId = other.componentId
  position : row.position = other.position
  slot : row.slot = other.slot
  type : row.type = other.type
  rarity : row.rarity = other.rarity
  active : row.active = other.active
  reason : row.reason = other.reason
  damageType : row.damageType = other.damageType
  effects : row.effects = other.effects
  touched : row.touched = other.touched
  telemetry : ¬ echoes → row.telemetry = other.telemetry
  unechoed : ∀ key, key ≠ "echoed_damage" → row.telemetry.get? key = other.telemetry.get? key
  critical : ¬ mayCrit → row.critical = other.critical
  damage : ¬ mayCrit → ¬ echoes → row.damage = other.damage

theorem Row.Agrees.refl (echoes mayCrit : Prop) (row : Row) : row.Agrees echoes mayCrit row :=
  ⟨rfl, rfl, rfl, rfl, rfl, rfl, rfl, rfl, rfl, rfl, fun _ => rfl, fun _ _ => rfl, fun _ => rfl,
    fun _ _ => rfl⟩

structure Report.Agrees (entries : List Entry) (mayCrit : Entry → Prop) (report other : Report) :
    Prop where
  length_rows : report.rows.length = entries.length
  length_rows' : other.rows.length = entries.length
  rows : ∀ entry row row', (entry, row, row') ∈ entries.zip (report.rows.zip other.rows) →
    row.Agrees entry.Echoes (mayCrit entry) row'
  effects : report.effects = other.effects
  activeComponents : report.activeComponents = other.activeComponents
  diagnostics : report.diagnostics = other.diagnostics

namespace Fate.Agrees

variable {echoes mayCrit : Prop} {fate other : Fate}

theorem emitted_eq (h : fate.Agrees echoes mayCrit other) : fate.emitted = other.emitted := by
  cases h with
  | idle reason => rfl
  | weave outcome drew => rfl
  | strike drew hstrike => exact hstrike.emitted

theorem effects_struck (h : fate.Agrees echoes mayCrit other) :
    fate.struck.flatMap StrikeOutcome.effects = other.struck.flatMap StrikeOutcome.effects := by
  cases h with
  | idle reason => rfl
  | weave outcome drew => rfl
  | strike drew hstrike => simp [struck, hstrike.effects]

theorem meet (h : fate.Agrees echoes mayCrit other) (row : Row) :
    (row.meet fate).Agrees echoes mayCrit (row.meet other) := by
  cases h with
  | idle reason => exact .refl _ _ _
  | weave outcome drew => exact .refl _ _ _
  | strike drew hstrike =>
    exact ⟨rfl, rfl, rfl, rfl, rfl, rfl, rfl, congrArg some hstrike.damageType, hstrike.effects,
      rfl, hstrike.telemetry, hstrike.unechoed, hstrike.critical, hstrike.damage⟩

end Fate.Agrees

/-! ## One turn in two runs -/

/-- The contexts of two runs: the same bonuses, and strikes at the same positions. -/
structure Context.Parallel (context other : Context) : Prop where
  entries : context.entries = other.entries
  ledger : context.ledger = other.ledger
  diagnostics : context.diagnostics = other.diagnostics
  strikes : ∀ position, (context.strikeAt? position).isSome = (other.strikeAt? position).isSome

namespace Context.Parallel

variable {context other : Context}

theorem refl (context : Context) : context.Parallel context :=
  ⟨rfl, rfl, rfl, fun _ => rfl⟩

theorem position_lastStrikeBefore? (h : context.Parallel other) (position : Nat) :
    (context.lastStrikeBefore? position).map Prod.fst =
      (other.lastStrikeBefore? position).map Prod.fst := by
  induction position with
  | zero => rfl
  | succ position ih =>
    have hstrike := h.strikes position
    unfold lastStrikeBefore?
    cases hfirst : context.strikeAt? position <;> cases hsecond : other.strikeAt? position
    · exact ih
    · rw [hfirst, hsecond] at hstrike
      contradiction
    · rw [hfirst, hsecond] at hstrike
      contradiction
    · rfl

end Context.Parallel

namespace Stance

variable {component : Component} {placement : Placement} {context other : Context}

theorem swing_congr (h : context.Parallel other) {behavior : StrikeBehavior}
    (hbehavior : behavior ≠ .echo) :
    (Stance.mk component placement context).swing behavior =
      (Stance.mk component placement other).swing behavior := by
  obtain ⟨entries, slotPositions, ledger, strikes, diagnostics⟩ := context
  obtain ⟨entries', slotPositions', ledger', strikes', diagnostics'⟩ := other
  obtain ⟨rfl, rfl, rfl, -⟩ := h
  cases behavior with
  | echo => exact absurd rfl hbehavior
  | vanguard => rfl
  | ember => rfl
  | frost => rfl
  | storm => rfl
  | prism => rfl
  | genesis => rfl
  | kindling => rfl
  | relic => rfl
  | voidShard => rfl

theorem weave_congr (h : context.Parallel other) (behavior : WeaveBehavior) :
    (Stance.mk component placement context).weave behavior =
      (Stance.mk component placement other).weave behavior := by
  obtain ⟨entries, slotPositions, ledger, strikes, diagnostics⟩ := context
  obtain ⟨entries', slotPositions', ledger', strikes', diagnostics'⟩ := other
  obtain ⟨rfl, rfl, rfl, -⟩ := h
  cases behavior <;> rfl

theorem echo_agrees (h : context.Parallel other) (mayCrit : Prop) :
    (Stance.mk component placement context).echo.Agrees True mayCrit
      (Stance.mk component placement other).echo := by
  have hposition : ((context.lastStrikeBefore? placement.position).getD (0, 0)).1 =
      ((other.lastStrikeBefore? placement.position).getD (0, 0)).1 := by
    rw [← Option.getD_map Prod.fst, ← Option.getD_map Prod.fst, h.position_lastStrikeBefore?]
  constructor
  · rfl
  · rfl
  · rfl
  · exact fun hechoes => absurd trivial hechoes
  · intro key hkey
    change (((∅ : Telemetry).insert "echoed_position"
        (Double.ofCount ((context.lastStrikeBefore? placement.position).getD (0, 0)).1)).insert
          "echoed_damage" _).get? key = (((∅ : Telemetry).insert "echoed_position"
        (Double.ofCount ((other.lastStrikeBefore? placement.position).getD (0, 0)).1)).insert
          "echoed_damage" _).get? key
    rw [Table.get?_insert_of_ne _ _ hkey, Table.get?_insert_of_ne _ _ hkey, hposition]
  · exact fun _ => rfl
  · exact fun _ hechoes => absurd trivial hechoes

/-- A draw decides no more than the damage and whether it is a critical hit. -/
theorem critical_agrees (stance : Stance) (echoes : Prop) {mayCrit : Prop} (hmay : mayCrit)
    (chance draw draw' : Float) (outcome : StrikeOutcome) :
    (stance.critical chance draw outcome).Agrees echoes mayCrit
      (stance.critical chance draw' outcome) := by
  unfold critical
  dsimp only
  split_ifs <;>
    exact ⟨rfl, rfl, rfl, fun _ => rfl, fun _ _ => rfl, fun hnot => absurd hmay hnot,
      fun hnot => absurd hmay hnot⟩

end Stance

theorem StrikeOutcome.Agrees.clamp {echoes mayCrit : Prop} {outcome other : StrikeOutcome}
    (h : outcome.Agrees echoes mayCrit other) :
    ({ outcome with damage := Double.clampAtZero outcome.damage } : StrikeOutcome).Agrees echoes
      mayCrit { other with damage := Double.clampAtZero other.damage } :=
  { h with damage := fun hmay hechoes => congrArg Double.clampAtZero (h.damage hmay hechoes) }

namespace Entry

variable {context other : Context} {entry : Entry}

theorem strike_agrees (h : context.Parallel other) {behavior : StrikeBehavior}
    (hability : entry.component.ability = .strike behavior) (draw draw' : Float) :
    ((Stance.mk entry.component entry.placement context).strike behavior draw).Agrees
      entry.Echoes (entry.MayCrit context)
      ((Stance.mk entry.component entry.placement other).strike behavior draw') := by
  have hmay := @Stance.isSome_critChance?_iff context _ _ hability
  unfold Stance.strike
  rw [← Stance.critChance?_eq_of_ledger h.ledger behavior]
  dsimp only
  apply StrikeOutcome.Agrees.clamp
  by_cases hecho : behavior = .echo
  · subst hecho
    have hechoes : entry.Echoes = True := eq_true hability
    have hnone : (Stance.mk entry.component entry.placement context).critChance? .echo = none := by
      simp [Stance.critChance?]
    rw [hnone, hechoes]
    exact Stance.echo_agrees h _
  · rw [← Stance.swing_congr h hecho]
    cases hchance : (Stance.mk entry.component entry.placement context).critChance? behavior with
    | none => exact .refl _ _ _
    | some chance =>
      rw [hchance] at hmay
      exact Stance.critical_agrees _ _ (hmay.mp rfl) chance draw draw' _

theorem fate_agrees {conditions : Conditions} (hconditions : conditions.ReadEntries)
    (h : context.Parallel other) (draw draw' : Float) :
    (entry.fate conditions context draw).Agrees entry.Echoes (entry.MayCrit context)
      (entry.fate conditions other draw') := by
  have hfailure : Requirement.firstFailure? conditions entry.placement context
      entry.component.requirements = Requirement.firstFailure? conditions entry.placement other
        entry.component.requirements :=
    Requirement.firstFailure?_congr (Context.outline_eq_of_entries_eq h.entries)
      (fun name condition hcondition => hconditions name condition hcondition _ _ _ h.entries) _
  unfold fate
  rw [← hfailure]
  cases Requirement.firstFailure? conditions entry.placement context
      entry.component.requirements with
  | some reason => exact .idle reason
  | none =>
    dsimp only
    unfold Stance.act Stance.draws
    cases hability : entry.component.ability with
    | strike behavior =>
      dsimp only
      rw [← Stance.critChance?_eq_of_ledger h.ledger behavior]
      exact .strike _ (strike_agrees h hability draw draw')
    | weave behavior =>
      dsimp only
      rw [← Stance.weave_congr h behavior]
      exact .weave _ _

/-- A draw that is not taken does not matter. -/
theorem fate_eq_of_not_drew {conditions : Conditions} (draw draw' : Float)
    (hdrew : (entry.fate conditions context draw).drew = false) :
    entry.fate conditions context draw' = entry.fate conditions context draw := by
  unfold fate at hdrew ⊢
  cases hfailure : Requirement.firstFailure? conditions entry.placement context
      entry.component.requirements with
  | some reason => rfl
  | none =>
    rw [hfailure] at hdrew
    dsimp only [Fate.drew] at hdrew ⊢
    congr 1
    unfold Stance.act Stance.draws at *
    cases hability : entry.component.ability with
    | weave behavior => rfl
    | strike behavior =>
      rw [hability] at hdrew
      have hnone := Option.isSome_eq_false_iff.mp hdrew
      dsimp only
      unfold Stance.strike
      rw [Option.isNone_iff_eq_none.mp hnone]

theorem mayCrit_of_drew {conditions : Conditions} {draw : Float}
    (hdrew : (entry.fate conditions context draw).drew = true) : entry.MayCrit context := by
  unfold fate at hdrew
  split at hdrew
  · contradiction
  · exact Stance.draws_imp_mayCrit hdrew

end Entry

theorem Row.active_meet_of_drew (row : Row) {fate : Fate} (h : fate.drew = true) :
    (row.meet fate).active = true := by
  cases fate with
  | idle reason => contradiction
  | acted outcome drew => cases outcome <;> rfl

/-! ## Whole runs -/

theorem Context.Parallel.record {context other : Context} (h : context.Parallel other)
    {echoes mayCrit : Prop} {fate fate' : Fate} (hfate : fate.Agrees echoes mayCrit fate')
    (position : Nat) :
    (context.record fate.emitted (fate.struck.map (position, ·))).Parallel
      (other.record fate'.emitted (fate'.struck.map (position, ·))) := by
  refine ⟨h.entries, ?_, h.diagnostics, ?_⟩
  · simp only [Context.record, h.ledger, hfate.emitted_eq]
  · cases hfate with
    | idle reason => exact h.strikes
    | weave outcome drew => exact h.strikes
    | strike drew hstrike =>
      intro asked
      simp only [Context.strikeAt?, Context.record, Fate.struck, List.map_singleton,
        List.foldl_cons, List.foldl_nil]
      by_cases hasked : asked = position
      · rw [hasked, Table.get?_insert_self, Table.get?_insert_self]
        rfl
      · rw [Table.get?_insert_of_ne _ _ hasked, Table.get?_insert_of_ne _ _ hasked]
        exact h.strikes asked

namespace Fates

variable {fates others : Fates} {conditions : Conditions} {draws draws' : Random.Units}
  {built : Context} {order : List Entry} {entry : Entry}

theorem contextAfter_concat (fates : Fates) (context : Context) (done : List Entry)
    (entry : Entry) :
    fates.contextAfter context (done ++ [entry]) = (fates.contextAfter context done).record
      (fates entry.position).emitted ((fates entry.position).struck.map (entry.position, ·)) := by
  simp [contextAfter, Context.record_record]

theorem Follow.parallel (hconditions : conditions.ReadEntries)
    (h : fates.Follow conditions draws built [] order)
    (h' : others.Follow conditions draws' built [] order) {before after : List Entry}
    (horder : order = before ++ after) :
    (fates.contextAfter built before).Parallel (others.contextAfter built before) := by
  induction before using List.reverseRecOn generalizing after with
  | nil => exact .refl _
  | append_singleton before entry ih =>
    rw [List.append_assoc] at horder
    have hbefore := ih horder
    subst horder
    rw [contextAfter_concat, contextAfter_concat, h.fate_eq, h'.fate_eq]
    exact hbefore.record (Entry.fate_agrees hconditions hbefore _ _) entry.position

theorem Follow.agrees (hconditions : conditions.ReadEntries)
    (h : fates.Follow conditions draws built [] order)
    (h' : others.Follow conditions draws' built [] order) {before after : List Entry}
    (horder : order = before ++ entry :: after) :
    (fates entry.position).Agrees entry.Echoes (entry.MayCrit (fates.contextAfter built before))
      (others entry.position) := by
  have hbefore := h.parallel hconditions h' horder
  subst horder
  rw [h.fate_eq, h'.fate_eq]
  exact Entry.fate_agrees hconditions hbefore _ _

theorem Follow.fates_eq_of_not_drew (h : fates.Follow conditions draws built [] order)
    (h' : others.Follow conditions draws' built [] order)
    (hdrew : ∀ entry ∈ order, (fates entry.position).drew = false) :
    ∀ entry ∈ order, others entry.position = fates entry.position := by
  suffices hprefix : ∀ before after, order = before ++ after →
      ∀ entry ∈ before, others entry.position = fates entry.position from
    hprefix order [] (List.append_nil _).symm
  intro before
  induction before using List.reverseRecOn with
  | nil => exact fun _ _ _ hentry => absurd hentry List.not_mem_nil
  | append_singleton before last ih =>
    intro after horder
    rw [List.append_assoc] at horder
    have hbefore := ih _ horder
    have hlast : (fates last.position).drew = false := hdrew last (by simp [horder])
    subst horder
    intro entry hentry
    rcases List.mem_append.mp hentry with hold | hnew
    · exact hbefore entry hold
    · obtain rfl := List.mem_singleton.mp hnew
      have hcontext : others.contextAfter built before = fates.contextAfter built before :=
        contextAfter_congr hbefore
      rw [h.fate_eq] at hlast
      rw [h.fate_eq, h'.fate_eq, hcontext]
      exact Entry.fate_eq_of_not_drew _ _ hlast

theorem report_congr (hperm : order.Perm built.entries)
    (h : ∀ entry ∈ order, others entry.position = fates entry.position) :
    others.report built order = fates.report built order := by
  have hrows : built.entries.map others.row = built.entries.map fates.row := by
    apply List.map_congr_left
    intro entry hentry
    rw [row, row, h entry (hperm.mem_iff.mpr hentry)]
  have hstrikes : others.strikes order = fates.strikes order :=
    List.flatMap_congr fun entry hentry => by rw [h entry hentry]
  rw [report, report, hrows, totalDamage, totalDamage, effects, effects, hstrikes]

theorem Follow.found_eq (hnumbered : built.Numbered)
    (h : fates.Follow conditions draws built [] built.turns) {before after : List Entry}
    (hturns : built.turns = before ++ entry :: after) :
    built.found conditions draws entry.position = fates.contextAfter built before :=
  congrArg Resolution.context (h.reached_eq hnumbered hturns)

theorem report_agrees {mayCrit : Entry → Prop} (hperm : order.Perm built.entries)
    (h : ∀ entry ∈ built.entries,
      (fates entry.position).Agrees entry.Echoes (mayCrit entry) (others entry.position)) :
    (fates.report built order).Agrees built.entries mayCrit (others.report built order) where
  length_rows := List.length_map _
  length_rows' := List.length_map _
  rows := by
    intro entry row row' hmem
    obtain ⟨hentry, rfl, rfl⟩ := mem_zip_rows hmem
    exact (h entry hentry).meet _
  effects := by
    simp only [report, effects, strikes, List.flatMap_assoc, List.flatMap_map]
    apply List.flatMap_congr
    intro entry hentry
    exact (h entry (hperm.mem_iff.mp hentry)).effects_struck
  activeComponents := by
    simp only [Report.activeComponents, report, List.countP_map]
    apply List.countP_congr
    intro entry hentry
    simp only [Function.comp_apply, row, ((h entry hentry).meet _).active]
  diagnostics := rfl

end Fates

/-- For any two streams the reports agree on everything but damage, critical hits of the
cores that may have one, and the damage that echoes read and repeat; and if no such core
acts they are equal. -/
theorem Catalog.simulate_agree {catalog : Catalog}
    (hconditions : catalog.conditions.ReadEntries) (draws draws' : Random.Units)
    (slots : Slots) :
    let built := Context.build catalog.get? slots
    let found := built.found catalog.conditions draws
    let mayCrit : Entry → Prop := fun entry => entry.MayCrit (found entry.position)
    let report := catalog.simulate draws slots
    let other := catalog.simulate draws' slots
    report.Agrees built.entries mayCrit other ∧
      (∀ entry ∈ built.entries, (found entry.position).ledger =
        (built.found catalog.conditions draws' entry.position).ledger) ∧
      ((∀ entry row, (entry, row) ∈ built.entries.zip report.rows → row.active = true →
          ¬ mayCrit entry) → report = other) := by
  intro built found mayCrit report other
  have hnumbered : built.Numbered := Context.numbered_build _ _
  have hperm := built.turns_perm
  have hnodup : (built.turns.map Entry.position).Nodup :=
    (hperm.map Entry.position).nodup_iff.mpr hnumbered.nodup
  obtain ⟨fates, hfollow⟩ := Fates.exists_follow catalog.conditions draws built hnodup
  obtain ⟨others, hfollow'⟩ := Fates.exists_follow catalog.conditions draws' built hnodup
  have hreport : report = fates.report built built.turns :=
    Fates.toReport_foldl_turn hnumbered hperm hfollow
  have hother : other = others.report built built.turns :=
    Fates.toReport_foldl_turn hnumbered hperm hfollow'
  have hsplit : ∀ entry ∈ built.entries, ∃ before after, built.turns = before ++ entry :: after :=
    fun entry hentry => List.append_of_mem (hperm.mem_iff.mpr hentry)
  refine ⟨?_, ?_, ?_⟩
  · rw [hreport, hother]
    apply Fates.report_agrees hperm
    intro entry hentry
    obtain ⟨before, after, hturns⟩ := hsplit entry hentry
    simpa only [mayCrit, found, hfollow.found_eq hnumbered hturns] using
      hfollow.agrees hconditions hfollow' hturns
  · intro entry hentry
    obtain ⟨before, after, hturns⟩ := hsplit entry hentry
    rw [hfollow'.found_eq hnumbered hturns]
    simpa only [found, hfollow.found_eq hnumbered hturns] using
      (hfollow.parallel hconditions hfollow' hturns).ledger
  · intro hnone
    have hdrew : ∀ entry ∈ built.turns, (fates entry.position).drew = false := by
      intro entry hentry
      have hentry := hperm.mem_iff.mp hentry
      have hrow : (entry, fates.row entry) ∈ built.entries.zip report.rows := by
        rw [hreport, Fates.report, ← List.map_prod_left_eq_zip]
        exact List.mem_map_of_mem hentry
      apply Bool.eq_false_of_not_eq_true
      intro hdrew
      apply hnone entry _ hrow (Row.active_meet_of_drew _ hdrew)
      obtain ⟨before, after, hturns⟩ := hsplit entry hentry
      simp only [mayCrit, found, hfollow.found_eq hnumbered hturns]
      rw [hturns] at hfollow
      rw [hfollow.fate_eq] at hdrew
      exact Entry.mayCrit_of_drew hdrew
    rw [hreport, hother]
    exact (Fates.report_congr hperm (hfollow.fates_eq_of_not_drew hfollow' hdrew)).symm

namespace Catalog

/-- A core that may have critical hits, and an echo of it. -/
def gale : Catalog :=
  ⟨[Standard.stormCore, Standard.echoCore, Standard.overclock], .standard⟩

/-- On one stream the storm is a critical hit and on the other it is not: the echo repeats
the difference, and nothing else shows it. -/
theorem gale_simulate_agree :
    let slots : Slots := [some (.plain "storm_core"), some (.plain "echo_core"),
      some (.plain "overclock")]
    let lucky := gale.simulate (fun _ => 0) slots
    let plain := gale.simulate (fun _ => 1) slots
    gale.conditions.ReadEntries ∧ lucky.effects = plain.effects ∧
      lucky.activeComponents = plain.activeComponents ∧
      lucky.rows.map Row.damage = [270, 202.5, 0] ∧
      plain.rows.map Row.damage = [135, 101.25, 0] := by
  have hreads : gale.conditions.ReadEntries := Conditions.standard_readOutlines.readEntries
  obtain ⟨hagrees, -, -⟩ := simulate_agree hreads (fun _ => 0) (fun _ => 1)
    [some (.plain "storm_core"), some (.plain "echo_core"), some (.plain "overclock")]
  exact ⟨hreads, hagrees.effects, hagrees.activeComponents, by decide +kernel, by decide +kernel⟩

end Catalog

end TickArena

import TickArena.Proofs.PairedRuns
import TickArena.Proofs.TableLookups

/-!
# Conditions that break

A condition that gives up or crashes counts as one that says no: its component stays idle,
and nothing else comes of it.  So a registry in which every breakdown is replaced by a no
leads to the same runs, turn by turn; the reasons of those components that have asked such
a condition are all that tells the two apart.
-/

namespace TickArena

namespace Verdict

def broken : Verdict → Bool
  | answer _ => false
  | gaveUp _ => true
  | crashed _ => true

/-- A breakdown becomes a no. -/
def contained : Verdict → Verdict
  | answer holds => answer holds
  | gaveUp _ => answer false
  | crashed _ => answer false

end Verdict

def Condition.contained (condition : Condition) : Condition :=
  fun placement context => (condition placement context).contained

namespace Conditions

/-- The others say what these conditions say, and no wherever one of these breaks. -/
def ContainedBy (conditions others : Conditions) : Prop :=
  ∀ name, others.get? name = (conditions.get? name).map Condition.contained

def contained (conditions : Conditions) : Conditions :=
  ⟨conditions.byName.map Condition.contained⟩

theorem containedBy_contained (conditions : Conditions) :
    conditions.ContainedBy conditions.contained :=
  fun name => Table.get?_map Condition.contained conditions.byName name

end Conditions

/-! ## Requirements -/

namespace Requirement

variable (conditions : Conditions) (placement : Placement) (context : Context)

/-- Whether the requirement asks a condition that breaks. -/
def breaks : Requirement → Bool
  | custom name =>
    (conditions.get? name).any fun condition => (condition placement context).broken
  | _ => false

/-- Whether the first requirement of a list that is not met asks a condition that breaks. -/
def firstBreaks (requirements : List Requirement) : Bool :=
  (requirements.find? fun requirement =>
    (requirement.failure? conditions placement context).isSome).any
      (breaks conditions placement context)

variable {conditions} {others : Conditions} {placement context}

theorem failure?_eq_of_not_breaks (h : conditions.ContainedBy others) {requirement : Requirement}
    (hbreaks : requirement.breaks conditions placement context = false) :
    requirement.failure? others placement context =
      requirement.failure? conditions placement context := by
  cases requirement with
  | custom name =>
    have hcheck : checkCustom others name placement context =
        checkCustom conditions name placement context := by
      simp only [breaks] at hbreaks
      unfold checkCustom
      rw [h name]
      cases hcondition : conditions.get? name with
      | none => rfl
      | some condition =>
        rw [hcondition, Option.any_some] at hbreaks
        simp only [Option.map_some, Condition.contained]
        cases hverdict : condition placement context with
        | answer holds => rfl
        | gaveUp reason => simp [hverdict, Verdict.broken] at hbreaks
        | crashed payload => simp [hverdict, Verdict.broken] at hbreaks
    simp only [failure?, check, hcheck]
  | _ => rfl

/-- A breakdown is a failure, and so is the no in its place. -/
theorem exists_failure_of_breaks (h : conditions.ContainedBy others) {requirement : Requirement}
    (hbreaks : requirement.breaks conditions placement context = true) :
    ∃ reason reason', requirement.failure? conditions placement context = some reason ∧
      requirement.failure? others placement context = some reason' := by
  cases requirement with
  | custom name =>
    simp only [breaks] at hbreaks
    cases hcondition : conditions.get? name with
    | none =>
      rw [hcondition] at hbreaks
      contradiction
    | some condition =>
      rw [hcondition, Option.any_some] at hbreaks
      simp only [failure?, check, checkCustom, h name, hcondition, Option.map_some,
        Condition.contained]
      cases hverdict : condition placement context with
      | answer holds => simp [hverdict, Verdict.broken] at hbreaks
      | gaveUp reason => exact ⟨_, _, rfl, rfl⟩
      | crashed payload => exact ⟨_, _, rfl, rfl⟩
  | _ => contradiction

/-- Either both find the same, or both find a failure and the first is a breakdown. -/
theorem firstFailure?_containedBy (h : conditions.ContainedBy others)
    (requirements : List Requirement) :
    (firstBreaks conditions placement context requirements = false ∧
        firstFailure? others placement context requirements =
          firstFailure? conditions placement context requirements) ∨
      firstBreaks conditions placement context requirements = true ∧
        ∃ reason reason', firstFailure? conditions placement context requirements = some reason ∧
          firstFailure? others placement context requirements = some reason' := by
  unfold firstBreaks firstFailure?
  induction requirements with
  | nil => exact .inl ⟨rfl, rfl⟩
  | cons first later ih =>
    rw [List.find?_cons, List.findSome?_cons, List.findSome?_cons]
    cases hbreaks : first.breaks conditions placement context with
    | false =>
      rw [failure?_eq_of_not_breaks h hbreaks]
      cases hfailure : first.failure? conditions placement context with
      -- Whether a later requirement breaks matters only if this one is met.
      | none => exact ih
      | some reason => exact .inl ⟨hbreaks, rfl⟩
    | true =>
      obtain ⟨reason, reason', hfailure, hfailure'⟩ := exists_failure_of_breaks h hbreaks
      rw [hfailure, hfailure']
      exact .inr ⟨hbreaks, reason, reason', rfl, rfl⟩

end Requirement

/-! ## Turns -/

namespace Entry

/-- Whether the component stays idle because a condition breaks. -/
def breaks (conditions : Conditions) (context : Context) (entry : Entry) : Bool :=
  Requirement.firstBreaks conditions entry.placement context entry.component.requirements

variable {conditions others : Conditions} {entry : Entry}

theorem fate_containedBy (h : conditions.ContainedBy others) (context : Context) (draw : Float) :
    (entry.breaks conditions context = false ∧
        entry.fate conditions context draw = entry.fate others context draw) ∨
      entry.breaks conditions context = true ∧ ∃ reason reason',
        entry.fate conditions context draw = .idle reason ∧
          entry.fate others context draw = .idle reason' := by
  unfold breaks fate
  rcases Requirement.firstFailure?_containedBy h entry.component.requirements with
    ⟨hbreaks, hfailure⟩ | ⟨hbreaks, reason, reason', hfailure, hfailure'⟩
  · rw [hfailure]
    exact .inl ⟨hbreaks, rfl⟩
  · rw [hfailure, hfailure']
    exact .inr ⟨hbreaks, reason, reason', rfl, rfl⟩

theorem deed_fate_containedBy (h : conditions.ContainedBy others) (context : Context)
    (draw : Float) :
    (entry.fate conditions context draw).deed = (entry.fate others context draw).deed := by
  rcases fate_containedBy h context draw with ⟨-, hfate⟩ | ⟨-, reason, reason', hidle, hidle'⟩
  · rw [hfate]
  · rw [hidle, hidle']
    rfl

end Entry

/-- The two runs differ at most in their rows. -/
structure Resolution.Unmoved (before after : Resolution) : Prop where
  context : after.context = before.context
  effects : after.effects = before.effects
  totalDamage : after.totalDamage = before.totalDamage
  taken : after.taken = before.taken

theorem Resolution.unmoved_turn {conditions : Conditions} {draws : Random.Units}
    {resolution : Resolution} {entry : Entry} {reason : String}
    (hfate : entry.fate conditions resolution.context (draws resolution.taken) = .idle reason) :
    resolution.Unmoved (resolution.turn conditions draws entry) := by
  rw [turn_eq_undergo, hfate]
  exact ⟨rfl, rfl, rfl, rfl⟩

/-! ## Reports -/

/-- The row of a component of which nothing came. -/
structure Row.Idle (row : Row) : Prop where
  active : row.active = false
  damage : row.damage = 0
  damageType : row.damageType = none
  critical : row.critical = false
  effects : row.effects = []
  touched : row.touched = 0
  telemetry : row.telemetry = ∅

theorem Row.idle_fail (entry : Entry) (reason : String) :
    ((ofEntry entry).fail reason).Idle :=
  ⟨rfl, rfl, rfl, rfl, rfl, rfl, rfl⟩

theorem Row.active_meet_of_deed {fate other : Fate} (h : fate.deed = other.deed) (row : Row) :
    (row.meet fate).active = (row.meet other).active := by
  rcases Fate.deed_eq_iff.mp h with rfl | ⟨reason, reason', rfl, rfl⟩ <;> rfl

/-- Reports that differ at most in the reasons of the components that broke. -/
structure Report.AgreesBut (entries : List Entry) (broke : Entry → Bool)
    (report other : Report) : Prop where
  totalDamage : report.totalDamage = other.totalDamage
  effects : report.effects = other.effects
  activeComponents : report.activeComponents = other.activeComponents
  diagnostics : report.diagnostics = other.diagnostics
  length_rows : report.rows.length = entries.length
  length_rows' : other.rows.length = entries.length
  whole : ∀ entry row row', (entry, row, row') ∈ entries.zip (report.rows.zip other.rows) →
    broke entry = false → row = row'
  broken : ∀ entry row row', (entry, row, row') ∈ entries.zip (report.rows.zip other.rows) →
    broke entry = true → row.Idle ∧ ∃ reason, row' = { row with reason := some reason }

namespace Fates

variable {fates others : Fates} {conditions conditions' : Conditions} {draws : Random.Units}
  {built : Context} {done : List Entry}

/-- In one sequence, all turns were of the same deeds. -/
abbrev SameDeeds (fates others : Fates) (done : List Entry) : Prop :=
  Paired (fun fate other => fate.deed = other.deed) fates others done done

theorem SameDeeds.unmoved (h : fates.SameDeeds others done) (built : Context) :
    (fates.resolutionAfter built done).Unmoved (others.resolutionAfter built done) := by
  have hemitted := h.emitted_eq fun _ _ => id
  have hstrikes := h.strikes_eq fun _ _ => id
  have hdrawn := h.drawn_eq fun _ _ => id
  constructor
  · simp only [resolutionAfter, contextAfter, hemitted, hstrikes]
  · simp only [resolutionAfter, effects, hstrikes]
  · simp only [resolutionAfter, totalDamage, hstrikes]
  · simp only [resolutionAfter, hdrawn]

theorem Follow.sameDeeds (hconditions : conditions.ContainedBy conditions') {order : List Entry}
    (h : fates.Follow conditions draws built [] order)
    (h' : others.Follow conditions' draws built [] order) : fates.SameDeeds others order := by
  refine Follow.paired (fun _ _ => id) ?_ (List.forall₂_same.mpr fun _ _ => rfl) h h'
  rintro entry _ rfl
  exact ⟨rfl, fun bonuses strikes draw => Entry.deed_fate_containedBy hconditions _ draw⟩

section Reached

variable {entry : Entry} (hconditions : conditions.ContainedBy conditions')
  (hnumbered : built.Numbered) (h : fates.Follow conditions draws built [] built.turns)
  (h' : others.Follow conditions' draws built [] built.turns) (hentry : entry ∈ built.entries)

include hconditions hnumbered h h' hentry

/-- Up to the turn of a component, the runs differ at most in their rows. -/
theorem Follow.unmoved_reached :
    (built.reached conditions draws entry.position).Unmoved
      (built.reached conditions' draws entry.position) := by
  obtain ⟨before, after, hturns⟩ := List.append_of_mem (built.turns_perm.mem_iff.mpr hentry)
  rw [h.reached_eq hnumbered hturns, h'.reached_eq hnumbered hturns]
  rw [hturns] at h h'
  exact ((follow_append.mp h).1.sameDeeds hconditions (follow_append.mp h').1).unmoved built

theorem Follow.fates_containedBy :
    let broke := entry.breaks conditions (built.reached conditions draws entry.position).context
    (broke = false ∧ fates entry.position = others entry.position) ∨
      broke = true ∧ ∃ reason reason',
        fates entry.position = .idle reason ∧ others entry.position = .idle reason' := by
  intro broke
  have hreached := h.unmoved_reached hconditions hnumbered h' hentry
  rw [h.fate_reached hnumbered hentry, h'.fate_reached hnumbered hentry, hreached.context,
    hreached.taken]
  exact Entry.fate_containedBy hconditions _ _

end Reached

theorem SameDeeds.agreesBut {broke : Entry → Bool} (h : fates.SameDeeds others built.turns)
    (hfates : ∀ entry ∈ built.entries,
      (broke entry = false ∧ fates entry.position = others entry.position) ∨
        broke entry = true ∧ ∃ reason reason',
          fates entry.position = .idle reason ∧ others entry.position = .idle reason') :
    (fates.report built built.turns).AgreesBut built.entries broke
      (others.report built built.turns) where
  totalDamage := (h.unmoved built).totalDamage.symm
  effects := (h.unmoved built).effects.symm
  activeComponents := by
    simp only [Report.activeComponents, report, List.countP_map]
    apply List.countP_congr
    intro entry hentry
    have hdeed := h.forall_mem entry (built.turns_perm.mem_iff.mpr hentry)
    rw [Function.comp_apply, Function.comp_apply, row, row, Row.active_meet_of_deed hdeed]
  diagnostics := rfl
  length_rows := List.length_map _
  length_rows' := List.length_map _
  whole := by
    intro entry row row' hmem hwhole
    obtain ⟨hentry, rfl, rfl⟩ := mem_zip_rows hmem
    rcases hfates entry hentry with ⟨-, hfate⟩ | ⟨hbroke, -⟩
    · exact congrArg (Row.meet _) hfate
    · cases hbroke.symm.trans hwhole
  broken := by
    intro entry row row' hmem hbroke
    obtain ⟨hentry, rfl, rfl⟩ := mem_zip_rows hmem
    rcases hfates entry hentry with ⟨hwhole, -⟩ | ⟨-, reason, reason', hidle, hidle'⟩
    · cases hbroke.symm.trans hwhole
    · rw [row, row, hidle, hidle']
      exact ⟨Row.idle_fail entry reason, reason', rfl⟩

end Fates

/-- Whatever conditions break, and wherever: the reports are those of conditions that say no
instead, but for the reasons of the components that have asked them.  These stay idle, and
their turns write nothing, strike nothing and take no draw. -/
theorem Catalog.simulate_containedBy {catalog other : Catalog}
    (hget : ∀ id, other.get? id = catalog.get? id)
    (hconditions : catalog.conditions.ContainedBy other.conditions) (draws : Random.Units)
    (slots : Slots) :
    let built := Context.build catalog.get? slots
    let reached := built.reached catalog.conditions draws
    let reached' := built.reached other.conditions draws
    let broke : Entry → Bool := fun entry =>
      entry.breaks catalog.conditions (reached entry.position).context
    (catalog.simulate draws slots).AgreesBut built.entries broke (other.simulate draws slots) ∧
      ∀ entry ∈ built.entries,
        (reached entry.position).Unmoved (reached' entry.position) ∧
          (broke entry = true →
            (reached entry.position).Unmoved
                ((reached entry.position).turn catalog.conditions draws entry) ∧
              (reached' entry.position).Unmoved
                ((reached' entry.position).turn other.conditions draws entry)) := by
  intro built reached reached' broke
  have hnumbered : built.Numbered := Context.numbered_build _ _
  have hbuilt : Context.build other.get? slots = built := by rw [funext hget]
  obtain ⟨fates, hfollow, hreport⟩ :=
    Context.exists_resolve_eq catalog.conditions draws hnumbered
  obtain ⟨others, hfollow', hreport'⟩ :=
    Context.exists_resolve_eq other.conditions draws hnumbered
  have hfates := fun (entry : Entry) (hentry : entry ∈ built.entries) =>
    hfollow.fates_containedBy hconditions hnumbered hfollow' hentry
  constructor
  · unfold simulate
    rw [hbuilt, hreport, hreport']
    exact (hfollow.sameDeeds hconditions hfollow').agreesBut hfates
  · intro entry hentry
    refine ⟨hfollow.unmoved_reached hconditions hnumbered hfollow' hentry, fun hbroke => ?_⟩
    rcases hfates entry hentry with ⟨hwhole, -⟩ | ⟨-, reason, reason', hidle, hidle'⟩
    · cases hbroke.symm.trans hwhole
    · rw [hfollow.fate_reached hnumbered hentry] at hidle
      rw [hfollow'.fate_reached hnumbered hentry] at hidle'
      exact ⟨Resolution.unmoved_turn hidle, Resolution.unmoved_turn hidle'⟩

namespace Catalog

/-- The only condition crashes at the second position. -/
def moody : Catalog where
  components := [Standard.stormCore, Standard.overclock]
  conditions := ⟨.ofList [("all_unique", fun placement _ =>
    if placement.position = 2 then .crashed (some "gone") else .answer true)]⟩

/-- Of two modifiers that ask, the one at the second position stays idle and the other acts;
a no instead of the crash gives the same numbers and another reason. -/
theorem moody_simulate_containedBy :
    let other : Catalog := { moody with conditions := moody.conditions.contained }
    let draws : Random.Units := fun _ => 0
    let slots : Slots := [some (.plain "storm_core"), some (.plain "overclock"),
      some (.plain "overclock")]
    let built := Context.build moody.get? slots
    let report := moody.simulate draws slots
    (∀ id, other.get? id = moody.get? id) ∧ moody.conditions.ContainedBy other.conditions ∧
      report.totalDamage = (other.simulate draws slots).totalDamage ∧
      built.entries.map (fun entry => entry.breaks moody.conditions
        (built.reached moody.conditions draws entry.position).context) = [false, true, false] ∧
      report.rows.map Row.touched = [0, 0, 1] ∧
      report.rows.map Row.reason = [none, some ("custom condition errored: Requirement of " ++
        "'overclock' could not be evaluated: condition 'all_unique' panicked: gone"), none] ∧
      (other.simulate draws slots).rows.map Row.reason =
        [none, some "condition 'all_unique' not met", none] := by
  intro other draws slots built report
  have hcontained := moody.conditions.containedBy_contained
  have hagrees := (@simulate_containedBy moody other (fun _ => rfl) hcontained draws slots).1
  exact ⟨fun _ => rfl, hcontained, hagrees.totalDamage, by decide +kernel, by decide +kernel,
    by decide +kernel, by decide +kernel⟩

end Catalog

end TickArena

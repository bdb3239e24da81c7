import TickArena.Arena.Evaluation
import TickArena.Proofs.DoubleOrder
import TickArena.Proofs.Lists

/-!
# The best row

The best row of a report is found in one look at its rows, from the first to the last: it gives
way only to more damage.  A row that deals damage has a number for it, and numbers are ordered
as their order keys, so the look finds the first of the rows whose key is greatest.  In a
simulation there are only numbers.
-/

namespace TickArena

/-! ## Rows that contend -/

namespace Row

/-- The order key of the damage. -/
def key (row : Row) : Int :=
  Double.orderKey row.damage

/-- The row is active and has dealt damage. -/
@[mk_iff]
structure Contends (row : Row) : Prop where
  active : row.active = true
  damage_pos : 0 < row.damage

instance (row : Row) : Decidable row.Contends :=
  decidable_of_iff _ row.contends_iff.symm

/-- The row contends, and every active row deals at most its damage. -/
structure Leads (row : Row) (rows : List Row) : Prop where
  contends : row.Contends
  most : ∀ other ∈ rows, other.active = true → other.damage ≤ row.damage

variable {row other : Row} {rows : List Row}

theorem Contends.number (h : row.Contends) : ¬ row.damage.isNaN :=
  Double.not_isNaN_of_pos h.damage_pos

theorem Contends.damage_le_iff (h : row.Contends) (hother : other.Contends) :
    row.damage ≤ other.damage ↔ row.key ≤ other.key := by
  rw [Double.le_iff, and_iff_right h.number, and_iff_right hother.number]
  rfl

theorem Leads.key_le (h : row.Leads rows) (hmem : other ∈ rows) (hother : other.Contends) :
    other.key ≤ row.key :=
  (hother.damage_le_iff h.contends).mp (h.most other hmem hother.active)

/-- A contender that deals as much as a row that leads does so too. -/
theorem Leads.of_key_le (h : row.Leads rows) (hother : other.Contends)
    (hkey : row.key ≤ other.key) : other.Leads rows := by
  have hle : row.damage ≤ other.damage := (h.contends.damage_le_iff hother).mpr hkey
  exact ⟨hother, fun third hthird hactive => Double.le_trans (h.most third hthird hactive) hle⟩

end Row

/-! ## The look at the rows -/

namespace Report

variable {report : Report} {row : Row} {index : Nat}

def contenders (rows : List Row) : List Row :=
  rows.filter fun row => row.Contends

theorem mem_contenders {rows : List Row} : row ∈ contenders rows ↔ row ∈ rows ∧ row.Contends := by
  simp [contenders]

theorem contenders_append_cons {earlier later : List Row} (h : row.Contends) :
    contenders (earlier ++ row :: later) = contenders earlier ++ row :: contenders later := by
  simp [contenders, h]

theorem best?_eq_foldl (report : Report) :
    report.best? = (contenders report.rows).foldl better none := by
  simp [best?, contenders, Row.contends_iff]

/-- Of two contenders the later one is better if its key is greater. -/
theorem better_some {leader : Row} (hleader : leader.Contends) (hrow : row.Contends) :
    better (some leader) row = if leader.key < row.key then some row else some leader := by
  unfold better
  dsimp only
  simp only [hrow.damage_le_iff hleader, ← not_lt, ite_not]

theorem foldl_better_eq_argmax {rows : List Row} (h : ∀ row ∈ rows, row.Contends) :
    rows.foldl better none = rows.argmax Row.key := by
  induction rows using List.reverseRecOn with
  | nil => rfl
  | append_singleton rows last ih =>
    rw [List.forall_mem_append, List.forall_mem_singleton] at h
    rw [List.foldl_concat, ih h.1, List.argmax_concat]
    cases hbest : rows.argmax Row.key with
    | none => rfl
    | some leader => exact better_some (h.1 leader (List.argmax_mem hbest)) h.2

theorem best?_eq_argmax (report : Report) :
    report.best? = (contenders report.rows).argmax Row.key := by
  rw [best?_eq_foldl]
  exact foldl_better_eq_argmax fun row hrow => (mem_contenders.mp hrow).2

theorem best?_eq_none_iff : report.best? = none ↔ ∀ row ∈ report.rows, ¬ row.Contends := by
  rw [best?_eq_argmax, List.argmax_eq_none, contenders, List.filter_eq_nil_iff]
  simp

/-- What idle rows say is not looked at. -/
theorem best?_congr {other : Report}
    (h : other.rows.filter Row.active = report.rows.filter Row.active) :
    other.best? = report.best? := by
  have hcontenders : ∀ rows : List Row,
      contenders rows = (rows.filter Row.active).filter fun row => 0 < row.damage := by
    intro rows
    simp [contenders, Row.contends_iff, List.filter_filter, Bool.and_comm]
  rw [best?_eq_foldl, best?_eq_foldl, hcontenders, hcontenders, h]

/-- The indexes of the rows that lead. -/
def leaders (report : Report) : Set Nat :=
  {index | ∃ row, report.rows[index]? = some row ∧ row.Leads report.rows}

/-- A contender that stands before all rows that lead deals less than they do. -/
theorem key_lt_of_before {other : Row} {earlier later : List Row}
    (hrows : report.rows = earlier ++ later) (hbefore : earlier.length ∈ lowerBounds report.leaders)
    (hleads : row.Leads report.rows) (hmem : other ∈ earlier) (hother : other.Contends) :
    other.key < row.key := by
  by_contra hkey
  -- Otherwise it leads too.
  have hleads' : other.Leads report.rows := hleads.of_key_le hother (not_lt.mp hkey)
  obtain ⟨place, hplace, rfl⟩ := List.mem_iff_getElem.mp hmem
  have hfound : report.rows[place]? = some earlier[place] := by
    rw [hrows, List.getElem?_append_left hplace, List.getElem?_eq_getElem hplace]
  exact absurd (hbefore ⟨_, hfound, hleads'⟩) (not_le.mpr hplace)

/-- Whichever row leads first is the best. -/
theorem best?_of_isLeast (h : IsLeast report.leaders index)
    (hrow : report.rows[index]? = some row) : report.best? = some row := by
  obtain ⟨⟨leader, hleader, hleads⟩, hleast⟩ := h
  obtain rfl : leader = row := Option.some.inj (hleader.symm.trans hrow)
  obtain ⟨earlier, later, hrows, rfl⟩ := exists_append_cons_of_getElem? hrow
  rw [best?_eq_argmax, hrows, contenders_append_cons hleads.contends]
  apply argmax_append_cons
  · intro other hother
    obtain ⟨hmem, hcontends⟩ := mem_contenders.mp hother
    exact key_lt_of_before hrows hleast hleads hmem hcontends
  · intro other hother
    obtain ⟨hmem, hcontends⟩ := mem_contenders.mp hother
    apply hleads.key_le _ hcontends
    rw [hrows]
    exact List.mem_append_right _ (List.mem_cons_of_mem _ hmem)

section Numbers

variable (hnumbers : ∀ row ∈ report.rows, row.active = true → ¬ row.damage.isNaN)

include hnumbers

theorem leads_of_best? (h : report.best? = some row) :
    row ∈ report.rows ∧ row.Leads report.rows := by
  rw [best?_eq_argmax] at h
  obtain ⟨hrow, hcontends⟩ := mem_contenders.mp (List.argmax_mem h)
  refine ⟨hrow, hcontends, fun other hother hactive => ?_⟩
  by_cases hpos : 0 < other.damage
  · have hrival : other.Contends := ⟨hactive, hpos⟩
    exact (hrival.damage_le_iff hcontends).mpr
      (List.le_of_mem_argmax (mem_contenders.mpr ⟨hother, hrival⟩) h)
  · have hnil : other.damage ≤ 0 :=
      Double.le_of_not_lt Double.not_isNaN_zero (hnumbers other hother hactive) hpos
    exact Double.le_trans hnil (Double.le_of_lt hcontends.damage_pos)

theorem best?_eq_some_iff :
    report.best? = some row ↔
      ∃ index, IsLeast report.leaders index ∧ report.rows[index]? = some row := by
  constructor
  · intro hbest
    obtain ⟨hrow, hleads⟩ := leads_of_best? hnumbers hbest
    obtain ⟨place, hplace⟩ := List.mem_iff_getElem?.mp hrow
    have hleast : IsLeast report.leaders (sInf report.leaders) :=
      isLeast_csInf ⟨place, row, hplace, hleads⟩
    obtain ⟨leader, hleader, -⟩ := hleast.1
    rw [best?_of_isLeast hleast hleader] at hbest
    exact ⟨_, hleast, hleader.trans hbest⟩
  · rintro ⟨index, hleast, hrow⟩
    exact best?_of_isLeast hleast hrow

end Numbers

/-- There is no best row if and only if no active row has dealt damage.  Otherwise it is the first
of those that have dealt some, and as much as every active row.  Idle rows make no difference. -/
theorem best?_earliest (report : Report)
    (hnumbers : ∀ row ∈ report.rows, row.active = true → ¬ row.damage.isNaN) :
    (report.best? = none ↔ ∀ row ∈ report.rows, ¬ row.Contends) ∧
      (∀ row, report.best? = some row ↔
        ∃ index, IsLeast report.leaders index ∧ report.rows[index]? = some row) ∧
      ∀ other : Report, other.rows.filter Row.active = report.rows.filter Row.active →
        other.best? = report.best? :=
  ⟨best?_eq_none_iff, fun _ => best?_eq_some_iff hnumbers, fun _ => best?_congr⟩

/-- Two active rows have dealt the most.  One idle row shows more, and the other no number. -/
def deadHeat : Report :=
  let core (active : Bool) (damage : Float) (position : Nat) : Row :=
    { componentId := "ember_core", position, slot := position, type := .core, rarity := .common
      active, reason := none, damage, damageType := none, critical := false, effects := []
      touched := 0, telemetry := ∅ }
  { rows := [core false 90 1, core true 0 2, core true 40 3, core true 75 4, core false (0 / 0) 5,
      core true 75 6, core true 20 7]
    totalDamage := 210, effects := [], diagnostics := [] }

theorem deadHeat_best?_earliest :
    (∀ row ∈ deadHeat.rows, row.active = true → ¬ row.damage.isNaN) ∧
      ¬ (∀ row ∈ deadHeat.rows, ¬ row.Contends) ∧
      (∃ row index, deadHeat.best? = some row ∧ row.position = 4 ∧
        IsLeast deadHeat.leaders index ∧ deadHeat.rows[index]? = some row) ∧
      { deadHeat with rows := deadHeat.rows.filter Row.active }.best? = deadHeat.best? := by
  have hnumbers : ∀ row ∈ deadHeat.rows, row.active = true → ¬ row.damage.isNaN := by
    decide +kernel
  obtain ⟨hnone, hsome, hidle⟩ := best?_earliest deadHeat hnumbers
  have hfourth : deadHeat.best?.map Row.position = some 4 := by decide +kernel
  obtain ⟨row, hbest, hposition⟩ := Option.map_eq_some_iff.mp hfourth
  obtain ⟨index, hleast, hrow⟩ := (hsome row).mp hbest
  refine ⟨hnumbers, fun h => ?_, ⟨row, index, hbest, hposition, hleast, hrow⟩, hidle _ ?_⟩
  · rw [hnone.mpr h] at hbest
    contradiction
  · simp [List.filter_filter]

end Report

/-! ## The damages of a simulation -/

theorem Row.number_settle {row : Row} (h : ¬ row.damage.isNaN) (stance : Stance) (draw : Float) :
    ¬ (row.settle (stance.act draw)).damage.isNaN := by
  unfold Stance.act
  cases stance.component.ability with
  | strike behavior => exact Double.not_isNaN_clampAtZero _
  | weave behavior => exact h

namespace Resolution

variable {resolution : Resolution}

/-- All damages are numbers. -/
def Numeric (resolution : Resolution) : Prop :=
  ∀ row ∈ resolution.rows, ¬ row.damage.isNaN

theorem numeric_start (context : Context) : (start context).Numeric := by
  intro row hrow
  obtain ⟨entry, -, rfl⟩ := List.mem_map.mp hrow
  exact Double.not_isNaN_zero

theorem Numeric.editRow (h : resolution.Numeric) (position : Nat) {edit : Row → Row}
    (hedit : ∀ row : Row, ¬ row.damage.isNaN → ¬ (edit row).damage.isNaN) :
    (resolution.editRow position edit).Numeric := by
  intro row hrow
  obtain ⟨before, hbefore, rfl⟩ := List.mem_map.mp hrow
  split_ifs
  · exact hedit before (h before hbefore)
  · exact h before hbefore

theorem rows_tally (resolution : Resolution) (position : Nat) (outcome : Outcome) :
    (resolution.tally position outcome).rows = resolution.rows := by
  cases outcome <;> rfl

theorem Numeric.turn (h : resolution.Numeric) (conditions : Conditions) (draws : Random.Units)
    (entry : Entry) : (resolution.turn conditions draws entry).Numeric := by
  unfold Resolution.turn
  split
  · exact h.editRow _ fun _ hnumber => hnumber
  · refine Numeric.editRow ?_ _ fun row hnumber => Row.number_settle hnumber _ _
    unfold Numeric
    rw [rows_tally]
    exact h

end Resolution

theorem Catalog.number_simulate (catalog : Catalog) (draws : Random.Units) (slots : Slots) :
    ∀ row ∈ (catalog.simulate draws slots).rows, ¬ row.damage.isNaN :=
  List.foldlRecOn (motive := Resolution.Numeric) _ _ (Resolution.numeric_start _)
    fun _ hnumeric entry _ => hnumeric.turn _ _ entry

/-- A live update names the component of the first row with the most damage, if there is one. -/
theorem Arena.best_liveUpdate (arena : Arena) (request : Request) (entrant : Nat × Submission) :
    let report := arena.evaluate entrant.1 request.tick entrant.2.slots
    ∃ best, liveUpdate request (arena.evaluateOne request entrant) =
        .liveUpdate entrant.1 (report.totalDamage * request.multiplier) report.activeComponents
          best ∧
      (best = none ↔ ∀ row ∈ report.rows, ¬ row.Contends) ∧
      ∀ componentId, best = some componentId ↔
        ∃ index row, IsLeast report.leaders index ∧ report.rows[index]? = some row ∧
          row.componentId = componentId := by
  intro report
  refine ⟨report.best?.map Row.componentId, rfl, ?_, fun componentId => ?_⟩
  · rw [Option.map_eq_none_iff, Report.best?_eq_none_iff]
  · have hnumbers : ∀ row ∈ report.rows, row.active = true → ¬ row.damage.isNaN :=
      fun row hrow _ => arena.catalog.number_simulate _ _ row hrow
    simp only [Option.map_eq_some_iff, Report.best?_eq_some_iff hnumbers]
    constructor
    · rintro ⟨row, ⟨index, hleast, hrow⟩, rfl⟩
      exact ⟨index, row, hleast, hrow, rfl⟩
    · rintro ⟨index, row, hleast, hrow, rfl⟩
      exact ⟨row, ⟨index, hleast, hrow⟩, rfl⟩

end TickArena

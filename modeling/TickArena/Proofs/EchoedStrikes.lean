import TickArena.Proofs.ReportRows
import TickArena.Proofs.TableLookups

/-!
# What an echo repeats

An echo looks back from its position, over whatever has no strike on record, to the nearest one
that has.  In a simulation the strikes on record are those of the active damage dealers before it,
with the damage that their rows report in the end.
-/

namespace TickArena

/-! ## Looking back -/

namespace Context

variable {context : Context} {position : Nat}

/-- The strike that is found is the nearest one. -/
theorem lastStrikeBefore?_eq_some_iff {source : Nat} {damage : Float} :
    context.lastStrikeBefore? position = some (source, damage) ↔
      source < position ∧ context.strikeAt? source = some damage ∧
        ∀ between, source < between → between < position → context.strikeAt? between = none := by
  induction position with
  | zero => simp [lastStrikeBefore?]
  | succ last ih =>
    unfold lastStrikeBefore?
    cases hlast : context.strikeAt? last with
    | none =>
      dsimp only
      rw [ih]
      constructor
      · rintro ⟨hsource, hstrike, hbetween⟩
        refine ⟨by omega, hstrike, fun between hafter hbefore => ?_⟩
        rcases Nat.lt_succ_iff_lt_or_eq.mp hbefore with hearlier | rfl
        · exact hbetween between hafter hearlier
        · exact hlast
      · rintro ⟨hsource, hstrike, hbetween⟩
        have hne : source ≠ last := by
          rintro rfl
          rw [hlast] at hstrike
          contradiction
        exact ⟨by omega, hstrike, fun between hafter hbefore => hbetween between hafter (by omega)⟩
    | some struck =>
      dsimp only
      rw [Option.some_inj, Prod.mk.injEq]
      constructor
      · rintro ⟨rfl, rfl⟩
        exact ⟨by omega, hlast, fun between hafter hbefore => by omega⟩
      · rintro ⟨hsource, hstrike, hbetween⟩
        have hsame : last = source := by
          by_contra hne
          rw [hbetween last (by omega) (by omega)] at hlast
          contradiction
        subst hsame
        rw [hlast, Option.some_inj] at hstrike
        exact ⟨rfl, hstrike⟩

theorem lastStrikeBefore?_eq_none_iff :
    context.lastStrikeBefore? position = none ↔
      ∀ earlier < position, context.strikeAt? earlier = none := by
  induction position with
  | zero => simp [lastStrikeBefore?]
  | succ last ih =>
    unfold lastStrikeBefore?
    rw [Nat.forall_lt_succ_right]
    cases hlast : context.strikeAt? last with
    | none => simpa using ih
    | some struck => simp

end Context

/-! ## Strikes on record -/

namespace Fates

variable {fates : Fates} {built : Context} {position : Nat}

theorem damage?_eq_some_iff {entry : Entry} {damage : Float} :
    (fates entry.position).damage? = some damage ↔
      (fates.row entry).active = true ∧ (fates.row entry).damage = damage := by
  have hdamage : (fates entry.position).damage? =
      if (fates.row entry).active then some (fates.row entry).damage else none :=
    Row.damage?_eq_meet entry
  rw [hdamage]
  split_ifs with hactive <;> simp [hactive]

theorem ascending_damages {entries : List Entry}
    (h : entries.Pairwise fun a b => a.position < b.position) :
    Ascending (fates.damages entries) := by
  refine List.Pairwise.filterMap _ (fun entry entry' hbefore row hrow row' hrow' => ?_) h
  obtain ⟨damage, -, rfl⟩ := Option.map_eq_some_iff.mp hrow
  obtain ⟨damage', -, rfl⟩ := Option.map_eq_some_iff.mp hrow'
  exact Nat.compare_eq_lt.mpr hbefore

/-- A damage dealer finds the strikes of those rows before it that deal damage. -/
theorem strikeAt?_dealerView_iff (hnumbered : built.Numbered) {source : Nat} {damage : Float} :
    (fates.dealerView built position).strikeAt? source = some damage ↔
      ∃ row ∈ built.entries.map fates.row, row.deals = true ∧ row.position < position ∧
        row.position = source ∧ row.damage = damage := by
  have hascending : (below position built.dealers).Pairwise fun a b => a.position < b.position :=
    (hnumbered.ascending.filter _).filter _
  have hstrikes : (fates.dealerView built position).strikeAt? source = some damage ↔
      (source, damage) ∈ fates.damages (below position built.dealers) :=
    Table.get?_ofList_eq_some_iff (ascending_damages hascending)
  rw [hstrikes, damages, List.mem_filterMap]
  constructor
  · rintro ⟨entry, hentry, hdamage⟩
    obtain ⟨damage, hdamage, hsource⟩ := Option.map_eq_some_iff.mp hdamage
    obtain ⟨hactive, rfl⟩ := damage?_eq_some_iff.mp hdamage
    obtain ⟨hdealer, hbefore⟩ := List.mem_filter.mp hentry
    obtain ⟨hentry, hdeals⟩ := List.mem_filter.mp hdealer
    cases hsource
    refine ⟨fates.row entry, List.mem_map_of_mem hentry, ?_, ?_, position_row fates entry, rfl⟩
    · rw [Row.deals, hactive, type_row, hdeals]
      rfl
    · rw [position_row]
      exact of_decide_eq_true hbefore
  · rintro ⟨row, hrow, hdeals, hbefore, rfl, rfl⟩
    obtain ⟨entry, hentry, rfl⟩ := List.mem_map.mp hrow
    rw [Row.deals, Bool.and_eq_true, type_row] at hdeals
    rw [position_row] at hbefore
    refine ⟨entry, List.mem_filter.mpr ⟨List.mem_filter.mpr ⟨hentry, hdeals.2⟩, by simpa⟩, ?_⟩
    rw [damage?_eq_some_iff.mpr ⟨hdeals.1, rfl⟩, position_row]
    rfl

end Fates

/-! ## Rows of echoes -/

/-- The row tells which strike it has repeated: its position and its damage. -/
structure Row.Repeats (row : Row) (position : Nat) (damage : Float) : Prop where
  position : row.telemetry.get? "echoed_position" = some (Double.ofCount position)
  damage : row.telemetry.get? "echoed_damage" = some damage

/-- The row stands nearest before a position among those that deal damage. -/
structure Row.NearestBefore (row : Row) (rows : List Row) (position : Nat) : Prop where
  mem : row ∈ rows
  deals : row.deals = true
  before : row.position < position
  nearest : ∀ other ∈ rows, other.deals = true → other.position < position →
    other.position ≤ row.position

theorem Stance.act_eq_strike {stance : Stance} {behavior : StrikeBehavior}
    (h : stance.component.ability = .strike behavior) (draw : Float) :
    stance.act draw = .strike (stance.strike behavior draw) := by
  simp only [act, h]

theorem Stance.strike_echo (stance : Stance) (draw : Float) :
    (stance.strike .echo draw).critical = false ∧
      (stance.strike .echo draw).telemetry = stance.echo.telemetry := by
  have hchance : stance.critChance? .echo = none := if_neg fun h => h.2 rfl
  unfold strike
  rw [hchance]
  exact ⟨rfl, rfl⟩

theorem Stance.get?_telemetry_echo (stance : Stance) :
    let found := (stance.context.lastStrikeBefore? stance.position).getD (0, 0)
    stance.echo.telemetry.get? "echoed_position" = some (Double.ofCount found.1) ∧
      stance.echo.telemetry.get? "echoed_damage" = some found.2 := by
  intro found
  have htelemetry : stance.echo.telemetry =
      ((∅ : Telemetry).insert "echoed_position" (Double.ofCount found.1)).insert
        "echoed_damage" found.2 := rfl
  rw [htelemetry]
  constructor
  · rw [Table.get?_insert_of_ne _ _ (by decide), Table.get?_insert_self]
  · rw [Table.get?_insert_self]

namespace Fates

variable {fates : Fates} {conditions : Conditions} {draws : Random.Units} {built : Context}
  {entry : Entry} {position : Nat}

section Numbered

variable (hnumbered : built.Numbered)

include hnumbered

theorem le_of_strikeAt?_eq_none {row : Row} (hrow : row ∈ built.entries.map fates.row)
    (hdeals : row.deals = true)
    (hnone : (fates.dealerView built position).strikeAt? row.position = none) :
    position ≤ row.position := by
  by_contra hbefore
  rw [(strikeAt?_dealerView_iff hnumbered).mpr
    ⟨row, hrow, hdeals, by omega, rfl, rfl⟩] at hnone
  contradiction

theorem le_of_lastStrikeBefore?_eq_none
    (h : (fates.dealerView built position).lastStrikeBefore? position = none) {row : Row}
    (hrow : row ∈ built.entries.map fates.row) (hdeals : row.deals = true) :
    position ≤ row.position := by
  by_contra hbefore
  have hnone := Context.lastStrikeBefore?_eq_none_iff.mp h row.position (by omega)
  exact hbefore (le_of_strikeAt?_eq_none hnumbered hrow hdeals hnone)

theorem exists_nearestBefore {found : Nat × Float}
    (h : (fates.dealerView built position).lastStrikeBefore? position = some found) :
    ∃ source, Row.NearestBefore source (built.entries.map fates.row) position ∧
      found = (source.position, source.damage) := by
  obtain ⟨-, hstrike, hbetween⟩ := Context.lastStrikeBefore?_eq_some_iff.mp h
  obtain ⟨source, hsource, hdeals, hbefore, hposition, hdamage⟩ :=
    (strikeAt?_dealerView_iff hnumbered).mp hstrike
  refine ⟨source, ⟨hsource, hdeals, hbefore, fun other hother hother' hearlier => ?_⟩,
    Prod.ext hposition.symm hdamage.symm⟩
  by_contra hafter
  have hnone := hbetween other.position (by omega) hearlier
  exact absurd (le_of_strikeAt?_eq_none hnumbered hother hother' hnone) (by omega)

end Numbered

theorem componentId_row (fates : Fates) (entry : Entry) :
    (fates.row entry).componentId = entry.placement.componentId := by
  unfold row
  cases fates entry.position with
  | idle reason => rfl
  | acted outcome drew => cases outcome <;> rfl

theorem TwoPhases.repeats_row (hphases : fates.TwoPhases conditions draws built)
    (hentry : entry ∈ built.dealers) (hecho : entry.component.ability = .strike .echo)
    (hactive : (fates.row entry).active = true) :
    let found :=
      ((fates.dealerView built entry.position).lastStrikeBefore? entry.position).getD (0, 0)
    (fates.row entry).critical = false ∧ (fates.row entry).Repeats found.1 found.2 := by
  intro found
  let draw := draws (fates.drawn (below entry.position built.dealers))
  let stance : Stance :=
    ⟨entry.component, entry.placement, fates.dealerView built entry.position⟩
  obtain ⟨hcritical, htelemetry⟩ := stance.strike_echo draw
  obtain ⟨hposition, hdamage⟩ := stance.get?_telemetry_echo
  rw [← htelemetry] at hposition hdamage
  have hfate : fates entry.position =
      entry.fate conditions (fates.dealerView built entry.position) draw :=
    hphases.dealer entry hentry
  unfold Entry.fate at hfate
  cases hfailure : Requirement.firstFailure? conditions entry.placement
      (fates.dealerView built entry.position) entry.component.requirements with
  | some reason =>
    rw [hfailure] at hfate
    rw [row, hfate] at hactive
    contradiction
  | none =>
    rw [hfailure] at hfate
    dsimp only at hfate
    rw [Stance.act_eq_strike hecho] at hfate
    rw [row, hfate]
    exact ⟨hcritical, hposition, hdamage⟩

end Fates

/-- An active echo repeats the active damage dealer that stands nearest before it, with the damage
that its row reports; if there is none, it repeats nothing.  It is never a critical hit. -/
theorem Catalog.simulate_echoes {catalog : Catalog} (hbuilt : catalog.Built)
    (draws : Random.Units) (slots : Slots) :
    let rows := (catalog.simulate draws slots).rows
    ∀ row ∈ rows, row.active = true →
      (catalog.get? row.componentId).map Component.ability = some (.strike .echo) →
        row.critical = false ∧
          ((∃ source, Row.NearestBefore source rows row.position ∧
              row.Repeats source.position source.damage) ∨
            (∀ other ∈ rows, other.deals = true → row.position ≤ other.position) ∧
              row.Repeats 0 0) := by
  have hfresh := Context.fresh_build catalog.get? slots
  have hnumbered := Context.numbered_build catalog.get? slots
  have hfitting := hbuilt.fitting slots
  obtain ⟨fates, hphases⟩ : ∃ fates : Fates, fates.TwoPhases catalog.conditions draws _ :=
    Fates.exists_twoPhases hfresh hnumbered hfitting
  rw [simulate, Context.resolve_eq _ _ hfresh hnumbered hfitting hphases]
  intro rows row hrow hactive hability
  obtain ⟨entry, hentry, rfl⟩ := List.mem_map.mp hrow
  have hecho : entry.component.ability = .strike .echo := by
    rw [Fates.componentId_row, Context.lookup_of_mem_build entry hentry] at hability
    exact Option.some.inj hability
  have hdealer : entry ∈ (Context.build catalog.get? slots).dealers := by
    have hfits := hfitting entry hentry
    rw [hecho] at hfits
    exact List.mem_filter.mpr ⟨hentry, hfits⟩
  obtain ⟨hcritical, hrepeats⟩ := hphases.repeats_row hdealer hecho hactive
  refine ⟨hcritical, ?_⟩
  rw [Fates.position_row]
  cases hfound : (fates.dealerView _ entry.position).lastStrikeBefore? entry.position with
  | none =>
    rw [hfound] at hrepeats
    exact .inr ⟨fun other => Fates.le_of_lastStrikeBefore?_eq_none hnumbered hfound, hrepeats⟩
  | some found =>
    rw [hfound] at hrepeats
    obtain ⟨source, hnearest, rfl⟩ := Fates.exists_nearestBefore hnumbered hfound
    exact .inl ⟨source, hnearest, hrepeats⟩

namespace Catalog

/-- Two cores that strike, one of them from the front alone, an echo and a modifier. -/
def canyon : Catalog :=
  ⟨[Standard.emberCore, Standard.vanguardCore, Standard.amplifier, Standard.echoCore], .standard⟩

theorem built_canyon : canyon.Built := by
  refine built_of_validated ?_ (by decide +kernel)
  rw [List.forall_mem_cons, List.forall_mem_cons, List.forall_mem_cons, List.forall_mem_singleton]
  exact ⟨validate_eq_ok (by decide +kernel) rfl (by decide +kernel) rfl,
    validate_eq_ok (by decide +kernel) rfl (by decide +kernel) rfl,
    validate_eq_ok (by decide +kernel) rfl (by decide +kernel) rfl,
    validate_eq_ok (by decide +kernel) rfl (by decide +kernel) rfl⟩

/-- The vanguard is not at the front, so the first echo hears the ember core behind it and behind
the amplifier; the second echo hears the first. -/
theorem canyon_simulate_echoes :
    let draws : Random.Units := fun _ => 0
    let slots : Slots := [some (.plain "ember_core"), some (.plain "vanguard_core"),
      some (.plain "amplifier"), some (.plain "echo_core"), some (.plain "echo_core")]
    let rows := (canyon.simulate draws slots).rows
    canyon.Built ∧
      (∃ row ∈ rows, row.position = 4 ∧ row.active = true ∧
        (canyon.get? row.componentId).map Component.ability = some (.strike .echo) ∧
        row.critical = false ∧
          ((∃ source, Row.NearestBefore source rows row.position ∧
              row.Repeats source.position source.damage) ∨
            (∀ other ∈ rows, other.deals = true → row.position ≤ other.position) ∧
              row.Repeats 0 0)) ∧
      rows.map Row.active = [true, false, true, true, true] ∧
      rows.map Row.damage = [80, 0, 0, 78, 58.5] ∧
      rows.filterMap (·.telemetry.get? "echoed_position") = [1, 4] ∧
      rows.filterMap (·.telemetry.get? "echoed_damage") = [80, 78] := by
  intro draws slots rows
  have hfourth : ∃ row ∈ rows, row.position = 4 := by
    have hpositions : 4 ∈ rows.map Row.position := by decide +kernel
    exact List.mem_map.mp hpositions
  have hecho : ∀ row ∈ rows, row.position = 4 → row.active = true ∧
      (canyon.get? row.componentId).map Component.ability = some (.strike .echo) := by
    decide +kernel
  obtain ⟨row, hrow, hposition⟩ := hfourth
  obtain ⟨hactive, hability⟩ := hecho row hrow hposition
  exact ⟨built_canyon, ⟨row, hrow, hposition, hactive, hability,
    simulate_echoes built_canyon draws slots row hrow hactive hability⟩, by decide +kernel,
    by decide +kernel, by decide +kernel, by decide +kernel⟩

end Catalog

end TickArena

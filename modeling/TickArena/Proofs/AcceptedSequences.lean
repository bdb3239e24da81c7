import TickArena.Proofs.ReportRows
import TickArena.Proofs.StoredSubmissions
import TickArena.Proofs.ValidatedRuns

/-!
# Accepted sequences

A sequence is accepted only if it keeps to the limit and the catalog knows all its
components, and the catalog of an arena stays as it is.  So what is stored fits the catalog,
at all times.  An evaluation of it drops nothing: each filled slot takes a position and has a
row, and each bonus finds its target.
-/

namespace TickArena

/-! ## Sequences that fit a catalog -/

namespace Slots

/-- No slot is beyond the limit, and the components of the filled ones are known. -/
structure Fit (catalog : Catalog) (slots : Slots) : Prop where
  length : slots.length ≤ maxSequenceLength
  known : ∀ slot, some slot ∈ slots → catalog.contains slot.componentId = true

theorem fit_of_problem?_eq_none {arena : Arena} {participant : Nat} {slots : Slots}
    (h : arena.problem? participant slots = none) : slots.Fit arena.catalog := by
  constructor
  · by_contra hlong
    rw [Arena.problem?, if_pos (not_le.mp hlong)] at h
    contradiction
  · intro slot hslot
    obtain ⟨number, hnone⟩ := Arena.exists_slotProblem?_eq_none h hslot
    by_contra hunknown
    rw [Arena.slotProblem?, if_pos (by simpa using hunknown)] at hnone
    contradiction

variable {catalog : Catalog} {slots : Slots}

theorem Fit.places (h : slots.Fit catalog) :
    ∀ filled ∈ slots.filled, catalog.places filled = true := by
  intro filled hfilled
  have hnumber := (slots.numbers_filledFrom_sublist 1).subset (List.mem_map_of_mem hfilled)
  have hwithin : filled.2 ≤ maxSequenceLength := by
    have hlength := h.length
    rw [List.mem_range'_1] at hnumber
    omega
  exact Bool.and_eq_true_iff.mpr
    ⟨decide_eq_true hwithin, h.known _ (some_mem_of_mem_filledFrom hfilled)⟩

/-- Slots that fit are all placed, and none of them is noted. -/
theorem Fit.build (h : slots.Fit catalog) :
    catalog.placed slots = slots.filled ∧
      (Context.build catalog.get? slots).diagnostics = [] := by
  constructor
  · exact List.filter_eq_self.mpr h.places
  · rw [Context.diagnostics_build, List.map_eq_nil_iff, List.filter_eq_nil_iff]
    intro filled hfilled
    simp [h.places filled hfilled]

end Slots

variable {catalog : Catalog}

/-! ## Evaluations -/

namespace Arena

/-- Nothing is left to note.  The rows are those of the filled slots, from the first position
on, and in the end the ledger holds what the components have emitted at their turns. -/
structure DropsNothing (arena : Arena) (participant tick : Nat) (slots : Slots) : Prop where
  diagnostics : (arena.evaluate participant tick slots).diagnostics = []
  rows : List.Forall₂ (Row.Shows arena.catalog) slots.filled
    (arena.evaluate participant tick slots).rows
  positions : (arena.evaluate participant tick slots).rows.map Row.position =
    List.range' 1 slots.filled.length
  ledger :
    let conditions := arena.catalog.conditions
    let draws := arena.draws participant tick
    let built := Context.build arena.catalog.get? slots
    let reached := built.reached conditions draws
    (built.ended conditions draws).context.ledger.bonuses = built.turns.flatMap fun entry =>
      (entry.fate conditions (reached entry.position).context
        (draws (reached entry.position).taken)).emitted

theorem dropsNothing_of_fit {arena : Arena} {slots : Slots} (h : slots.Fit arena.catalog)
    (participant tick : Nat) : arena.DropsNothing participant tick slots := by
  have hnumbered := Context.numbered_build arena.catalog.get? slots
  have hentries := Context.fills_build arena.catalog slots
  obtain ⟨hplaced, hdiagnostics⟩ := h.build
  rw [hplaced] at hentries
  obtain ⟨fates, -, hreport⟩ :=
    Context.exists_resolve_eq arena.catalog.conditions (arena.draws participant tick) hnumbered
  have hreport : arena.evaluate participant tick slots = fates.report _ _ := hreport
  refine ⟨?_, ?_, ?_, Context.bonuses_ended hnumbered (Context.fresh_build _ _)⟩
  · rw [hreport]
    exact hdiagnostics
  · rw [hreport]
    exact List.forall₂_map_right_iff.mpr (hentries.imp fun _ _ hfills => hfills.shows_row fates)
  · rw [hreport, Fates.report, Fates.positions_rows, hentries.length_eq]
    exact hnumbered

end Arena

namespace LiveArena

theorem catalog_meet (live : LiveArena) (occasion : Occasion) :
    (live.meet occasion).arena.catalog = live.arena.catalog := by
  change ((live.owning occasion.ownership).move occasion.move).arena.catalog =
    (live.owning occasion.ownership).arena.catalog
  cases occasion.move with
  | submit participant submission =>
    rcases (live.owning occasion.ownership).submit_cases participant submission with
      hsame | hstored
    · rw [move, hsame]
    · rw [move, hstored]
  | depart participant => rfl
  | openTick request now => rw [move, arena_openTick]
  | takeBatch readings => rw [move, arena_takeBatch]
  | abandon => rfl

theorem catalog_through (live : LiveArena) (occasions : List Occasion) :
    (live.through occasions).arena.catalog = live.arena.catalog :=
  List.foldlRecOn (motive := fun now => now.arena.catalog = live.arena.catalog) _ _ rfl
    fun now hnow occasion _ => (catalog_meet now occasion).trans hnow

/-- What is stored was accepted once, by the same catalog. -/
theorem LastTaken.fit {start : LiveArena} {occasions : List Occasion} {participant : Nat}
    {submission : Submission} (h : start.LastTaken occasions participant submission) :
    submission.slots.Fit start.arena.catalog := by
  obtain ⟨earlier, occasion, -, -, ⟨-, htakes⟩, -⟩ := h
  have hfit := Slots.fit_of_problem?_eq_none htakes.2
  rwa [show ((start.through earlier).owning occasion.ownership).arena.catalog =
    start.arena.catalog from catalog_through start earlier] at hfit

/-- After any history, the evaluation of a stored sequence drops nothing. -/
theorem evaluate_stored (settings : Settings) (ownership : Ownership) (occasions : List Occasion)
    {owner : Nat} {submission : Submission}
    (hstored : ((idle (.create catalog settings ownership)).through
      occasions).arena.submissions.get? owner = some submission) (participant tick : Nat) :
    ((idle (.create catalog settings ownership)).through occasions).arena.DropsNothing
      participant tick submission.slots := by
  have hfit := ((get?_through_eq_some_iff rfl).mp hstored).fit
  rw [← catalog_through _ occasions] at hfit
  exact Arena.dropsNothing_of_fit hfit participant tick

/-- A sequence with a gap and a core of another rarity is accepted.  The next one is refused,
as its sender does not own anything any more, and a tick is evaluated. -/
theorem forge_evaluate_stored :
    let slots : Slots := [some ⟨"kindling_core", some .legendary, 2⟩, none,
      some (.plain "storm_core"), some (.plain "conduit")]
    let occasions : List Occasion :=
      [⟨.everyone, .submit 7 ⟨slots, "first"⟩⟩,
        ⟨.inventory [], .submit 7 ⟨[some (.plain "overclock")], "second"⟩⟩,
        ⟨.inventory [], .openTick (.regular 1) 0⟩, ⟨.inventory [], .takeBatch fun _ => 0⟩]
    let arena := ((idle (.create .forge .standard .everyone)).through occasions).arena
    let report := arena.evaluate 7 2 slots
    arena.submissions.get? 7 = some ⟨slots, "first"⟩ ∧ arena.DropsNothing 7 2 slots ∧
      arena.ticksProcessed = 1 ∧
      report.rows.map (fun row => (row.componentId, row.position, row.slot, row.rarity)) =
        [("kindling_core", 1, 1, .legendary), ("storm_core", 2, 3, .rare),
          ("conduit", 3, 4, .uncommon)] := by
  intro slots occasions arena report
  have hstored : arena.submissions.get? 7 = some ⟨slots, "first"⟩ := by decide +kernel
  exact ⟨hstored, evaluate_stored .standard .everyone occasions hstored 7 2, by decide +kernel,
    by decide +kernel⟩

end LiveArena

end TickArena

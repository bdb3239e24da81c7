import TickArena.Proofs.Lists
import TickArena.Proofs.Silhouettes
import TickArena.Proofs.TwoPhases

/-!
# Two runs side by side

Two runs of corresponding turns write the same, as long as corresponding components do the
same whenever the same has been written before them.  What a component that stays idle
gives as its reason may differ: nobody reads it.
-/

namespace TickArena

namespace Fate

/-- What an ability has done and whether it took a draw; nothing if it stayed idle. -/
def deed : Fate → Option (Outcome × Bool)
  | idle _ => none
  | acted outcome drew => some (outcome, drew)

variable {fate other : Fate}

/-- Fates of one deed are the same, or both idle. -/
theorem deed_eq_iff : fate.deed = other.deed ↔
    fate = other ∨ ∃ reason reason', fate = idle reason ∧ other = idle reason' := by
  cases fate <;> cases other <;> simp [deed]

theorem emitted_eq_of_deed (h : fate.deed = other.deed) : fate.emitted = other.emitted := by
  rcases deed_eq_iff.mp h with rfl | ⟨reason, reason', rfl, rfl⟩ <;> rfl

theorem struck_eq_of_deed (h : fate.deed = other.deed) : fate.struck = other.struck := by
  rcases deed_eq_iff.mp h with rfl | ⟨reason, reason', rfl, rfl⟩ <;> rfl

theorem drew_eq_of_deed (h : fate.deed = other.deed) : fate.drew = other.drew := by
  rcases deed_eq_iff.mp h with rfl | ⟨reason, reason', rfl, rfl⟩ <;> rfl

end Fate

/-! ## One turn in two sequences -/

/-- A component whose slot alone differs meets the same fate in a context that looks the
same and holds the same bonuses and strikes. -/
theorem Entry.fate_eq_of_resemble {conditions : Conditions}
    (hconditions : conditions.ReadSilhouettes) {entry other : Entry} {context context' : Context}
    (hentry : entry.unslotted = other.unslotted)
    (hentries : Resemble context.entries context'.entries)
    (hledger : context.ledger = context'.ledger) (hstrikes : context.strikes = context'.strikes)
    (draw : Float) :
    entry.fate conditions context draw = other.fate conditions context' draw := by
  obtain ⟨hplacement, hcomponent⟩ := Entry.unslotted_eq_iff.mp hentry
  have hverdicts : ∀ name condition, conditions.get? name = some condition →
      condition entry.placement context = condition other.placement context' :=
    fun name condition hcondition =>
      hconditions name condition hcondition _ _ _ _ hplacement hentries
  unfold fate
  rw [Requirement.firstFailure?_eq_of_resemble hplacement hentries hverdicts, hcomponent]
  cases Requirement.firstFailure? conditions other.placement context'
      other.component.requirements with
  | some reason => rfl
  | none =>
    dsimp only
    rw [← Stance.act_unslotted, ← Stance.draws_unslotted, hplacement, Stance.act_unslotted,
      Stance.draws_unslotted, Stance.act_eq_of_resemble hentries hledger hstrikes,
      Stance.draws_eq_of_ledger hledger]

theorem Entry.fate_record_eq {conditions : Conditions} (hconditions : conditions.ReadSilhouettes)
    {entry other : Entry} {built built' : Context} (hentry : entry.unslotted = other.unslotted)
    (hentries : Resemble built.entries built'.entries) (hledger : built.ledger = built'.ledger)
    (hstrikes : built.strikes = built'.strikes) (bonuses : List Bonus)
    (strikes : List (Nat × StrikeOutcome)) (draw : Float) :
    entry.fate conditions (built.record bonuses strikes) draw =
      other.fate conditions (built'.record bonuses strikes) draw := by
  have hentries : Resemble (built.record bonuses strikes).entries
      (built'.record bonuses strikes).entries := hentries
  apply fate_eq_of_resemble hconditions hentry hentries
  · simp only [Context.record, hledger]
  · simp only [Context.record, hstrikes]

/-! ## Runs -/

/-- Resolving a sequence is telling the fates that follow its turns. -/
theorem Context.exists_resolve_eq (conditions : Conditions) (draws : Random.Units)
    {built : Context} (hnumbered : built.Numbered) :
    ∃ fates : Fates, fates.Follow conditions draws built [] built.turns ∧
      built.resolve conditions draws = fates.report built built.turns := by
  have hperm := built.turns_perm
  have hnodup := (hperm.map Entry.position).nodup_iff.mpr hnumbered.nodup
  obtain ⟨fates, hfollow⟩ := Fates.exists_follow conditions draws built hnodup
  exact ⟨fates, hfollow, Fates.toReport_foldl_turn hnumbered hperm hfollow⟩

/-- The run when the component at a position is about to have its turn. -/
def Context.reached (conditions : Conditions) (draws : Random.Units) (built : Context)
    (position : Nat) : Resolution :=
  (built.turns.takeWhile fun entry => entry.position ≠ position).foldl
    (Resolution.turn conditions draws) (.start built)

namespace Fates

section Turns

variable {fates others : Fates} {conditions : Conditions} {draws : Random.Units}
  {built : Context} {entry : Entry} {before after : List Entry}

theorem Follow.fate_eq (h : fates.Follow conditions draws built [] (before ++ entry :: after)) :
    fates entry.position = entry.fate conditions (fates.contextAfter built before)
      (draws (fates.drawn before)) :=
  (follow_append.mp h).2.1

theorem takeWhile_turns (hnodup : ((before ++ entry :: after).map Entry.position).Nodup) :
    (before ++ entry :: after).takeWhile (fun other => other.position ≠ entry.position) =
      before := by
  rw [List.map_append, List.nodup_append] at hnodup
  have hbefore : ∀ other ∈ before, decide (other.position ≠ entry.position) = true := by
    intro other hother
    exact decide_eq_true (hnodup.2.2 _ (List.mem_map_of_mem hother) _ List.mem_cons_self)
  rw [List.takeWhile_append_of_pos hbefore]
  simp

theorem Follow.reached_eq (hnumbered : built.Numbered)
    (h : fates.Follow conditions draws built [] built.turns)
    (hturns : built.turns = before ++ entry :: after) :
    built.reached conditions draws entry.position = fates.resolutionAfter built before := by
  have hnodup : (built.turns.map Entry.position).Nodup :=
    (built.turns_perm.map Entry.position).nodup_iff.mpr hnumbered.nodup
  have hentries : ∀ other ∈ before, other ∈ built.entries := by
    intro other hother
    exact built.turns_perm.mem_iff.mp (by simp [hturns, hother])
  unfold Context.reached
  rw [hturns] at hnodup h ⊢
  rw [takeWhile_turns hnodup, ← resolutionAfter_nil fates]
  apply foldl_turn hnumbered hentries _ (follow_append.mp h).1
  rw [List.nil_append]
  exact hnodup.sublist ((List.sublist_append_left before _).map _)

theorem Follow.fate_reached (hnumbered : built.Numbered)
    (h : fates.Follow conditions draws built [] built.turns) (hentry : entry ∈ built.entries) :
    fates entry.position =
      entry.fate conditions (built.reached conditions draws entry.position).context
        (draws (built.reached conditions draws entry.position).taken) := by
  obtain ⟨before, after, hturns⟩ := List.append_of_mem (built.turns_perm.mem_iff.mpr hentry)
  rw [h.reached_eq hnumbered hturns]
  rw [hturns] at h
  exact h.fate_eq

/-- The rows of two reports of one sequence, side by side. -/
theorem mem_zip_rows {entries : List Entry} {row row' : Row}
    (h : (entry, row, row') ∈ entries.zip ((entries.map fates.row).zip (entries.map others.row))) :
    entry ∈ entries ∧ row = fates.row entry ∧ row' = others.row entry := by
  rw [List.zip_map', ← List.map_prod_left_eq_zip] at h
  obtain ⟨entry, hentry, heq⟩ := List.mem_map.mp h
  cases heq
  exact ⟨hentry, rfl, rfl⟩

end Turns

variable {P : Fate → Fate → Prop} {fates others : Fates} {done done' : List Entry}

/-- Turn by turn, the entries stand at the same position and their fates are related. -/
def Paired (P : Fate → Fate → Prop) (fates others : Fates) : List Entry → List Entry → Prop :=
  List.Forall₂ fun entry other =>
    entry.position = other.position ∧ P (fates entry.position) (others other.position)

namespace Paired

theorem forall_mem (h : Paired P fates others done done') :
    ∀ entry ∈ done, P (fates entry.position) (others entry.position) := by
  induction h with
  | nil => exact fun entry hentry => absurd hentry List.not_mem_nil
  | cons hfirst _ ih =>
    obtain ⟨hposition, hfates⟩ := hfirst
    rw [← hposition] at hfates
    exact List.forall_mem_cons.mpr ⟨hfates, ih⟩

variable (hdeed : ∀ fate other, P fate other → fate.deed = other.deed)

include hdeed

theorem emitted_eq (h : Paired P fates others done done') :
    fates.emitted done = others.emitted done' := by
  induction h with
  | nil => rfl
  | cons hfirst _ ih =>
    have hemitted := Fate.emitted_eq_of_deed (hdeed _ _ hfirst.2)
    unfold emitted at ih ⊢
    rw [List.flatMap_cons, List.flatMap_cons, ih, hemitted]

theorem strikes_eq (h : Paired P fates others done done') :
    fates.strikes done = others.strikes done' := by
  induction h with
  | nil => rfl
  | cons hfirst _ ih =>
    have hstruck := Fate.struck_eq_of_deed (hdeed _ _ hfirst.2)
    unfold strikes at ih ⊢
    rw [List.flatMap_cons, List.flatMap_cons, ih, hstruck, hfirst.1]

theorem drawn_eq (h : Paired P fates others done done') :
    fates.drawn done = others.drawn done' := by
  induction h with
  | nil => rfl
  | cons hfirst _ ih =>
    have hdrew := Fate.drew_eq_of_deed (hdeed _ _ hfirst.2)
    unfold drawn at ih ⊢
    rw [List.countP_cons, List.countP_cons, ih, hdrew]

end Paired

section Follow

variable {R : Entry → Entry → Prop} {conditions conditions' : Conditions}
  {draws : Random.Units} {built built' : Context}
  (hdeed : ∀ fate other, P fate other → fate.deed = other.deed)
  (hturn : ∀ entry other, R entry other → entry.position = other.position ∧
    ∀ bonuses strikes draw, P (entry.fate conditions (built.record bonuses strikes) draw)
      (other.fate conditions' (built'.record bonuses strikes) draw))

include hdeed hturn

theorem Follow.paired_append {later later' : List Entry} (hlater : List.Forall₂ R later later')
    (hdone : Paired P fates others done done')
    (h : fates.Follow conditions draws built done later)
    (h' : others.Follow conditions' draws built' done' later') :
    Paired P fates others (done ++ later) (done' ++ later') := by
  induction hlater generalizing done done' with
  | nil => simpa using hdone
  | @cons entry other later later' hfirst _ ih =>
    obtain ⟨hfate, hfollow⟩ := h
    obtain ⟨hfate', hfollow'⟩ := h'
    obtain ⟨hposition, hturn⟩ := hturn entry other hfirst
    -- The same deeds before leave the same bonuses, strikes and next draw.
    have hfates : P (fates entry.position) (others other.position) := by
      rw [hfate, hfate', contextAfter, contextAfter, hdone.emitted_eq hdeed,
        hdone.strikes_eq hdeed, hdone.drawn_eq hdeed]
      exact hturn _ _ _
    have hnext : Paired P fates others (done ++ [entry]) (done' ++ [other]) :=
      List.rel_append hdone (.cons ⟨hposition, hfates⟩ .nil)
    rw [List.append_cons done, List.append_cons done']
    exact ih hnext hfollow hfollow'

/-- Corresponding turns have related fates if this is so whenever both components find the
same bonuses and strikes in addition to their sequences, and the same draw. -/
theorem Follow.paired {order order' : List Entry} (horder : List.Forall₂ R order order')
    (h : fates.Follow conditions draws built [] order)
    (h' : others.Follow conditions' draws built' [] order') :
    Paired P fates others order order' :=
  Follow.paired_append hdeed hturn horder .nil h h'

end Follow

end Fates

end TickArena

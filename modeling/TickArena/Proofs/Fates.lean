import TickArena.Proofs.SequencePositions
import TickArena.Simulation.Run

/-!
# The fates of a sequence

The turn of a component ends in one of two ways: it stays idle for a reason, or its
ability acts.  A run, in whatever order the components have their turns, is told by
these fates alone: they determine the context that the next component finds, and every
row and total of the report.
-/

namespace TickArena

/-- How the turn of a component ends; an ability that acts may have taken a draw. -/
inductive Fate where
  | idle (reason : String)
  | acted (outcome : Outcome) (drew : Bool)

namespace Fate

def emitted : Fate → List Bonus
  | idle _ => []
  | acted outcome _ => outcome.emitted

/-- The strike of a component that has struck, and nothing otherwise. -/
def struck : Fate → List StrikeOutcome
  | acted (.strike outcome) _ => [outcome]
  | _ => []

def drew : Fate → Bool
  | idle _ => false
  | acted _ drew => drew

end Fate

/-- The fate of a component in the context that it finds. -/
def Entry.fate (conditions : Conditions) (context : Context) (draw : Float) (entry : Entry) :
    Fate :=
  match Requirement.firstFailure? conditions entry.placement context
      entry.component.requirements with
  | some reason => .idle reason
  | none =>
    let stance : Stance := ⟨entry.component, entry.placement, context⟩
    .acted (stance.act draw) stance.draws

/-- The bonuses of a fate are for positions of the sequence. -/
theorem Entry.target_bounds {conditions : Conditions} {context : Context} {draw : Float}
    {entry : Entry} (hnumbered : context.Numbered) :
    ∀ bonus ∈ (entry.fate conditions context draw).emitted,
      1 ≤ bonus.target ∧ bonus.target ≤ context.size := by
  intro bonus hbonus
  unfold fate at hbonus
  split at hbonus
  · contradiction
  · obtain ⟨target, htarget, heq⟩ := Stance.exists_target hbonus
    rw [heq]
    exact hnumbered.position_bounds htarget

/-! ## One turn -/

/-- The context with more bonuses and strikes than before. -/
def Context.record (context : Context) (bonuses : List Bonus)
    (strikes : List (Nat × StrikeOutcome)) : Context :=
  { context with
    ledger := context.ledger.append bonuses
    strikes := strikes.foldl (fun table strike => table.insert strike.1 strike.2.damage)
      context.strikes }

@[simp]
theorem Context.record_nil (context : Context) : context.record [] [] = context := by
  simp [record, Ledger.append]

theorem Context.record_record (context : Context) (bonuses later : List Bonus)
    (strikes further : List (Nat × StrikeOutcome)) :
    (context.record bonuses strikes).record later further =
      context.record (bonuses ++ later) (strikes ++ further) := by
  simp [record, Ledger.append]

def Row.meet (row : Row) : Fate → Row
  | .idle reason => row.fail reason
  | .acted outcome _ => row.settle outcome

@[simp]
theorem Row.position_meet (row : Row) (fate : Fate) : (row.meet fate).position = row.position := by
  cases fate with
  | idle reason => rfl
  | acted outcome drew => cases outcome <;> rfl

namespace Resolution

/-- What the fate of a position does to the run. -/
def undergo (resolution : Resolution) (position : Nat) : Fate → Resolution
  | .idle reason => resolution.editRow position (·.fail reason)
  | .acted outcome drew =>
    { resolution with taken := if drew then resolution.taken + 1 else resolution.taken }.settle
      position outcome

theorem turn_eq_undergo (conditions : Conditions) (draws : Random.Units)
    (resolution : Resolution) (entry : Entry) :
    resolution.turn conditions draws entry =
      resolution.undergo entry.position
        (entry.fate conditions resolution.context (draws resolution.taken)) := by
  unfold turn Entry.fate
  cases Requirement.firstFailure? conditions entry.placement resolution.context
    entry.component.requirements <;> rfl

theorem undergo_eq (resolution : Resolution) {position : Nat} {fate : Fate}
    (hposition : 1 ≤ position ∧ position ≤ resolution.context.size)
    (htargets : ∀ bonus ∈ fate.emitted,
      1 ≤ bonus.target ∧ bonus.target ≤ resolution.context.size) :
    resolution.undergo position fate =
      { context := resolution.context.record fate.emitted (fate.struck.map (position, ·))
        rows := resolution.rows.map fun row =>
          if row.position = position then row.meet fate else row
        effects := resolution.effects ++ fate.struck.flatMap StrikeOutcome.effects
        totalDamage := (fate.struck.map StrikeOutcome.damage).foldl (· + ·) resolution.totalDamage
        taken := resolution.taken + fate.drew.toNat } := by
  cases fate with
  | idle reason => simp [undergo, editRow, Row.meet, Fate.emitted, Fate.struck, Fate.drew]
  | acted outcome drew =>
    have hcommit : resolution.context.commit outcome.emitted =
        resolution.context.record outcome.emitted [] := Context.commit_eq_append htargets
    have htaken : (if drew then resolution.taken + 1 else resolution.taken) =
        resolution.taken + drew.toNat := by cases drew <;> rfl
    cases outcome with
    | strike outcome =>
      have hstrike : (resolution.context.record outcome.emitted []).recordStrike position
          outcome.damage = resolution.context.record outcome.emitted [(position, outcome)] :=
        Context.recordStrike_of_mem (resolution.context.record outcome.emitted []) hposition _
      simp only [Outcome.emitted] at hcommit
      simp [undergo, settle, tally, editRow, Row.meet, Fate.emitted, Outcome.emitted, Fate.struck,
        Fate.drew, hcommit, hstrike, htaken]
    | weave outcome =>
      simp [undergo, settle, tally, editRow, Row.meet, Fate.emitted, Fate.struck, Fate.drew,
        hcommit, htaken]

end Resolution

/-! ## All turns -/

/-- Fates by position. -/
abbrev Fates :=
  Nat → Fate

namespace Fates

variable (fates : Fates)

/-- The bonuses of some entries, one entry after another. -/
def emitted (entries : List Entry) : List Bonus :=
  entries.flatMap fun entry => (fates entry.position).emitted

/-- The strikes of those entries that have struck, with their positions. -/
def strikes (entries : List Entry) : List (Nat × StrikeOutcome) :=
  entries.flatMap fun entry => (fates entry.position).struck.map (entry.position, ·)

/-- How many of some entries have taken a draw. -/
def drawn (entries : List Entry) : Nat :=
  entries.countP fun entry => (fates entry.position).drew

def effects (entries : List Entry) : List Effect :=
  (fates.strikes entries).flatMap fun strike => strike.2.effects

/-- The damage of some entries, added up from the first to the last. -/
def totalDamage (entries : List Entry) : Float :=
  ((fates.strikes entries).map fun strike => strike.2.damage).foldl (· + ·) 0

/-- What the next component finds after the turns of some entries. -/
def contextAfter (context : Context) (done : List Entry) : Context :=
  context.record (fates.emitted done) (fates.strikes done)

def row (entry : Entry) : Row :=
  (Row.ofEntry entry).meet (fates entry.position)

def rowAfter (done : List Entry) (entry : Entry) : Row :=
  if entry.position ∈ done.map Entry.position then fates.row entry else Row.ofEntry entry

/-- The run from a context, after the turns of some entries. -/
def resolutionAfter (context : Context) (done : List Entry) : Resolution :=
  { context := fates.contextAfter context done
    rows := context.entries.map (fates.rowAfter done)
    effects := fates.effects done
    totalDamage := fates.totalDamage done
    taken := fates.drawn done }

/-- In some order, after the turns of other entries, every fate is that of the entry in the
context it finds, with the first draw that is left. -/
def Follow (conditions : Conditions) (draws : Random.Units) (context : Context) :
    List Entry → List Entry → Prop
  | _, [] => True
  | done, entry :: later =>
    fates entry.position =
        entry.fate conditions (fates.contextAfter context done) (draws (fates.drawn done)) ∧
      Follow conditions draws context (done ++ [entry]) later

variable {fates} {conditions : Conditions} {draws : Random.Units} {context : Context}
  {done : List Entry} {entry : Entry}

@[simp]
theorem emitted_append (fates : Fates) (done later : List Entry) :
    fates.emitted (done ++ later) = fates.emitted done ++ fates.emitted later :=
  List.flatMap_append

@[simp]
theorem strikes_append (fates : Fates) (done later : List Entry) :
    fates.strikes (done ++ later) = fates.strikes done ++ fates.strikes later :=
  List.flatMap_append

@[simp]
theorem drawn_append (fates : Fates) (done later : List Entry) :
    fates.drawn (done ++ later) = fates.drawn done + fates.drawn later :=
  List.countP_append

@[simp]
theorem emitted_singleton (fates : Fates) (entry : Entry) :
    fates.emitted [entry] = (fates entry.position).emitted :=
  List.flatMap_singleton _ _

@[simp]
theorem strikes_singleton (fates : Fates) (entry : Entry) :
    fates.strikes [entry] = (fates entry.position).struck.map (entry.position, ·) :=
  List.flatMap_singleton _ _

@[simp]
theorem drawn_singleton (fates : Fates) (entry : Entry) :
    fates.drawn [entry] = (fates entry.position).drew.toNat := by
  cases hdrew : (fates entry.position).drew <;> simp [drawn, hdrew]

@[simp]
theorem position_row (fates : Fates) (entry : Entry) :
    (fates.row entry).position = entry.position :=
  Row.position_meet _ _

@[simp]
theorem position_rowAfter (fates : Fates) (done : List Entry) (entry : Entry) :
    (fates.rowAfter done entry).position = entry.position := by
  unfold rowAfter
  split_ifs
  · exact position_row fates entry
  · rfl

/-- A row is edited at its own turn and at no other. -/
theorem rowAfter_concat (hnew : entry.position ∉ done.map Entry.position) (other : Entry) :
    fates.rowAfter (done ++ [entry]) other =
      if other.position = entry.position then
        (fates.rowAfter done other).meet (fates entry.position)
      else fates.rowAfter done other := by
  unfold rowAfter
  rw [List.map_append, List.map_singleton]
  by_cases hsame : other.position = entry.position
  · rw [hsame, if_pos rfl, if_neg hnew, if_pos (by simp), row, hsame]
  · rw [if_neg hsame]
    simp [hsame]

theorem resolutionAfter_nil (fates : Fates) (context : Context) :
    fates.resolutionAfter context [] = .start context := by
  simp [resolutionAfter, Resolution.start, contextAfter, rowAfter, effects, totalDamage, emitted,
    strikes, drawn]

/-- One turn carries the run from the fates of the turns before to those with its own. -/
theorem turn_resolutionAfter (hnumbered : context.Numbered) (hentry : entry ∈ context.entries)
    (hnew : entry.position ∉ done.map Entry.position)
    (hfate : fates entry.position =
      entry.fate conditions (fates.contextAfter context done) (draws (fates.drawn done))) :
    (fates.resolutionAfter context done).turn conditions draws entry =
      fates.resolutionAfter context (done ++ [entry]) := by
  have htargets : ∀ bonus ∈ (fates entry.position).emitted,
      1 ≤ bonus.target ∧ bonus.target ≤ (fates.contextAfter context done).size := by
    rw [hfate]
    exact Entry.target_bounds (hnumbered.congr rfl)
  have hturn : (fates.resolutionAfter context done).turn conditions draws entry =
      (fates.resolutionAfter context done).undergo entry.position (fates entry.position) := by
    rw [Resolution.turn_eq_undergo, hfate]
    rfl
  rw [hturn, Resolution.undergo_eq _ (hnumbered.position_bounds hentry) htargets]
  simp [resolutionAfter, contextAfter, effects, totalDamage, Context.record_record,
    rowAfter_concat hnew, List.flatMap_map, Function.comp_def]

/-- The whole run, from where some entries have had their turns. -/
theorem foldl_turn (hnumbered : context.Numbered) {later : List Entry}
    (hentries : ∀ entry ∈ later, entry ∈ context.entries)
    (hnodup : ((done ++ later).map Entry.position).Nodup)
    (hfollow : fates.Follow conditions draws context done later) :
    later.foldl (Resolution.turn conditions draws) (fates.resolutionAfter context done) =
      fates.resolutionAfter context (done ++ later) := by
  induction later generalizing done with
  | nil => simp
  | cons entry later ih =>
    obtain ⟨hfate, hfollow⟩ := hfollow
    obtain ⟨hentry, hentries⟩ := List.forall_mem_cons.mp hentries
    have hnew : entry.position ∉ done.map Entry.position := by
      rw [List.map_append, List.nodup_append] at hnodup
      intro hmem
      exact hnodup.2.2 _ hmem _ List.mem_cons_self rfl
    rw [List.append_cons] at hnodup ⊢
    rw [List.foldl_cons, turn_resolutionAfter hnumbered hentry hnew hfate,
      ih hentries hnodup hfollow]

/-- The report of a run in which all entries have had their turns, in some order. -/
def report (fates : Fates) (context : Context) (order : List Entry) : Report :=
  { rows := context.entries.map fates.row
    totalDamage := fates.totalDamage order
    effects := fates.effects order
    diagnostics := context.diagnostics }

theorem toReport_foldl_turn (hnumbered : context.Numbered) {order : List Entry}
    (hperm : order.Perm context.entries)
    (hfollow : fates.Follow conditions draws context [] order) :
    (order.foldl (Resolution.turn conditions draws) (.start context)).toReport =
      fates.report context order := by
  have hnodup : (order.map Entry.position).Nodup :=
    (hperm.map Entry.position).nodup_iff.mpr hnumbered.nodup
  have hrows : context.entries.map (fates.rowAfter order) = context.entries.map fates.row := by
    apply List.map_congr_left
    intro entry hentry
    exact if_pos (List.mem_map_of_mem (hperm.mem_iff.mpr hentry))
  have hrun := foldl_turn hnumbered (fun _ hentry => hperm.mem_iff.mp hentry)
    (show (([] ++ order).map Entry.position).Nodup from hnodup) hfollow
  rw [resolutionAfter_nil] at hrun
  rw [hrun, List.nil_append, Resolution.toReport, resolutionAfter, hrows]
  rfl

/-! ## Fates that follow an order -/

theorem contextAfter_congr {other : Fates}
    (h : ∀ entry ∈ done, other entry.position = fates entry.position) :
    other.contextAfter context done = fates.contextAfter context done := by
  have hemitted : other.emitted done = fates.emitted done :=
    List.flatMap_congr fun entry hentry => by rw [h entry hentry]
  have hstrikes : other.strikes done = fates.strikes done :=
    List.flatMap_congr fun entry hentry => by rw [h entry hentry]
  rw [contextAfter, contextAfter, hemitted, hstrikes]

theorem drawn_congr {other : Fates}
    (h : ∀ entry ∈ done, other entry.position = fates entry.position) :
    other.drawn done = fates.drawn done :=
  List.countP_congr fun entry hentry => by rw [h entry hentry]

/-- Fates of the turns before can be completed by those of the turns to come. -/
theorem exists_follow_extending (conditions : Conditions) (draws : Random.Units)
    (context : Context) (fates : Fates) {done later : List Entry}
    (hnodup : ((done ++ later).map Entry.position).Nodup) :
    ∃ all : Fates, (∀ entry ∈ done, all entry.position = fates entry.position) ∧
      all.Follow conditions draws context done later := by
  induction later generalizing fates done with
  | nil => exact ⟨fates, fun _ _ => rfl, trivial⟩
  | cons entry later ih =>
    have hnew : ∀ other ∈ done, other.position ≠ entry.position := by
      rw [List.map_append, List.nodup_append] at hnodup
      intro other hother
      exact hnodup.2.2 _ (List.mem_map_of_mem hother) _ List.mem_cons_self
    rw [List.append_cons] at hnodup
    let next : Fates := Function.update fates entry.position
      (entry.fate conditions (fates.contextAfter context done) (draws (fates.drawn done)))
    obtain ⟨all, hall, hfollow⟩ := ih next hnodup
    have hold : ∀ other ∈ done, all other.position = fates other.position := by
      intro other hother
      rw [hall other (List.mem_append_left _ hother)]
      exact Function.update_of_ne (hnew other hother) _ _
    refine ⟨all, hold, ?_, hfollow⟩
    rw [hall entry (by simp), contextAfter_congr hold, drawn_congr hold]
    exact Function.update_self _ _ _

theorem exists_follow (conditions : Conditions) (draws : Random.Units) (context : Context)
    {order : List Entry} (hnodup : (order.map Entry.position).Nodup) :
    ∃ fates : Fates, fates.Follow conditions draws context [] order := by
  obtain ⟨fates, -, hfollow⟩ :=
    @exists_follow_extending conditions draws context (fun _ => .idle "") [] order hnodup
  exact ⟨fates, hfollow⟩

theorem follow_append {later further : List Entry} :
    fates.Follow conditions draws context done (later ++ further) ↔
      fates.Follow conditions draws context done later ∧
        fates.Follow conditions draws context (done ++ later) further := by
  induction later generalizing done with
  | nil => simp [Follow]
  | cons entry later ih =>
    rw [List.cons_append, Follow, Follow, ih, and_assoc, ← List.append_cons]

theorem Follow.exists_fate {later : List Entry}
    (hfollow : fates.Follow conditions draws context done later) (hentry : entry ∈ later) :
    ∃ before draw, fates entry.position =
      entry.fate conditions (fates.contextAfter context before) draw := by
  induction later generalizing done with
  | nil => contradiction
  | cons first later ih =>
    rcases List.mem_cons.mp hentry with rfl | hlater
    · exact ⟨_, _, hfollow.1⟩
    · exact ih hfollow.2 hlater

end Fates

end TickArena

import TickArena.Proofs.BuiltCatalogs
import TickArena.Proofs.Fates

/-!
# The two phases

Said without a run: every web shaper finds the bonuses of the shapers before it and no
strikes, and every damage dealer finds the bonuses of all shapers, then those of the
dealers before it, and the damage of those dealers.  These equations have a solution,
and each solution gives the report of the simulation.
-/

namespace TickArena

/-- The entries that stand before a position. -/
def below (position : Nat) (entries : List Entry) : List Entry :=
  entries.filter fun entry => entry.position < position

theorem mem_of_mem_below {position : Nat} {entries : List Entry} {entry : Entry}
    (h : entry ∈ below position entries) : entry ∈ entries :=
  List.mem_of_mem_filter h

namespace Context

def shapers (context : Context) : List Entry :=
  context.entries.filter (·.type.shapesWeb)

def dealers (context : Context) : List Entry :=
  context.entries.filter (·.type.dealsDamage)

theorem turns_perm (context : Context) : context.turns.Perm context.entries := by
  have hdealers : context.entries.filter (·.type.dealsDamage) =
      context.entries.filter (!·.type.shapesWeb) := by
    simp [ComponentType.shapesWeb_eq_not_dealsDamage]
  unfold turns
  rw [hdealers]
  exact List.filter_append_perm _ _

end Context

/-- The damage of a component that has acted. -/
def Fate.damage? : Fate → Option Float
  | idle _ => none
  | acted outcome _ => some outcome.damage

namespace Fates

variable (fates : Fates)

/-- The damage of those entries that have acted, with their positions. -/
def damages (entries : List Entry) : List (Nat × Float) :=
  entries.filterMap fun entry => (fates entry.position).damage?.map (entry.position, ·)

/-- What the web shaper at a position finds. -/
def shaperView (built : Context) (position : Nat) : Context :=
  { built with ledger := ⟨fates.emitted (below position built.shapers)⟩, strikes := ∅ }

/-- What the damage dealer at a position finds. -/
def dealerView (built : Context) (position : Nat) : Context :=
  { built with
    ledger := ⟨fates.emitted built.shapers ++ fates.emitted (below position built.dealers)⟩
    strikes := .ofList (fates.damages (below position built.dealers)) }

structure TwoPhases (conditions : Conditions) (draws : Random.Units) (built : Context) : Prop where
  shaper : ∀ entry ∈ built.shapers, fates entry.position =
    entry.fate conditions (fates.shaperView built entry.position) (draws 0)
  dealer : ∀ entry ∈ built.dealers, fates entry.position =
    entry.fate conditions (fates.dealerView built entry.position)
      (draws (fates.drawn (below entry.position built.dealers)))

variable {fates} {conditions : Conditions} {draws : Random.Units} {built : Context}

/-! ## Orders of ascending positions -/

/-- In an order of ascending positions, the turns before are those of smaller positions. -/
theorem follow_iff_of_ascending {done later : List Entry}
    (hascending : later.Pairwise fun a b => a.position < b.position) :
    fates.Follow conditions draws built done later ↔ ∀ entry ∈ later, fates entry.position =
      entry.fate conditions (fates.contextAfter built (done ++ below entry.position later))
        (draws (fates.drawn (done ++ below entry.position later))) := by
  induction later generalizing done with
  | nil => simp [Follow]
  | cons first later ih =>
    obtain ⟨hfirst, hascending⟩ := List.pairwise_cons.mp hascending
    have hbelow : below first.position (first :: later) = [] := by
      simp only [below, List.filter_eq_nil_iff, List.forall_mem_cons, decide_eq_true_eq]
      exact ⟨lt_irrefl _, fun entry hentry => (hfirst entry hentry).asymm⟩
    have hlater : ∀ entry ∈ later, done ++ below entry.position (first :: later) =
        done ++ [first] ++ below entry.position later := by
      intro entry hentry
      simp [below, hfirst entry hentry]
    rw [Follow, ih hascending, List.forall_mem_cons, hbelow, List.append_nil]
    apply and_congr_right
    intro _
    apply forall₂_congr
    intro entry hentry
    rw [hlater entry hentry]

/-! ## Fates of the two phases -/

/-- Web shapers never strike, and damage dealers that act always do. -/
structure Suit (fates : Fates) (built : Context) : Prop where
  struck : ∀ entry ∈ built.shapers, (fates entry.position).struck = []
  drew : ∀ entry ∈ built.shapers, (fates entry.position).drew = false
  damage : ∀ entry ∈ built.dealers,
    (fates entry.position).struck.map StrikeOutcome.damage = (fates entry.position).damage?.toList

theorem Suit.strikes_shapers (h : fates.Suit built) {entries : List Entry}
    (hentries : ∀ entry ∈ entries, entry ∈ built.shapers) : fates.strikes entries = [] := by
  apply List.flatMap_eq_nil_iff.mpr
  intro entry hentry
  rw [h.struck entry (hentries entry hentry), List.map_nil]

theorem Suit.drawn_shapers (h : fates.Suit built) {entries : List Entry}
    (hentries : ∀ entry ∈ entries, entry ∈ built.shapers) : fates.drawn entries = 0 := by
  apply List.countP_eq_zero.mpr
  intro entry hentry
  rw [h.drew entry (hentries entry hentry)]
  exact Bool.false_ne_true

theorem Suit.strikes_dealers (h : fates.Suit built) {entries : List Entry}
    (hentries : ∀ entry ∈ entries, entry ∈ built.dealers) :
    (fates.strikes entries).map (fun strike => (strike.1, strike.2.damage)) =
      fates.damages entries := by
  unfold strikes damages
  rw [List.map_flatMap, List.filterMap_eq_flatMap_toList]
  apply List.flatMap_congr
  intro entry hentry
  have hdamage := congrArg (List.map (Prod.mk entry.position))
    (h.damage entry (hentries entry hentry))
  rw [List.map_map] at hdamage ⊢
  rw [Option.toList_map]
  exact hdamage

theorem Suit.shaperView_eq (h : fates.Suit built) (hfresh : built.Fresh) (position : Nat) :
    fates.contextAfter built (below position built.shapers) = fates.shaperView built position := by
  unfold contextAfter Context.record shaperView
  rw [h.strikes_shapers fun _ => mem_of_mem_below, hfresh.ledger, hfresh.strikes]
  rfl

theorem Suit.dealerView_eq (h : fates.Suit built) (hfresh : built.Fresh) (position : Nat) :
    fates.contextAfter built (built.shapers ++ below position built.dealers) =
      fates.dealerView built position := by
  unfold contextAfter Context.record dealerView
  rw [emitted_append, strikes_append, h.strikes_shapers fun _ hentry => hentry,
    ← h.strikes_dealers fun _ => mem_of_mem_below, hfresh.ledger, hfresh.strikes,
    Table.ofList, List.foldl_map]
  rfl

/-- The equations of the two phases say that the fates follow the turns. -/
theorem Suit.twoPhases_iff (h : fates.Suit built) (hfresh : built.Fresh)
    (hnumbered : built.Numbered) :
    fates.TwoPhases conditions draws built ↔
      fates.Follow conditions draws built [] built.turns := by
  have hturns : built.turns = built.shapers ++ built.dealers := rfl
  have hshapers : built.shapers.Pairwise fun a b => a.position < b.position :=
    hnumbered.ascending.filter _
  have hdealers : built.dealers.Pairwise fun a b => a.position < b.position :=
    hnumbered.ascending.filter _
  rw [hturns, follow_append, follow_iff_of_ascending hshapers, follow_iff_of_ascending hdealers]
  simp only [List.nil_append, h.shaperView_eq hfresh, h.dealerView_eq hfresh, drawn_append,
    h.drawn_shapers fun _ => mem_of_mem_below, h.drawn_shapers fun _ hentry => hentry,
    Nat.zero_add]
  exact ⟨fun hphases => ⟨hphases.shaper, hphases.dealer⟩, fun hphases => ⟨hphases.1, hphases.2⟩⟩

end Fates

/-! ## Abilities that fit -/

namespace Ability

variable {ability : Ability} {type : ComponentType}

theorem exists_weave_of_fits (hfits : ability.fits type = true)
    (hshapes : type.shapesWeb = true) : ∃ behavior, ability = .weave behavior := by
  cases ability with
  | strike behavior =>
    rw [ComponentType.shapesWeb_eq_not_dealsDamage, show type.dealsDamage = true from hfits]
      at hshapes
    contradiction
  | weave behavior => exact ⟨behavior, rfl⟩

theorem exists_strike_of_fits (hfits : ability.fits type = true)
    (hdeals : type.dealsDamage = true) : ∃ behavior, ability = .strike behavior := by
  cases ability with
  | strike behavior => exact ⟨behavior, rfl⟩
  | weave behavior =>
    rw [fits, ComponentType.shapesWeb_eq_not_dealsDamage, hdeals] at hfits
    contradiction

end Ability

namespace Entry

variable {conditions : Conditions} {context : Context} {draw : Float} {entry : Entry}

theorem fate_of_shapesWeb (hfits : entry.component.ability.fits entry.type = true)
    (hshapes : entry.type.shapesWeb = true) :
    (entry.fate conditions context draw).struck = [] ∧
      (entry.fate conditions context draw).drew = false := by
  obtain ⟨behavior, hability⟩ := Ability.exists_weave_of_fits hfits hshapes
  unfold fate
  split
  · exact ⟨rfl, rfl⟩
  · simp [Stance.act, Stance.draws, hability, Fate.struck, Fate.drew]

theorem fate_of_dealsDamage (hfits : entry.component.ability.fits entry.type = true)
    (hdeals : entry.type.dealsDamage = true) :
    (entry.fate conditions context draw).struck.map StrikeOutcome.damage =
      (entry.fate conditions context draw).damage?.toList := by
  obtain ⟨behavior, hability⟩ := Ability.exists_strike_of_fits hfits hdeals
  unfold fate
  split
  · rfl
  · simp [Stance.act, hability, Fate.struck, Fate.damage?, Outcome.damage]

end Entry

/-- The entries have abilities that fit their types. -/
def Context.Fitting (context : Context) : Prop :=
  ∀ entry ∈ context.entries, entry.component.ability.fits entry.type = true

theorem Catalog.Built.fitting {catalog : Catalog} (h : catalog.Built) (slots : Slots) :
    (Context.build catalog.get? slots).Fitting := by
  intro entry hentry
  exact h.fits _ (List.mem_of_find?_eq_some (Context.lookup_of_mem_build entry hentry))

namespace Fates

variable {fates : Fates} {conditions : Conditions} {draws : Random.Units} {built : Context}

theorem suit_of_fitting (hfitting : built.Fitting)
    (hfates : ∀ entry ∈ built.entries, ∃ context draw,
      fates entry.position = entry.fate conditions context draw) : fates.Suit built := by
  have hshapers : ∀ entry ∈ built.shapers,
      (fates entry.position).struck = [] ∧ (fates entry.position).drew = false := by
    intro entry hentry
    obtain ⟨hentry, hshapes⟩ := List.mem_filter.mp hentry
    obtain ⟨context, draw, hfate⟩ := hfates entry hentry
    rw [hfate]
    exact Entry.fate_of_shapesWeb (hfitting entry hentry) hshapes
  constructor
  · exact fun entry hentry => (hshapers entry hentry).1
  · exact fun entry hentry => (hshapers entry hentry).2
  · intro entry hentry
    obtain ⟨hentry, hdeals⟩ := List.mem_filter.mp hentry
    obtain ⟨context, draw, hfate⟩ := hfates entry hentry
    rw [hfate]
    exact Entry.fate_of_dealsDamage (hfitting entry hentry) hdeals

theorem Follow.suit (hfollow : fates.Follow conditions draws built [] built.turns)
    (hfitting : built.Fitting) : fates.Suit built := by
  apply suit_of_fitting hfitting
  intro entry hentry
  obtain ⟨before, draw, hfate⟩ := hfollow.exists_fate (built.turns_perm.mem_iff.mpr hentry)
  exact ⟨_, draw, hfate⟩

theorem TwoPhases.suit (hphases : fates.TwoPhases conditions draws built)
    (hfitting : built.Fitting) : fates.Suit built := by
  apply suit_of_fitting hfitting
  intro entry hentry
  rcases List.mem_append.mp (built.turns_perm.mem_iff.mpr hentry) with hshaper | hdealer
  · exact ⟨_, _, hphases.shaper entry hshaper⟩
  · exact ⟨_, _, hphases.dealer entry hdealer⟩

theorem TwoPhases.follow (hphases : fates.TwoPhases conditions draws built)
    (hfresh : built.Fresh) (hnumbered : built.Numbered) (hfitting : built.Fitting) :
    fates.Follow conditions draws built [] built.turns :=
  ((hphases.suit hfitting).twoPhases_iff hfresh hnumbered).mp hphases

theorem exists_twoPhases (hfresh : built.Fresh) (hnumbered : built.Numbered)
    (hfitting : built.Fitting) : ∃ fates : Fates, fates.TwoPhases conditions draws built := by
  have hnodup : (built.turns.map Entry.position).Nodup :=
    (built.turns_perm.map Entry.position).nodup_iff.mpr hnumbered.nodup
  obtain ⟨fates, hfollow⟩ := exists_follow conditions draws built hnodup
  exact ⟨fates, ((hfollow.suit hfitting).twoPhases_iff hfresh hnumbered).mpr hfollow⟩

/-- The report of two phases: a row for every entry, the damage and the effects of the
dealers in the order of their positions, and what the building has noted. -/
def phaseReport (fates : Fates) (built : Context) : Report :=
  { rows := built.entries.map fates.row
    totalDamage := ((fates.damages built.dealers).map Prod.snd).foldl (· + ·) 0
    effects := built.dealers.flatMap fun entry => (fates.row entry).effects
    diagnostics := built.diagnostics }

theorem effects_row (fates : Fates) (entry : Entry) :
    (fates.row entry).effects = (fates entry.position).struck.flatMap StrikeOutcome.effects := by
  unfold row
  cases fates entry.position with
  | idle reason => rfl
  | acted outcome drew =>
    cases outcome with
    | strike outcome => exact (List.flatMap_singleton _ _).symm
    | weave outcome => rfl

theorem Suit.report_eq (h : fates.Suit built) :
    fates.report built built.turns = fates.phaseReport built := by
  have hstrikes : fates.strikes built.turns = fates.strikes built.dealers := by
    change fates.strikes (built.shapers ++ built.dealers) = _
    rw [strikes_append, h.strikes_shapers fun _ hentry => hentry, List.nil_append]
  have hdamages : (fates.strikes built.dealers).map (fun strike => strike.2.damage) =
      (fates.damages built.dealers).map Prod.snd := by
    rw [← h.strikes_dealers fun _ hentry => hentry, List.map_map]
    rfl
  have heffects : fates.effects built.turns =
      built.dealers.flatMap fun entry => (fates.row entry).effects := by
    unfold effects
    rw [hstrikes, strikes, List.flatMap_assoc]
    apply List.flatMap_congr
    intro entry _
    rw [effects_row, List.flatMap_map]
  rw [report, phaseReport, totalDamage, hstrikes, hdamages, heffects]

end Fates

theorem Context.resolve_eq (conditions : Conditions) (draws : Random.Units) {built : Context}
    (hfresh : built.Fresh) (hnumbered : built.Numbered) (hfitting : built.Fitting)
    {fates : Fates} (hphases : fates.TwoPhases conditions draws built) :
    built.resolve conditions draws = fates.phaseReport built := by
  rw [← (hphases.suit hfitting).report_eq]
  exact Fates.toReport_foldl_turn hnumbered built.turns_perm
    (hphases.follow hfresh hnumbered hfitting)

/-- A simulation is what the two phases say, and every web shaper reaches every damage
dealer, wherever the two stand. -/
theorem Catalog.simulate_twoPhases {catalog : Catalog} (hbuilt : catalog.Built)
    (draws : Random.Units) (slots : Slots) :
    let built := Context.build catalog.get? slots
    (∃ fates : Fates, fates.TwoPhases catalog.conditions draws built) ∧
      ∀ fates : Fates, fates.TwoPhases catalog.conditions draws built →
        catalog.simulate draws slots = fates.phaseReport built ∧
          ∀ shaper ∈ built.shapers, ∀ dealer ∈ built.dealers,
            ∀ bonus ∈ (fates shaper.position).emitted,
              bonus ∈ (fates.dealerView built dealer.position).ledger.bonuses := by
  have hfresh := Context.fresh_build catalog.get? slots
  have hnumbered := Context.numbered_build catalog.get? slots
  have hfitting := hbuilt.fitting slots
  refine ⟨Fates.exists_twoPhases hfresh hnumbered hfitting, ?_⟩
  intro fates hphases
  refine ⟨Context.resolve_eq _ _ hfresh hnumbered hfitting hphases, ?_⟩
  intro shaper hshaper dealer _ bonus hbonus
  exact List.mem_append_left _ (List.mem_flatMap.mpr ⟨shaper, hshaper, hbonus⟩)

/-! ## A core and its amplifier -/

namespace Catalog

/-- A damage dealer and a web shaper. -/
def duo : Catalog :=
  ⟨[Standard.emberCore, Standard.amplifier], .standard⟩

theorem built_duo : duo.Built := by
  refine built_of_validated ?_ (by decide +kernel)
  rw [List.forall_mem_cons, List.forall_mem_singleton]
  exact ⟨validate_eq_ok (by decide +kernel) rfl (by decide +kernel) rfl,
    validate_eq_ok (by decide +kernel) rfl (by decide +kernel) rfl⟩

/-- The core stands first and still finds the bonus of the amplifier behind it. -/
theorem duo_simulate_twoPhases :
    let draws := Random.unitsOfSeed 42
    let slots : Slots := [some (.plain "ember_core"), none, some (.plain "amplifier")]
    let built := Context.build duo.get? slots
    duo.Built ∧ ∃ fates : Fates, fates.TwoPhases duo.conditions draws built ∧
      duo.simulate draws slots = fates.phaseReport built ∧
        (fates.phaseReport built).totalDamage = 104 := by
  obtain ⟨⟨fates, hphases⟩, hall⟩ := simulate_twoPhases built_duo (Random.unitsOfSeed 42)
    [some (.plain "ember_core"), none, some (.plain "amplifier")]
  have hreport := (hall fates hphases).1
  refine ⟨built_duo, fates, hphases, hreport, ?_⟩
  rw [← hreport]
  decide +kernel

end Catalog

end TickArena

import TickArena.Proofs.PairedRuns

/-!
# What validation is good for

A catalog takes in a definition only if the conditions it asks for are registered and its
ability fits its type.  A run relies on both.  No condition is missing when it is asked;
web shapers weave, damage dealers strike; and as a weave that reaches all damage dealers
belongs to a component that is none, nobody writes a bonus onto itself.
-/

namespace TickArena

/-! ## Bonuses for others -/

/-- The component at the position has written the bonus, onto another one. -/
structure Bonus.Outgoing (position : Nat) (bonus : Bonus) : Prop where
  source : bonus.source = position
  target : bonus.target ≠ position

namespace Stance

variable {stance : Stance} {bonus : Bonus}

theorem outgoing_of_onto {entries : List Entry} {op : BonusOp} {kind : BonusKind} {value : Float}
    (hentries : ∀ entry ∈ entries, entry.position ≠ stance.position)
    (h : bonus ∈ stance.onto entries op kind value) : bonus.Outgoing stance.position := by
  obtain ⟨entry, hentry, rfl⟩ := List.mem_map.mp h
  exact ⟨rfl, hentries entry hentry⟩

theorem outgoing_of_swing (hnumbered : stance.context.Numbered) {behavior : StrikeBehavior}
    (h : bonus ∈ (stance.swing behavior).emitted) : bonus.Outgoing stance.position := by
  obtain ⟨next, hnext, hsource, htarget⟩ := exists_next_of_swing h
  refine ⟨hsource, ?_⟩
  rw [htarget]
  exact hnumbered.position_ne_of_mem_neighbors hnext

/-- A weave that reaches damage dealers by their type does not reach its own component. -/
theorem outgoing_of_bonuses (hnumbered : stance.context.Numbered)
    (hown : ∀ entry ∈ stance.context.entries, entry.position = stance.position →
      entry.type.dealsDamage = false)
    {behavior : WeaveBehavior} (h : bonus ∈ stance.bonuses behavior) :
    bonus.Outgoing stance.position := by
  have hsiblings : ∀ entry ∈ stance.siblings, entry.position ≠ stance.position :=
    fun _ => hnumbered.position_ne_of_mem_neighbors
  have hdealers : ∀ entry ∈ stance.context.entries, entry.type.dealsDamage = true →
      entry.position ≠ stance.position := by
    intro entry hentry hdeals hposition
    rw [hown entry hentry hposition] at hdeals
    contradiction
  have hcores : ∀ entry ∈ stance.cores, entry.position ≠ stance.position := by
    intro entry hentry
    obtain ⟨hentry, hcore⟩ := List.mem_filter.mp hentry
    apply hdealers entry hentry
    rw [of_decide_eq_true hcore]
    rfl
  cases behavior with
  | amplify =>
    exact outgoing_of_onto (fun entry hentry => hsiblings entry (List.mem_of_mem_filter hentry)) h
  | catalyze =>
    exact outgoing_of_onto
      (fun entry (hentry : entry ∈ stance.context.neighbors stance.position .next) =>
        hnumbered.position_ne_of_mem_neighbors hentry) h
  | resonate =>
    refine outgoing_of_onto (fun entry hentry => ?_) h
    have hkin := (List.mem_filter.mp hentry).2
    rw [Bool.and_eq_true, decide_eq_true_eq] at hkin
    exact hkin.1
  | overclock => exact outgoing_of_onto hcores h
  | chainLink => exact outgoing_of_onto hsiblings h
  | conduit =>
    refine outgoing_of_onto (fun entry hentry => ?_) h
    obtain ⟨hentry, hdeals⟩ := List.mem_filter.mp hentry
    exact hdealers entry hentry hdeals
  | seed => exact outgoing_of_onto hcores h

end Stance

namespace Entry

/-- What the ability of a component does in a context. -/
def outcome (context : Context) (draw : Float) (entry : Entry) : Outcome :=
  (Stance.mk entry.component entry.placement context).act draw

variable {context : Context} {draw : Float} {entry : Entry}

theorem emitted_fate_subset (conditions : Conditions) :
    (entry.fate conditions context draw).emitted ⊆ (entry.outcome context draw).emitted := by
  unfold fate
  split
  · exact List.nil_subset _
  · exact List.Subset.refl _

theorem outgoing (hnumbered : context.Numbered) (hentry : entry ∈ context.entries)
    (hfits : entry.component.ability.fits entry.type = true) :
    ∀ bonus ∈ (entry.outcome context draw).emitted, bonus.Outgoing entry.position := by
  intro bonus hbonus
  unfold outcome Stance.act at hbonus
  dsimp only at hbonus
  cases hability : entry.component.ability with
  | strike behavior =>
    rw [hability] at hbonus
    dsimp only [Outcome.emitted] at hbonus
    rw [Stance.emitted_strike] at hbonus
    exact Stance.outgoing_of_swing hnumbered hbonus
  | weave behavior =>
    rw [hability] at hbonus hfits
    -- An entry at this position is the component itself, which shapes the web.
    have hown : ∀ other ∈ context.entries, other.position = entry.position →
        other.type.dealsDamage = false := by
      intro other hother hposition
      rw [List.inj_on_of_nodup_map hnumbered.nodup hother hentry hposition]
      simpa [Ability.fits, ComponentType.shapesWeb_eq_not_dealsDamage] using hfits
    exact Stance.outgoing_of_bonuses hnumbered hown hbonus

theorem outcome_of_shapesWeb (hfits : entry.component.ability.fits entry.type = true)
    (hshapes : entry.type.shapesWeb = true) :
    (∃ behavior, entry.component.ability = .weave behavior) ∧
      ∃ woven, entry.outcome context draw = .weave woven := by
  obtain ⟨behavior, hability⟩ := Ability.exists_weave_of_fits hfits hshapes
  refine ⟨⟨behavior, hability⟩,
    (Stance.mk entry.component entry.placement context).weave behavior, ?_⟩
  simp only [outcome, Stance.act, hability]

theorem outcome_of_dealsDamage (hfits : entry.component.ability.fits entry.type = true)
    (hdeals : entry.type.dealsDamage = true) :
    (∃ behavior, entry.component.ability = .strike behavior) ∧
      ∃ struck, entry.outcome context draw = .strike struck := by
  obtain ⟨behavior, hability⟩ := Ability.exists_strike_of_fits hfits hdeals
  refine ⟨⟨behavior, hability⟩,
    (Stance.mk entry.component entry.placement context).strike behavior draw, ?_⟩
  simp only [outcome, Stance.act, hability]

end Entry

/-! ## Runs -/

namespace Context

/-- The run when all components have had their turns. -/
def ended (conditions : Conditions) (draws : Random.Units) (built : Context) : Resolution :=
  built.turns.foldl (Resolution.turn conditions draws) (.start built)

variable {conditions : Conditions} {draws : Random.Units} {built : Context}

theorem entries_reached (hnumbered : built.Numbered) {entry : Entry}
    (hentry : entry ∈ built.entries) :
    (built.reached conditions draws entry.position).context.entries = built.entries := by
  obtain ⟨fates, hfollow, -⟩ := exists_resolve_eq conditions draws hnumbered
  obtain ⟨before, after, hturns⟩ := List.append_of_mem (built.turns_perm.mem_iff.mpr hentry)
  rw [hfollow.reached_eq hnumbered hturns]
  rfl

/-- The ledger holds in the end what the components have emitted, turn after turn. -/
theorem bonuses_ended (hnumbered : built.Numbered) (hfresh : built.Fresh) :
    (built.ended conditions draws).context.ledger.bonuses =
      built.turns.flatMap fun entry =>
        (entry.fate conditions (built.reached conditions draws entry.position).context
          (draws (built.reached conditions draws entry.position).taken)).emitted := by
  obtain ⟨fates, hfollow, -⟩ := exists_resolve_eq conditions draws hnumbered
  have hnodup : (([] ++ built.turns).map Entry.position).Nodup :=
    (built.turns_perm.map Entry.position).nodup_iff.mpr hnumbered.nodup
  have hledger : (fates.resolutionAfter built ([] ++ built.turns)).context.ledger.bonuses =
      built.ledger.bonuses ++ fates.emitted built.turns := rfl
  rw [ended, ← Fates.resolutionAfter_nil fates, Fates.foldl_turn hnumbered
    (fun _ hentry => built.turns_perm.mem_iff.mp hentry) hnodup hfollow, hledger, hfresh.ledger]
  refine List.flatMap_congr fun entry hentry => ?_
  rw [hfollow.fate_reached hnumbered (built.turns_perm.mem_iff.mp hentry)]

/-- What stands in the ledger in the end was written at the turn of a component. -/
theorem exists_outcome_of_mem_ledger (hnumbered : built.Numbered) (hfresh : built.Fresh)
    {bonus : Bonus} (h : bonus ∈ (built.ended conditions draws).context.ledger.bonuses) :
    ∃ entry ∈ built.entries,
      bonus ∈ (entry.outcome (built.reached conditions draws entry.position).context
        (draws (built.reached conditions draws entry.position).taken)).emitted := by
  rw [bonuses_ended hnumbered hfresh] at h
  obtain ⟨entry, hentry, hbonus⟩ := List.mem_flatMap.mp h
  exact ⟨entry, built.turns_perm.mem_iff.mp hentry,
    Entry.emitted_fate_subset conditions hbonus⟩

end Context

/-- A run of a validated catalog asks no condition that is missing, has web shapers weave and
damage dealers strike, and writes no bonus from a component onto itself. -/
theorem Catalog.simulate_validated {catalog : Catalog} (hbuilt : catalog.Built)
    (draws : Random.Units) (slots : Slots) :
    let built := Context.build catalog.get? slots
    let reached := built.reached catalog.conditions draws
    let outcome : Entry → Outcome := fun entry =>
      entry.outcome (reached entry.position).context (draws (reached entry.position).taken)
    (∀ entry ∈ built.turns, ∀ name, .custom name ∈ entry.component.requirements →
        (catalog.conditions.get? name).isSome = true) ∧
      (∀ entry ∈ built.shapers, (∃ behavior, entry.component.ability = .weave behavior) ∧
        ∃ woven, outcome entry = .weave woven) ∧
      (∀ entry ∈ built.dealers, (∃ behavior, entry.component.ability = .strike behavior) ∧
        ∃ struck, outcome entry = .strike struck) ∧
      (∀ entry ∈ built.turns, ∀ bonus ∈ (outcome entry).emitted,
        bonus.Outgoing entry.position) ∧
      ∀ bonus ∈ (built.ended catalog.conditions draws).context.ledger.bonuses,
        bonus.target ≠ bonus.source := by
  intro built reached outcome
  have hnumbered : built.Numbered := Context.numbered_build _ _
  have hfitting : built.Fitting := hbuilt.fitting slots
  have houtgoing : ∀ entry ∈ built.entries, ∀ bonus ∈ (outcome entry).emitted,
      bonus.Outgoing entry.position := by
    intro entry hentry
    have hsame : (reached entry.position).context.entries = built.entries :=
      Context.entries_reached hnumbered hentry
    exact entry.outgoing (hnumbered.congr hsame) (hsame ▸ hentry) (hfitting entry hentry)
  refine ⟨?_, ?_, ?_, ?_, ?_⟩
  · intro entry hentry
    have hlookup := Context.lookup_of_mem_build entry (built.turns_perm.mem_iff.mp hentry)
    exact hbuilt.registered _ (List.mem_of_find?_eq_some hlookup)
  · intro entry hentry
    obtain ⟨hentry, hshapes⟩ := List.mem_filter.mp hentry
    exact Entry.outcome_of_shapesWeb (hfitting entry hentry) hshapes
  · intro entry hentry
    obtain ⟨hentry, hdeals⟩ := List.mem_filter.mp hentry
    exact Entry.outcome_of_dealsDamage (hfitting entry hentry) hdeals
  · exact fun entry hentry => houtgoing entry (built.turns_perm.mem_iff.mp hentry)
  · intro bonus hbonus
    obtain ⟨entry, hentry, hbonus⟩ := Context.exists_outcome_of_mem_ledger hnumbered
      (Context.fresh_build _ _) hbonus
    obtain ⟨hsource, htarget⟩ := houtgoing entry hentry bonus hbonus
    rw [hsource]
    exact htarget

namespace Catalog

/-- A core that stokes the next one, a chain for all damage dealers, and a modifier that asks
a condition. -/
def forge : Catalog :=
  ⟨[Standard.kindlingCore, Standard.stormCore, Standard.conduit, Standard.overclock], .standard⟩

theorem built_forge : forge.Built := by
  refine built_of_validated ?_ (by decide +kernel)
  rw [List.forall_mem_cons, List.forall_mem_cons, List.forall_mem_cons, List.forall_mem_singleton]
  exact ⟨validate_eq_ok (by decide +kernel) rfl (by decide +kernel) rfl,
    validate_eq_ok (by decide +kernel) rfl (by decide +kernel) rfl,
    validate_eq_ok (by decide +kernel) rfl (by decide +kernel) rfl,
    validate_eq_ok (by decide +kernel) rfl (by decide +kernel) rfl⟩

/-- All of them write onto the two cores, and none onto itself. -/
theorem forge_simulate_validated :
    let draws : Random.Units := fun _ => 0
    let slots : Slots := [some (.plain "kindling_core"), some (.plain "storm_core"),
      some (.plain "conduit"), some (.plain "overclock")]
    let built := Context.build forge.get? slots
    forge.Built ∧
      (∀ entry ∈ built.turns, ∀ name, .custom name ∈ entry.component.requirements →
        (forge.conditions.get? name).isSome = true) ∧
      (∀ bonus ∈ (built.ended forge.conditions draws).context.ledger.bonuses,
        bonus.target ≠ bonus.source) ∧
      built.turns.flatMap (·.component.requirements) = [.position .middle, .custom "all_unique",
        .position .any, .globalPresence (.ofType .modifier)] ∧
      (built.ended forge.conditions draws).context.ledger.bonuses.map
        (fun bonus => (bonus.source, bonus.target)) =
          [(3, 1), (3, 2), (4, 1), (4, 2), (1, 2)] := by
  intro draws slots
  obtain ⟨hregistered, -, -, -, hledger⟩ := simulate_validated built_forge draws slots
  exact ⟨built_forge, hregistered, hledger, by decide +kernel, by decide +kernel⟩

end Catalog

end TickArena

import TickArena.Proofs.PairedRuns
import TickArena.Proofs.StaticActivation

/-!
# What a damage dealer can influence

Damage dealers influence each other by the bonuses they write, the strikes they record,
the draws they take and the damage they add up.  All of it is read by later turns alone,
and a later turn of the same phase stands at a larger position.  So the numbers and the
ability of a dealer show in its own row and in those of the dealers behind it; the rows of
web shapers never tell them.
-/

namespace TickArena

/-- The entry has its turn before any damage dealer from the position on. -/
def Entry.upstream (position : Nat) (entry : Entry) : Bool :=
  entry.position < position || entry.type.shapesWeb

def Row.upstream (position : Nat) (row : Row) : Bool :=
  row.position < position || row.type.shapesWeb

/-- The two catalogs define the same components, and these differ at most in the base stats
and the abilities of damage dealers. -/
structure Catalog.Retunes (catalog other : Catalog) : Prop where
  outlines : ∀ id, (catalog.get? id).map Component.outline = (other.get? id).map Component.outline
  shapers : ∀ id component, catalog.get? id = some component →
    component.type.shapesWeb = true → other.get? id = some component

namespace Catalog

/-- Every definition is changed in its place. -/
def tuned (catalog : Catalog) (tune : Component → Component) : Catalog :=
  { catalog with components := catalog.components.map tune }

variable {catalog : Catalog} {tune : Component → Component}

theorem get?_tuned (houtline : ∀ component, (tune component).outline = component.outline)
    (id : String) : (catalog.tuned tune).get? id = (catalog.get? id).map tune := by
  have hsame : (fun component : Component => decide (component.id = id)) ∘ tune =
      fun component => decide (component.id = id) := by
    funext component
    have hid : (tune component).outline.id = component.outline.id :=
      congrArg Component.id (houtline component)
    exact congrArg (fun name => decide (name = id)) hid
  unfold get? tuned
  rw [List.find?_map, hsame]

theorem retunes_tuned (houtline : ∀ component, (tune component).outline = component.outline)
    (hshapes : ∀ component, component.type.shapesWeb = true → tune component = component) :
    catalog.Retunes (catalog.tuned tune) := by
  constructor
  · intro id
    have htune : Component.outline ∘ tune = Component.outline := funext houtline
    rw [get?_tuned houtline, Option.map_map, htune]
  · intro id component hcomponent hshaper
    rw [get?_tuned houtline, hcomponent, Option.map_some, hshapes component hshaper]

end Catalog

/-! ## Entries before a position -/

theorem exists_eq_below_append {entries : List Entry}
    (hascending : entries.Pairwise fun a b => a.position < b.position) (position : Nat) :
    ∃ rest, entries = below position entries ++ rest := by
  induction entries with
  | nil => exact ⟨[], rfl⟩
  | cons first entries ih =>
    obtain ⟨hfirst, hascending⟩ := List.pairwise_cons.mp hascending
    by_cases hposition : first.position < position
    · obtain ⟨rest, hrest⟩ := ih hascending
      refine ⟨rest, ?_⟩
      unfold below at hrest ⊢
      rw [List.filter_cons_of_pos (by simpa using hposition), List.cons_append, ← hrest]
    · have hbelow : below position (first :: entries) = [] := by
        simp only [below, List.filter_eq_nil_iff, List.forall_mem_cons, decide_eq_true_eq]
        exact ⟨hposition, fun entry hentry => by have := hfirst entry hentry; omega⟩
      exact ⟨first :: entries, by rw [hbelow, List.nil_append]⟩

namespace Context

variable {built built' : Context} {position : Nat}

/-- The turns that a damage dealer at the position cannot reach: those of the web shapers,
and those of the dealers before it. -/
def early (context : Context) (position : Nat) : List Entry :=
  context.turns.filter (Entry.upstream position)

/-- The early turns come before all others. -/
theorem exists_turns_eq_early_append (hnumbered : built.Numbered) (position : Nat) :
    ∃ late, built.turns = built.early position ++ late := by
  have hshapers : built.shapers.filter (Entry.upstream position) = built.shapers := by
    apply List.filter_eq_self.mpr
    intro entry hentry
    simp [Entry.upstream, (List.mem_filter.mp hentry).2]
  have hdealers : built.dealers.filter (Entry.upstream position) =
      below position built.dealers := by
    apply List.filter_congr
    intro entry hentry
    simp [Entry.upstream, ComponentType.shapesWeb_eq_not_dealsDamage, (List.mem_filter.mp hentry).2]
  obtain ⟨late, hlate⟩ := exists_eq_below_append
    (show built.dealers.Pairwise _ from hnumbered.ascending.filter _) position
  refine ⟨late, ?_⟩
  change built.shapers ++ built.dealers =
    (built.shapers ++ built.dealers).filter (Entry.upstream position) ++ late
  rw [List.filter_append, hshapers, hdealers, List.append_assoc, ← hlate]

theorem early_eq_of_filter_eq (h : built.entries.filter (Entry.upstream position) =
    built'.entries.filter (Entry.upstream position)) :
    built.early position = built'.early position := by
  have hpart : ∀ p : Entry → Bool, (built.entries.filter p).filter (Entry.upstream position) =
      (built'.entries.filter p).filter (Entry.upstream position) := by
    intro p
    rw [List.filter_comm, h, List.filter_comm]
  unfold early turns
  rw [List.filter_append, List.filter_append, hpart, hpart]

theorem mem_early {entry : Entry}
    (hentry : entry ∈ built.entries.filter (Entry.upstream position)) :
    entry ∈ built.early position := by
  obtain ⟨hentry, hupstream⟩ := List.mem_filter.mp hentry
  exact List.mem_filter.mpr ⟨built.turns_perm.mem_iff.mpr hentry, hupstream⟩

end Context

/-! ## Runs -/

namespace Fates

theorem upstream_row (fates : Fates) (position : Nat) (entry : Entry) :
    (fates.row entry).upstream position = entry.upstream position := by
  have htype : (fates.row entry).type = entry.type := by
    unfold row
    cases fates entry.position with
    | idle reason => rfl
    | acted outcome drew => cases outcome <;> rfl
  rw [Row.upstream, Entry.upstream, position_row, htype]

theorem filter_upstream_rows (fates : Fates) (position : Nat) (entries : List Entry) :
    (entries.map fates.row).filter (Row.upstream position) =
      (entries.filter (Entry.upstream position)).map fates.row := by
  have hsame : Row.upstream position ∘ fates.row = Entry.upstream position :=
    funext (fates.upstream_row position)
  rw [List.filter_map, hsame]

end Fates

/-- Sequences that look the same, and are the same before a position and among the web
shapers, have the same rows there. -/
theorem Context.filter_rows_resolve {conditions : Conditions}
    (hconditions : conditions.ReadSilhouettes) (draws : Random.Units) {built built' : Context}
    (hnumbered : built.Numbered) (hnumbered' : built'.Numbered) (hfresh : built.Fresh)
    (hfresh' : built'.Fresh) (hresemble : Resemble built.entries built'.entries) {position : Nat}
    (hupstream : built.entries.filter (Entry.upstream position) =
      built'.entries.filter (Entry.upstream position)) :
    (built.resolve conditions draws).rows.filter (Row.upstream position) =
      (built'.resolve conditions draws).rows.filter (Row.upstream position) := by
  obtain ⟨fates, hfollow, hreport⟩ := exists_resolve_eq conditions draws hnumbered
  obtain ⟨others, hfollow', hreport'⟩ := exists_resolve_eq conditions draws hnumbered'
  obtain ⟨late, hlate⟩ := exists_turns_eq_early_append hnumbered position
  obtain ⟨late', hlate'⟩ := exists_turns_eq_early_append hnumbered' position
  -- The late turns may differ; both runs begin with the same early ones.
  rw [hlate, Fates.follow_append] at hfollow
  rw [hlate', Fates.follow_append, ← early_eq_of_filter_eq hupstream] at hfollow'
  have hsame : List.Forall₂ Eq (built.early position) (built.early position) :=
    List.forall₂_eq_eq_eq ▸ rfl
  have hpaired : Fates.Paired Eq fates others (built.early position) (built.early position) := by
    refine Fates.Follow.paired (fun _ _ => congrArg Fate.deed) ?_ hsame hfollow.1 hfollow'.1
    rintro entry _ rfl
    exact ⟨rfl, Entry.fate_record_eq hconditions rfl hresemble
      (hfresh.ledger.trans hfresh'.ledger.symm) (hfresh.strikes.trans hfresh'.strikes.symm)⟩
  rw [hreport, hreport']
  unfold Fates.report
  rw [Fates.filter_upstream_rows, Fates.filter_upstream_rows, ← hupstream]
  apply List.map_congr_left
  intro entry hentry
  exact congrArg (Row.meet _) (hpaired.forall_mem entry (mem_early hentry))

/-! ## Catalogs that differ in their dealers -/

theorem Catalog.Retunes.filter_build_eq {catalog other : Catalog} (h : catalog.Retunes other)
    {slots : Slots} {position : Nat}
    (hdiffer : ∀ entry ∈ (Context.build catalog.get? slots).entries,
      other.get? entry.placement.componentId ≠ some entry.component → position ≤ entry.position) :
    (Context.build catalog.get? slots).entries.filter (Entry.upstream position) =
      (Context.build other.get? slots).entries.filter (Entry.upstream position) := by
  have houtlines : (Context.build catalog.get? slots).entries.map Entry.outline =
      (Context.build other.get? slots).entries.map Entry.outline :=
    congrArg Context.entries (Context.outline_build h.outlines slots)
  obtain ⟨hlength, houtlines⟩ := List.forall₂_iff_zip.mp (forall₂_of_map_eq houtlines)
  apply filter_eq_of_forall₂
  refine List.forall₂_iff_zip.mpr ⟨hlength, fun {entry entry'} hmem => ?_⟩
  have houtline : entry.outline = entry'.outline := houtlines hmem
  obtain ⟨hentry, hentry'⟩ := List.of_mem_zip hmem
  have hplacement : entry.outline.placement = entry'.outline.placement :=
    congrArg Entry.placement houtline
  have hsame : entry.outline.upstream position = entry'.outline.upstream position :=
    congrArg (Entry.upstream position) houtline
  refine ⟨hsame, fun hupstream => ?_⟩
  have hlookup : other.get? entry.placement.componentId = some entry.component := by
    rcases Bool.or_eq_true_iff.mp hupstream with hbefore | hshapes
    · by_contra hother
      have hposition := hdiffer entry hentry hother
      rw [decide_eq_true_eq] at hbefore
      omega
    · exact h.shapers _ _ (Context.lookup_of_mem_build entry hentry) hshapes
  obtain ⟨placement, component⟩ := entry
  obtain ⟨placement', component'⟩ := entry'
  obtain rfl : placement = placement' := hplacement
  have hlookup' := Context.lookup_of_mem_build _ hentry'
  dsimp only at hlookup hlookup'
  rw [hlookup', Option.some_inj] at hlookup
  rw [hlookup]

/-- What differs between two catalogs, dealers from some position on, tells neither before
that position nor in the row of a web shaper. -/
theorem Catalog.simulate_upstream {catalog other : Catalog}
    (hconditions : catalog.conditions = .standard) (hconditions' : other.conditions = .standard)
    (hretunes : catalog.Retunes other) (draws : Random.Units) (slots : Slots) (position : Nat)
    (hdiffer : ∀ entry ∈ (Context.build catalog.get? slots).entries,
      other.get? entry.placement.componentId ≠ some entry.component → position ≤ entry.position) :
    (catalog.simulate draws slots).rows.filter (Row.upstream position) =
      (other.simulate draws slots).rows.filter (Row.upstream position) := by
  have houtline := Context.outline_build hretunes.outlines slots
  unfold simulate
  rw [hconditions, hconditions']
  exact Context.filter_rows_resolve Conditions.standard_readSilhouettes draws
    (Context.numbered_build _ _) (Context.numbered_build _ _) (Context.fresh_build _ _)
    (Context.fresh_build _ _) (Context.resemble_of_outline_eq houtline)
    (hretunes.filter_build_eq hdiffer)

namespace Catalog

/-- Three cores, of which the first stokes the next and the last echoes what it hears. -/
def hearth : Catalog :=
  ⟨[Standard.kindlingCore, Standard.emberCore, Standard.echoCore, Standard.amplifier], .standard⟩

/-- Makes a storm of the ember core. -/
def stormyEmber (component : Component) : Component :=
  if component.type = .core ∧ component.id = "ember_core" then
    { component with
      baseStats := .ofList [("base_damage", 90), ("crit_chance", 1)]
      ability := .strike .storm }
  else component

/-- The second of three cores becomes another one: the echo behind it tells, the core before
it and the amplifier do not. -/
theorem hearth_simulate_upstream :
    let other := hearth.tuned stormyEmber
    let draws : Random.Units := fun _ => 0
    let slots : Slots := [some (.plain "kindling_core"), some (.plain "ember_core"),
      some (.plain "echo_core"), some (.plain "amplifier")]
    hearth.Retunes other ∧
      (hearth.simulate draws slots).rows.filter (Row.upstream 2) =
        (other.simulate draws slots).rows.filter (Row.upstream 2) ∧
      ((hearth.simulate draws slots).rows.filter (Row.upstream 2)).map Row.position = [1, 4] ∧
      (hearth.simulate draws slots).rows.map Row.damage = [50, 100, 97.5, 0] ∧
      (other.simulate draws slots).rows.map Row.damage = [50, 165, 160.875, 0] := by
  intro other draws slots
  have houtline : ∀ component, (stormyEmber component).outline = component.outline := by
    intro component
    unfold stormyEmber
    split_ifs <;> rfl
  have hshapes : ∀ component, component.type.shapesWeb = true →
      stormyEmber component = component := by
    intro component hshapes
    apply if_neg
    rintro ⟨hcore, -⟩
    rw [hcore] at hshapes
    contradiction
  have hember : ∀ entry ∈ (Context.build hearth.get? slots).entries,
      entry.component.id = "ember_core" → 2 ≤ entry.position := by decide +kernel
  have hretunes : hearth.Retunes other := retunes_tuned houtline hshapes
  have hsame := @simulate_upstream hearth other rfl rfl hretunes draws slots 2 <| by
    intro entry hentry hdiffer
    apply hember entry hentry
    by_contra hid
    apply hdiffer
    rw [get?_tuned houtline, Context.lookup_of_mem_build entry hentry, Option.map_some]
    exact congrArg some (if_neg fun h => hid h.2)
  exact ⟨hretunes, hsame, by decide +kernel, by decide +kernel, by decide +kernel⟩

end Catalog

end TickArena

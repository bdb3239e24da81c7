import TickArena.Proofs.CatalogIndexes
import TickArena.Proofs.Lists

/-!
# Loads that break off

A text lists definitions, and they are registered until one of them is refused: because it is
not valid, or because its id is taken, by the catalog or by an earlier definition of the same
text.  What stands before it is kept.  A definition is checked before anything is written, so
one that is refused leaves no trace, also where the parts of an index are written one by one.
-/

namespace TickArena

namespace Catalog

variable {catalog : Catalog} {earlier definitions : List Component} {definition : Component}

/-- The catalog with more definitions behind its own. -/
def extend (catalog : Catalog) (definitions : List Component) : Catalog :=
  { catalog with components := catalog.components ++ definitions }

@[simp]
theorem ids_extend (catalog : Catalog) (definitions : List Component) :
    (catalog.extend definitions).ids = catalog.ids ++ definitions.map Component.id :=
  List.map_append ..

@[simp]
theorem validate_extend (catalog : Catalog) (definitions : List Component) :
    (catalog.extend definitions).validate = catalog.validate := rfl

/-- The definition is valid, and its id is not taken when the earlier ones are registered. -/
structure Admits (catalog : Catalog) (earlier : List Component) (definition : Component) :
    Prop where
  valid : catalog.validate definition = .ok ()
  unregistered : definition.id ∉ catalog.ids
  fresh : definition.id ∉ earlier.map Component.id

/-- Each definition is admitted behind those that stand before it. -/
def AdmitsAll (catalog : Catalog) (definitions : List Component) : Prop :=
  ∀ earlier definition later, definitions = earlier ++ definition :: later →
    catalog.Admits earlier definition

/-- Why a definition is refused when the earlier ones are registered.  Whether its id is taken
is asked only of a valid one. -/
inductive Refuses (catalog : Catalog) (earlier : List Component) (definition : Component) :
    SchemaError → Prop
  | invalid {cause : SchemaError} (hinvalid : catalog.validate definition = .error cause) :
      Refuses catalog earlier definition cause
  | taken (hvalid : catalog.validate definition = .ok ())
      (htaken : definition.id ∈ catalog.ids ∨ definition.id ∈ earlier.map Component.id) :
      Refuses catalog earlier definition (.duplicateId definition.id)

theorem admits_or_refuses (catalog : Catalog) (earlier : List Component) (definition : Component) :
    catalog.Admits earlier definition ∨ ∃ cause, catalog.Refuses earlier definition cause := by
  cases hvalid : catalog.validate definition with
  | error cause => exact .inr ⟨cause, .invalid hvalid⟩
  | ok valid =>
    by_cases htaken : definition.id ∈ catalog.ids ∨ definition.id ∈ earlier.map Component.id
    · exact .inr ⟨_, .taken hvalid htaken⟩
    · obtain ⟨hunregistered, hfresh⟩ := not_or.mp htaken
      exact .inl ⟨hvalid, hunregistered, hfresh⟩

/-! ## One definition -/

theorem register_of_admits (h : catalog.Admits earlier definition) :
    (catalog.extend earlier).register definition =
      .ok (catalog.extend (earlier ++ [definition])) := by
  have hnew : (catalog.extend earlier).contains definition.id = false := by
    rw [← Bool.not_eq_true, contains_iff_mem_ids, ids_extend, List.mem_append, not_or]
    exact ⟨h.unregistered, h.fresh⟩
  have hvalid : (catalog.extend earlier).validate definition = .ok () := h.valid
  rw [register_of_validate hvalid hnew, extend, extend, List.append_assoc]

theorem register_of_refuses {cause : SchemaError} (h : catalog.Refuses earlier definition cause) :
    (catalog.extend earlier).register definition = .error cause := by
  cases h with
  | invalid hinvalid =>
    rw [register, validate_extend, hinvalid]
    rfl
  | taken hvalid htaken =>
    have hcontains : (catalog.extend earlier).contains definition.id = true := by
      rw [contains_iff_mem_ids, ids_extend, List.mem_append]
      exact htaken
    rw [register, validate_extend, hvalid, hcontains]
    rfl

/-! ## Definitions one after another -/

theorem admitsAll_nil (catalog : Catalog) : catalog.AdmitsAll [] := by
  intro earlier definition later hsplit
  simp at hsplit

theorem admitsAll_concat : catalog.AdmitsAll (definitions ++ [definition]) ↔
    catalog.AdmitsAll definitions ∧ catalog.Admits definitions definition := by
  constructor
  · intro h
    refine ⟨fun earlier other later hsplit => ?_, h definitions definition [] rfl⟩
    exact h earlier other (later ++ [definition]) (by simp [hsplit])
  · rintro ⟨hall, hlast⟩ earlier other later hsplit
    rcases concat_eq_append_cons_iff.mp hsplit with ⟨rfl, rfl, -⟩ | ⟨rest, -, hdefinitions⟩
    · exact hlast
    · exact hall earlier other rest hdefinitions

/-- All definitions are admitted, or there is a first one that is refused. -/
theorem admitsAll_or_refuses (catalog : Catalog) (definitions : List Component) :
    catalog.AdmitsAll definitions ∨ ∃ earlier definition later cause,
      definitions = earlier ++ definition :: later ∧ catalog.AdmitsAll earlier ∧
        catalog.Refuses earlier definition cause := by
  induction definitions using List.reverseRecOn with
  | nil => exact .inl (admitsAll_nil catalog)
  | append_singleton definitions last ih =>
    rcases ih with hall | ⟨earlier, definition, later, cause, rfl, hearlier, hrefuses⟩
    · rcases catalog.admits_or_refuses definitions last with hadmits | ⟨cause, hrefuses⟩
      · exact .inl (admitsAll_concat.mpr ⟨hall, hadmits⟩)
      · exact .inr ⟨definitions, last, [], cause, rfl, hall, hrefuses⟩
    · exact .inr ⟨earlier, definition, later ++ [last], cause, by simp, hearlier, hrefuses⟩

theorem registerAll_append_of_ok {middle : Catalog} {later : List Component}
    (h : catalog.registerAll earlier = (middle, .ok ())) :
    catalog.registerAll (earlier ++ later) = middle.registerAll later := by
  induction earlier generalizing catalog with
  | nil =>
    obtain rfl : catalog = middle := congrArg Prod.fst h
    rfl
  | cons first rest ih =>
    obtain ⟨next, hnext, h⟩ := registerAll_cons_eq_ok_iff.mp h
    rw [List.cons_append, registerAll, hnext]
    exact ih h

theorem registerAll_of_admitsAll (h : catalog.AdmitsAll definitions) :
    catalog.registerAll definitions = (catalog.extend definitions, .ok ()) := by
  induction definitions using List.reverseRecOn with
  | nil => simp [registerAll, extend]
  | append_singleton definitions last ih =>
    obtain ⟨hall, hlast⟩ := admitsAll_concat.mp h
    rw [registerAll_append_of_ok (ih hall), registerAll, register_of_admits hlast]
    rfl

theorem registerAll_of_refuses {later : List Component} {cause : SchemaError}
    (hearlier : catalog.AdmitsAll earlier) (hrefuses : catalog.Refuses earlier definition cause) :
    catalog.registerAll (earlier ++ definition :: later) =
      (catalog.extend earlier, .error cause) := by
  rw [registerAll_append_of_ok (registerAll_of_admitsAll hearlier), registerAll,
    register_of_refuses hrefuses]

/-! ## Texts -/

/-- What loading a text with these definitions comes to. -/
structure LoadsInOrder (catalog : Catalog) (text : String) (definitions : List Component) :
    Prop where
  complete : ∀ next count, catalog.loadText text = (next, .ok count) ↔
    catalog.AdmitsAll definitions ∧ count = definitions.length ∧ next = catalog.extend definitions
  broken : ∀ next failure, catalog.loadText text = (next, .error failure) ↔
    ∃ earlier definition later cause, definitions = earlier ++ definition :: later ∧
      catalog.AdmitsAll earlier ∧ catalog.Refuses earlier definition cause ∧
      failure = .schema cause ∧ next = catalog.extend earlier
  ids : ∀ kept, (catalog.extend kept).ids = catalog.ids ++ kept.map Component.id

theorem loadText_of_malformed {text : String} (h : components? text = none) :
    catalog.loadText text = (catalog, .error .malformed) := by
  rw [loadText, h]

theorem loadText_of_admitsAll {text : String} (htext : components? text = some definitions)
    (h : catalog.AdmitsAll definitions) :
    catalog.loadText text = (catalog.extend definitions, .ok definitions.length) := by
  rw [loadText, htext]
  dsimp only
  rw [registerAll_of_admitsAll h]

theorem loadText_of_refuses {text : String} {later : List Component} {cause : SchemaError}
    (htext : components? text = some (earlier ++ definition :: later))
    (hearlier : catalog.AdmitsAll earlier) (hrefuses : catalog.Refuses earlier definition cause) :
    catalog.loadText text = (catalog.extend earlier, .error (.schema cause)) := by
  rw [loadText, htext]
  dsimp only
  rw [registerAll_of_refuses hearlier hrefuses]

theorem loadsInOrder_of_components? {text : String}
    (htext : components? text = some definitions) : catalog.LoadsInOrder text definitions := by
  refine ⟨fun next count => ⟨fun hload => ?_, ?_⟩, fun next failure => ⟨fun hload => ?_, ?_⟩,
    ids_extend catalog⟩
  · rcases catalog.admitsAll_or_refuses definitions with
      hall | ⟨earlier, definition, later, cause, rfl, hearlier, hrefuses⟩
    · rw [loadText_of_admitsAll htext hall] at hload
      obtain ⟨rfl, hcount⟩ := Prod.mk.inj hload
      exact ⟨hall, (Except.ok.inj hcount).symm, rfl⟩
    · rw [loadText_of_refuses htext hearlier hrefuses] at hload
      exact absurd (congrArg Prod.snd hload) (by simp)
  · rintro ⟨hall, rfl, rfl⟩
    exact loadText_of_admitsAll htext hall
  · rcases catalog.admitsAll_or_refuses definitions with
      hall | ⟨earlier, definition, later, cause, rfl, hearlier, hrefuses⟩
    · rw [loadText_of_admitsAll htext hall] at hload
      exact absurd (congrArg Prod.snd hload) (by simp)
    · rw [loadText_of_refuses htext hearlier hrefuses] at hload
      obtain ⟨rfl, hfailure⟩ := Prod.mk.inj hload
      exact ⟨earlier, definition, later, cause, rfl, hearlier, hrefuses,
        (Except.error.inj hfailure).symm, rfl⟩
  · rintro ⟨earlier, definition, later, cause, rfl, hearlier, hrefuses, rfl, rfl⟩
    exact loadText_of_refuses htext hearlier hrefuses

/-! ## Registering in place -/

namespace Index

/-- Two checks, and then one write after another. -/
def registerInPlace (conditions : Conditions) (component : Component) :
    EStateM SchemaError Index Unit := do
  match (ofConditions conditions).validate component with
  | .error cause => throw cause
  | .ok () => pure ()
  if (← get).byId.contains component.id then throw (.duplicateId component.id)
  modify fun index =>
    let ids := index.byType component.type ++ [component.id]
    { index with byType := Function.update index.byType component.type ids }
  modify fun index => { index with order := index.order ++ [component.id] }
  modify fun index => { index with byId := index.byId.insert component.id component }

theorem run_registerInPlace (conditions : Conditions) (index : Index) (component : Component) :
    (registerInPlace conditions component).run index =
      match index.register conditions component with
      | .ok next => .ok () next
      | .error cause => .error cause index := by
  have hregister : index.register conditions component =
      ((ofConditions conditions).validate component).bind fun _ =>
        if index.byId.contains component.id then .error (.duplicateId component.id)
        else .ok (index.enter component) := rfl
  rw [hregister]
  cases hvalid : (ofConditions conditions).validate component with
  | error cause => simp [registerInPlace, hvalid, Except.bind]
  | ok valid =>
    by_cases htaken : index.byId.contains component.id = true
    · simp [registerInPlace, hvalid, htaken, Except.bind]
    · simp [registerInPlace, hvalid, htaken, Except.bind, enter]

end Index

/-- A text that cannot be read changes nothing, and one that can be read is registered up to its
first definition that is refused.  The index of a catalog, in which definitions are registered
by writes one after another, is left as it is by one that is refused, and is that of the next
catalog otherwise. -/
theorem loadText_until_refused (catalog : Catalog) (text : String) :
    (components? text = none → catalog.loadText text = (catalog, .error .malformed)) ∧
      (∀ definitions, components? text = some definitions →
        catalog.LoadsInOrder text definitions) ∧
      ∀ definition, (Index.registerInPlace catalog.conditions definition).run catalog.index =
        match catalog.register definition with
        | .ok next => .ok () next.index
        | .error cause => .error cause catalog.index := by
  refine ⟨loadText_of_malformed, fun definitions => loadsInOrder_of_components?,
    fun definition => ?_⟩
  rw [Index.run_registerInPlace, index_register]
  cases catalog.register definition <;> rfl

/-- The second definition takes the id of the first, which is kept. -/
theorem twins_loadText_until_refused :
    let catalog : Catalog := ⟨[Standard.emberCore], .standard⟩
    let text := "[[component]]
id = 'twin'
type = 'core'
rarity = 'rare'
ability.execute = 'ember'
[[component]]
id = 'twin'
type = 'chain'
rarity = 'rare'
ability.modify_web = 'conduit'"
    ∃ definitions, components? text = some definitions ∧ catalog.LoadsInOrder text definitions ∧
      (catalog.loadText text).2 = .error (.schema (.duplicateId "twin")) ∧
      (catalog.loadText text).1.ids = ["ember_core", "twin"] := by
  intro catalog text
  let checks (definition : Component) := (definition.id, definition.id.toList.all isBlank,
    definition.ability.fits definition.type, definition.baseStats.rows.isEmpty,
    definition.requirements.isEmpty)
  have hchecks : (components? text).map (·.map checks) =
      some [("twin", false, true, true, true), ("twin", false, true, true, true)] := by
    decide +kernel
  obtain ⟨definitions, hdefinitions, hshape⟩ := Option.map_eq_some_iff.mp hchecks
  have hloads := (loadText_until_refused catalog text).2.1 definitions hdefinitions
  have hpassed : ∀ definition ∈ definitions,
      checks definition = ("twin", false, true, true, true) := by
    intro definition hmem
    have hchecked : checks definition ∈ definitions.map checks := List.mem_map_of_mem hmem
    simpa [hshape] using hchecked
  have hid : ∀ definition ∈ definitions, definition.id = "twin" :=
    fun definition hmem => congrArg Prod.fst (hpassed definition hmem)
  have hvalid : ∀ definition ∈ definitions, catalog.validate definition = .ok () := by
    intro definition hmem
    have hplain := congrArg Prod.snd (hpassed definition hmem)
    simp only [checks, Prod.mk.injEq, List.isEmpty_iff] at hplain
    obtain ⟨hblank, hfits, hstats, hrequirements⟩ := hplain
    exact validate_eq_ok hblank hfits (by rw [hstats]; rfl) (by rw [hrequirements]; rfl)
  obtain ⟨first, rest, rfl, -, hrest⟩ := List.map_eq_cons_iff.mp hshape
  obtain ⟨second, rest, rfl, -, -⟩ := List.map_eq_cons_iff.mp hrest
  have hids : catalog.ids = ["ember_core"] := rfl
  have hfirst : catalog.AdmitsAll ([] ++ [first]) := by
    refine admitsAll_concat.mpr ⟨admitsAll_nil catalog, ?_⟩
    exact ⟨hvalid first (by simp), by simp [hids, hid first (by simp)], by simp⟩
  have hsecond : catalog.Refuses [first] second (.duplicateId second.id) :=
    .taken (hvalid second (by simp)) (.inr (by simp [hid]))
  have hload := (hloads.broken _ _).mpr ⟨[first], second, rest, _, rfl, hfirst, hsecond, rfl, rfl⟩
  refine ⟨_, hdefinitions, hloads, ?_, ?_⟩
  · rw [hload, hid second (by simp)]
  · rw [hload, hloads.ids, hids, List.map_singleton, hid first (by simp)]
    rfl

end Catalog

end TickArena

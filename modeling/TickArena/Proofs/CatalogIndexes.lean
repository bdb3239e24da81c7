import TickArena.Proofs.BuiltCatalogs
import TickArena.Proofs.TableLookups

/-!
# Catalogs and their indexes

A catalog is one list of definitions, and what is asked of it is read off that list.  It can
as well be kept as an index: a table by id, the ids in the order of registration and the ids
of each type, all of them written at every registration.  The two give the same answers,
because no id is registered twice, whatever has been loaded and wherever a load has failed.
-/

namespace TickArena

namespace Catalog

/-! ## Loads -/

/-- One attempt to add to a catalog. -/
inductive Load where
  | register (component : Component)
  | text (text : String)
  | file (found : Except FileFault FileTree)
  | folder (found : Except FileFault FileTree)

/-- What is there after an attempt, which may have failed before its end. -/
def load (catalog : Catalog) : Load → Catalog
  | .register component => (catalog.register component).toOption.getD catalog
  | .text text => (catalog.loadText text).1
  | .file found => (catalog.loadFile found).1
  | .folder found => (catalog.loadFolder found).1

def loadAll (catalog : Catalog) (loads : List Load) : Catalog :=
  loads.foldl load catalog

theorem load_preserves {motive : Catalog → Prop}
    (hregister : ∀ catalog component next, catalog.register component = .ok next →
      motive catalog → motive next)
    {catalog : Catalog} (attempt : Load) (h : motive catalog) : motive (catalog.load attempt) := by
  cases attempt with
  | register component =>
    rw [load]
    cases hnext : catalog.register component with
    | ok next => exact hregister _ _ _ hnext h
    | error cause => exact h
  | text text => exact loadText_preserves hregister text h
  | file found => exact loadFile_preserves hregister found h
  | folder found => exact loadFolder_preserves hregister found h

theorem loadAll_preserves {motive : Catalog → Prop}
    (hregister : ∀ catalog component next, catalog.register component = .ok next →
      motive catalog → motive next)
    {catalog : Catalog} (loads : List Load) (h : motive catalog) :
    motive (catalog.loadAll loads) :=
  List.foldlRecOn loads load h fun _ hcatalog attempt _ =>
    load_preserves hregister attempt hcatalog

theorem Built.loadAll {catalog : Catalog} (h : catalog.Built) (loads : List Load) :
    (catalog.loadAll loads).Built :=
  loadAll_preserves (fun _ _ _ hnext hbuilt => hbuilt.register hnext) loads h

/-! ## What is registered stays -/

/-- Registering one after another succeeds if the first succeeds, and so do the others then. -/
theorem registerAll_cons_eq_ok_iff {catalog next : Catalog} {component : Component}
    {components : List Component} :
    catalog.registerAll (component :: components) = (next, .ok ()) ↔
      ∃ first, catalog.register component = .ok first ∧
        first.registerAll components = (next, .ok ()) := by
  rw [registerAll]
  cases catalog.register component with
  | error cause => simp
  | ok first => simp

theorem registerAll_append {catalog middle next : Catalog} {components later : List Component}
    (h : catalog.registerAll components = (middle, .ok ()))
    (hlater : middle.registerAll later = (next, .ok ())) :
    catalog.registerAll (components ++ later) = (next, .ok ()) := by
  induction components generalizing catalog with
  | nil =>
    obtain rfl : catalog = middle := congrArg Prod.fst h
    exact hlater
  | cons component components ih =>
    obtain ⟨first, hfirst, h⟩ := registerAll_cons_eq_ok_iff.mp h
    exact registerAll_cons_eq_ok_iff.mpr ⟨first, hfirst, ih h⟩

theorem registerAll_eq_ok {catalog next : Catalog} {components : List Component}
    (h : catalog.registerAll components = (next, .ok ())) :
    next = { catalog with components := catalog.components ++ components } := by
  induction components generalizing catalog with
  | nil =>
    obtain rfl : catalog = next := congrArg Prod.fst h
    simp
  | cons component components ih =>
    obtain ⟨first, hfirst, h⟩ := registerAll_cons_eq_ok_iff.mp h
    obtain ⟨-, -, rfl⟩ := register_eq_ok hfirst
    rw [ih h, List.append_assoc, List.singleton_append]

/-- Loads, failing ones included, come to registering some definitions one by one. -/
theorem exists_registerAll_eq (catalog : Catalog) (loads : List Load) :
    ∃ registered, catalog.registerAll registered = (catalog.loadAll loads, .ok ()) := by
  refine loadAll_preserves
    (motive := fun next => ∃ registered, catalog.registerAll registered = (next, .ok ())) ?_ loads
    ⟨[], rfl⟩
  rintro middle component next hnext ⟨registered, hregistered⟩
  exact ⟨registered ++ [component], registerAll_append hregistered
    (registerAll_cons_eq_ok_iff.mpr ⟨next, hnext, rfl⟩)⟩

/-- Nothing of a catalog is lost, moved or replaced in another one. -/
structure Persists (before after : Catalog) : Prop where
  conditions : after.conditions = before.conditions
  components : before.components <+: after.components
  get? : ∀ id component, before.get? id = some component → after.get? id = some component

theorem persists_loadAll (catalog : Catalog) (loads : List Load) :
    catalog.Persists (catalog.loadAll loads) := by
  obtain ⟨registered, hregistered⟩ := catalog.exists_registerAll_eq loads
  rw [registerAll_eq_ok hregistered]
  refine ⟨rfl, List.prefix_append _ _, fun id component hfound => ?_⟩
  have hfound : catalog.components.find? (fun component => component.id = id) = some component :=
    hfound
  rw [Catalog.get?, List.find?_append, hfound, Option.some_or]

/-! ## Ids -/

theorem nodup_concat_ids {components : List Component} {component : Component} :
    ((components ++ [component]).map Component.id).Nodup ↔
      component.id ∉ components.map Component.id ∧ (components.map Component.id).Nodup := by
  rw [List.map_append, List.map_singleton, ← List.concat_eq_append, List.nodup_concat]

theorem Built.nodup_ids {catalog : Catalog} (h : catalog.Built) : catalog.ids.Nodup := by
  apply h.preserves
  · intro catalog component next hnext hnodup
    obtain ⟨-, hnew, rfl⟩ := register_eq_ok hnext
    refine nodup_concat_ids.mpr ⟨fun hmem => ?_, hnodup⟩
    obtain ⟨other, hother, hsame⟩ := List.mem_map.mp hmem
    have hnone : catalog.get? component.id = none := by simpa [contains] using hnew
    exact absurd hsame (by simpa using List.find?_eq_none.mp hnone other hother)
  · exact fun conditions => List.nodup_nil

theorem contains_iff_mem_ids {catalog : Catalog} {id : String} :
    catalog.contains id = true ↔ id ∈ catalog.ids := by
  rw [contains, get?, List.find?_isSome, ids, List.mem_map]
  simp

theorem get?_eq_some_iff {catalog : Catalog} (hnodup : catalog.ids.Nodup) {id : String}
    {component : Component} :
    catalog.get? id = some component ↔ component ∈ catalog.components ∧ component.id = id := by
  constructor
  · intro hfound
    exact ⟨List.mem_of_find?_eq_some hfound, by simpa using List.find?_some hfound⟩
  · rintro ⟨hmem, rfl⟩
    obtain ⟨found, hfound⟩ := Option.isSome_iff_exists.mp
      (contains_iff_mem_ids.mpr (List.mem_map_of_mem hmem))
    have hsame : found.id = component.id := by simpa using List.find?_some hfound
    rw [hfound, List.inj_on_of_nodup_map hnodup (List.mem_of_find?_eq_some hfound) hmem hsame]

/-- Looking ids up gives back the definitions that they were taken from. -/
theorem filterMap_get?_map_id {catalog : Catalog} (hnodup : catalog.ids.Nodup)
    {components : List Component} (h : components ⊆ catalog.components) :
    (components.map Component.id).filterMap catalog.get? = components := by
  rw [List.filterMap_map]
  calc components.filterMap (catalog.get? ∘ Component.id)
      = components.filterMap some := List.filterMap_congr fun component hcomponent =>
        (get?_eq_some_iff hnodup).mpr ⟨h hcomponent, rfl⟩
    _ = components := List.filterMap_some

/-! ## Types -/

/-- The definitions of different types, one type after another. -/
theorem flatMap_ofType_perm (catalog : Catalog) {types : List ComponentType}
    (hnodup : types.Nodup) : (types.flatMap catalog.ofType).Perm
      (catalog.components.filter fun component => component.type ∈ types) := by
  induction types with
  | nil => simp
  | cons type types ih =>
    obtain ⟨hnew, hnodup⟩ := List.nodup_cons.mp hnodup
    let among := catalog.components.filter fun component => component.type ∈ type :: types
    have hfirst : (among.filter fun component => component.type = type) = catalog.ofType type := by
      rw [List.filter_filter]
      apply List.filter_congr
      intro component _
      by_cases hsame : component.type = type <;> simp [hsame]
    have hlater : (among.filter fun component => !decide (component.type = type)) =
        catalog.components.filter fun component => component.type ∈ types := by
      rw [List.filter_filter]
      apply List.filter_congr
      intro component _
      by_cases hsame : component.type = type
      · simp [hsame, hnew]
      · simp [hsame]
    have hsplit := List.filter_append_perm (fun component => decide (component.type = type)) among
    rw [hfirst, hlater] at hsplit
    exact ((ih hnodup).append_left _).trans hsplit

/-! ## Indexes -/

/-- The definitions by their ids, the ids in the order of registration, and the ids of each
type in that order. -/
structure Index where
  byId : Table String Component
  order : List String
  byType : ComponentType → List String

namespace Index

instance : EmptyCollection Index := ⟨⟨∅, [], fun _ => []⟩⟩

/-- The index with one definition more, which is written into each of its parts. -/
def enter (index : Index) (component : Component) : Index :=
  { byType := Function.update index.byType component.type
      (index.byType component.type ++ [component.id])
    order := index.order ++ [component.id]
    byId := index.byId.insert component.id component }

/-- The ids of the type are looked up one by one. -/
def ofType (index : Index) (type : ComponentType) : List Component :=
  (index.byType type).filterMap index.byId.get?

/-- Registering with an index alone; conditions are all that a check needs of a catalog. -/
def register (conditions : Conditions) (index : Index) (component : Component) :
    Except SchemaError Index := do
  (ofConditions conditions).validate component
  if index.byId.contains component.id then .error (.duplicateId component.id)
  else .ok (index.enter component)

/-- Registers definitions up to the first that is refused, without any catalog. -/
def registerAll (conditions : Conditions) (index : Index) :
    List Component → Index × Except SchemaError Unit
  | [] => (index, .ok ())
  | component :: rest =>
    match index.register conditions component with
    | .ok next => next.registerAll conditions rest
    | .error cause => (index, .error cause)

def ofComponents (components : List Component) : Index :=
  components.foldl enter ∅

theorem ofComponents_concat (components : List Component) (component : Component) :
    ofComponents (components ++ [component]) = (ofComponents components).enter component :=
  List.foldl_concat ..

theorem order_ofComponents (components : List Component) :
    (ofComponents components).order = components.map Component.id := by
  induction components using List.reverseRecOn with
  | nil => rfl
  | append_singleton components component ih =>
    rw [ofComponents_concat, List.map_append, ← ih]
    rfl

theorem byType_ofComponents (components : List Component) (type : ComponentType) :
    (ofComponents components).byType type =
      (components.filter fun component => component.type = type).map Component.id := by
  induction components using List.reverseRecOn with
  | nil => rfl
  | append_singleton components component ih =>
    rw [ofComponents_concat, enter, List.filter_append, List.map_append, ← ih]
    by_cases hsame : component.type = type
    · subst hsame
      simp
    · simp [hsame, Function.update_of_ne (Ne.symm hsame)]

theorem contains_ofComponents (components : List Component) (id : String) :
    (ofComponents components).byId.contains id = true ↔ id ∈ components.map Component.id := by
  rw [Table.contains]
  induction components using List.reverseRecOn with
  | nil => exact iff_of_false Bool.false_ne_true List.not_mem_nil
  | append_singleton components component ih =>
    rw [ofComponents_concat, enter, List.map_append, List.mem_append, ← ih, List.map_singleton,
      List.mem_singleton]
    by_cases hsame : id = component.id
    · simp [hsame]
    · rw [Table.get?_insert_of_ne _ _ hsame]
      simp [hsame]

theorem get?_ofComponents_of_not_mem {components : List Component} {id : String}
    (h : id ∉ components.map Component.id) : (ofComponents components).byId.get? id = none := by
  rw [← contains_ofComponents] at h
  exact Option.not_isSome_iff_eq_none.mp h

theorem get?_ofComponents {components : List Component}
    (hnodup : (components.map Component.id).Nodup) (id : String) :
    (ofComponents components).byId.get? id =
      components.find? fun component => component.id = id := by
  induction components using List.reverseRecOn with
  | nil => rfl
  | append_singleton components component ih =>
    obtain ⟨hnew, hnodup⟩ := nodup_concat_ids.mp hnodup
    rw [ofComponents_concat, enter, List.find?_append, ← ih hnodup]
    by_cases hsame : id = component.id
    · -- In the list the first definition of an id wins, and in the table the last one: there
      -- must be only one.
      subst hsame
      simp [get?_ofComponents_of_not_mem hnew]
    · rw [Table.get?_insert_of_ne _ _ hsame]
      simp [Ne.symm hsame]

theorem size_ofComponents {components : List Component}
    (hnodup : (components.map Component.id).Nodup) :
    (ofComponents components).byId.size = components.length := by
  induction components using List.reverseRecOn with
  | nil => rfl
  | append_singleton components component ih =>
    obtain ⟨hnew, hnodup⟩ := nodup_concat_ids.mp hnodup
    have hnone := get?_ofComponents_of_not_mem hnew
    rw [ofComponents_concat, enter, Table.size_insert_of_get?_eq_none hnone, ih hnodup,
      List.length_append]
    rfl

end Index

def index (catalog : Catalog) : Index :=
  .ofComponents catalog.components

/-- Registering in the index is registering in the catalog. -/
theorem index_register (catalog : Catalog) (component : Component) :
    catalog.index.register catalog.conditions component =
      (catalog.register component).map Catalog.index := by
  have hcontains : catalog.index.byId.contains component.id = catalog.contains component.id := by
    rw [Bool.eq_iff_iff, contains_iff_mem_ids]
    exact Index.contains_ofComponents catalog.components component.id
  have hvalidate : (ofConditions catalog.conditions).validate component =
      catalog.validate component := rfl
  unfold Index.register Catalog.register
  rw [hcontains, hvalidate]
  cases catalog.validate component with
  | error cause => rfl
  | ok valid =>
    by_cases hknown : catalog.contains component.id = true
    · simp [hknown, bind, Except.bind, Except.map]
    · simp [hknown, bind, Except.bind, Except.map, index, Index.ofComponents_concat]

/-- So are runs of registrations, whether the last one is refused or none is. -/
theorem index_registerAll (catalog : Catalog) (components : List Component) :
    catalog.index.registerAll catalog.conditions components =
      ((catalog.registerAll components).1.index, (catalog.registerAll components).2) := by
  induction components generalizing catalog with
  | nil => rfl
  | cons component rest ih =>
    rw [Index.registerAll, registerAll, index_register]
    cases hnext : catalog.register component with
    | error cause => rfl
    | ok next =>
      have hconditions : next.conditions = catalog.conditions := by
        obtain ⟨-, -, rfl⟩ := register_eq_ok hnext
        rfl
      have hrest := ih next
      rw [hconditions] at hrest
      exact hrest

/-- Loads that are done on the index alone end in the index of the catalog. -/
theorem exists_registerAll_index_eq (conditions : Conditions) (loads : List Load) :
    let catalog := (ofConditions conditions).loadAll loads
    ∃ registered, (ofConditions conditions).registerAll registered = (catalog, .ok ()) ∧
      (∅ : Index).registerAll conditions registered = (catalog.index, .ok ()) := by
  intro catalog
  obtain ⟨registered, hregistered⟩ := (ofConditions conditions).exists_registerAll_eq loads
  refine ⟨registered, hregistered, ?_⟩
  have hindex := (ofConditions conditions).index_registerAll registered
  rwa [hregistered] at hindex

/-- The index of a catalog gives the answers of the catalog, and can go on without it. -/
structure Indexed (catalog : Catalog) : Prop where
  get? : ∀ id, catalog.index.byId.get? id = catalog.get? id
  order : catalog.index.order = catalog.ids
  size : catalog.index.byId.size = catalog.size
  ofType : ∀ type, catalog.index.ofType type = catalog.ofType type
  register : ∀ component, catalog.index.register catalog.conditions component =
    (catalog.register component).map Catalog.index

theorem indexed_of_nodup {catalog : Catalog} (hnodup : catalog.ids.Nodup) : catalog.Indexed := by
  have hget : ∀ id, catalog.index.byId.get? id = catalog.get? id := Index.get?_ofComponents hnodup
  refine ⟨hget, Index.order_ofComponents _, Index.size_ofComponents hnodup, ?_, ?_⟩
  · intro type
    have hbyType : catalog.index.byType type = (catalog.ofType type).map Component.id :=
      Index.byType_ofComponents _ type
    have hlookup : catalog.index.byId.get? = catalog.get? := funext hget
    rw [Index.ofType, hbyType, hlookup]
    exact filterMap_get?_map_id hnodup (List.filter_subset_self _)
  · exact catalog.index_register

/-! ## All answers -/

/-- The answers of a catalog go together. -/
structure Coherent (catalog : Catalog) : Prop where
  nodup : catalog.ids.Nodup
  size : catalog.size = catalog.ids.length
  contains : ∀ id, catalog.contains id = true ↔ id ∈ catalog.ids
  known : ∀ id ∈ catalog.ids, ∃ component, component.id = id ∧
    catalog.get? id = some component ∧ catalog.lookup id = .ok component
  unknown : ∀ id ∉ catalog.ids, catalog.get? id = none ∧
    catalog.lookup id = .error (.unknownComponent id)
  ofType : ∀ type, catalog.ofType type =
    (catalog.ids.filterMap catalog.get?).filter fun component => component.type = type
  types : (Vocabulary.all.flatMap catalog.ofType).Perm (catalog.ids.filterMap catalog.get?)
  validated : ∀ component ∈ catalog.ids.filterMap catalog.get?,
    catalog.validate component = .ok ()

theorem Built.coherent {catalog : Catalog} (h : catalog.Built) : catalog.Coherent := by
  have hnodup := h.nodup_ids
  have hlisted : catalog.ids.filterMap catalog.get? = catalog.components :=
    filterMap_get?_map_id hnodup (List.Subset.refl _)
  refine ⟨hnodup, (List.length_map _).symm, fun id => contains_iff_mem_ids, ?_, ?_, ?_, ?_, ?_⟩
  · intro id hid
    obtain ⟨component, hmem, rfl⟩ := List.mem_map.mp hid
    have hfound := (get?_eq_some_iff hnodup).mpr ⟨hmem, rfl⟩
    exact ⟨component, rfl, hfound, by rw [lookup, hfound]⟩
  · intro id hid
    have hnone : catalog.get? id = none :=
      Option.not_isSome_iff_eq_none.mp (contains_iff_mem_ids.not.mpr hid)
    exact ⟨hnone, by rw [lookup, hnone]⟩
  · intro type
    rw [hlisted]
    rfl
  · have hperm := catalog.flatMap_ofType_perm
      (show (Vocabulary.all : List ComponentType).Nodup by decide)
    have hall : (catalog.components.filter fun component => component.type ∈
        (Vocabulary.all : List ComponentType)) = catalog.components :=
      List.filter_eq_self.mpr fun component _ => decide_eq_true (Vocabulary.mem_all component.type)
    rwa [hall, ← hlisted] at hperm
  · rw [hlisted]
    exact h.validated

/-- Whatever is loaded and whichever loads fail, the answers of a catalog go together, an index
that is kept beside it agrees with it, its ids stand in the order in which they have been
registered, and later loads change nothing about them. -/
theorem coherent_loadAll (conditions : Conditions) (loads later : List Load) :
    let catalog := (ofConditions conditions).loadAll loads
    catalog.Coherent ∧ catalog.Indexed ∧
      (∃ registered, (ofConditions conditions).registerAll registered = (catalog, .ok ()) ∧
        (∅ : Index).registerAll conditions registered = (catalog.index, .ok ()) ∧
        catalog.ids = registered.map Component.id) ∧
      catalog.Persists (catalog.loadAll later) := by
  intro catalog
  have hbuilt : catalog.Built := (Built.start conditions).loadAll loads
  obtain ⟨registered, hregistered, hindex⟩ := exists_registerAll_index_eq conditions loads
  refine ⟨hbuilt.coherent, indexed_of_nodup hbuilt.nodup_ids,
    ⟨registered, hregistered, hindex, ?_⟩, catalog.persists_loadAll later⟩
  have hcatalog : catalog = _ := registerAll_eq_ok hregistered
  rw [hcatalog]
  rfl

end Catalog

end TickArena

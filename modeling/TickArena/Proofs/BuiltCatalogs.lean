import TickArena.Catalog.Standard
import Mathlib

/-!
# Catalogs that can be built

A catalog starts empty and grows by registering, one definition at a time or a text, a
file or a folder of them.  A load that fails keeps what it has registered.  So whatever
one accepted definition preserves is true of every catalog that can be built.
-/

namespace TickArena

/-- The catalogs that registering and loading lead to. -/
inductive Catalog.Built : Catalog → Prop
  | start (conditions : Conditions) : Built (ofConditions conditions)
  | register {catalog next : Catalog} {component : Component} (h : Built catalog)
      (hregister : catalog.register component = .ok next) : Built next
  | loadText {catalog : Catalog} (h : Built catalog) (text : String) :
      Built (catalog.loadText text).1
  | loadFile {catalog : Catalog} (h : Built catalog) (found : Except FileFault FileTree) :
      Built (catalog.loadFile found).1
  | loadFolder {catalog : Catalog} (h : Built catalog) (found : Except FileFault FileTree) :
      Built (catalog.loadFolder found).1

namespace Catalog

/-! ## Registering -/

theorem register_eq_ok {catalog next : Catalog} {component : Component}
    (h : catalog.register component = .ok next) :
    catalog.validate component = .ok () ∧ catalog.contains component.id = false ∧
      next = { catalog with components := catalog.components ++ [component] } := by
  unfold register at h
  cases hvalid : catalog.validate component with
  | error cause =>
    rw [hvalid] at h
    contradiction
  | ok valid =>
    rw [hvalid] at h
    change (if catalog.contains component.id then _ else _) = _ at h
    split_ifs at h with hcontains
    exact ⟨rfl, by simpa using hcontains, (Except.ok.inj h).symm⟩

theorem register_of_validate {catalog : Catalog} {component : Component}
    (hvalid : catalog.validate component = .ok ())
    (hnew : catalog.contains component.id = false) :
    catalog.register component =
      .ok { catalog with components := catalog.components ++ [component] } := by
  unfold register
  rw [hvalid]
  simp [hnew, bind, Except.bind]

theorem validate_eq_ok {catalog : Catalog} {component : Component}
    (hid : component.id.toList.all isBlank = false)
    (hfits : component.ability.fits component.type = true)
    (hstats : component.baseStats.rows.find? (fun row => !row.2.isFinite) = none)
    (hrequirements : firstProblem? catalog.conditions component.requirements = none) :
    catalog.validate component = .ok () := by
  unfold validate
  rw [String.all_bool_eq, hid, hfits, hstats, hrequirements]
  rfl

theorem fits_of_validate {catalog : Catalog} {component : Component}
    (h : catalog.validate component = .ok ()) :
    component.ability.fits component.type = true := by
  unfold validate at h
  split_ifs at h with hblank hfits
  simpa using hfits

theorem requirementProblem?_of_validate {catalog : Catalog} {component : Component}
    (h : catalog.validate component = .ok ()) :
    ∀ requirement ∈ component.requirements,
      requirementProblem? catalog.conditions requirement = none := by
  have hnone : firstProblem? catalog.conditions component.requirements = none := by
    unfold validate at h
    split_ifs at h
    cases hproblem : firstProblem? catalog.conditions component.requirements with
    | none => rfl
    | some problem =>
      rw [hproblem] at h
      split at h <;> contradiction
  unfold firstProblem? at hnone
  intro requirement hrequirement
  rw [← List.zipIdx_map_fst 0 component.requirements] at hrequirement
  obtain ⟨⟨requirement, index⟩, hindexed, rfl⟩ := List.mem_map.mp hrequirement
  exact Option.map_eq_none_iff.mp (List.findSome?_eq_none_iff.mp hnone _ hindexed)

theorem registered_of_validate {catalog : Catalog} {component : Component} {name : String}
    (h : catalog.validate component = .ok ()) (hname : .custom name ∈ component.requirements) :
    (catalog.conditions.get? name).isSome = true := by
  have hproblem := requirementProblem?_of_validate h _ hname
  unfold requirementProblem? at hproblem
  dsimp only at hproblem
  split_ifs at hproblem with hcontains
  exact hcontains

/-! ## Loading -/

section Loading

variable {motive : Catalog → Prop}
  (hregister : ∀ catalog component next, catalog.register component = .ok next →
    motive catalog → motive next)

include hregister

theorem registerAll_preserves {catalog : Catalog} (components : List Component)
    (h : motive catalog) : motive (catalog.registerAll components).1 := by
  induction components generalizing catalog with
  | nil => exact h
  | cons component later ih =>
    unfold registerAll
    cases hnext : catalog.register component with
    | ok next => exact ih (hregister _ _ _ hnext h)
    | error cause => exact h

theorem loadText_preserves {catalog : Catalog} (text : String) (h : motive catalog) :
    motive (catalog.loadText text).1 := by
  unfold loadText
  cases components? text with
  | none => exact h
  | some components =>
    have hall := registerAll_preserves hregister components h
    dsimp only
    split <;> exact hall

theorem loadFile_preserves {catalog : Catalog} (found : Except FileFault FileTree)
    (h : motive catalog) : motive (catalog.loadFile found).1 := by
  unfold loadFile
  split
  · exact h
  · exact h
  · split
    · exact h
    · exact loadText_preserves hregister _ h

omit hregister in
theorem loadThen_preserves {first : Catalog × Except Failure Nat}
    {second : Catalog → Catalog × Except Failure Nat} (hfirst : motive first.1)
    (hsecond : ∀ catalog, motive catalog → motive (second catalog).1) :
    motive (loadThen first second).1 := by
  obtain ⟨catalog, outcome⟩ := first
  cases outcome with
  | error failure => exact hfirst
  | ok count =>
    have hnext := hsecond catalog hfirst
    unfold loadThen
    dsimp only
    split
    · rename_i heq
      rw [heq] at hnext
      exact hnext
    · rename_i heq
      rw [heq] at hnext
      exact hnext

set_option linter.unusedSectionVars false in
mutual

theorem loadNamed_preserves {catalog : Catalog} (name : String) (h : motive catalog) :
    (tree : FileTree) → motive (catalog.loadNamed name tree).1
  | .folder entries => by
    unfold loadNamed
    exact loadEntries_preserves h entries
  | .file bytes => by
    unfold loadNamed
    split_ifs
    · exact loadFile_preserves hregister _ h
    · exact h

theorem loadEntries_preserves {catalog : Catalog} (h : motive catalog) :
    (entries : List (String × FileTree)) → motive (catalog.loadEntries entries).1
  | [] => by
    unfold loadEntries
    exact h
  | (name, tree) :: rest => by
    unfold loadEntries
    exact loadThen_preserves (loadNamed_preserves name h tree) fun next hnext =>
      loadEntries_preserves hnext rest

end

theorem loadFolder_preserves {catalog : Catalog} (found : Except FileFault FileTree)
    (h : motive catalog) : motive (catalog.loadFolder found).1 := by
  unfold loadFolder
  split
  · exact h
  · exact h
  · exact loadEntries_preserves hregister h _

/-- What every registration preserves is true of every catalog that can be built from one
for which it is true. -/
theorem Built.preserves {catalog : Catalog} (h : catalog.Built)
    (hempty : ∀ conditions, motive (ofConditions conditions)) : motive catalog := by
  induction h with
  | start conditions => exact hempty conditions
  | register h hnext ih => exact hregister _ _ _ hnext ih
  | loadText h text ih => exact loadText_preserves hregister text ih
  | loadFile h found ih => exact loadFile_preserves hregister found ih
  | loadFolder h found ih => exact loadFolder_preserves hregister found ih

end Loading

/-! ## Definitions of built catalogs -/

/-- Every definition of a catalog has passed the check, and would pass it again. -/
theorem Built.validated {catalog : Catalog} (h : catalog.Built) :
    ∀ component ∈ catalog.components, catalog.validate component = .ok () := by
  apply h.preserves
  · intro catalog component next hnext hvalidated other hother
    obtain ⟨hvalid, -, rfl⟩ := register_eq_ok hnext
    rcases List.mem_append.mp hother with hold | hnew
    · exact hvalidated other hold
    · obtain rfl := List.mem_singleton.mp hnew
      exact hvalid
  · intro conditions component hcomponent
    exact absurd hcomponent List.not_mem_nil

theorem Built.fits {catalog : Catalog} (h : catalog.Built) :
    ∀ component ∈ catalog.components, component.ability.fits component.type = true :=
  fun component hcomponent => fits_of_validate (h.validated component hcomponent)

/-- The custom conditions that are asked for are there. -/
theorem Built.registered {catalog : Catalog} (h : catalog.Built) :
    ∀ component ∈ catalog.components, ∀ name, .custom name ∈ component.requirements →
      (catalog.conditions.get? name).isSome = true :=
  fun component hcomponent _ => registered_of_validate (h.validated component hcomponent)

/-- Definitions that pass the check and have different ids make a catalog that can be built. -/
theorem built_of_validated {conditions : Conditions} {components : List Component}
    (hvalid : ∀ component ∈ components, (ofConditions conditions).validate component = .ok ())
    (hnodup : (components.map Component.id).Nodup) : Built ⟨components, conditions⟩ := by
  induction components using List.reverseRecOn with
  | nil => exact .start conditions
  | append_singleton components last ih =>
    rw [List.map_append, List.nodup_append] at hnodup
    have hbuilt := ih (fun component hcomponent => hvalid component (by simp [hcomponent])) hnodup.1
    refine hbuilt.register (register_of_validate (hvalid last (by simp)) ?_)
    have hnone : (⟨components, conditions⟩ : Catalog).get? last.id = none := by
      apply List.find?_eq_none.mpr
      intro component hcomponent
      simpa using hnodup.2.2 _ (List.mem_map_of_mem hcomponent) last.id (by simp)
    rw [contains, hnone]
    rfl

theorem built_standard : standard.Built :=
  registerAll_preserves (fun _ _ _ hnext h => h.register hnext) _ (.start .standard)

end Catalog

end TickArena

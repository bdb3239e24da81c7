import TickArena.Proofs.FilePaths
import TickArena.Proofs.PartialLoads

/-!
# Loading folders

A folder is gone through name by name, and what lies under a name is loaded whole before the
next.  This comes to the same as going through all catalog texts below it by their paths, up to
the first that fails.
-/

namespace TickArena

namespace Catalog

/-! ## One thing after another -/

theorem loadThen_nothing (first : Catalog × Except Failure Nat) :
    loadThen first (fun next => (next, .ok 0)) = first := by
  obtain ⟨catalog, failure | count⟩ := first <;> rfl

theorem nothing_loadThen (catalog : Catalog) (second : Catalog → Catalog × Except Failure Nat) :
    loadThen (catalog, .ok 0) second = second catalog := by
  rcases hsecond : second catalog with ⟨next, failure | count⟩ <;> simp [loadThen, hsecond]

theorem loadThen_assoc (first : Catalog × Except Failure Nat)
    (second third : Catalog → Catalog × Except Failure Nat) :
    loadThen (loadThen first second) third =
      loadThen first fun next => loadThen (second next) third := by
  obtain ⟨catalog, failure | count⟩ := first
  · rfl
  · rcases hsecond : second catalog with ⟨next, failure | more⟩
    · simp [loadThen, hsecond]
    · rcases hthird : third next with ⟨last, failure | most⟩ <;>
        simp [loadThen, hsecond, hthird, Nat.add_assoc]

theorem loadThen_eq_ok {first : Catalog × Except Failure Nat}
    {second : Catalog → Catalog × Except Failure Nat} {next : Catalog} {total : ℕ}
    (h : loadThen first second = (next, .ok total)) : ∃ middle count more,
      first = (middle, .ok count) ∧ second middle = (next, .ok more) ∧ total = count + more := by
  obtain ⟨middle, failure | count⟩ := first
  · simp [loadThen] at h
  · rcases hsecond : second middle with ⟨last, failure | more⟩
    · simp [loadThen, hsecond] at h
    · simp only [loadThen, hsecond, Prod.mk.injEq, Except.ok.injEq] at h
      exact ⟨middle, count, more, rfl, by rw [hsecond, h.1], h.2.symm⟩

theorem loadThen_eq_error {first : Catalog × Except Failure Nat}
    {second : Catalog → Catalog × Except Failure Nat} {next : Catalog} {failure : Failure}
    (h : loadThen first second = (next, .error failure)) : first = (next, .error failure) ∨
      ∃ middle count, first = (middle, .ok count) ∧ second middle = (next, .error failure) := by
  obtain ⟨middle, cause | count⟩ := first
  · exact .inl h
  · rcases hsecond : second middle with ⟨last, cause | more⟩
    · simp only [loadThen, hsecond] at h
      exact .inr ⟨middle, count, rfl, hsecond.trans h⟩
    · simp [loadThen, hsecond] at h

/-- Loads what was found, up to the first that fails, and adds up what was counted. -/
def loadEach (catalog : Catalog) : List (Except FileFault FileTree) → Catalog × Except Failure Nat
  | [] => (catalog, .ok 0)
  | found :: rest => loadThen (catalog.loadFile found) fun next => next.loadEach rest

theorem loadEach_singleton (catalog : Catalog) (found : Except FileFault FileTree) :
    catalog.loadEach [found] = catalog.loadFile found :=
  loadThen_nothing _

theorem loadEach_append (catalog : Catalog) (first second : List (Except FileFault FileTree)) :
    catalog.loadEach (first ++ second) =
      loadThen (catalog.loadEach first) fun next => next.loadEach second := by
  induction first generalizing catalog with
  | nil => exact (nothing_loadThen catalog fun next => next.loadEach second).symm
  | cons found rest ih => simp only [List.cons_append, loadEach, ih, loadThen_assoc]

theorem loadEach_eq_error {catalog next : Catalog} {sources : List (Except FileFault FileTree)}
    {failure : Failure} (h : catalog.loadEach sources = (next, .error failure)) :
    ∃ earlier found later middle count, sources = earlier ++ found :: later ∧
      catalog.loadEach earlier = (middle, .ok count) ∧
      middle.loadFile found = (next, .error failure) := by
  induction sources generalizing catalog with
  | nil => simp [loadEach] at h
  | cons found rest ih =>
    rcases loadThen_eq_error h with hfirst | ⟨middle, count, hfirst, hrest⟩
    · exact ⟨[], found, rest, catalog, 0, rfl, rfl, hfirst⟩
    · obtain ⟨earlier, broken, later, last, more, rfl, hearlier, hbroken⟩ := ih hrest
      refine ⟨found :: earlier, broken, later, last, count + more, rfl, ?_, hbroken⟩
      rw [loadEach, hfirst]
      simp [loadThen, hearlier]

/-! ## A folder as its texts one after another -/

/-- The texts among files, as they are found. -/
def texts (files : List (List String × ByteArray)) : List (Except FileFault FileTree) :=
  (files.filter fun found => FileTree.isText found.1).map fun found => .ok (.file found.2)

theorem texts_append (files files' : List (List String × ByteArray)) :
    texts (files ++ files') = texts files ++ texts files' := by
  rw [texts, List.filter_append, List.map_append, texts, texts]

theorem texts_map_inside (name : String) {files : List (List String × ByteArray)}
    (h : ∀ found ∈ files, found.1 ≠ []) :
    texts (files.map (FileTree.inside name)) = texts files := by
  have hsame : ∀ found ∈ files, ((fun found => FileTree.isText found.1) ∘ FileTree.inside name)
      found = FileTree.isText found.1 :=
    fun found hmem => FileTree.isText_inside name (h found hmem)
  rw [texts, List.filter_map, List.filter_congr hsame, List.map_map]
  rfl

mutual

theorem loadNamed_eq_loadEach (catalog : Catalog) (name : String) :
    (tree : FileTree) → catalog.loadNamed name tree =
      catalog.loadEach (texts (tree.files.map (FileTree.inside name)))
  | .file bytes => by
    have htext : FileTree.isText [name] = FileTree.hasExtension "toml" name := rfl
    rw [loadNamed, FileTree.files, List.map_singleton, texts]
    cases hextension : FileTree.hasExtension "toml" name with
    | true => simp [FileTree.inside, htext, hextension, loadEach_singleton]
    | false => simp [FileTree.inside, htext, hextension, loadEach]
  | .folder entries => by
    have hpaths : ∀ found ∈ FileTree.filesEach entries, found.1 ≠ [] := by
      rintro ⟨path, bytes⟩ hmem
      obtain ⟨name, tree, rest, -, rfl, -⟩ := FileTree.mem_filesEach.mp hmem
      exact List.cons_ne_nil name rest
    rw [loadNamed, loadEntries_eq_loadEach, FileTree.files, texts_map_inside name hpaths]

theorem loadEntries_eq_loadEach (catalog : Catalog) :
    (entries : List (String × FileTree)) → catalog.loadEntries entries =
      catalog.loadEach (texts (FileTree.filesEach entries))
  | [] => rfl
  | (name, tree) :: rest => by
    rw [loadEntries, loadNamed_eq_loadEach, FileTree.filesEach, texts_append, loadEach_append]
    simp only [loadEntries_eq_loadEach _ rest]

end

theorem texts_arranged {tree : FileTree} (h : tree.Proper) :
    texts tree.arranged.files = tree.textPaths.map (tree.walk []) := by
  rw [FileTree.textPaths_eq h, texts, List.filter_map, List.map_map]
  apply List.map_congr_left
  rintro ⟨path, bytes⟩ hfound
  have hmem := (FileTree.perm_files_arranged h).mem_iff.mp (List.mem_filter.mp hfound).1
  exact ((FileTree.mem_files_iff h []).mp hmem).2.symm

theorem loadFolder_eq_loadEach (catalog : Catalog) {entries : List (String × FileTree)}
    (h : (FileTree.folder entries).Proper) :
    catalog.loadFolder (.ok (.folder entries)) = catalog.loadEach
      ((FileTree.folder entries).textPaths.map ((FileTree.folder entries).walk [])) := by
  rw [loadFolder, loadEntries_eq_loadEach, ← texts_arranged h, FileTree.arranged, FileTree.files]

/-! ## What a load adds -/

/-- The ids of the next catalog are those of the first and, behind them, as many new ones. -/
def Gains (catalog : Catalog) (count : ℕ) (next : Catalog) : Prop :=
  ∃ ids, next.ids = catalog.ids ++ ids ∧ ids.length = count ∧ ids.Nodup ∧
    ids.Disjoint catalog.ids

theorem gains_nothing (catalog : Catalog) : catalog.Gains 0 catalog :=
  ⟨[], by simp⟩

theorem Gains.trans {catalog middle next : Catalog} {count more : ℕ}
    (hfirst : catalog.Gains count middle) (hsecond : middle.Gains more next) :
    catalog.Gains (count + more) next := by
  obtain ⟨ids, hids, rfl, hnodup, hnew⟩ := hfirst
  obtain ⟨ids', hids', rfl, hnodup', hnew'⟩ := hsecond
  rw [hids, List.disjoint_append_right] at hnew'
  refine ⟨ids ++ ids', by rw [hids', hids, List.append_assoc], List.length_append, ?_, ?_⟩
  · exact hnodup.append hnodup' hnew'.2.symm
  · exact List.disjoint_append_left.mpr ⟨hnew, hnew'.1⟩

theorem gains_of_admitsAll {catalog : Catalog} {definitions : List Component}
    (h : catalog.AdmitsAll definitions) :
    catalog.Gains definitions.length (catalog.extend definitions) := by
  induction definitions using List.reverseRecOn with
  | nil => exact ⟨[], by simp⟩
  | append_singleton definitions last ih =>
    obtain ⟨hall, hlast⟩ := admitsAll_concat.mp h
    have hnew : [last.id].Disjoint (catalog.extend definitions).ids := by
      rw [List.singleton_disjoint, ids_extend, List.mem_append, not_or]
      exact ⟨hlast.unregistered, hlast.fresh⟩
    have hstep : (catalog.extend definitions).Gains 1 (catalog.extend (definitions ++ [last])) :=
      ⟨[last.id], by simp, rfl, List.nodup_singleton _, hnew⟩
    simpa using (ih hall).trans hstep

theorem loadText_gains {catalog next : Catalog} {text : String} {count : ℕ}
    (h : catalog.loadText text = (next, .ok count)) : catalog.Gains count next := by
  cases htext : components? text with
  | none =>
    rw [loadText_of_malformed htext] at h
    simp at h
  | some definitions =>
    obtain ⟨hall, rfl, rfl⟩ := ((loadsInOrder_of_components? htext).complete next count).mp h
    exact gains_of_admitsAll hall

theorem loadFile_gains {catalog next : Catalog} {found : Except FileFault FileTree} {count : ℕ}
    (h : catalog.loadFile found = (next, .ok count)) : catalog.Gains count next := by
  unfold loadFile at h
  split at h
  · simp at h
  · simp at h
  · split at h
    · simp at h
    · exact loadText_gains h

theorem loadEach_gains {catalog next : Catalog} {sources : List (Except FileFault FileTree)}
    {count : ℕ} (h : catalog.loadEach sources = (next, .ok count)) : catalog.Gains count next := by
  induction sources generalizing catalog count with
  | nil =>
    obtain ⟨rfl, hcount⟩ := Prod.mk.inj h
    obtain rfl := Except.ok.inj hcount
    exact gains_nothing catalog
  | cons found rest ih =>
    obtain ⟨middle, first, more, hfirst, hrest, rfl⟩ := loadThen_eq_ok h
    exact (loadFile_gains hfirst).trans (ih hrest)

/-! ## Folders -/

/-- What loading a folder comes to: its texts are loaded one after another by their paths, and
nothing else that lies below it matters. -/
structure LoadsByPath (catalog : Catalog) (tree : FileTree) (paths : List (List String)) :
    Prop where
  ordered : paths.Pairwise fun path path' => FileTree.pathBytes path < FileTree.pathBytes path'
  collected : ∀ path, path ∈ paths ↔
    FileTree.Direct path ∧ (∃ bytes, tree.walk [] path = .ok (.file bytes)) ∧
      ∃ folders stem, stem ≠ "" ∧ path = folders ++ [stem ++ ".toml"]
  load : catalog.loadFolder (.ok tree) = catalog.loadEach (paths.map (tree.walk []))
  complete : ∀ next count, catalog.loadFolder (.ok tree) = (next, .ok count) →
    catalog.Gains count next
  broken : ∀ next failure, catalog.loadFolder (.ok tree) = (next, .error failure) →
    ∃ earlier path later middle count, paths = earlier ++ path :: later ∧
      catalog.loadEach (earlier.map (tree.walk [])) = (middle, .ok count) ∧
      middle.loadFile (tree.walk [] path) = (next, .error failure)
  alike : ∀ entries, (FileTree.folder entries).Proper → tree.SameTexts (.folder entries) →
    catalog.loadFolder (.ok (.folder entries)) = catalog.loadFolder (.ok tree)

theorem loadFolder_loadsByPath (catalog : Catalog) {entries : List (String × FileTree)}
    (hproper : (FileTree.folder entries).Proper) :
    catalog.LoadsByPath (.folder entries) (FileTree.folder entries).textPaths := by
  have hload := loadFolder_eq_loadEach catalog hproper
  refine ⟨FileTree.textPaths_ordered hproper, fun path => ?_, hload, fun next count h => ?_,
    fun next failure h => ?_, fun entries' hproper' hsame => ?_⟩
  · rw [FileTree.mem_textPaths, FileTree.isText_iff]
    simp only [FileTree.mem_files_iff hproper []]
    tauto
  · rw [hload] at h
    exact loadEach_gains h
  · rw [hload] at h
    obtain ⟨earlier, found, later, middle, count, hsplit, hearlier, hfound⟩ := loadEach_eq_error h
    obtain ⟨first, rest, hpaths, rfl, hrest⟩ := List.map_eq_append_iff.mp hsplit
    obtain ⟨path, last, rfl, rfl, -⟩ := List.map_eq_cons_iff.mp hrest
    exact ⟨first, path, last, middle, count, hpaths, hearlier, hfound⟩
  · rw [hload, loadFolder_eq_loadEach catalog hproper', ← hsame.textPaths_eq hproper hproper']
    congr 1
    exact List.map_congr_left fun path hpath => (hsame.walk_eq hproper hproper' hpath).symm

/-- The first name in order begins the next two, and the folder lists it last. -/
theorem crossed_loadFolder_loadsByPath :
    let catalog : Catalog := ⟨[Standard.emberCore], .standard⟩
    let blank := FileTree.file ⟨#[]⟩
    let garbled := FileTree.file ⟨#[0xff]⟩
    let entries := [("b.toml", blank), ("a.toml", garbled),
      ("a.d.toml", .folder [("c.toml", blank)]),
      ("a", .folder [("notes.txt", garbled), ("d.toml", blank)])]
    let paths := [["a", "d.toml"], ["a.d.toml", "c.toml"], ["a.toml"], ["b.toml"]]
    catalog.LoadsByPath (.folder entries) paths ∧
      catalog.loadFolder (.ok (.folder entries)) = (catalog, .error (.file .notText)) := by
  intro catalog blank garbled entries paths
  have hproper : (FileTree.folder entries).Proper := by
    refine .folder (by decide) (by decide) ?_
    simp only [entries, List.forall_mem_cons]
    refine ⟨.file _, .file _, .folder (by decide) (by decide) ?_,
      .folder (by decide) (by decide) ?_, by simp⟩
    · simpa using FileTree.Proper.file _
    · simpa using ⟨FileTree.Proper.file _, FileTree.Proper.file _⟩
  have hpaths : (FileTree.folder entries).textPaths = paths :=
    FileTree.textPaths_eq_of_perm (by decide) (by decide)
  have hloads := loadFolder_loadsByPath catalog hproper
  rw [hpaths] at hloads
  have hfound : paths.map ((FileTree.folder entries).walk []) =
      [.ok blank, .ok blank, .ok garbled, .ok blank] := by
    cbv
  have hblank : catalog.loadFile (.ok blank) = (catalog, .ok 0) := by
    have hcomponents : components? "" = some [] := by cbv
    have htext : String.fromUTF8? ⟨#[]⟩ = some "" := rfl
    simp [loadFile, blank, htext, loadText, hcomponents, registerAll]
  have hgarbled : catalog.loadFile (.ok garbled) = (catalog, .error (.file .notText)) := rfl
  refine ⟨hloads, ?_⟩
  rw [hloads.load, hfound]
  simp [loadEach, loadThen, hblank, hgarbled]

end Catalog

end TickArena

import TickArena.FileTree
import TickArena.Proofs.NameOrder
import TickArena.Proofs.TableLookups

/-!
# Files by their paths

The files of a tree are listed with their paths, which lead to them.  Paths are compared name
by name: where each folder is in the order of its names, the files of the whole tree are in the
order of their paths, because a name comes before all that is behind the next one, however long
either of them is.
-/

namespace TickArena

namespace FileTree

/-! ## The files of a tree -/

/-- A folder as a file system has it: its names differ, no name stands for a step of a path,
and none is too long. -/
inductive Proper : FileTree → Prop
  | file (bytes : ByteArray) : Proper (file bytes)
  | folder {entries : List (String × FileTree)} (hdistinct : (entries.map Prod.fst).Nodup)
      (hnames : ∀ entry ∈ entries,
        entry.1 ≠ "." ∧ entry.1 ≠ ".." ∧ entry.1.utf8ByteSize ≤ nameLimit)
      (hinner : ∀ entry ∈ entries, Proper entry.2) : Proper (folder entries)

def inside (name : String) (found : List String × ByteArray) : List String × ByteArray :=
  (name :: found.1, found.2)

mutual

/-- The files of a tree with their paths. -/
def files : FileTree → List (List String × ByteArray)
  | file bytes => [([], bytes)]
  | folder entries => filesEach entries

def filesEach : List (String × FileTree) → List (List String × ByteArray)
  | [] => []
  | (name, tree) :: rest => tree.files.map (inside name) ++ filesEach rest

end

theorem filesEach_eq_flatMap (entries : List (String × FileTree)) :
    filesEach entries = entries.flatMap fun entry => entry.2.files.map (inside entry.1) := by
  induction entries with
  | nil => rfl
  | cons entry rest ih => rw [filesEach, ih, List.flatMap_cons]

theorem arrangedEach_eq_map (entries : List (String × FileTree)) :
    arrangedEach entries = entries.map fun entry => (entry.1, entry.2.arranged) := by
  induction entries with
  | nil => rfl
  | cons entry rest ih => rw [arrangedEach, ih, List.map_cons]

theorem mem_filesEach {entries : List (String × FileTree)} {path : List String}
    {bytes : ByteArray} : (path, bytes) ∈ filesEach entries ↔ ∃ name tree rest,
      (name, tree) ∈ entries ∧ path = name :: rest ∧ (rest, bytes) ∈ tree.files := by
  simp only [filesEach_eq_flatMap, List.mem_flatMap, List.mem_map, inside, Prod.mk.injEq]
  constructor
  · rintro ⟨⟨name, tree⟩, hentry, ⟨rest, bytes⟩, hfound, rfl, rfl⟩
    exact ⟨name, tree, rest, hentry, rfl, hfound⟩
  · rintro ⟨name, tree, rest, hentry, rfl, hfound⟩
    exact ⟨(name, tree), hentry, (rest, bytes), hfound, rfl, rfl⟩

/-- No part of the path is a step to the same folder or to the one around it. -/
def Direct (path : List String) : Prop :=
  ∀ part ∈ path, part ≠ "." ∧ part ≠ ".."

theorem direct_cons {part : String} {path : List String} :
    Direct (part :: path) ↔ (part ≠ "." ∧ part ≠ "..") ∧ Direct path :=
  List.forall_mem_cons

theorem walk_cons_eq_ok {part : String} (hpart : part ≠ "." ∧ part ≠ "..")
    {entries : List (String × FileTree)} {around : List FileTree} {path : List String}
    {found : FileTree} :
    (folder entries).walk around (part :: path) = .ok found ↔
      part.utf8ByteSize ≤ nameLimit ∧ ∃ inner, Rows.get? part entries = some inner ∧
        inner.walk (folder entries :: around) path = .ok found := by
  obtain ⟨hself, houter⟩ := hpart
  rw [walk]
  · by_cases hlength : part.utf8ByteSize ≤ nameLimit
    · rw [if_neg hlength.not_gt]
      cases Rows.get? part entries <;> simp [hlength]
    · simp [hlength, not_le.mp hlength]
  · exact hself
  · exact fun heq _ => houter heq
  · exact fun _ _ heq _ => houter heq

theorem mem_files_iff {tree : FileTree} (h : tree.Proper) {path : List String} {bytes : ByteArray}
    (around : List FileTree) :
    (path, bytes) ∈ tree.files ↔ Direct path ∧ tree.walk around path = .ok (file bytes) := by
  induction h generalizing path around with
  | file bytes' =>
    cases path with
    | nil => simp [files, walk, Direct, eq_comm]
    | cons part rest => simp [files, walk]
  | @folder entries hdistinct hnames hinner ih =>
    rw [files, mem_filesEach]
    constructor
    · rintro ⟨name, tree, rest, hentry, rfl, hfound⟩
      obtain ⟨hself, houter, hlength⟩ := hnames _ hentry
      obtain ⟨hdirect, hwalk⟩ := (ih _ hentry (folder entries :: around)).mp hfound
      have hget := (Rows.mem_iff_get?_of_nodup_keys hdistinct).mp hentry
      exact ⟨direct_cons.mpr ⟨⟨hself, houter⟩, hdirect⟩,
        (walk_cons_eq_ok ⟨hself, houter⟩).mpr ⟨hlength, tree, hget, hwalk⟩⟩
    · rintro ⟨hdirect, hwalk⟩
      cases path with
      | nil => simp [walk] at hwalk
      | cons part rest =>
        obtain ⟨hpart, hdirect⟩ := direct_cons.mp hdirect
        obtain ⟨-, tree, hget, hwalk⟩ := (walk_cons_eq_ok hpart).mp hwalk
        have hentry := (Rows.mem_iff_get?_of_nodup_keys hdistinct).mpr hget
        exact ⟨part, tree, rest, hentry, rfl, (ih _ hentry _).mpr ⟨hdirect, hwalk⟩⟩

/-! ## The order of the paths -/

/-- A path as its names are stored, which are compared one after another. -/
def pathBytes (path : List String) : List (List ℕ) :=
  path.map nameBytes

theorem pathBytes_injective : Function.Injective pathBytes :=
  List.map_injective_iff.mpr nameBytes_injective

theorem byName_perm (entries : List (String × FileTree)) : (byName entries).Perm entries :=
  List.mergeSort_perm _ _

theorem perm_files_arranged {tree : FileTree} (h : tree.Proper) :
    tree.arranged.files.Perm tree.files := by
  induction h with
  | file bytes => exact .rfl
  | @folder entries hdistinct hnames hinner ih =>
    rw [arranged, files, files, filesEach_eq_flatMap, filesEach_eq_flatMap, arrangedEach_eq_map]
    refine ((byName_perm _).flatMap_right _).trans ?_
    rw [List.flatMap_map]
    refine List.Perm.flatMap_left _ fun entry hentry => ?_
    exact (ih entry hentry).map _

theorem pairwise_byName {entries : List (String × FileTree)} (h : (entries.map Prod.fst).Nodup) :
    (byName entries).Pairwise fun entry entry' => nameBytes entry.1 < nameBytes entry'.1 := by
  have hordered : (byName entries).Pairwise fun entry entry' =>
      (compare entry.1 entry'.1).isLE = true := by
    refine List.pairwise_mergeSort (fun _ _ _ => Std.TransCmp.isLE_trans) (fun entry entry' => ?_) _
    cases hcompare : compare entry.1 entry'.1 with
    | gt => simp [Std.OrientedCmp.gt_iff_lt.mp hcompare]
    | lt => rfl
    | eq => rfl
  have hdistinct : ((byName entries).map Prod.fst).Nodup :=
    ((byName_perm entries).map Prod.fst).nodup_iff.mpr h
  refine (hordered.and (List.pairwise_map.mp hdistinct)).imp ?_
  rintro entry entry' ⟨hle, hne⟩
  rcases Ordering.isLE_iff_eq_lt_or_eq_eq.mp hle with hlt | heq
  · exact nameBytes_lt hlt
  · exact absurd (Std.LawfulEqCmp.compare_eq_iff_eq.mp heq) hne

theorem pairwise_files_arranged {tree : FileTree} (h : tree.Proper) :
    tree.arranged.files.Pairwise fun found found' => pathBytes found.1 < pathBytes found'.1 := by
  induction h with
  | file bytes => exact List.pairwise_singleton _ _
  | @folder entries hdistinct hnames hinner ih =>
    rw [arranged, files, filesEach_eq_flatMap, List.pairwise_flatMap, arrangedEach_eq_map]
    constructor
    -- under one name, what comes after the name decides
    · intro entry hentry
      have hmem := (byName_perm _).mem_iff.mp hentry
      obtain ⟨listed, hlisted, rfl⟩ := List.mem_map.mp hmem
      refine List.pairwise_map.mpr ((ih listed hlisted).imp fun hlt => ?_)
      exact List.cons_lt_cons_iff.mpr (.inr ⟨rfl, hlt⟩)
    -- under different names, the names decide
    · refine (pairwise_byName (by simpa [Function.comp_def] using hdistinct)).imp ?_
      intro entry entry' hlt found hfound found' hfound'
      obtain ⟨inner, -, rfl⟩ := List.mem_map.mp hfound
      obtain ⟨inner', -, rfl⟩ := List.mem_map.mp hfound'
      exact List.cons_lt_cons_iff.mpr (.inl hlt)

theorem pairwise_paths_arranged {tree : FileTree} (h : tree.Proper) :
    (tree.arranged.files.map Prod.fst).Pairwise fun path path' =>
      pathBytes path < pathBytes path' :=
  List.pairwise_map.mpr (pairwise_files_arranged h)

/-! ## Catalog texts -/

/-- Whether the last name of a path has the extension of catalog texts. -/
def isText (path : List String) : Bool :=
  path.getLast?.any (hasExtension "toml")

/-- The paths of all catalog texts below a tree, in order. -/
def textPaths (tree : FileTree) : List (List String) :=
  ((tree.files.map Prod.fst).filter isText).mergeSort fun path path' =>
    pathBytes path ≤ pathBytes path'

theorem hasExtension_iff {extension name : String} (h : '.' ∉ extension.toList) :
    hasExtension extension name = true ↔
      ∃ stem, stem ≠ "" ∧ name.toList = stem.toList ++ '.' :: extension.toList := by
  rw [hasExtension, List.span_eq_takeWhile_dropWhile]
  constructor
  · intro hpassed
    split at hpassed
    · rename_i reversed c rest hsplit
      obtain ⟨hreversed, hrest⟩ := Prod.mk.inj hsplit
      refine ⟨String.ofList (c :: rest).reverse, by simp, ?_⟩
      have hname := List.takeWhile_append_dropWhile (p := (· ≠ '.')) (l := name.toList.reverse)
      rw [hreversed, hrest] at hname
      rw [← List.reverse_reverse name.toList, ← hname, ← of_decide_eq_true hpassed]
      simp
    · contradiction
  · rintro ⟨stem, hstem, hname⟩
    have hreverse : stem.toList.reverse ≠ [] := by simpa using hstem
    obtain ⟨c, rest, hrest⟩ := List.exists_cons_of_ne_nil hreverse
    have hreversed : name.toList.reverse = extension.toList.reverse ++ '.' :: c :: rest := by
      simp [hname, hrest]
    have hpoint : ∀ c ∈ extension.toList.reverse, decide (c ≠ '.') = true := by
      intro c hc
      have hne : c ≠ '.' := fun heq => h (heq ▸ List.mem_reverse.mp hc)
      exact decide_eq_true hne
    rw [hreversed, List.takeWhile_append_of_pos hpoint, List.dropWhile_append_of_pos hpoint]
    simp

theorem isText_iff {path : List String} :
    isText path = true ↔ ∃ folders stem, stem ≠ "" ∧ path = folders ++ [stem ++ ".toml"] := by
  rcases List.eq_nil_or_concat' path with rfl | ⟨folders, name, rfl⟩
  · simp [isText]
  · rw [isText, List.getLast?_concat, Option.any_some, hasExtension_iff (by decide)]
    constructor
    · rintro ⟨stem, hstem, hname⟩
      have hname : name = stem ++ ".toml" := by
        rw [← String.toList_inj, hname, String.toList_append]
        rfl
      exact ⟨folders, stem, hstem, by rw [hname]⟩
    · rintro ⟨folders', stem, hstem, hpath⟩
      obtain ⟨-, hname⟩ := List.append_inj' hpath rfl
      refine ⟨stem, hstem, ?_⟩
      rw [List.singleton_inj.mp hname, String.toList_append]
      rfl

theorem isText_inside {found : List String × ByteArray} (name : String) (h : found.1 ≠ []) :
    isText (inside name found).1 = isText found.1 := by
  obtain ⟨part, rest, hpath⟩ := List.exists_cons_of_ne_nil h
  simp [isText, inside, hpath]

theorem pairwise_textPaths (tree : FileTree) :
    tree.textPaths.Pairwise fun path path' => pathBytes path ≤ pathBytes path' := by
  have hsorted : tree.textPaths.Pairwise fun path path' =>
      decide (pathBytes path ≤ pathBytes path') = true := by
    refine List.pairwise_mergeSort (fun path path' path'' hle hle' => ?_) (fun path path' => ?_) _
    · exact decide_eq_true ((of_decide_eq_true hle).trans (of_decide_eq_true hle'))
    · simpa using le_total (pathBytes path) (pathBytes path')
  exact hsorted.imp of_decide_eq_true

theorem textPaths_eq_of_perm {tree : FileTree} {paths : List (List String)}
    (hperm : paths.Perm ((tree.files.map Prod.fst).filter isText))
    (hordered : paths.Pairwise fun path path' => pathBytes path < pathBytes path') :
    tree.textPaths = paths := by
  have htexts : tree.textPaths.Perm paths := (List.mergeSort_perm _ _).trans hperm.symm
  refine htexts.eq_of_pairwise ?_ (pairwise_textPaths tree) (hordered.imp le_of_lt)
  exact fun _ _ _ _ hle hge => pathBytes_injective (le_antisymm hle hge)

theorem textPaths_eq {tree : FileTree} (h : tree.Proper) :
    tree.textPaths = (tree.arranged.files.map Prod.fst).filter isText :=
  textPaths_eq_of_perm (((perm_files_arranged h).map Prod.fst).filter isText)
    ((pairwise_paths_arranged h).filter isText)

theorem mem_textPaths {tree : FileTree} {path : List String} :
    path ∈ tree.textPaths ↔ isText path = true ∧ ∃ bytes, (path, bytes) ∈ tree.files := by
  rw [textPaths, List.mem_mergeSort, List.mem_filter, List.mem_map]
  simp [and_comm]

theorem textPaths_ordered {tree : FileTree} (h : tree.Proper) :
    tree.textPaths.Pairwise fun path path' => pathBytes path < pathBytes path' := by
  rw [textPaths_eq h]
  exact (pairwise_paths_arranged h).filter isText

/-- Both trees have the same catalog texts at the same paths. -/
def SameTexts (tree tree' : FileTree) : Prop :=
  ∀ path bytes, isText path = true → ((path, bytes) ∈ tree.files ↔ (path, bytes) ∈ tree'.files)

theorem SameTexts.textPaths_eq {tree tree' : FileTree} (h : SameTexts tree tree')
    (hproper : tree.Proper) (hproper' : tree'.Proper) : tree.textPaths = tree'.textPaths := by
  have hmem : ∀ path, path ∈ tree.textPaths ↔ path ∈ tree'.textPaths := by
    intro path
    rw [mem_textPaths, mem_textPaths]
    exact and_congr_right fun htext => exists_congr fun bytes => h path bytes htext
  have hbytes : tree.textPaths.map pathBytes = tree'.textPaths.map pathBytes := by
    refine List.SortedLT.eq_of_mem_iff ?_ ?_ fun bytes => by simp only [List.mem_map, hmem]
    · exact (List.pairwise_map.mpr (textPaths_ordered hproper)).sortedLT
    · exact (List.pairwise_map.mpr (textPaths_ordered hproper')).sortedLT
  exact List.map_injective_iff.mpr pathBytes_injective hbytes

theorem SameTexts.walk_eq {tree tree' : FileTree} (h : SameTexts tree tree')
    (hproper : tree.Proper) (hproper' : tree'.Proper) {path : List String}
    (hpath : path ∈ tree.textPaths) : tree.walk [] path = tree'.walk [] path := by
  obtain ⟨htext, bytes, hfound⟩ := mem_textPaths.mp hpath
  have hfound' := (h path bytes htext).mp hfound
  rw [((mem_files_iff hproper []).mp hfound).2, ((mem_files_iff hproper' []).mp hfound').2]

end FileTree

end TickArena

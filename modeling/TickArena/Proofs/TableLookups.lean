import TickArena.Table
import Mathlib

/-!
# Tables and their lookups

A table is determined by what can be looked up in it, because its rows stand in the order
of the keys.
-/

namespace TickArena

variable {κ α β : Type} [Ord κ] [Std.LawfulEqOrd κ]

namespace Rows

theorem ne_of_compare_eq_lt {key other : κ} (h : compare key other = .lt) : key ≠ other := by
  rintro rfl
  have hself : compare key key = .eq := Std.ReflCmp.compare_self
  rw [hself] at h
  contradiction

theorem mem_iff_get?_of_nodup_keys {rows : List (κ × α)} (h : (rows.map Prod.fst).Nodup) {key : κ}
    {value : α} : (key, value) ∈ rows ↔ get? key rows = some value := by
  induction rows with
  | nil => simp [get?]
  | cons row rest ih =>
    obtain ⟨hrow, hrest⟩ := List.nodup_cons.mp h
    unfold get?
    by_cases hkey : compare key row.1 = .eq
    · obtain rfl : key = row.1 := Std.LawfulEqCmp.compare_eq_iff_eq.mp hkey
      have hnone : ∀ value, (row.1, value) ∉ rest := fun value hmem =>
        hrow (List.mem_map.mpr ⟨_, hmem, rfl⟩)
      rw [if_pos hkey, List.mem_cons, or_iff_left (hnone value), Option.some_inj]
      exact ⟨fun heq => (congrArg Prod.snd heq).symm, fun heq => Prod.ext rfl heq.symm⟩
    · have hne : (key, value) ≠ row := by
        rintro rfl
        exact hkey Std.ReflCmp.compare_self
      rw [if_neg hkey, List.mem_cons, or_iff_right hne, ih hrest]

theorem nodup_of_ascending {rows : List (κ × α)} (h : Ascending rows) : rows.Nodup := by
  apply h.imp
  rintro row _ hlt rfl
  exact ne_of_compare_eq_lt hlt rfl

theorem nodup_keys_of_ascending {rows : List (κ × α)} (h : Ascending rows) :
    (rows.map Prod.fst).Nodup := by
  apply List.pairwise_map.mpr
  exact h.imp ne_of_compare_eq_lt

theorem mem_iff_get?_eq_some {rows : List (κ × α)} (h : Ascending rows) {key : κ} {value : α} :
    (key, value) ∈ rows ↔ get? key rows = some value :=
  mem_iff_get?_of_nodup_keys (nodup_keys_of_ascending h)

omit [Std.LawfulEqOrd κ] in
theorem length_insert_of_get?_eq_none {rows : List (κ × α)} {key : κ} (h : get? key rows = none)
    (value : α) : (insert key value rows).length = rows.length + 1 := by
  induction rows with
  | nil => rfl
  | cons row rest ih =>
    unfold get? at h
    split_ifs at h
    unfold insert
    split
    · rfl
    · contradiction
    · rw [List.length_cons, ih h, List.length_cons]

omit [Std.LawfulEqOrd κ] in
/-- A key behind all others goes to the end. -/
theorem insert_of_forall_lt [Std.OrientedOrd κ] {rows : List (κ × α)} {key : κ}
    (h : ∀ row ∈ rows, compare row.1 key = .lt) (value : α) :
    insert key value rows = rows ++ [(key, value)] := by
  induction rows with
  | nil => rfl
  | cons row rest ih =>
    obtain ⟨hrow, hrest⟩ := List.forall_mem_cons.mp h
    have hgt : compare key row.1 = .gt := Std.OrientedCmp.gt_iff_lt.mpr hrow
    rw [insert, hgt, ih hrest, List.cons_append]

end Rows

namespace Table

theorem ext_get? [Std.TransOrd κ] {table other : Table κ α}
    (h : ∀ key, table.get? key = other.get? key) : table = other := by
  have hmem : ∀ row, row ∈ table.rows ↔ row ∈ other.rows := by
    rintro ⟨key, value⟩
    rw [Rows.mem_iff_get?_eq_some table.ascending, Rows.mem_iff_get?_eq_some other.ascending]
    exact iff_of_eq (congrArg (· = some value) (h key))
  have hperm : table.rows.Perm other.rows :=
    (List.perm_ext_iff_of_nodup (Rows.nodup_of_ascending table.ascending)
      (Rows.nodup_of_ascending other.ascending)).mpr hmem
  have hrows : table.rows = other.rows := by
    refine hperm.eq_of_pairwise ?_ table.ascending other.ascending
    intro row row' _ _ hlt hgt
    exact absurd hgt (by simp [Std.OrientedCmp.gt_iff_lt.mpr hlt])
  cases table
  cases other
  congr

theorem size_insert_of_get?_eq_none [Std.TransOrd κ] {table : Table κ α} {key : κ}
    (h : table.get? key = none) (value : α) : (table.insert key value).size = table.size + 1 :=
  Rows.length_insert_of_get?_eq_none h value

theorem rows_foldl_insert [Std.TransOrd κ] {rows : List (κ × α)} {table : Table κ α}
    (h : Ascending (table.rows ++ rows)) :
    (rows.foldl (fun table row => table.insert row.1 row.2) table).rows = table.rows ++ rows := by
  induction rows generalizing table with
  | nil => simp
  | cons row rest ih =>
    have hbehind : ∀ earlier ∈ table.rows, compare earlier.1 row.1 = .lt := fun earlier hmem =>
      (List.pairwise_append.mp h).2.2 earlier hmem row List.mem_cons_self
    have hrows : (table.insert row.1 row.2).rows = table.rows ++ [row] :=
      Rows.insert_of_forall_lt hbehind row.2
    rw [List.append_cons, ← hrows] at h
    rw [List.foldl_cons, ih h, hrows, ← List.append_cons]

theorem rows_ofList [Std.TransOrd κ] {rows : List (κ × α)} (h : Ascending rows) :
    (ofList rows).rows = rows := by
  have hempty : Ascending ((∅ : Table κ α).rows ++ rows) := h
  exact rows_foldl_insert hempty

theorem get?_ofList_eq_some_iff [Std.TransOrd κ] {rows : List (κ × α)} (h : Ascending rows)
    {key : κ} {value : α} : (ofList rows).get? key = some value ↔ (key, value) ∈ rows := by
  rw [get?, ← Rows.mem_iff_get?_eq_some (ofList rows).ascending, rows_ofList h]

@[simp]
theorem ofList_rows [Std.TransOrd κ] (table : Table κ α) : ofList table.rows = table := by
  have hrows : (ofList table.rows).rows = table.rows := rows_ofList table.ascending
  cases hlisted : ofList table.rows
  cases table
  simp_all

/-- A table lists nothing that it was not made of. -/
theorem mem_of_mem_ofList [Std.TransOrd κ] {rows : List (κ × α)} {row : κ × α}
    (h : row ∈ (ofList rows).rows) : row ∈ rows := by
  induction rows using List.reverseRecOn with
  | nil => contradiction
  | append_singleton rows last ih =>
    rw [ofList, List.foldl_concat] at h
    rcases Rows.mem_insert h with rfl | hold
    · simp
    · exact List.mem_append_left _ (ih hold)

/-- The table with its values replaced one by one. -/
def map (f : α → β) (table : Table κ α) : Table κ β where
  rows := table.rows.map (Prod.map id f)
  ascending := List.Pairwise.map (Prod.map id f) (fun _ _ hlt => hlt) table.ascending

omit [Std.LawfulEqOrd κ] in
theorem get?_map (f : α → β) (table : Table κ α) (key : κ) :
    (table.map f).get? key = (table.get? key).map f := by
  obtain ⟨rows, _⟩ := table
  simp only [get?, map]
  induction rows with
  | nil => rfl
  | cons row rest ih =>
    have ih := ih (List.pairwise_cons.mp ‹Ascending (row :: rest)›).2
    simp only [List.map_cons, Rows.get?, Prod.map_fst, id_eq, Prod.map_snd]
    split_ifs
    · rfl
    · exact ih

end Table

end TickArena

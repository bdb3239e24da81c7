/-!
# Finite maps kept in key order

A `Table` holds each key once, in increasing order, so two tables with the same
bindings are the same value and a listing needs no sorting.
-/

namespace TickArena

variable {κ : Type} {α : Type} [Ord κ]

def Ascending (rows : List (κ × α)) : Prop :=
  rows.Pairwise fun a b => compare a.1 b.1 = .lt

namespace Rows

def insert (key : κ) (value : α) : List (κ × α) → List (κ × α)
  | [] => [(key, value)]
  | row :: rest =>
    match compare key row.1 with
    | .lt => (key, value) :: row :: rest
    | .eq => (key, value) :: rest
    | .gt => row :: insert key value rest

def get? (key : κ) : List (κ × α) → Option α
  | [] => none
  | row :: rest => if compare key row.1 = .eq then some row.2 else get? key rest

def erase (key : κ) (rows : List (κ × α)) : List (κ × α) :=
  rows.filter fun row => compare key row.1 != .eq

theorem mem_insert {key : κ} {value : α} {row : κ × α} {rows : List (κ × α)}
    (h : row ∈ insert key value rows) : row = (key, value) ∨ row ∈ rows := by
  induction rows with
  | nil => simpa [insert] using h
  | cons head rest ih =>
    unfold insert at h
    split at h
    · simpa using h
    · rcases List.mem_cons.1 h with h | h
      · exact .inl h
      · exact .inr (List.mem_cons_of_mem _ h)
    · rcases List.mem_cons.1 h with h | h
      · exact .inr (h ▸ List.mem_cons_self)
      · exact (ih h).imp id (List.mem_cons_of_mem _)

theorem ascending_insert [Std.TransOrd κ] [Std.LawfulEqOrd κ] (key : κ) (value : α)
    {rows : List (κ × α)} (h : Ascending rows) : Ascending (insert key value rows) := by
  induction rows with
  | nil => simp [insert, Ascending]
  | cons head rest ih =>
    have hhead : ∀ row ∈ rest, compare head.1 row.1 = .lt := (List.pairwise_cons.1 h).1
    have hrest : Ascending rest := (List.pairwise_cons.1 h).2
    unfold insert
    split
    · rename_i hlt
      refine List.pairwise_cons.2 ⟨fun row hrow => ?_, h⟩
      rcases List.mem_cons.1 hrow with rfl | hrow
      · exact hlt
      · exact Std.TransCmp.lt_trans hlt (hhead row hrow)
    · rename_i heq
      have heq : key = head.1 := Std.LawfulEqCmp.compare_eq_iff_eq.1 heq
      exact List.pairwise_cons.2 ⟨fun row hrow => heq ▸ hhead row hrow, hrest⟩
    · rename_i hgt
      refine List.pairwise_cons.2 ⟨fun row hrow => ?_, ih hrest⟩
      rcases mem_insert hrow with rfl | hrow
      · exact Std.OrientedCmp.gt_iff_lt.1 hgt
      · exact hhead row hrow

theorem ascending_erase (key : κ) {rows : List (κ × α)} (h : Ascending rows) :
    Ascending (erase key rows) :=
  List.Pairwise.sublist List.filter_sublist h

end Rows

/-- A finite map whose rows are listed in increasing key order. -/
structure Table (κ : Type) (α : Type) [Ord κ] where
  rows : List (κ × α)
  ascending : Ascending rows

namespace Table

instance : EmptyCollection (Table κ α) := ⟨⟨[], List.Pairwise.nil⟩⟩

instance : Inhabited (Table κ α) := ⟨∅⟩

instance [DecidableEq κ] [DecidableEq α] : DecidableEq (Table κ α) := fun a b =>
  decidable_of_iff (a.rows = b.rows) ⟨fun h => by cases a; cases b; simp_all, fun h => h ▸ rfl⟩

def get? (table : Table κ α) (key : κ) : Option α :=
  Rows.get? key table.rows

def contains (table : Table κ α) (key : κ) : Bool :=
  (table.get? key).isSome

def insert [Std.TransOrd κ] [Std.LawfulEqOrd κ] (table : Table κ α) (key : κ) (value : α) :
    Table κ α :=
  ⟨Rows.insert key value table.rows, Rows.ascending_insert key value table.ascending⟩

def erase (table : Table κ α) (key : κ) : Table κ α :=
  ⟨Rows.erase key table.rows, Rows.ascending_erase key table.ascending⟩

def size (table : Table κ α) : Nat :=
  table.rows.length

/-- Later rows replace earlier ones of the same key. -/
def ofList [Std.TransOrd κ] [Std.LawfulEqOrd κ] (rows : List (κ × α)) : Table κ α :=
  rows.foldl (fun table row => table.insert row.1 row.2) ∅

@[simp]
theorem get?_empty (key : κ) : (∅ : Table κ α).get? key = none := rfl

section

variable [Std.TransOrd κ] [Std.LawfulEqOrd κ]

@[simp]
theorem get?_insert_self (table : Table κ α) (key : κ) (value : α) :
    (table.insert key value).get? key = some value := by
  obtain ⟨rows, _⟩ := table
  simp only [get?, insert]
  induction rows with
  | nil => simp [Rows.insert, Rows.get?]
  | cons head rest ih =>
    have ih := ih (List.pairwise_cons.1 ‹Ascending (head :: rest)›).2
    unfold Rows.insert
    split
    · simp [Rows.get?]
    · simp [Rows.get?]
    · rename_i hgt
      simp [Rows.get?, hgt, ih]

@[simp]
theorem get?_insert_of_ne (table : Table κ α) {key other : κ} (value : α) (h : other ≠ key) :
    (table.insert key value).get? other = table.get? other := by
  have hne : compare other key ≠ .eq := fun heq => h (Std.LawfulEqCmp.compare_eq_iff_eq.1 heq)
  obtain ⟨rows, _⟩ := table
  simp only [get?, insert]
  induction rows with
  | nil => simp [Rows.insert, Rows.get?, hne]
  | cons head rest ih =>
    have ih := ih (List.pairwise_cons.1 ‹Ascending (head :: rest)›).2
    unfold Rows.insert
    split
    · simp [Rows.get?, hne]
    · rename_i heq
      have heq : key = head.1 := Std.LawfulEqCmp.compare_eq_iff_eq.1 heq
      simp [Rows.get?, hne, ← heq]
    · simp only [Rows.get?]
      split
      · rfl
      · exact ih

omit [Std.TransOrd κ] in
theorem get?_erase_of_ne (table : Table κ α) {key other : κ} (h : other ≠ key) :
    (table.erase key).get? other = table.get? other := by
  obtain ⟨rows, _⟩ := table
  simp only [get?, erase, Rows.erase]
  induction rows with
  | nil => rfl
  | cons head rest ih =>
    have ih := ih (List.pairwise_cons.1 ‹Ascending (head :: rest)›).2
    by_cases hkey : compare key head.1 = .eq
    · have hother : compare other head.1 ≠ .eq := fun hother => h <|
        (Std.LawfulEqCmp.compare_eq_iff_eq.1 hother).trans
          (Std.LawfulEqCmp.compare_eq_iff_eq.1 hkey).symm
      simp [Rows.get?, hkey, hother, ih]
    · simp [Rows.get?, hkey, ih]

omit [Std.TransOrd κ] [Std.LawfulEqOrd κ] in
@[simp]
theorem get?_erase_self (table : Table κ α) (key : κ) : (table.erase key).get? key = none := by
  obtain ⟨rows, _⟩ := table
  simp only [get?, erase, Rows.erase]
  induction rows with
  | nil => rfl
  | cons head rest ih =>
    have ih := ih (List.pairwise_cons.1 ‹Ascending (head :: rest)›).2
    by_cases hkey : compare key head.1 = .eq <;> simp [Rows.get?, hkey, ih]

end

end Table

end TickArena

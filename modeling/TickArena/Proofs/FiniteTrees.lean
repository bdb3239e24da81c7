import TickArena.Data.Json.Reader
import TickArena.Proofs.FiniteDoubles

/-!
# Trees with finite doubles

A double that is not finite has no written number.  No JSON text has one, so all doubles in
what is read from a text are finite, and so are those that whole numbers are read as.
-/

namespace TickArena

/-- Every double in a tree is finite. -/
inductive Data.Finite : Data → Prop
  | null : Finite .null
  | bool (value : Bool) : Finite (.bool value)
  | int (value : Int) : Finite (.int value)
  | float {value : Float} (h : value.isFinite = true) : Finite (.float value)
  | text (value : String) : Finite (.text value)
  | date (value : String) : Finite (.date value)
  | list {items : List Data} (h : ∀ item ∈ items, item.Finite) : Finite (.list items)
  | record {fields : List (String × Data)} (h : ∀ field ∈ fields, field.2.Finite) :
      Finite (.record fields)

namespace Data.Finite

variable {tree : Data}

theorem isFinite (h : tree.Finite) {x : Float} (hread : tree.toFloat? = some x) :
    x.isFinite = true := by
  cases h with
  | float hfinite =>
    obtain rfl := Option.some_inj.mp hread
    exact hfinite
  | int value =>
    obtain rfl := Option.some_inj.mp hread
    have hmagnitude := Double.isFinite_ofCount value.natAbs
    split_ifs
    · exact Double.isFinite_neg hmagnitude
    · exact hmagnitude
  | _ => contradiction

theorem parts (h : tree.Finite) {dialect : Dialect} {names : List String}
    {fields : List (String × Data)} (hparts : tree.toParts? dialect names = some fields) :
    ∀ field ∈ fields, field.2.Finite := by
  cases h with
  | record hfields =>
    obtain rfl := Option.some_inj.mp hparts
    exact hfields
  | list hitems =>
    simp only [toParts?] at hparts
    split_ifs at hparts
    obtain rfl := Option.some_inj.mp hparts
    exact fun field hfield => hitems field.2 (List.of_mem_zip hfield).2
  | date value =>
    obtain rfl := Option.some_inj.mp hparts
    simp
  | _ => contradiction

end Data.Finite

/-! ## JSON texts -/

namespace Json

variable {text rest : List Char} {tree : Data}

theorem finite_of_number? (h : number? text = some (tree, rest)) : tree.Finite := by
  unfold number? at h
  -- With a sign and without one.
  split at h
  all_goals
    dsimp only at h
    split at h
    · simp at h
    obtain ⟨places, -, h⟩ := Option.bind_eq_some_iff.mp h
    obtain ⟨power, -, h⟩ := Option.bind_eq_some_iff.mp h
    split at h
    · split_ifs at h with hfinite
      obtain ⟨rfl, -⟩ := Prod.mk.inj (Option.some_inj.mp h)
      exact .float hfinite
    · obtain ⟨rfl, -⟩ := Prod.mk.inj (Option.some_inj.mp h)
      exact .int _

theorem finite_of_keyword? {word : String} {value : Data} (hvalue : value.Finite)
    (h : keyword? word value text = some (tree, rest)) : tree.Finite := by
  unfold keyword? at h
  split_ifs at h
  obtain ⟨rfl, -⟩ := Prod.mk.inj (Option.some_inj.mp h)
  exact hvalue

/-- What the three readers give back after some steps is finite, if what the two readers of
lists and records have read before is. -/
structure ReadsFinite (steps : Nat) : Prop where
  value : ∀ {text tree rest}, value? steps text = some (tree, rest) → tree.Finite
  items : ∀ {read text tree rest}, (∀ item ∈ read, Data.Finite item) →
    items? read steps text = some (tree, rest) → tree.Finite
  fields : ∀ {read text tree rest}, (∀ field ∈ read, Data.Finite field.2) →
    fields? read steps text = some (tree, rest) → tree.Finite

namespace ReadsFinite

variable {steps : Nat}

theorem value_succ (h : ReadsFinite steps) (hread : value? (steps + 1) text = some (tree, rest)) :
    tree.Finite := by
  unfold value? at hread
  split at hread
  · obtain ⟨⟨string, after⟩, -, hstring⟩ := Option.bind_eq_some_iff.mp hread
    obtain ⟨rfl, -⟩ := Prod.mk.inj (Option.some_inj.mp hstring)
    exact .text string
  · split at hread
    · obtain ⟨rfl, -⟩ := Prod.mk.inj (Option.some_inj.mp hread)
      exact .list (by simp)
    · exact h.items (by simp) hread
  · split at hread
    · obtain ⟨rfl, -⟩ := Prod.mk.inj (Option.some_inj.mp hread)
      exact .record (by simp)
    · exact h.fields (by simp) hread
  · exact finite_of_keyword? (.bool true) hread
  · exact finite_of_keyword? (.bool false) hread
  · exact finite_of_keyword? .null hread
  · exact finite_of_number? hread

theorem items_succ (h : ReadsFinite steps) {read : List Data} (hbefore : ∀ item ∈ read, item.Finite)
    (hread : items? read (steps + 1) text = some (tree, rest)) : tree.Finite := by
  unfold items? at hread
  obtain ⟨⟨last, after⟩, hlast, hread⟩ := Option.bind_eq_some_iff.mp hread
  have hall : ∀ item ∈ last :: read, item.Finite :=
    List.forall_mem_cons.mpr ⟨h.value hlast, hbefore⟩
  dsimp only at hread
  split at hread
  · exact h.items hall hread
  · obtain ⟨rfl, -⟩ := Prod.mk.inj (Option.some_inj.mp hread)
    exact .list fun item hmem => hall item (List.mem_reverse.mp hmem)
  · contradiction

theorem fields_succ (h : ReadsFinite steps) {read : List (String × Data)}
    (hbefore : ∀ field ∈ read, field.2.Finite)
    (hread : fields? read (steps + 1) text = some (tree, rest)) : tree.Finite := by
  unfold fields? at hread
  split at hread
  · obtain ⟨⟨name, after⟩, -, hread⟩ := Option.bind_eq_some_iff.mp hread
    dsimp only at hread
    split at hread
    · obtain ⟨⟨last, behind⟩, hlast, hread⟩ := Option.bind_eq_some_iff.mp hread
      have hall : ∀ field ∈ (name, last) :: read.filter fun field => field.1 ≠ name,
          field.2.Finite :=
        List.forall_mem_cons.mpr
          ⟨h.value hlast, fun field hmem => hbefore field (List.mem_of_mem_filter hmem)⟩
      dsimp only at hread
      split at hread
      · exact h.fields hall hread
      · obtain ⟨rfl, -⟩ := Prod.mk.inj (Option.some_inj.mp hread)
        exact .record fun field hmem => hall field (List.mem_reverse.mp hmem)
      · contradiction
    · contradiction
  · contradiction

end ReadsFinite

theorem readsFinite (steps : Nat) : ReadsFinite steps := by
  induction steps with
  | zero =>
    constructor
    · exact fun hread => by simp [value?] at hread
    · exact fun _ hread => by simp [items?] at hread
    · exact fun _ hread => by simp [fields?] at hread
  | succ steps ih => exact ⟨ih.value_succ, ih.items_succ, ih.fields_succ⟩

theorem finite_of_read? {text : String} (h : read? text = some tree) : tree.Finite := by
  obtain ⟨⟨whole, rest⟩, hwhole, h⟩ := Option.bind_eq_some_iff.mp h
  dsimp only at h
  split_ifs at h
  obtain rfl := Option.some_inj.mp h
  exact (readsFinite _).value hwhole

end Json

end TickArena

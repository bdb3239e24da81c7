import TickArena.Data.Tree

/-!
# Closed vocabularies

A vocabulary is a finite type whose members have different names; the names are
what data files and messages show.  Reading a name finds the member that carries
it, so writing and reading are inverse for every vocabulary at once.
-/

namespace TickArena

/-- Every member in declared order, and the name of each. -/
class Vocabulary (α : Type) where
  all : List α
  name : α → String
  mem_all : ∀ a, a ∈ all
  name_injective : ∀ a b, name a = name b → a = b

namespace Vocabulary

variable {α : Type} [Vocabulary α]

def ofName? (text : String) : Option α :=
  all.find? fun a : α => name a = text

@[simp]
theorem ofName?_name (a : α) : ofName? (name a) = some a := by
  unfold ofName?
  cases hfind : (all : List α).find? fun b => name b = name a with
  | none => simpa using List.find?_eq_none.1 hfind a (mem_all a)
  | some b =>
    have hname : name b = name a := by simpa using List.find?_some hfind
    rw [name_injective b a hname]

/-- The words of a name, each with a capital letter and without the underscores. -/
def title (a : α) : String :=
  String.join (((name a).splitOn "_").map String.capitalize)

def encode (a : α) : Data :=
  .text (name a)

def decode? (dialect : Dialect) (tree : Data) : Option α :=
  (tree.toName? dialect).bind ofName?

@[simp]
theorem decode?_encode (dialect : Dialect) (a : α) : decode? dialect (encode a) = some a := by
  simp [decode?, encode, Data.toName?]

end Vocabulary

end TickArena

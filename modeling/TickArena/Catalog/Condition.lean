import TickArena.Sequence.Context

/-!
# Custom conditions

A custom condition is a question about a placed component and its sequence.  A
condition may break, by giving up with a reason or by crashing; both are answers
of this module, and what follows from them is decided where requirements are
checked.
-/

namespace TickArena

/-- What a condition says.  The payload of a crash is a text or something else. -/
inductive Verdict where
  | answer (holds : Bool)
  | gaveUp (reason : String)
  | crashed (payload : Option String)
  deriving DecidableEq

def crashReason (payload : Option String) : String :=
  payload.getD "panic"

abbrev Condition :=
  Placement → Context → Verdict

/-- The conditions that definitions may name. -/
structure Conditions where
  byName : Table String Condition

namespace Conditions

instance : EmptyCollection Conditions := ⟨⟨∅⟩⟩

def get? (conditions : Conditions) (name : String) : Option Condition :=
  conditions.byName.get? name

def contains (conditions : Conditions) (name : String) : Bool :=
  conditions.byName.contains name

/-- Adds a condition, in place of an earlier one of the same name. -/
def insert (conditions : Conditions) (name : String) (condition : Condition) : Conditions :=
  ⟨conditions.byName.insert name condition⟩

def names (conditions : Conditions) : List String :=
  conditions.byName.rows.map (·.1)

def display (conditions : Conditions) : String :=
  let quoted := conditions.names.map fun name => "\"" ++ name ++ "\""
  "ConditionRegistry \x7b conditions: [" ++ ", ".intercalate quoted ++ "] \x7d"

/-! ### The standard conditions -/

/-- No component occurs twice. -/
def allUnique : Condition := fun _ context =>
  .answer (decide (context.entries.map (·.component.id)).Nodup)

/-- The component stands at an odd position. -/
def oddPosition : Condition := fun placement _ =>
  .answer (placement.position % 2 = 1)

/-- Every position of the longest sequence is taken. -/
def fullSequence : Condition := fun _ context =>
  .answer (context.size = maxSequenceLength)

def standard : Conditions :=
  ⟨.ofList [("all_unique", allUnique), ("odd_position", oddPosition),
    ("full_sequence", fullSequence)]⟩

end Conditions

end TickArena

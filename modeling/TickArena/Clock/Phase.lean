import TickArena.Data.Tree

/-!
# Phases of a tick

A tick walks through three phases: participants build, their sequences are
evaluated, and the results are shown.
-/

namespace TickArena

inductive Phase where
  | building
  | evaluating
  | results
  deriving DecidableEq, Repr

namespace Phase

def next : Phase → Phase
  | building => evaluating
  | evaluating => results
  | results => building

def name : Phase → String
  | building => "BUILDING"
  | evaluating => "EVALUATING"
  | results => "RESULTS"

def label : Phase → String
  | building => "Building"
  | evaluating => "Evaluating"
  | results => "Results"

def all : List Phase :=
  [building, evaluating, results]

def ofName? (text : String) : Option Phase :=
  all.find? fun phase => phase.name = text

def encode (phase : Phase) : Data :=
  .text phase.name

end Phase

/-- A boundary between two phases. -/
inductive PhaseTransition where
  | evaluationStarted (tick : Nat)
  | resultsStarted (tick : Nat)
  | tickCompleted (completed next : Nat)
  deriving DecidableEq, Repr

def PhaseTransition.entered : PhaseTransition → Phase
  | evaluationStarted _ => .evaluating
  | resultsStarted _ => .results
  | tickCompleted _ _ => .building

end TickArena

import TickArena.Double

/-!
# The bonus ledger

Components never change their siblings.  They write bonuses into one ledger, and
each component later reads back what it has received: the sum of what was added
and the product of what was multiplied, of one kind.
-/

namespace TickArena

/-- What a bonus applies to. -/
inductive BonusKind where
  | damageMultiplier
  | damageAdditive
  | effectPowerMultiplier
  | critChance
  | chainResonance
  | custom (name : String)
  deriving DecidableEq

/-- How a bonus joins others of its kind. -/
inductive BonusOp where
  | add
  | mul
  deriving DecidableEq

/-- A bonus that the component at one position writes onto another. -/
structure Bonus where
  source : Nat
  target : Nat
  kind : BonusKind
  op : BonusOp
  value : Float

/-- The bonuses of one evaluation in the order they were written. -/
structure Ledger where
  bonuses : List Bonus

namespace Ledger

instance : EmptyCollection Ledger := ⟨⟨[]⟩⟩

instance : Inhabited Ledger := ⟨∅⟩

def size (ledger : Ledger) : Nat :=
  ledger.bonuses.length

def isEmpty (ledger : Ledger) : Bool :=
  ledger.bonuses.isEmpty

def append (ledger : Ledger) (bonuses : List Bonus) : Ledger :=
  ⟨ledger.bonuses ++ bonuses⟩

def push (ledger : Ledger) (bonus : Bonus) : Ledger :=
  ledger.append [bonus]

/-- The values that one target received by one kind and operation. -/
def values (ledger : Ledger) (target : Nat) (kind : BonusKind) (op : BonusOp) : List Float :=
  (ledger.bonuses.filter fun bonus =>
    bonus.target = target && bonus.kind = kind && bonus.op = op).map Bonus.value

/-- The product of all factors on a target, one if there are none. -/
def multiplier (ledger : Ledger) (target : Nat) (kind : BonusKind) : Float :=
  Double.leftProduct (ledger.values target kind .mul)

/-- The sum of all terms on a target, zero if there are none. -/
def additive (ledger : Ledger) (target : Nat) (kind : BonusKind) : Float :=
  Double.leftSum (ledger.values target kind .add)

def writtenBy (ledger : Ledger) (source : Nat) : List Bonus :=
  ledger.bonuses.filter fun bonus => bonus.source = source

def receivedBy (ledger : Ledger) (target : Nat) : List Bonus :=
  ledger.bonuses.filter fun bonus => bonus.target = target

@[simp]
theorem bonuses_append (ledger : Ledger) (bonuses : List Bonus) :
    (ledger.append bonuses).bonuses = ledger.bonuses ++ bonuses := rfl

@[simp]
theorem bonuses_push (ledger : Ledger) (bonus : Bonus) :
    (ledger.push bonus).bonuses = ledger.bonuses ++ [bonus] := rfl

end Ledger

end TickArena

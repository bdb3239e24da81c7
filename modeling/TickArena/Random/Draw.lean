import TickArena.Random.ChaCha

/-!
# Draws from a word stream

Unit draws are numbers from zero up to one; draws below a bound reject the words
that would favour some answers; a choice of several items makes one draw for each.
A draw from a cursor gives the cursor behind the words it has read.
-/

namespace TickArena.Random

/-- Two words as one, the low one first. -/
def doubleWord (words : Words) (index : Nat) : UInt64 :=
  (words index).toUInt64 ||| ((words (index + 1)).toUInt64 <<< 32)

/-- A stream of numbers from zero up to one. -/
abbrev Units :=
  Nat → Float

/-- The highest 53 bits of each two words, as a fraction. -/
def units (words : Words) : Units := fun draw =>
  (doubleWord words (2 * draw) >>> 11).toFloat * 1.1102230246251565e-16

def unitsOfSeed (seed : UInt64) : Units :=
  units (ofSeed seed)

/-- How wide the words of a draw are. -/
inductive Width where
  | single
  | double
  deriving DecidableEq

def Width.bits : Width → Nat
  | .single => 32
  | .double => 64

def Width.words : Width → Nat
  | .single => 1
  | .double => 2

def Width.read (width : Width) (words : Words) (cursor : Nat) : Nat :=
  match width with
  | .single => (words cursor).toNat
  | .double => (doubleWord words cursor).toNat

/-- The largest low part that is accepted: as many copies of the bound as fit a
power of two times it. -/
def Width.zone (width : Width) (bound : Nat) : Nat :=
  bound * twoPow (width.bits - 1 - bound.log2) - 1

/-- A number below a positive bound: the high part of the product of a word with
the bound, where words with a low part outside the zone are rejected.  The tries
are bounded; each fails with a chance of at most one half. -/
def below (width : Width) (words : Words) (bound : Nat) : Nat → Nat → Nat × Nat
  | 0, cursor => (0, cursor)
  | tries + 1, cursor =>
    let product := width.read words cursor * bound
    let next := cursor + width.words
    if product % twoPow width.bits ≤ width.zone bound then (product / twoPow width.bits, next)
    else below width words bound tries next

def tries : Nat :=
  10000

/-- A number between two bounds, both included. -/
def between (words : Words) (low high : Nat) (cursor : Nat) : Nat × Nat :=
  let (n, cursor) := below .double words (high - low + 1) tries cursor
  (low + n, cursor)

/-- Takes the newcomer in place of the drawn item if that was chosen before. -/
def choose (drawn newcomer : Nat) : List Nat → List Nat
  | [] => [drawn]
  | item :: rest =>
    if item = drawn then newcomer :: item :: rest else item :: choose drawn newcomer rest

/-- Draws once for each newcomer, from the numbers up to it. -/
def chooseEach (words : Words) : List Nat → List Nat → Nat → List Nat × Nat
  | [], chosen, cursor => (chosen, cursor)
  | newcomer :: rest, chosen, cursor =>
    let (drawn, cursor) := below .single words (newcomer + 1) tries cursor
    chooseEach words rest (choose drawn newcomer chosen) cursor

/-- Different numbers below a count, as many as wanted or all of them. -/
def sample (words : Words) (count wanted : Nat) (cursor : Nat) : List Nat × Nat :=
  let amount := min wanted count
  chooseEach words ((List.range amount).map (count - amount + ·)) [] cursor

end TickArena.Random

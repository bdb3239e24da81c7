import TickArena.Power

/-!
# The ChaCha generator with eight rounds

A key of eight words and a block counter give sixteen words of output.  The
stream is a function of the word's index, so reading it changes nothing and two
readers of one key see the same words.
-/

namespace TickArena.Random

/-- Eight words. -/
abbrev Key :=
  Vector UInt32 8

/-- The sixteen words of the generator's state. -/
abbrev Block :=
  Vector UInt32 16

abbrev Words :=
  Nat → UInt32

def rotateLeft (word : UInt32) (bits : UInt32) : UInt32 :=
  (word <<< bits) ||| (word >>> (32 - bits))

def rotateRight (word : UInt32) (bits : UInt32) : UInt32 :=
  (word >>> bits) ||| (word <<< (32 - bits))

/-- Adds one word onto another and mixes the sum into a third. -/
def mix (block : Block) (onto other into : Fin 16) (bits : UInt32) : Block :=
  let total := block[onto] + block[other]
  (block.set onto total).set into (rotateLeft (block[into] ^^^ total) bits)

def quarterRound (a b c d : Fin 16) (block : Block) : Block :=
  let block := mix block a b d 16
  let block := mix block c d b 12
  let block := mix block a b d 8
  mix block c d b 7

/-- One round on the columns of the state and one on its diagonals. -/
def doubleRound (block : Block) : Block :=
  block
    |> quarterRound 0 4 8 12
    |> quarterRound 1 5 9 13
    |> quarterRound 2 6 10 14
    |> quarterRound 3 7 11 15
    |> quarterRound 0 5 10 15
    |> quarterRound 1 6 11 12
    |> quarterRound 2 7 8 13
    |> quarterRound 3 4 9 14

def constants : Vector UInt32 4 :=
  #v[0x61707865, 0x3320646e, 0x79622d32, 0x6b206574]

/-- The counter in two words, and the number of the stream, which is zero. -/
def position (counter : Nat) : Vector UInt32 4 :=
  #v[UInt32.ofNat counter, UInt32.ofNat (counter / twoPow 32), 0, 0]

def initialBlock (key : Key) (counter : Nat) : Block :=
  constants ++ key ++ position counter

/-- The output words of one block: the mixed state plus the state before. -/
def outputBlock (key : Key) (counter : Nat) : Block :=
  let start := initialBlock key counter
  let mixed := doubleRound (doubleRound (doubleRound (doubleRound start)))
  Vector.zipWith (· + ·) mixed start

def stream (key : Key) : Words := fun index =>
  (outputBlock key (index / 16)).get ⟨index % 16, Nat.mod_lt _ (by decide)⟩

/-! ### Seeds -/

/-- One step of the congruential generator that spreads a seed over a key. -/
def nextSeed (state : UInt64) : UInt64 :=
  state * 6364136223846793005 + 11634580027462260723

/-- The output of the spreading generator in a state: its high bits, rotated. -/
def seedWord (state : UInt64) : UInt32 :=
  rotateRight ((((state >>> 18) ^^^ state) >>> 27).toUInt32) (state >>> 59).toUInt32

/-- The key of a seed: the words after each of eight steps. -/
def keyOfSeed (seed : UInt64) : Key :=
  Vector.ofFn fun index => seedWord (Nat.repeat nextSeed (index.val + 1) seed)

def ofSeed (seed : UInt64) : Words :=
  stream (keyOfSeed seed)

/-- The seed of one participant in one tick, mixed from all three numbers. -/
def participantSeed (seed tick participant : UInt64) : UInt64 :=
  let value := seed ^^^ (tick * 0x9E3779B97F4A7C15)
  let value := value ^^^ ((participant <<< 29) ||| (participant >>> 35))
  let value := (value ^^^ (value >>> 30)) * 0xbf58476d1ce4e5b9
  let value := (value ^^^ (value >>> 27)) * 0x94d049bb133111eb
  value ^^^ (value >>> 31)

end TickArena.Random

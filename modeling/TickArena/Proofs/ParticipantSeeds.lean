import TickArena.Random.ChaCha
import Mathlib

/-!
# Seeds of participants

The seed of a participant is mixed from three numbers.  Two of them can always be told apart
by the seed if the third numbers and the second agree, because no stage of the mixing loses
anything: a product with an odd number can be divided again, a rotation turned back, and high
bits that have been folded onto lower ones are still there themselves.
-/

namespace TickArena.Random

/-! ## Stages that lose nothing -/

/-- The highest bits are not changed, and each bit below is known once those above it are. -/
theorem xor_ushiftRight_injective {width amount : Nat} (hamount : 0 < amount) :
    Function.Injective fun word : BitVec width => word ^^^ (word >>> amount) := by
  intro word other hsame
  have hbit : ∀ index, (word.getLsbD index ^^ word.getLsbD (amount + index)) =
      (other.getLsbD index ^^ other.getLsbD (amount + index)) := by
    intro index
    simpa using congrArg (fun mixed => mixed.getLsbD index) hsame
  -- By induction on the number of bits from this one up to the highest.
  have hall : ∀ above index, width ≤ index + above →
      word.getLsbD index = other.getLsbD index := by
    intro above
    induction above with
    | zero =>
      intro index hindex
      rw [BitVec.getLsbD_of_ge word index hindex, BitVec.getLsbD_of_ge other index hindex]
    | succ above ih =>
      intro index hindex
      have hhigher := ih (amount + index) (by omega)
      have hthis := hbit index
      rw [hhigher] at hthis
      exact Bool.xor_left_inj.mp hthis
  exact BitVec.eq_of_getLsbD_eq fun index _ => hall width index (Nat.le_add_left _ _)

/-- Each bit of a word is found again at the place to which it has been rotated. -/
theorem or_shifts_injective {width amount : Nat} (hamount : amount ≤ width) :
    Function.Injective fun word : BitVec width =>
      (word <<< amount) ||| (word >>> (width - amount)) := by
  intro word other hsame
  have hbit := fun index => congrArg (fun rotated => rotated.getLsbD index) hsame
  apply BitVec.eq_of_getLsbD_eq
  intro index hindex
  by_cases hlow : index + amount < width
  · have hplace := hbit (index + amount)
    have hgone : width ≤ width - amount + (index + amount) := by omega
    simpa [hindex, hlow, hgone] using hplace
  · have hplace := hbit (index + amount - width)
    have hback : width - amount + (index + amount - width) = index := by omega
    have hbelow : index + amount - width < amount := by omega
    simpa [hindex, hback, hbelow] using hplace

theorem mul_injective {factor : UInt64} (hodd : Odd factor.toNat) :
    Function.Injective fun word : UInt64 => word * factor := by
  intro word other hsame
  have hmod : word.toNat * factor.toNat ≡ other.toNat * factor.toNat [MOD 2 ^ 64] := by
    simpa only [Nat.ModEq, UInt64.toNat_mul] using congrArg UInt64.toNat hsame
  have hcoprime : Nat.gcd (2 ^ 64) factor.toNat = 1 :=
    Nat.Coprime.pow_left 64 (Nat.coprime_two_left.mpr hodd)
  have hword := hmod.cancel_right_of_coprime hcoprime
  exact UInt64.toNat_inj.mp (hword.eq_of_lt_of_lt word.toNat_lt other.toNat_lt)

/-- Folds the higher bits of a word onto the lower ones. -/
def foldHigh (amount word : UInt64) : UInt64 :=
  word ^^^ (word >>> amount)

theorem foldHigh_injective {amount : UInt64} (hamount : 0 < (amount.toBitVec % 64).toNat) :
    Function.Injective (foldHigh amount) := by
  intro word other hsame
  have hbits : word.toBitVec ^^^ (word.toBitVec >>> (amount.toBitVec % 64).toNat) =
      other.toBitVec ^^^ (other.toBitVec >>> (amount.toBitVec % 64).toNat) :=
    congrArg UInt64.toBitVec hsame
  exact UInt64.toBitVec_inj.mp (xor_ushiftRight_injective hamount hbits)

/-- Turns a word, as the number of a participant is turned before it enters the mixture. -/
def turn (participant : UInt64) : UInt64 :=
  (participant <<< 29) ||| (participant >>> 35)

theorem turn_injective : Function.Injective turn := by
  intro participant other hsame
  have hbits : (participant.toBitVec <<< 29) ||| (participant.toBitVec >>> (64 - 29)) =
      (other.toBitVec <<< 29) ||| (other.toBitVec >>> (64 - 29)) :=
    congrArg UInt64.toBitVec hsame
  have hamount : 29 ≤ 64 := by decide
  exact UInt64.toBitVec_inj.mp (or_shifts_injective hamount hbits)

/-! ## The mixture -/

/-- What is done to the mixture of the three numbers. -/
def scramble (mixture : UInt64) : UInt64 :=
  foldHigh 31 (foldHigh 27 (foldHigh 30 mixture * 0xbf58476d1ce4e5b9) * 0x94d049bb133111eb)

theorem scramble_injective : Function.Injective scramble := by
  have hfirst : Function.Injective fun word : UInt64 => word * 0xbf58476d1ce4e5b9 :=
    mul_injective (by decide)
  have hsecond : Function.Injective fun word : UInt64 => word * 0x94d049bb133111eb :=
    mul_injective (by decide)
  have hfold30 : Function.Injective (foldHigh 30) := foldHigh_injective (by decide)
  have hfold27 : Function.Injective (foldHigh 27) := foldHigh_injective (by decide)
  have hfold31 : Function.Injective (foldHigh 31) := foldHigh_injective (by decide)
  exact hfold31.comp (hsecond.comp (hfold27.comp (hfirst.comp hfold30)))

theorem participantSeed_eq (seed tick participant : UInt64) :
    participantSeed seed tick participant =
      scramble (seed ^^^ tick * 0x9E3779B97F4A7C15 ^^^ turn participant) := rfl

/-- Where two of the three numbers agree, different third ones give different seeds. -/
theorem participantSeed_injective (seed tick participant : UInt64) :
    Function.Injective (participantSeed seed tick) ∧
      Function.Injective (fun tick => participantSeed seed tick participant) ∧
      Function.Injective (fun seed => participantSeed seed tick participant) := by
  refine ⟨fun participant other hsame => ?_, fun tick other hsame => ?_,
    fun seed other hsame => ?_⟩
  · simp only [participantSeed_eq] at hsame
    exact turn_injective ((UInt64.xor_right_inj _).mp (scramble_injective hsame))
  · simp only [participantSeed_eq] at hsame
    have hticks := (UInt64.xor_left_inj _).mp (scramble_injective hsame)
    have hodd : Odd (0x9E3779B97F4A7C15 : UInt64).toNat := by decide
    exact mul_injective hodd ((UInt64.xor_right_inj _).mp hticks)
  · simp only [participantSeed_eq] at hsame
    have hseeds := (UInt64.xor_left_inj _).mp (scramble_injective hsame)
    exact (UInt64.xor_left_inj _).mp hseeds

end TickArena.Random

import TickArena.Proofs.DoubleOrder

/-!
# Finite doubles

A double is finite if its exponent is not too large to be packed.  Negation keeps the exponent,
and the doubles nearest to machine words have small ones.
-/

namespace TickArena.Double

open Float.Model Float.Model.UnpackedFloat

/-! ## Packing -/

/-- An unpacked double does not overflow when it is packed. -/
inductive Packable : UnpackedFloat → Prop
  | zero (sign : Sign) : Packable (.zero sign)
  | finite (sign : Sign) {m : Nat} {q : Int} (hm : 0 < m) (hq : q ≤ 971) :
      Packable (.finite sign m q hm)

theorem isFinite_unpack {bits : BitVec Format.binary64.numBits}
    (h : unpackExponent bits ≠ -1#11) :
    (UnpackedFloat.unpack Format.binary64 bits).isFinite = true := by
  unfold UnpackedFloat.unpack
  dsimp only
  rw [if_neg h]
  split_ifs <;> rfl

theorem Packable.isFinite_pack {u : UnpackedFloat} (h : Packable u) :
    (Float.Model.pack u).isFinite = true := by
  apply isFinite_unpack
  change unpackExponent (UnpackedFloat.pack Format.binary64 u) ≠ -1#11
  cases h with
  | zero sign =>
    rw [UnpackedFloat.pack, packedZero, unpackExponent_packComponents]
    decide
  | @finite sign m q hm hq =>
    have hbias : (q + Format.binary64.exponentBias + (52 : Nat)).toNat = (q + 1075).toNat := by
      change (q + 1023 + 52).toNat = _
      rw [Int.add_assoc]
      rfl
    have hfits : ¬ 2 ^ 11 ≤ (q + 1075).toNat + 1 := by omega
    unfold UnpackedFloat.pack
    dsimp only
    rw [hbias, if_neg hfits]
    split_ifs
    · rw [unpackExponent_packComponents]
      intro htop
      have hnat := congrArg BitVec.toNat htop
      change (q + 1075).toNat % 2048 = 2047 at hnat
      omega
    · rw [unpackExponent_packComponents]
      decide

theorem packable_of_isFinite {x : Float} (h : x.isFinite = true) : Packable x.toModel.unpack := by
  have hview := unpacks_view x
  change x.toModel.unpack.isFinite = true at h
  generalize x.toModel.unpack = u, view x = v at *
  cases hview with
  | infinity => contradiction
  | notANumber => contradiction
  | zero => exact .zero _
  | finite _ hm hcanonical => exact .finite _ hm hcanonical.exponent_le

theorem isFinite_neg {x : Float} (h : x.isFinite = true) : (-x).isFinite = true := by
  have hpackable := packable_of_isFinite h
  change (Float.Model.pack x.toModel.unpack.neg).isFinite = true
  generalize x.toModel.unpack = u at hpackable
  cases hpackable with
  | zero sign => exact (Packable.zero _).isFinite_pack
  | finite sign hm hq => exact (Packable.finite _ hm hq).isFinite_pack

/-! ## Rounding -/

theorem mantissa_shiftRight_le (extended : ExtendedMantissa) (count : Nat) :
    (extended >>> count).mantissa ≤ extended.mantissa := by
  change (count.repeat ExtendedMantissa.shiftRightOne extended).mantissa ≤ _
  induction count with
  | zero => exact le_rfl
  | succ count ih => exact (Nat.div_le_self _ 2).trans ih

theorem roundedMantissa_le (extended : ExtendedMantissa) :
    extended.roundedMantissa ≤ extended.mantissa + 1 := by
  obtain ⟨mantissa, roundBit, stickyBit⟩ := extended
  cases roundBit <;> cases stickyBit <;>
    simp [ExtendedMantissa.roundedMantissa, ExtendedMantissa.accuracy,
      Accuracy.roundToNearestEven]
  omega

theorem targetExponent_binary64 (m : Nat) (q : Int) :
    Format.binary64.targetExponent (totalExponent m q) = max (m.log2 + q - 52) (-1074) := by
  change max ((m.log2 : Int) + 1 + q - 53) (-1074) = _
  congr 1
  omega

theorem log2_le_of_lt {m k : Nat} (h : m < 2 ^ (k + 1)) : m.log2 ≤ k := by
  rcases Nat.eq_zero_or_pos m with rfl | hpos
  · exact Nat.zero_le k
  · exact Nat.le_of_lt_succ ((Nat.log2_lt hpos.ne').mpr h)

/-- Rounding moves the exponent up to where the mantissa has its length, and once more if the
mantissa has grown over it. -/
theorem packable_roundWithAccuracy (sign : Sign) {m : Nat} {q : Int} (hm : m < 2 ^ 116)
    (hq : q ≤ 0) : Packable (roundWithAccuracy Format.binary64 sign m q .exact) := by
  have hmantissa : (shiftToTargetExponent Format.binary64 m q .exact).1.mantissa ≤ m :=
    mantissa_shiftRight_le _ _
  have hexponent : (shiftToTargetExponent Format.binary64 m q .exact).2 ≤ 63 := by
    have hlog := log2_le_of_lt (k := 115) hm
    rw [shiftToTargetExponent, targetExponent_binary64]
    change q + ((max ((m.log2 : Int) + q - 52) (-1074) - q).toNat : Int) ≤ 63
    omega
  unfold roundWithAccuracy
  generalize shiftToTargetExponent Format.binary64 m q .exact = shifted at hmantissa hexponent
  obtain ⟨extended, q'⟩ := shifted
  have hrounded : extended.roundedMantissa.log2 ≤ 116 := by
    refine log2_le_of_lt ((roundedMantissa_le extended).trans_lt ?_)
    exact (Nat.succ_le_succ hmantissa).trans_lt (by omega)
  dsimp only at hexponent ⊢
  split_ifs with hzero
  · exact .zero sign
  · refine .finite sign _ ?_
    rw [shiftToTargetExponent, targetExponent_binary64]
    change q' + ((max ((extended.roundedMantissa.log2 : Int) + q' - 52) (-1074) - q').toNat : Int) ≤
      971
    omega

theorem packable_ofNat {n : Nat} (hn : n < 2 ^ 64) :
    Packable (UnpackedFloat.ofNat Format.binary64 n) := by
  rcases Nat.eq_zero_or_pos n with rfl | hpos
  · exact .zero .positive
  have hcompare : compare (n : Int) 0 = .gt := compare_gt_iff_gt.mpr (by omega)
  have hround : UnpackedFloat.ofNat Format.binary64 n =
      UnpackedFloat.round Format.binary64 .positive n 0 := by
    simp only [UnpackedFloat.ofNat, UnpackedFloat.ofInt, UnpackedFloat.normalize, hcompare,
      Int.toNat_natCast]
  rw [hround, UnpackedFloat.round, targetExponent_binary64]
  let count := (0 - max ((n.log2 : Int) + 0 - 52) (-1074)).toNat
  change Packable (roundWithAccuracy Format.binary64 .positive (n <<< count) (0 - count) .exact)
  have hcount : count ≤ 52 := by omega
  refine packable_roundWithAccuracy .positive ?_ (by omega)
  rw [Nat.shiftLeft_eq]
  calc n * 2 ^ count ≤ n * 2 ^ 52 := Nat.mul_le_mul_left n (Nat.pow_le_pow_right (by decide) hcount)
    _ < 2 ^ 116 := by omega

theorem isFinite_ofCount (n : Nat) : (ofCount n).isFinite = true :=
  (packable_ofNat (UInt64.toNat_lt (UInt64.ofNat n))).isFinite_pack

end TickArena.Double

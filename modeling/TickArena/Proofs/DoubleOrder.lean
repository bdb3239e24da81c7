import TickArena.Double
import Mathlib

/-!
# The order of doubles

A comparison unpacks both doubles.  What it reads is the view of the bits, with a
mantissa and an exponent that fit them, and so the order key, which lists the same
fields as one whole number, orders all numbers as the comparison does.
-/

namespace TickArena.Double

open Float.Model Float.Model.UnpackedFloat

/-! ## The fields of a double -/

private theorem toNat_unpackExponent (b : BitVec 64) :
    (@unpackExponent Format.binary64 b).toNat = b.toNat / twoPow 52 % twoPow 11 := by
  simp [unpackExponent, Nat.shiftRight_eq_div_pow, twoPow]

private theorem toNat_unpackMantissa (b : BitVec 64) :
    (@unpackMantissa Format.binary64 b).toNat = b.toNat % twoPow 52 := by
  simp [unpackMantissa, twoPow]

private theorem toNat_unpackSign (b : BitVec 64) :
    (@unpackSign Format.binary64 b).toNat = b.toNat / twoPow 63 := by
  have hb : b.toNat < 2 ^ 64 := b.isLt
  simp [unpackSign, Nat.shiftRight_eq_div_pow, twoPow]
  omega

def signOf (negative : Bool) : Sign :=
  if negative then .negative else .positive

private theorem ofBitVec_unpackSign (x : Float) :
    Sign.ofBitVec (@unpackSign Format.binary64 x.toModel.toBits.toBitVec) =
      signOf (isNegative x) := by
  have hsign := toNat_unpackSign x.toModel.toBits.toBitVec
  have hlt : (@unpackSign Format.binary64 x.toModel.toBits.toBitVec).toNat < 2 :=
    (@unpackSign Format.binary64 x.toModel.toBits.toBitVec).isLt
  unfold Sign.ofBitVec signOf isNegative
  change _ = if decide (x.toModel.toBits.toBitVec.toNat / twoPow 63 = 1) = true then _ else _
  rw [← hsign]
  by_cases hzero : (@unpackSign Format.binary64 x.toModel.toBits.toBitVec).toNat = 0
  · have hbit : @unpackSign Format.binary64 x.toModel.toBits.toBitVec = 0#1 :=
      BitVec.eq_of_toNat_eq (by simpa using hzero)
    simp [hbit]
  · have hne : @unpackSign Format.binary64 x.toModel.toBits.toBitVec ≠ 0#1 := by
      intro h
      simp [h] at hzero
    have hone : (@unpackSign Format.binary64 x.toModel.toBits.toBitVec).toNat = 1 := by
      omega
    simp [hne, hone]

/-- Mantissa and exponent are those that the bits of a double can hold. -/
structure Canonical (m : Nat) (q : Int) : Prop where
  mantissa_lt : m < 9007199254740992
  exponent_ge : -1074 ≤ q
  exponent_le : q ≤ 971
  normal : q = -1074 ∨ 4503599627370496 ≤ m

/-- An unpacked double against the view of its bits. -/
inductive Unpacks : UnpackedFloat → View → Prop
  | infinity (negative : Bool) :
      Unpacks (.infinity (signOf negative)) (.infinite negative)
  | notANumber : Unpacks .notANumber .notANumber
  | zero (negative : Bool) :
      Unpacks (.zero (signOf negative)) (.finite negative 0 (-1074))
  | finite (negative : Bool) {m : Nat} {q : Int} (hm : 0 < m) (hcanonical : Canonical m q) :
      Unpacks (.finite (signOf negative) m q hm) (.finite negative m q)

private theorem toNat_one_append (f : BitVec 52) :
    (1#1 ++ f).toNat = f.toNat + 4503599627370496 := by
  have hor := Nat.two_pow_add_eq_or_of_lt f.isLt 1
  rw [BitVec.toNat_append, Nat.shiftLeft_eq, Nat.mul_comm]
  change 2 ^ 52 * 1 ||| f.toNat = _
  omega

private theorem Unpacks.finite_of_eq {negative : Bool} {m m' : Nat} {q q' : Int}
    (hpos : 0 < m) (hm : m = m') (hq : q = q') (hcanonical : Canonical m' q') :
    Unpacks (.finite (signOf negative) m q hpos) (.finite negative m' q') := by
  subst hm hq
  exact .finite negative hpos hcanonical

private def exponentBits (x : Float) : BitVec 11 :=
  @unpackExponent Format.binary64 x.toModel.toBits.toBitVec

private def mantissaBits (x : Float) : BitVec 52 :=
  @unpackMantissa Format.binary64 x.toModel.toBits.toBitVec

private theorem view_eq_bits (x : Float) :
    view x =
      if (exponentBits x).toNat = 2047 then
        if (mantissaBits x).toNat = 0 then .infinite (isNegative x) else .notANumber
      else if (exponentBits x).toNat = 0 then
        .finite (isNegative x) (mantissaBits x).toNat (-1074)
      else
        .finite (isNegative x) ((mantissaBits x).toNat + twoPow 52)
          (((exponentBits x).toNat : Int) - 1075) := by
  unfold exponentBits mantissaBits
  rw [toNat_unpackExponent, toNat_unpackMantissa]
  rfl

theorem unpacks_view (x : Float) : Unpacks x.toModel.unpack (view x) := by
  have hview := view_eq_bits x
  have hf : (mantissaBits x).toNat < 4503599627370496 := (mantissaBits x).isLt
  have he : (exponentBits x).toNat < 2048 := (exponentBits x).isLt
  rw [hview]
  unfold Float.Model.unpack UnpackedFloat.unpack
  simp only [ofBitVec_unpackSign]
  change Unpacks
    (if exponentBits x = -1#11 then if mantissaBits x = 0#52 then _ else _
      else if exponentBits x = 0#11 then if h : mantissaBits x = 0#52 then _ else _ else _) _
  by_cases htop : exponentBits x = -1#11
  · have hnat : (exponentBits x).toNat = 2047 := by simp [htop]
    rw [if_pos htop, if_pos hnat]
    by_cases hzero : mantissaBits x = 0#52
    · have hnat : (mantissaBits x).toNat = 0 := by simp [hzero]
      rw [if_pos hzero, if_pos hnat]
      exact .infinity _
    · have hnat : (mantissaBits x).toNat ≠ 0 :=
        fun h => hzero (BitVec.eq_of_toNat_eq (by simpa using h))
      rw [if_neg hzero, if_neg hnat]
      exact .notANumber
  · have hnat : (exponentBits x).toNat ≠ 2047 :=
      fun h => htop (BitVec.eq_of_toNat_eq (by simpa using h))
    rw [if_neg htop, if_neg hnat]
    by_cases hlow : exponentBits x = 0#11
    · have hnat : (exponentBits x).toNat = 0 := by simp [hlow]
      rw [if_pos hlow, if_pos hnat]
      by_cases hzero : mantissaBits x = 0#52
      · have hnat : (mantissaBits x).toNat = 0 := by simp [hzero]
        rw [dif_pos hzero, hnat]
        exact .zero _
      · have hpos : 0 < (mantissaBits x).toNat :=
          Nat.pos_of_ne_zero fun h => hzero (BitVec.eq_of_toNat_eq (by simpa using h))
        rw [dif_neg hzero]
        refine Unpacks.finite_of_eq _ rfl ?_ ⟨?_, ?_, ?_, ?_⟩
        · change ((exponentBits x).toNat : Int) - (1023 + 52) + 1 = -1074
          omega
        all_goals omega
    · have hnat : (exponentBits x).toNat ≠ 0 :=
        fun h => hlow (BitVec.eq_of_toNat_eq (by simpa using h))
      have hpow : twoPow 52 = 4503599627370496 := rfl
      rw [if_neg hlow, if_neg hnat, hpow]
      refine Unpacks.finite_of_eq _ ?_ ?_ ⟨?_, ?_, ?_, ?_⟩
      · exact toNat_one_append (mantissaBits x)
      · change ((exponentBits x).toNat : Int) - (1023 + 52) = ((exponentBits x).toNat : Int) - 1075
        omega
      all_goals omega

/-! ## Order keys -/

/-- The order key that a view amounts to. -/
def View.rank : View → Int
  | .notANumber => 9223372036854775808
  | .infinite negative => if negative then -9218868437227405312 else 9218868437227405312
  | .finite negative m q =>
    if negative then -((q + 1074) * 4503599627370496 + m)
    else (q + 1074) * 4503599627370496 + m

private theorem magnitude_of_finite {x : Float} {negative : Bool} {m : Nat} {q : Int}
    (hview : view x = .finite negative m q) :
    isNegative x = negative ∧
      ((x.toBits.toNat % 9223372036854775808 : Nat) : Int) = (q + 1074) * 4503599627370496 + m := by
  have h52 : twoPow 52 = 4503599627370496 := rfl
  have h11 : twoPow 11 = 2048 := rfl
  unfold view at hview
  dsimp only at hview
  split at hview
  · split at hview <;> contradiction
  · split at hview
    · cases hview
      rw [h52, h11] at *
      refine ⟨rfl, ?_⟩
      omega
    · cases hview
      rw [h52, h11] at *
      rw [Int.ofNat_eq_natCast]
      refine ⟨rfl, ?_⟩
      omega

private theorem magnitude_of_infinite {x : Float} {negative : Bool}
    (hview : view x = .infinite negative) :
    isNegative x = negative ∧ x.toBits.toNat % 9223372036854775808 = 9218868437227405312 := by
  have h52 : twoPow 52 = 4503599627370496 := rfl
  have h11 : twoPow 11 = 2048 := rfl
  unfold view at hview
  dsimp only at hview
  split at hview
  · split at hview
    · cases hview
      rw [h52, h11] at *
      refine ⟨rfl, ?_⟩
      omega
    · contradiction
  · split at hview <;> contradiction

theorem orderKey_eq_rank (x : Float) : orderKey x = (view x).rank := by
  unfold orderKey
  cases hview : view x with
  | finite negative m q =>
    obtain ⟨hsign, hmagnitude⟩ := magnitude_of_finite hview
    simp only [hsign, View.rank]
    change (if negative then -((x.toBits.toNat % 9223372036854775808 : Nat) : Int)
      else ((x.toBits.toNat % 9223372036854775808 : Nat) : Int)) = _
    rw [hmagnitude]
  | infinite negative =>
    obtain ⟨hsign, hmagnitude⟩ := magnitude_of_infinite hview
    simp only [hsign, View.rank]
    change (if negative then -((x.toBits.toNat % 9223372036854775808 : Nat) : Int)
      else ((x.toBits.toNat % 9223372036854775808 : Nat) : Int)) = _
    rw [hmagnitude]
    rfl
  | notANumber => rfl

/-! ## Comparisons -/

private theorem Canonical.compare_eq {m m' : Nat} {q q' : Int}
    (h : Canonical m q) (h' : Canonical m' q') :
    (compare q q').then (compare m m') =
      compare ((q + 1074) * 4503599627370496 + m) ((q' + 1074) * 4503599627370496 + m') := by
  obtain ⟨hm, hq, -, hn⟩ := h
  obtain ⟨hm', hq', -, hn'⟩ := h'
  rcases lt_trichotomy q q' with hlt | rfl | hgt
  · rw [compare_lt_iff_lt.mpr hlt]
    symm
    exact compare_lt_iff_lt.mpr (by omega)
  · rw [compare_eq_iff_eq.mpr rfl]
    rcases lt_trichotomy m m' with hlt | rfl | hgt
    · rw [compare_lt_iff_lt.mpr hlt]
      symm
      exact compare_lt_iff_lt.mpr (by omega)
    · rw [compare_eq_iff_eq.mpr rfl, compare_eq_iff_eq.mpr rfl]
      rfl
    · rw [compare_gt_iff_gt.mpr hgt]
      symm
      exact compare_gt_iff_gt.mpr (by omega)
  · rw [compare_gt_iff_gt.mpr hgt]
    symm
    exact compare_gt_iff_gt.mpr (by omega)

private theorem eq_compare_of_lt {v v' : View} (h : v.rank < v'.rank) :
    some Ordering.lt = some (compare v.rank v'.rank) := by
  rw [compare_lt_iff_lt.mpr h]

private theorem eq_compare_of_gt {v v' : View} (h : v'.rank < v.rank) :
    some Ordering.gt = some (compare v.rank v'.rank) := by
  rw [compare_gt_iff_gt.mpr h]

private theorem swap_compare_eq (a b : Int) : (compare a b).swap = compare (-a) (-b) := by
  rcases lt_trichotomy a b with hlt | rfl | hgt
  · rw [compare_lt_iff_lt.mpr hlt, compare_gt_iff_gt.mpr (neg_lt_neg hlt)]
    rfl
  · rw [compare_eq_iff_eq.mpr rfl, compare_eq_iff_eq.mpr rfl]
    rfl
  · rw [compare_gt_iff_gt.mpr hgt, compare_lt_iff_lt.mpr (neg_lt_neg hgt)]
    rfl

private theorem Canonical.rank_bounds {m : Nat} {q : Int} (h : Canonical m q)
    (negative : Bool) :
    (View.infinite true).rank < (View.finite negative m q).rank ∧
      (View.finite negative m q).rank < (View.infinite false).rank := by
  obtain ⟨hlt, hge, hle, -⟩ := h
  cases negative <;> simp [View.rank] <;> omega

private theorem Canonical.rank_pos {m : Nat} {q : Int} (h : Canonical m q) (hm : 0 < m) :
    0 < (View.finite false m q).rank ∧ (View.finite true m q).rank < 0 := by
  obtain ⟨hlt, hge, hle, -⟩ := h
  constructor <;> simp [View.rank] <;> omega

private theorem Canonical.compare_finite {negative negative' : Bool} {m m' : Nat} {q q' : Int}
    (h : Canonical m q) (h' : Canonical m' q') (hm : 0 < m) (hm' : 0 < m') :
    (UnpackedFloat.finite (signOf negative) m q hm).compare
        (.finite (signOf negative') m' q' hm') =
      some (compare (View.finite negative m q).rank (View.finite negative' m' q').rank) := by
  obtain ⟨hpos, hneg⟩ := h.rank_pos hm
  obtain ⟨hpos', hneg'⟩ := h'.rank_pos hm'
  cases negative with
  | false =>
    cases negative' with
    | false => exact congrArg some (h.compare_eq h')
    | true => exact eq_compare_of_gt (hneg'.trans hpos)
  | true =>
    cases negative' with
    | false => exact eq_compare_of_lt (hneg.trans hpos')
    | true =>
      have hswap := congrArg Ordering.swap (h.compare_eq h')
      exact congrArg some (hswap.trans (swap_compare_eq _ _))

theorem Unpacks.compare_eq {u u' : UnpackedFloat} {v v' : View}
    (h : Unpacks u v) (h' : Unpacks u' v') (hv : v ≠ .notANumber) (hv' : v' ≠ .notANumber) :
    u.compare u' = some (compare v.rank v'.rank) := by
  cases h with
  | notANumber => exact absurd rfl hv
  | infinity negative =>
    cases h' with
    | notANumber => exact absurd rfl hv'
    | infinity negative' => cases negative <;> cases negative' <;> rfl
    | zero negative' => cases negative <;> cases negative' <;> rfl
    | finite negative' hm hcanonical =>
      cases negative with
      | true => exact eq_compare_of_lt (hcanonical.rank_bounds negative').1
      | false => exact eq_compare_of_gt (hcanonical.rank_bounds negative').2
  | zero negative =>
    cases h' with
    | notANumber => exact absurd rfl hv'
    | infinity negative' => cases negative <;> cases negative' <;> rfl
    | zero negative' => cases negative <;> cases negative' <;> rfl
    | finite negative' hm hcanonical =>
      have hzero : (View.finite negative 0 (-1074)).rank = 0 := by cases negative <;> rfl
      cases negative' with
      | true => exact eq_compare_of_gt (hzero ▸ (hcanonical.rank_pos hm).2)
      | false => exact eq_compare_of_lt (hzero ▸ (hcanonical.rank_pos hm).1)
  | finite negative hm hcanonical =>
    cases h' with
    | notANumber => exact absurd rfl hv'
    | infinity negative' =>
      cases negative' with
      | true =>
        cases negative <;> exact eq_compare_of_gt (hcanonical.rank_bounds _).1
      | false =>
        cases negative <;> exact eq_compare_of_lt (hcanonical.rank_bounds _).2
    | zero negative' =>
      have hzero : (View.finite negative' 0 (-1074)).rank = 0 := by cases negative' <;> rfl
      cases negative with
      | true => exact eq_compare_of_lt (hzero ▸ (hcanonical.rank_pos hm).2)
      | false => exact eq_compare_of_gt (hzero ▸ (hcanonical.rank_pos hm).1)
    | finite negative' hm' hcanonical' => exact hcanonical.compare_finite hcanonical' hm hm'

theorem canonical_of_view {x : Float} {negative : Bool} {m : Nat} {q : Int}
    (hview : view x = .finite negative m q) : Canonical m q := by
  have h := unpacks_view x
  rw [hview] at h
  generalize x.toModel.unpack = u at h
  cases h with
  | zero => exact ⟨by decide, by decide, by decide, .inl rfl⟩
  | finite _ hm hcanonical => exact hcanonical

theorem Canonical.rank_nonneg_iff {m : Nat} {q : Int} (h : Canonical m q) (negative : Bool) :
    0 ≤ (View.finite negative m q).rank ↔ ¬ (negative = true ∧ m ≠ 0) := by
  obtain ⟨-, hge, -, hnormal⟩ := h
  cases negative with
  | false =>
    simp only [View.rank]
    constructor
    · rintro - ⟨hfalse, -⟩
      contradiction
    · intro _
      simp only [Bool.false_eq_true, if_false]
      omega
  | true =>
    simp only [View.rank, if_true, true_and, not_not]
    omega

theorem Canonical.rank_of_nonneg {m : Nat} {q : Int} (h : Canonical m q) {negative : Bool}
    (hnonneg : 0 ≤ (View.finite negative m q).rank) :
    (View.finite negative m q).rank = (q + 1074) * 4503599627370496 + m := by
  cases negative with
  | false => rfl
  | true =>
    have hge := h.exponent_ge
    simp only [View.rank, if_true] at hnonneg ⊢
    omega

theorem view_eq_notANumber_iff (x : Float) : view x = .notANumber ↔ x.isNaN = true := by
  have h := unpacks_view x
  change _ ↔ x.toModel.unpack.isNaN = true
  generalize x.toModel.unpack = u, view x = v at *
  cases h <;> simp [UnpackedFloat.isNaN]

/-- Numbers compare as their order keys do. -/
theorem compare_eq {x y : Float} (hx : ¬ x.isNaN) (hy : ¬ y.isNaN) :
    x.toModel.unpack.compare y.toModel.unpack = some (compare (orderKey x) (orderKey y)) := by
  rw [orderKey_eq_rank, orderKey_eq_rank]
  apply (unpacks_view x).compare_eq (unpacks_view y)
  · exact fun hv => hx ((view_eq_notANumber_iff x).mp hv)
  · exact fun hv => hy ((view_eq_notANumber_iff y).mp hv)

theorem compare_eq_none {x y : Float} (h : x.isNaN ∨ y.isNaN) :
    x.toModel.unpack.compare y.toModel.unpack = none := by
  have hnan : ∀ u : UnpackedFloat, u.isNaN = true → u = .notANumber := by
    intro u hu
    cases u <;> first | rfl | contradiction
  rcases h with hx | hy
  · rw [hnan x.toModel.unpack hx]
    rfl
  · rw [hnan y.toModel.unpack hy]
    cases x.toModel.unpack <;> rfl

private theorem lt_iff_compare (x y : Float) :
    x < y ↔ (x.toModel.unpack.compare y.toModel.unpack == some .lt) = true := by
  change decide (((x.toModel.unpack.compare y.toModel.unpack) == some .lt) = true) = true ↔ _
  exact decide_eq_true_iff

private theorem le_iff_compare (x y : Float) :
    x ≤ y ↔ (x.toModel.unpack.compare y.toModel.unpack).any (·.isLE) = true := by
  change decide (((x.toModel.unpack.compare y.toModel.unpack).any (·.isLE)) = true) = true ↔ _
  exact decide_eq_true_iff

theorem lt_iff (x y : Float) :
    x < y ↔ ¬ x.isNaN ∧ ¬ y.isNaN ∧ orderKey x < orderKey y := by
  rw [lt_iff_compare]
  by_cases hnan : x.isNaN ∨ y.isNaN
  · rw [compare_eq_none hnan]
    refine iff_of_false (by simp) ?_
    rintro ⟨hx, hy, -⟩
    exact hnan.elim hx hy
  · push Not at hnan
    rw [compare_eq hnan.1 hnan.2, and_iff_right hnan.1, and_iff_right hnan.2]
    simp [compare_lt_iff_lt]

theorem le_iff (x y : Float) :
    x ≤ y ↔ ¬ x.isNaN ∧ ¬ y.isNaN ∧ orderKey x ≤ orderKey y := by
  rw [le_iff_compare]
  by_cases hnan : x.isNaN ∨ y.isNaN
  · rw [compare_eq_none hnan]
    refine iff_of_false (by simp) ?_
    rintro ⟨hx, hy, -⟩
    exact hnan.elim hx hy
  · push Not at hnan
    rw [compare_eq hnan.1 hnan.2, and_iff_right hnan.1, and_iff_right hnan.2]
    simp [Std.isLE_compare]

theorem not_lt_of_not_le {x y : Float} (h : ¬ x ≤ y) : ¬ x < y := by
  intro hlt
  obtain ⟨hx, hy, hkey⟩ := (lt_iff x y).mp hlt
  exact h ((le_iff x y).mpr ⟨hx, hy, hkey.le⟩)

theorem lt_trans {x y z : Float} (hxy : x < y) (hyz : y < z) : x < z := by
  obtain ⟨hx, -, hkeyx⟩ := (lt_iff x y).mp hxy
  obtain ⟨-, hz, hkeyz⟩ := (lt_iff y z).mp hyz
  exact (lt_iff x z).mpr ⟨hx, hz, hkeyx.trans hkeyz⟩

theorem le_trans {x y z : Float} (hxy : x ≤ y) (hyz : y ≤ z) : x ≤ z := by
  obtain ⟨hx, -, hkeyx⟩ := (le_iff x y).mp hxy
  obtain ⟨-, hz, hkeyz⟩ := (le_iff y z).mp hyz
  exact (le_iff x z).mpr ⟨hx, hz, hkeyx.trans hkeyz⟩

theorem le_of_lt {x y : Float} (h : x < y) : x ≤ y := by
  obtain ⟨hx, hy, hkey⟩ := (lt_iff x y).mp h
  exact (le_iff x y).mpr ⟨hx, hy, hkey.le⟩

theorem le_of_not_lt {x y : Float} (hx : ¬ x.isNaN) (hy : ¬ y.isNaN) (h : ¬ x < y) : y ≤ x := by
  rw [le_iff]
  refine ⟨hy, hx, ?_⟩
  by_contra hkey
  exact h ((lt_iff x y).mpr ⟨hx, hy, not_le.mp hkey⟩)

theorem not_isNaN_zero : ¬ (0 : Float).isNaN := by
  decide +kernel

theorem not_isNaN_of_pos {x : Float} (h : 0 < x) : ¬ x.isNaN :=
  ((lt_iff 0 x).mp h).2.1

theorem not_isNaN_clampAtZero (x : Float) : ¬ (clampAtZero x).isNaN := by
  unfold clampAtZero
  split_ifs with hpos
  · exact not_isNaN_of_pos hpos
  · exact not_isNaN_zero

end TickArena.Double

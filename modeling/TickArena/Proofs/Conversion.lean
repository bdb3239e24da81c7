import TickArena.Proofs.DoubleOrder
import TickArena.Time

/-!
# Seconds and their lengths

The seconds of the settings are doubles, and a length counts whole nanoseconds.  A
length keeps to the side of a large power of two on which its seconds lie, and it
is zero up to half a nanosecond; so the range and the sign of a length can be
stated by comparing the seconds with three doubles.
-/

namespace TickArena

/-! ## Rounded quotients -/

theorem roundHalfEven_le {num den k : Nat} (hden : 0 < den) (h : num ≤ k * den) :
    roundHalfEven num den ≤ k := by
  have hdiv : num / den ≤ k := Nat.div_le_of_le_mul (by rwa [Nat.mul_comm])
  have hsplit := Nat.div_add_mod num den
  by_cases hk : num / den = k
  · have hzero : num % den = 0 := by
      rw [hk, Nat.mul_comm den k] at hsplit
      omega
    simp [roundHalfEven, hk, hzero, hden]
  · have hlt : num / den + 1 ≤ k := by omega
    simp only [roundHalfEven]
    split_ifs <;> omega

theorem roundHalfEven_pos_iff {num den : Nat} (hden : 0 < den) :
    0 < roundHalfEven num den ↔ den < 2 * num := by
  have hsplit := Nat.div_add_mod num den
  have hmod := Nat.mod_lt num hden
  simp only [roundHalfEven]
  generalize num / den = below, num % den = rest at *
  cases below with
  | zero =>
    rw [Nat.mul_zero, Nat.zero_add] at hsplit
    split_ifs <;> omega
  | succ below =>
    rw [Nat.mul_succ] at hsplit
    split_ifs <;> omega

namespace Time

open Double

/-! ## Nanoseconds of a double -/

/-- The length of `m · 2^q` seconds. -/
def nanoseconds (m : Nat) (q : Int) : Nat :=
  roundHalfEven (m * twoPow q.toNat * second) (twoPow (-q).toNat)

theorem ofSeconds_eq_ok_iff {x : Float} {length : Duration} :
    ofSeconds x = .ok length ↔
      ∃ negative m q, view x = .finite negative m q ∧ ¬ (negative = true ∧ m ≠ 0) ∧
        length = nanoseconds m q ∧ length < durationLimit := by
  unfold ofSeconds
  cases hview : view x with
  | finite negative m q =>
    by_cases hnegative : negative = true ∧ m ≠ 0
    · simp only [if_pos hnegative]
      constructor
      · intro h
        contradiction
      · rintro ⟨_, _, _, hsame, hpositive, -⟩
        cases hsame
        exact absurd hnegative hpositive
    · simp only [if_neg hnegative]
      change (if nanoseconds m q < durationLimit then Except.ok (nanoseconds m q)
        else .error TimeFault.secondsOutOfRange) = .ok length ↔ _
      split_ifs with hlimit
      · constructor
        · intro h
          cases h
          exact ⟨negative, m, q, rfl, hnegative, rfl, hlimit⟩
        · rintro ⟨_, _, _, hsame, -, rfl, -⟩
          cases hsame
          rfl
      · constructor
        · intro h
          contradiction
        · rintro ⟨_, _, _, hsame, -, rfl, hlt⟩
          cases hsame
          exact absurd hlt hlimit
  | infinite negative => simp
  | notANumber => simp

private theorem nanoseconds_of_neg {m : Nat} {q : Int} (hq : q < 0) :
    nanoseconds m q = roundHalfEven (m * 1000000000) (2 ^ (-q).toNat) := by
  have hzero : q.toNat = 0 := by omega
  unfold nanoseconds
  rw [hzero, twoPow_zero, Nat.mul_one]
  rfl

private theorem nanoseconds_of_nonneg {m : Nat} {q : Int} (hq : 0 ≤ q) :
    nanoseconds m q = m * 2 ^ q.toNat * 1000000000 := by
  have hzero : (-q).toNat = 0 := by omega
  have hwhole := roundHalfEven_mul (m * twoPow q.toNat * second) Nat.one_pos
  unfold nanoseconds
  rw [hzero, twoPow_zero, ← Nat.mul_one (m * twoPow q.toNat * second), hwhole]
  rfl

theorem nanoseconds_lt_iff {m : Nat} {q : Int} {k : Nat} (h : Canonical m q) (hk : 53 ≤ k) :
    nanoseconds m q < 2 ^ k * 1000000000 ↔
      (q + 1074) * 4503599627370496 + m < ((k : Int) + 1023) * 4503599627370496 := by
  obtain ⟨hlt, hge, -, hnormal⟩ := h
  by_cases hq : q < 0
  · -- Without a whole exponent the seconds are below `2^52`.
    have hden : 2 ^ 1 ≤ 2 ^ (-q).toNat := Nat.pow_le_pow_right (by decide) (by omega)
    have hle : nanoseconds m q ≤ 2 ^ 52 * 1000000000 := by
      rw [nanoseconds_of_neg hq]
      apply roundHalfEven_le (by omega)
      calc m * 1000000000 ≤ 2 ^ 52 * 1000000000 * 2 := by omega
        _ ≤ 2 ^ 52 * 1000000000 * 2 ^ (-q).toNat := Nat.mul_le_mul_left _ hden
    have hpow : 2 ^ 52 < 2 ^ k := Nat.pow_lt_pow_right (by decide) (by omega)
    constructor
    · intro _
      omega
    · intro _
      omega
  · have hm : 2 ^ 52 ≤ m := by omega
    have hexact := nanoseconds_of_nonneg (m := m) (Int.not_lt.mp hq)
    have hscale : m * 2 ^ q.toNat * 1000000000 < 2 ^ k * 1000000000 ↔ m * 2 ^ q.toNat < 2 ^ k := by
      omega
    rw [hexact, hscale]
    constructor
    · intro hbelow
      have hpow : 2 ^ (52 + q.toNat) < 2 ^ k := by
        rw [Nat.pow_add]
        exact (Nat.mul_le_mul_right _ hm).trans_lt hbelow
      have hexp := (Nat.pow_lt_pow_iff_right (by decide)).mp hpow
      omega
    · intro hbelow
      have hexp : 53 + q.toNat ≤ k := by omega
      calc m * 2 ^ q.toNat < 2 ^ 53 * 2 ^ q.toNat :=
            Nat.mul_lt_mul_of_pos_right hlt (Nat.two_pow_pos _)
        _ = 2 ^ (53 + q.toNat) := (Nat.pow_add 2 53 q.toNat).symm
        _ ≤ 2 ^ k := Nat.pow_le_pow_right (by decide) hexp

theorem nanoseconds_pos_iff {m : Nat} {q : Int} (h : Canonical m q) :
    0 < nanoseconds m q ↔ 4467902934002620053 ≤ (q + 1074) * 4503599627370496 + m := by
  obtain ⟨hlt, hge, -, hnormal⟩ := h
  by_cases hq : q < 0
  · rw [nanoseconds_of_neg hq, roundHalfEven_pos_iff (Nat.two_pow_pos _)]
    -- The threshold lies among the mantissas of the exponent `-83`.
    rcases lt_trichotomy q (-83) with hlow | rfl | hhigh
    · have hden : 2 ^ 84 ≤ 2 ^ (-q).toNat := Nat.pow_le_pow_right (by decide) (by omega)
      constructor
      · intro _
        omega
      · intro _
        omega
    · change 2 ^ 83 < _ ↔ _
      omega
    · have hden : 2 ^ (-q).toNat ≤ 2 ^ 82 := Nat.pow_le_pow_right (by decide) (by omega)
      constructor
      · intro _
        omega
      · intro _
        omega
  · have hexact := nanoseconds_of_nonneg (m := m) (Int.not_lt.mp hq)
    have hpow : 0 < m * 2 ^ q.toNat := Nat.mul_pos (by omega) (Nat.two_pow_pos _)
    rw [hexact]
    constructor
    · intro _
      omega
    · intro _
      omega

/-! ## Seconds as doubles -/

theorem ofSeconds_spec {x : Float} {length : Duration} (h : ofSeconds x = .ok length) :
    ∃ m q, Canonical m q ∧ length = nanoseconds m q ∧ length < durationLimit ∧ ¬ x.isNaN ∧
      orderKey x = (q + 1074) * 4503599627370496 + m := by
  obtain ⟨negative, m, q, hview, hsign, hlength, hlimit⟩ := ofSeconds_eq_ok_iff.mp h
  have hcanonical := canonical_of_view hview
  refine ⟨m, q, hcanonical, hlength, hlimit, ?_, ?_⟩
  · intro hnan
    rw [(view_eq_notANumber_iff x).mpr hnan] at hview
    contradiction
  · rw [orderKey_eq_rank, hview]
    exact hcanonical.rank_of_nonneg ((hcanonical.rank_nonneg_iff negative).mpr hsign)

theorem ofSeconds_of_orderKey {x : Float} (hnan : ¬ x.isNaN) (hnonneg : 0 ≤ orderKey x)
    (hlt : orderKey x < 1087 * 4503599627370496) :
    ∃ length, ofSeconds x = .ok length := by
  rw [orderKey_eq_rank] at hnonneg hlt
  cases hview : view x with
  | notANumber => exact absurd ((view_eq_notANumber_iff x).mp hview) hnan
  | infinite negative =>
    rw [hview] at hnonneg hlt
    cases negative <;> simp [View.rank] at hnonneg hlt
  | finite negative m q =>
    rw [hview] at hnonneg hlt
    have hcanonical := canonical_of_view hview
    rw [hcanonical.rank_of_nonneg hnonneg] at hlt
    have hlimit := (nanoseconds_lt_iff hcanonical (by decide : 53 ≤ 64)).mpr hlt
    exact ⟨nanoseconds m q, ofSeconds_eq_ok_iff.mpr
      ⟨negative, m, q, hview, (hcanonical.rank_nonneg_iff negative).mp hnonneg, rfl, hlimit⟩⟩

theorem ofSeconds_isOk_iff {x : Float} (h : ¬ x < 0) :
    (∃ length, ofSeconds x = .ok length) ↔ x < 18446744073709551616 := by
  have hnumber : ¬ (18446744073709551616 : Float).isNaN := by decide +kernel
  have hkey : orderKey 18446744073709551616 = 1087 * 4503599627370496 := by decide +kernel
  rw [Double.lt_iff, hkey]
  constructor
  · rintro ⟨length, hlength⟩
    obtain ⟨m, q, hcanonical, rfl, hlimit, hnan, hx⟩ := ofSeconds_spec hlength
    have hbelow := (nanoseconds_lt_iff hcanonical (by decide : 53 ≤ 64)).mp hlimit
    exact ⟨hnan, hnumber, hx ▸ hbelow⟩
  · rintro ⟨hnan, -, hlt⟩
    have hzeroKey : orderKey 0 = 0 := by decide +kernel
    apply ofSeconds_of_orderKey hnan _ hlt
    by_contra hneg
    exact h ((Double.lt_iff x 0).mpr ⟨hnan, Double.not_isNaN_zero, by omega⟩)

theorem ofSeconds_lt_instantLimit_iff {x : Float} {length : Duration}
    (h : ofSeconds x = .ok length) :
    length < instantLimit ↔ x < 9223372036854775808 := by
  have hnumber : ¬ (9223372036854775808 : Float).isNaN := by decide +kernel
  have hkey : orderKey 9223372036854775808 = 1086 * 4503599627370496 := by decide +kernel
  obtain ⟨m, q, hcanonical, rfl, -, hnan, hx⟩ := ofSeconds_spec h
  rw [Double.lt_iff, hkey, hx]
  exact (nanoseconds_lt_iff hcanonical (by decide : 53 ≤ 63)).trans
    ⟨fun hlt => ⟨hnan, hnumber, hlt⟩, fun hlt => hlt.2.2⟩

/-- Five tenths of a nanosecond are the least double that is not rounded to zero. -/
theorem ofSeconds_pos_iff {x : Float} {length : Duration} (h : ofSeconds x = .ok length) :
    0 < length ↔ 5e-10 ≤ x := by
  have hnumber : ¬ (5e-10 : Float).isNaN := by decide +kernel
  have hkey : orderKey 5e-10 = 4467902934002620053 := by decide +kernel
  obtain ⟨m, q, hcanonical, rfl, -, hnan, hx⟩ := ofSeconds_spec h
  rw [Double.le_iff, hkey, hx]
  exact (nanoseconds_pos_iff hcanonical).trans
    ⟨fun hle => ⟨hnumber, hnan, hle⟩, fun hle => hle.2.2⟩

/-! ## Sums and later instants -/

theorem bind_eq_ok {α β : Type} {first : Except TimeFault α} {then_ : α → Except TimeFault β}
    {answer : β} (h : (first >>= then_) = .ok answer) :
    ∃ value, first = .ok value ∧ then_ value = .ok answer := by
  cases first with
  | ok value => exact ⟨value, rfl, h⟩
  | error fault => contradiction

theorem exists_ok_of_isOk {α : Type} {outcome : Except TimeFault α} (h : outcome.isOk = true) :
    ∃ value, outcome = .ok value := by
  cases outcome with
  | ok value => exact ⟨value, rfl⟩
  | error fault => contradiction

theorem exists_ok_of_any {α : Type} {outcome : Except TimeFault α} {p : α → Prop}
    [DecidablePred p] (h : outcome.toOption.any (fun value => decide (p value)) = true) :
    ∃ value, outcome = .ok value ∧ p value := by
  cases outcome with
  | ok value => exact ⟨value, rfl, of_decide_eq_true h⟩
  | error fault => contradiction

theorem sum_isOk_iff {a b : Duration} :
    (∃ length, sum a b = .ok length) ↔ a + b < durationLimit := by
  unfold sum
  split_ifs with h <;> simp [h]

theorem sum_sum_isOk_iff {a b c : Duration} :
    (∃ length, (do sum (← sum a b) c : Except TimeFault Duration) = .ok length) ↔
      a + b + c < durationLimit := by
  by_cases hab : a + b < durationLimit
  · have hinner : sum a b = .ok (a + b) := if_pos hab
    rw [hinner]
    exact sum_isOk_iff
  · have hinner : sum a b = .error .durationTooLong := if_neg hab
    rw [hinner]
    constructor
    · rintro ⟨length, h⟩
      contradiction
    · intro h
      exact absurd ((Nat.le_add_right _ _).trans_lt h) hab

theorem after_eq_ok_iff {start instant : Instant} {length : Duration} :
    after start length = .ok instant ↔
      start + length < instantLimit ∧ instant = start + length := by
  unfold after
  split_ifs with h
  · simp [h, eq_comm]
  · simp [h]

theorem instantLimit_le_of_after_eq_error {start : Instant} {length : Duration}
    {fault : TimeFault} (h : after start length = .error fault) :
    instantLimit ≤ start + length := by
  unfold after at h
  split_ifs at h with hrange
  exact Nat.le_of_not_lt hrange

theorem after_isOk_iff {start : Instant} {length : Duration} :
    (∃ instant, after start length = .ok instant) ↔ start + length < instantLimit := by
  unfold after
  split_ifs with h <;> simp [h]

end Time

end TickArena

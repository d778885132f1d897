import Bookkeeping.Proofs.DecimalValue
import Bookkeeping.Store.Cell

set_option autoImplicit false

/-! # What the store keeps of an amount

A double lies within half a unit of its last place of what was rounded (`roundUnits_error`), and is
kept by rounding (`roundUnits_roundUnits`); so an amount is read back as the double that it was
written as, in whole cents (`toDecimal_ofDecimal?`). An amount of whole cents below `2 ^ 46` is read
back unchanged (`cents_exact`). -/

namespace Bookkeeping

open Decimal (roundDiv digitCount value WholeCents)

theorem pow2_add (j k : Nat) : pow2 (j + k) = pow2 j * pow2 k := Nat.pow_add 2 j k

theorem pow2_le_pow2 {j k : Nat} (h : j ≤ k) : pow2 j ≤ pow2 k := Nat.pow_le_pow_right (by decide) h

theorem pow2_lt_pow2 {j k : Nat} (h : j < k) : pow2 j < pow2 k := Nat.pow_lt_pow_right (by decide) h

theorem pow2_dvd_pow2 {j k : Nat} (h : j ≤ k) : pow2 j ∣ pow2 k := Nat.pow_dvd_pow 2 h

namespace Binary64

variable {n d : Nat} {x : Binary64}

/-! ## Rounding to significant bits -/

theorem roundUnits_error (n : Nat) (hd : 0 < d) :
    |(roundUnits n d : ℚ) - n / d| ≤ (pow2 (surplusBits (n / d)) : Nat) / 2 := by
  unfold roundUnits
  dsimp only
  generalize hp : pow2 (surplusBits (n / d)) = p
  have hp : 0 < p := hp ▸ pow2_pos _
  have hp' : (0 : ℚ) < p := by exact_mod_cast hp
  have hd' : (0 : ℚ) < d := by exact_mod_cast hd
  have herror := Decimal.roundDiv_error .toEven n (Nat.mul_pos hd hp)
  have hscale : ((roundDiv .toEven n (d * p) * p : Nat) : ℚ) - n / d =
      (roundDiv .toEven n (d * p) - n / (d * p : Nat)) * p := by
    push_cast
    field_simp
  rw [hscale, abs_mul, abs_of_pos hp']
  calc _ ≤ 1 / 2 * (p : ℚ) := mul_le_mul_of_nonneg_right herror hp'.le
    _ = p / 2 := by ring

/-- Numbers of fewer bits have fewer bits too many. -/
theorem surplusBits_le {k : Nat} (h : n < pow2 (significantBits + k)) : surplusBits n ≤ k := by
  unfold surplusBits
  rcases Nat.eq_zero_or_pos n with rfl | hn
  · simp [significantBits]
  · have := (Nat.log2_lt hn.ne').mpr h
    omega

theorem lt_pow2_surplusBits (n : Nat) : n < pow2 (significantBits + surplusBits n) := by
  refine Nat.lt_log2_self.trans_le (Nat.pow_le_pow_right (by decide) ?_)
  unfold surplusBits
  omega

/-- The significant bits of a rounded number of units. -/
theorem significand_le (n d : Nat) :
    roundDiv .toEven n (d * pow2 (surplusBits (n / d))) ≤ pow2 significantBits := by
  have hlt := lt_pow2_surplusBits (n / d)
  generalize surplusBits (n / d) = k at hlt ⊢
  have hq : n / (d * pow2 k) < pow2 significantBits := by
    rw [← Nat.div_div_eq_div_mul, Nat.div_lt_iff_lt_mul (pow2_pos k), ← pow2_add]
    exact hlt
  rcases Decimal.roundDiv_cases .toEven n (d * pow2 k) with ⟨h, -⟩ | ⟨h, -⟩ <;> omega

theorem roundUnits_le (n d : Nat) :
    roundUnits n d ≤ pow2 (significantBits + surplusBits (n / d)) := by
  rw [pow2_add]
  exact Nat.mul_le_mul_right _ (significand_le n d)

/-- A rounded number of units has no bits too many. -/
theorem dvd_roundUnits (n d : Nat) : pow2 (surplusBits (roundUnits n d)) ∣ roundUnits n d := by
  have hle := significand_le n d
  unfold roundUnits
  dsimp only
  generalize surplusBits (n / d) = k at hle ⊢
  generalize roundDiv .toEven n (d * pow2 k) = q at hle ⊢
  -- rounding up may reach the next power of two, which has a single significant bit
  rcases Nat.lt_or_eq_of_le hle with hq | rfl
  · have hbits : surplusBits (q * pow2 k) ≤ k := by
      refine surplusBits_le ?_
      rw [pow2_add]
      exact Nat.mul_lt_mul_of_pos_right hq (pow2_pos k)
    exact (pow2_dvd_pow2 hbits).trans (Dvd.intro_left q rfl)
  · rw [← pow2_add]
    refine pow2_dvd_pow2 ?_
    unfold surplusBits
    have hlog : Nat.log2 (pow2 (significantBits + k)) = significantBits + k := Nat.log2_two_pow
    have hbits : significantBits = 53 := rfl
    omega

/-- A quotient without bits too many is not changed by rounding. -/
theorem roundUnits_mul (hd : 0 < d) (h : pow2 (surplusBits n) ∣ n) : roundUnits (n * d) d = n := by
  obtain ⟨q, hq⟩ := h
  unfold roundUnits
  dsimp only
  rw [Nat.mul_div_cancel _ hd]
  generalize hp : pow2 (surplusBits n) = p at hq ⊢
  have hprod : n * d = q * (d * p) := by
    rw [hq]
    ring
  rw [hprod, Decimal.roundDiv_mul_self _ _ (Nat.mul_pos hd (hp ▸ pow2_pos _)), hq, Nat.mul_comm]

theorem roundUnits_of_dvd (h : pow2 (surplusBits n) ∣ n) : roundUnits n 1 = n := by
  have hmul := roundUnits_mul Nat.one_pos h
  rwa [Nat.mul_one] at hmul

theorem roundUnits_roundUnits (n d : Nat) : roundUnits (roundUnits n d) 1 = roundUnits n d :=
  roundUnits_of_dvd (dvd_roundUnits n d)

/-! ## Doubles as they are kept -/

/-- A double that rounding keeps. -/
inductive IsRounded : Binary64 → Prop where
  | finite {s : Bool} {u : Nat} (dvd : pow2 (surplusBits u) ∣ u) (lt : u < infiniteUnits) :
      IsRounded (.finite s u)
  | infinity {s : Bool} : IsRounded (.infinity s)
  | nan : IsRounded .nan

theorem isRounded_ofUnits {u : Nat} (s : Bool) (h : pow2 (surplusBits u) ∣ u) :
    (ofUnits s u).IsRounded := by
  unfold ofUnits
  split
  · next hlt => exact .finite h hlt
  · exact .infinity

theorem isRounded_zero (s : Bool) : (finite s 0).IsRounded :=
  .finite (Nat.dvd_zero _) (by unfold infiniteUnits; exact pow2_pos _)

theorem isRounded_ofDecimal (a : Decimal) : (ofDecimal a).IsRounded := by
  cases a with
  | infinity s => exact .infinity
  | nan s g p => exact .nan
  | finite s c e =>
      unfold ofDecimal
      dsimp only
      split
      · exact isRounded_zero s
      · split
        · exact .infinity
        · split
          · exact isRounded_zero s
          · exact isRounded_ofUnits s (dvd_roundUnits _ _)

theorem one_pos : 0 < one := by
  unfold one
  exact pow2_pos _

/-- The whole number of a double becomes that double again, up to the sign of a zero. -/
theorem ofInt_toInt? {s : Bool} {u : Nat} {n : Int} (h : (finite s u).IsRounded)
    (hn : (finite s u).toInt? = some n) : ofInt n = finite (s && decide (u ≠ 0)) u := by
  unfold toInt? at hn
  dsimp only at hn
  split at hn
  · next hmod =>
      cases hn
      obtain ⟨hdvd, hlt⟩ := h
      have hu : u / one * one = u := Nat.div_mul_cancel (Nat.dvd_of_mod_eq_zero hmod)
      have hzero : u / one = 0 ↔ u = 0 := by
        constructor
        · intro h0
          rw [← hu, h0, Nat.zero_mul]
        · rintro rfl
          exact Nat.zero_div one
      have hsign : decide (Decimal.signed s (u / one) < 0) = (s && decide (u ≠ 0)) := by
        rw [Bool.eq_iff_iff, decide_eq_true_iff, Decimal.signed_neg_iff, ne_eq, hzero]
        simp
      rw [ofInt, ofRatio, Decimal.natAbs_signed, hu, roundUnits_of_dvd hdvd, ofUnits, if_pos hlt,
        hsign]
  · cases hn

/-! ## Reading in whole cents -/

/-- Is the double a number? -/
def isFinite : Binary64 → Bool
  | .finite _ _ => true
  | _ => false

/-- The whole number of cents nearest to a double, a half going to the even neighbour. -/
def cents : Binary64 → Int
  | .finite s u => Decimal.signed s (roundDiv .toEven (u * 100) one)
  | _ => 0

theorem roundDiv_zero : roundDiv .toEven 0 one = 0 := by
  have h := Decimal.roundDiv_mul_self .toEven 0 one_pos
  rwa [Nat.zero_mul] at h

theorem isFinite_toDecimal (x : Binary64) : (x.toDecimal 2).isFinite = x.isFinite := by
  cases x <;> rfl

theorem value_toDecimal (x : Binary64) : (x.toDecimal 2).value = x.cents / 100 := by
  cases x with
  | finite s u =>
      have hcent : (10 : ℚ) ^ (-(2 : Nat) : Int) = 1 / 100 := by norm_num
      rw [toDecimal, value, cents, hcent, show pow10 2 = 100 from rfl]
      ring
  | infinity s => simp [toDecimal, value, cents]
  | nan => simp [toDecimal, value, cents]

/-- The double with no sign on a zero. -/
def plainZero : Binary64 → Binary64
  | .finite s u => .finite (s && decide (u ≠ 0)) u
  | x => x

theorem isFinite_plainZero (x : Binary64) : x.plainZero.isFinite = x.isFinite := by
  cases x <;> rfl

theorem cents_plainZero (x : Binary64) : x.plainZero.cents = x.cents := by
  cases x with
  | finite s u =>
      rw [plainZero, cents, cents]
      rcases eq_or_ne u 0 with rfl | hu
      · rw [Nat.zero_mul, roundDiv_zero]
        cases s <;> rfl
      · simp [hu]
  | infinity s => rfl
  | nan => rfl

/-! ## Signs -/

/-- An amount that is not negative becomes a double that is not negative. -/
theorem ofDecimal_of_nonneg {a : Decimal} (ha : a.isFinite) (h : 0 ≤ a.value) :
    ofDecimal a = .infinity false ∨ ∃ s u, ofDecimal a = .finite s u ∧ (s → u = 0) := by
  obtain ⟨s, c, e, rfl⟩ := Decimal.isFinite_iff.mp ha
  rcases Nat.eq_zero_or_pos c with rfl | hc
  · exact .inr ⟨s, 0, rfl, fun _ => rfl⟩
  · obtain rfl := Decimal.sign_of_nonneg hc h
    unfold ofDecimal
    dsimp only
    rw [if_neg hc.ne']
    split
    · exact .inl rfl
    · split
      · exact .inr ⟨false, 0, rfl, fun _ => rfl⟩
      · rw [ofRatio, ofUnits]
        split
        · exact .inr ⟨false, _, rfl, fun h => absurd h (by simp)⟩
        · exact .inl rfl

theorem cents_nonneg {a : Decimal} (ha : a.isFinite) (h : 0 ≤ a.value) : 0 ≤ (ofDecimal a).cents := by
  rcases ofDecimal_of_nonneg ha h with hx | ⟨s, u, hx, hs⟩
  · rw [hx]
    exact Int.le_refl 0
  · rw [hx, ← cents_plainZero, plainZero, cents]
    have hsign : (s && decide (u ≠ 0)) = false := by
      cases s
      · rfl
      · simp [hs rfl]
    rw [hsign]
    exact Int.natCast_nonneg _

/-- A zero becomes a zero. -/
theorem ofDecimal_of_zero {a : Decimal} (ha : a.isFinite) (h : a.value = 0) :
    (ofDecimal a).isFinite ∧ (ofDecimal a).cents = 0 := by
  obtain ⟨s, c, e, rfl⟩ := Decimal.isFinite_iff.mp ha
  have habs := Decimal.abs_value s c e
  rw [h, abs_zero, eq_comm, mul_eq_zero_iff_right (Decimal.ten_zpow_pos e).ne'] at habs
  obtain rfl : c = 0 := by exact_mod_cast habs
  refine ⟨rfl, ?_⟩
  rw [ofDecimal, if_pos rfl, cents, Nat.zero_mul, roundDiv_zero]
  cases s <;> rfl

/-! ## Whole cents -/

/-- The ratio that an amount is rounded from. -/
theorem ratio_eq (c : Nat) (e : Int) :
    ((c * pow10 e.toNat : Nat) : ℚ) / (pow10 (-e).toNat : Nat) = c * 10 ^ e := by
  rw [Nat.cast_mul, Decimal.cast_pow10, Decimal.cast_pow10, mul_div_assoc,
    ← zpow_sub₀ (by norm_num : (10 : ℚ) ≠ 0)]
  congr 2
  omega

theorem pow2_mul_le_one {k : Nat} (h : k ≤ 1067) : pow2 k * 128 ≤ one := by
  have hle : pow2 (k + 7) ≤ pow2 1074 := pow2_le_pow2 (by omega)
  rw [pow2_add, show pow2 7 = 128 from rfl] at hle
  exact hle

/-- A number of units `r` that is near to `k` cents is nearer to them than half a cent, when the unit
    `p` of its last place is small against the units `o` in one. -/
theorem cents_error {r k o p : ℚ} (ho : 0 < o) (hp : p * 128 ≤ o) (h : |r - k / 100 * o| ≤ p / 2) :
    |k - r * 100 / o| < 1 / 2 := by
  have hscale : k - r * 100 / o = -(r - k / 100 * o) * (100 / o) := by
    field_simp
    ring
  rw [hscale, abs_mul, abs_neg, abs_of_pos (div_pos (by norm_num) ho)]
  calc |r - k / 100 * o| * (100 / o) ≤ o / 256 * (100 / o) :=
        mul_le_mul_of_nonneg_right (h.trans (by linarith)) (by positivity)
    _ = 100 / 256 := by field_simp
    _ < 1 / 2 := by norm_num

/-- A ratio of whole cents below `2 ^ 46` is a double that is nearest to these cents. -/
theorem ofRatio_exact {k : Nat} (hd : 0 < d) (hk : (n : ℚ) / d = k / 100)
    (hlt : (n : ℚ) / d < 2 ^ 46) :
    (ofRatio false n d).isFinite ∧ (ofRatio false n d).cents = k := by
  have hd' : (0 : ℚ) < d := Nat.cast_pos.mpr hd
  have hn : n < pow2 46 * d := by
    rw [div_lt_iff₀ hd'] at hlt
    exact_mod_cast hlt
  -- below `2 ^ 46` the last place of a double is at most `2 ^ -7`, well below half a cent
  have hsurplus : surplusBits (n * one / d) ≤ 1067 := by
    refine surplusBits_le ?_
    have hbits : significantBits + 1067 = 46 + 1074 := rfl
    rw [Nat.div_lt_iff_lt_mul hd, hbits, pow2_add, Nat.mul_right_comm]
    exact Nat.mul_lt_mul_of_pos_right hn one_pos
  have hfinite : roundUnits (n * one) d < infiniteUnits := by
    have hbits : significantBits = 53 := rfl
    unfold infiniteUnits
    exact (roundUnits_le (n * one) d).trans_lt (pow2_lt_pow2 (by omega))
  have hunit : (pow2 (surplusBits (n * one / d)) : ℚ) * 128 ≤ one := by
    have hle := Nat.cast_le (α := ℚ).mpr (pow2_mul_le_one hsurplus)
    rwa [Nat.cast_mul] at hle
  have herror := roundUnits_error (n * one) hd
  rw [Nat.cast_mul, mul_div_right_comm, hk] at herror
  rw [ofRatio, ofUnits, if_pos hfinite]
  refine ⟨rfl, ?_⟩
  rw [cents]
  refine congrArg Nat.cast (Decimal.roundDiv_eq .toEven one_pos ?_)
  rw [Nat.cast_mul]
  exact cents_error (Nat.cast_pos.mpr one_pos) hunit herror

/-- Whole cents take neither shortcut for extreme magnitudes. -/
theorem ofDecimal_eq_ofRatio {c : Nat} {e : Int} (hc : 0 < c)
    (h : Decimal.IsCents (Decimal.finite false c e).value) :
    ofDecimal (.finite false c e) = ofRatio false (c * pow10 e.toNat) (pow10 (-e).toNat) := by
  have hlow := h.whole.lead_gt hc
  have hhigh := h.lead_lt hc
  unfold ofDecimal
  dsimp only
  rw [if_neg hc.ne', if_neg (by simp only [decimalReach]; omega),
    if_neg (by simp only [decimalReach]; omega)]

/-- Whole cents below `2 ^ 46` are read back unchanged. -/
theorem cents_exact {a : Decimal} (ha : a.isFinite) (whole : WholeCents a.value)
    (nonneg : 0 ≤ a.value) (hlt : a.value < 2 ^ 46) :
    (ofDecimal a).isFinite ∧ ((ofDecimal a).cents : ℚ) / 100 = a.value := by
  obtain ⟨s, c, e, rfl⟩ := Decimal.isFinite_iff.mp ha
  rcases Nat.eq_zero_or_pos c with rfl | hc
  · have hzero : (Decimal.finite s 0 e).value = 0 := by simp [Decimal.value_finite]
    obtain ⟨hx, hcents⟩ := ofDecimal_of_zero ha hzero
    exact ⟨hx, by simp [hcents, hzero]⟩
  · obtain rfl := Decimal.sign_of_nonneg hc nonneg
    obtain ⟨k, hk⟩ := whole.magnitude
    have hvalue : (Decimal.finite false c e).value = c * 10 ^ e := Decimal.value_finite false c e
    have hcents : Decimal.IsCents (Decimal.finite false c e).value := by
      refine ⟨whole, ?_⟩
      rw [abs_of_nonneg nonneg]
      exact hlt.trans (by norm_num)
    rw [ofDecimal_eq_ofRatio hc hcents]
    rw [hvalue, ← ratio_eq] at hlt ⊢
    rw [← ratio_eq] at hk
    obtain ⟨hx, hcents⟩ := ofRatio_exact (pow10_pos _) (k := k) (by rw [hk]; norm_num; ring) hlt
    rw [hcents, hk]
    exact ⟨hx, by norm_num; ring⟩

end Binary64

namespace Cell

variable {a : Decimal} {cell : Cell}

/-- A cell is read as the double that was written, up to the sign of a zero. -/
theorem toBinary64_ofBinary64 {x : Binary64} (h : x.IsRounded) :
    (ofBinary64 x).toBinary64 = x ∨ (ofBinary64 x).toBinary64 = x.plainZero := by
  unfold ofBinary64
  split
  · next n hn =>
      split
      · cases x with
        | finite s u => exact .inr (Binary64.ofInt_toInt? h hn)
        | infinity s => cases hn
        | nan => cases hn
      · exact .inl rfl
  · exact .inl rfl

theorem ofBinary64_of_ofDecimal? (h : ofDecimal? a = some cell) :
    ofBinary64 (Binary64.ofDecimal a) = cell := by
  unfold ofDecimal? at h
  split at h
  · cases h
  · exact Option.some.inj h

theorem toBinary64_ofDecimal? (h : ofDecimal? a = some cell) :
    cell.toBinary64 = Binary64.ofDecimal a ∨
      cell.toBinary64 = (Binary64.ofDecimal a).plainZero := by
  rw [← ofBinary64_of_ofDecimal? h]
  exact toBinary64_ofBinary64 (Binary64.isRounded_ofDecimal a)

/-- An amount is read back in whole cents, as the double that it was written as. -/
theorem toDecimal_ofDecimal? (h : ofDecimal? a = some cell) :
    cell.toDecimal.isFinite = (Binary64.ofDecimal a).isFinite ∧
      cell.toDecimal.value = (Binary64.ofDecimal a).cents / 100 := by
  rw [toDecimal, Binary64.isFinite_toDecimal, Binary64.value_toDecimal]
  rcases toBinary64_ofDecimal? h with h | h
  · rw [h]
    exact ⟨rfl, rfl⟩
  · rw [h, Binary64.isFinite_plainZero, Binary64.cents_plainZero]
    exact ⟨rfl, rfl⟩

/-- An amount that is not negative is not read back as a negative one. -/
theorem lt_zero_toDecimal (h : ofDecimal? a = some cell) (ha : a.isFinite) (h0 : 0 ≤ a.value) :
    cell.toDecimal.lt .zero = .ok false := by
  rcases Binary64.ofDecimal_of_nonneg ha h0 with hx | ⟨s, u, hx, -⟩
  · -- an infinity has no value to compare
    have hcell := toBinary64_ofDecimal? h
    rw [hx] at hcell
    rw [toDecimal, hcell.elim id id]
    rfl
  · obtain ⟨hfinite, hvalue⟩ := toDecimal_ofDecimal? h
    rw [hx] at hfinite
    have hcents : (0 : ℚ) ≤ (Binary64.ofDecimal a).cents := by
      exact_mod_cast Binary64.cents_nonneg ha h0
    rw [Decimal.lt_finite hfinite rfl, hvalue, Decimal.value_zero,
      decide_eq_false (not_lt.mpr (by positivity))]

/-- A zero is read back as a zero. -/
theorem zero_lt_toDecimal (h : ofDecimal? a = some cell) (ha : a.isFinite) (h0 : a.value = 0) :
    Decimal.zero.lt cell.toDecimal = .ok false := by
  obtain ⟨hfinite, hvalue⟩ := toDecimal_ofDecimal? h
  obtain ⟨hx, hcents⟩ := Binary64.ofDecimal_of_zero ha h0
  rw [Decimal.lt_finite rfl (hfinite.trans hx), hvalue, hcents]
  simp

end Cell

end Bookkeeping

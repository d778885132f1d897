import Bookkeeping.Decimal.Arithmetic
import Bookkeeping.Proofs.Rounding
import Mathlib.Tactic.Ring
import Mathlib.Tactic.NormNum

set_option autoImplicit false

/-! # The value of an amount

What amounts stand for, as rational numbers. Comparisons of finite amounts are those of their values
(`compare?_finite`), and sums of whole cents are exact as long as 28 digits hold them (`add_exact`). -/

namespace Bookkeeping.Decimal

/-- The value of a finite amount. Other amounts have the value zero. -/
def value : Decimal → ℚ
  | .finite s c e => signed s c * 10 ^ e
  | _ => 0

variable {x y : Decimal} {s t : Bool} {c c₁ c₂ : Nat} {e e₁ e₂ : Int}

/-! ## Powers of ten -/

theorem ten_zpow_pos (e : Int) : (0 : ℚ) < 10 ^ e := zpow_pos (by norm_num) e

theorem cast_pow10 (k : Nat) : ((pow10 k : Nat) : ℚ) = 10 ^ (k : Int) := by
  rw [zpow_natCast]
  exact_mod_cast rfl

theorem ten_zpow_add (e₁ e₂ : Int) : (10 : ℚ) ^ (e₁ + e₂) = 10 ^ e₁ * 10 ^ e₂ :=
  zpow_add₀ (by norm_num) e₁ e₂

theorem ten_zpow_le (h : e₁ ≤ e₂) : (10 : ℚ) ^ e₁ ≤ 10 ^ e₂ := zpow_le_zpow_right₀ (by norm_num) h

/-- A magnitude at the smaller of two exponents. -/
theorem magnitude_aligned (c : Nat) (e₁ e₂ : Int) :
    (c : ℚ) * 10 ^ e₁ = (c * pow10 (e₁ - e₂).toNat : Nat) * 10 ^ min e₁ e₂ := by
  rw [Nat.cast_mul, cast_pow10, mul_assoc, ← ten_zpow_add]
  congr 2
  omega

/-- The place of the leading digit bounds a magnitude. -/
theorem magnitude_bounds (hc : 0 < c) (e : Int) :
    (10 : ℚ) ^ (e + digitCount c - 1) ≤ c * 10 ^ e ∧ (c : ℚ) * 10 ^ e < 10 ^ (e + digitCount c) := by
  obtain ⟨hpos, hlow, hhigh⟩ := digitCount_bounds hc
  have hlow' : ((pow10 (digitCount c - 1) : Nat) : ℚ) ≤ c := by exact_mod_cast hlow
  have hhigh' : (c : ℚ) < (pow10 (digitCount c) : Nat) := by exact_mod_cast hhigh
  rw [cast_pow10] at hlow' hhigh'
  constructor
  · calc (10 : ℚ) ^ (e + digitCount c - 1) = 10 ^ ((digitCount c - 1 : Nat) : Int) * 10 ^ e := by
          rw [← ten_zpow_add]
          congr 1
          omega
      _ ≤ c * 10 ^ e := mul_le_mul_of_nonneg_right hlow' (ten_zpow_pos e).le
  · calc (c : ℚ) * 10 ^ e < 10 ^ (digitCount c : Int) * 10 ^ e :=
          mul_lt_mul_of_pos_right hhigh' (ten_zpow_pos e)
      _ = 10 ^ (e + digitCount c) := by rw [← ten_zpow_add, add_comm]

/-! ## Comparison -/

theorem compare_mul_pos {a b : Nat} {k : ℚ} (hk : 0 < k) :
    compare ((a : ℚ) * k) (b * k) = compare a b := by
  rcases lt_trichotomy a b with h | rfl | h
  · rw [compare_lt_iff_lt.mpr h, compare_lt_iff_lt]
    exact mul_lt_mul_of_pos_right (by exact_mod_cast h) hk
  · rw [compare_eq_iff_eq.mpr rfl, compare_eq_iff_eq.mpr rfl]
  · rw [compare_gt_iff_gt.mpr h, compare_gt_iff_gt]
    exact mul_lt_mul_of_pos_right (by exact_mod_cast h) hk

theorem compare_neg_neg (a b : ℚ) : compare (-a) (-b) = compare b a := by
  rcases lt_trichotomy a b with h | rfl | h
  · rw [compare_gt_iff_gt.mpr h, compare_gt_iff_gt.mpr (neg_lt_neg h)]
  · rw [compare_eq_iff_eq.mpr rfl, compare_eq_iff_eq.mpr rfl]
  · rw [compare_lt_iff_lt.mpr h, compare_lt_iff_lt.mpr (neg_lt_neg h)]

theorem compareMagnitude_eq (h₁ : 0 < c₁) (h₂ : 0 < c₂) :
    compareMagnitude c₁ e₁ c₂ e₂ = compare ((c₁ : ℚ) * 10 ^ e₁) (c₂ * 10 ^ e₂) := by
  obtain ⟨hlow₁, hhigh₁⟩ := magnitude_bounds h₁ e₁
  obtain ⟨hlow₂, hhigh₂⟩ := magnitude_bounds h₂ e₂
  unfold compareMagnitude
  dsimp only
  -- leading digits at different places decide; else both are brought to one exponent
  split
  · next hlt =>
      have hle : (10 : ℚ) ^ (e₁ + digitCount c₁) ≤ 10 ^ (e₂ + digitCount c₂ - 1) :=
        ten_zpow_le (by omega)
      exact (compare_lt_iff_lt.mpr (by linarith)).symm
  · split
    · next hlt =>
        have hle : (10 : ℚ) ^ (e₂ + digitCount c₂) ≤ 10 ^ (e₁ + digitCount c₁ - 1) :=
          ten_zpow_le (by omega)
        exact (compare_gt_iff_gt.mpr (by linarith)).symm
    · rw [magnitude_aligned c₁ e₁ e₂, magnitude_aligned c₂ e₂ e₁, min_comm e₂ e₁,
        compare_mul_pos (ten_zpow_pos _)]

theorem value_finite (s : Bool) (c : Nat) (e : Int) :
    (finite s c e).value = if s then -((c : ℚ) * 10 ^ e) else c * 10 ^ e := by
  cases s <;> simp [value, signed]

@[simp] theorem value_zero : zero.value = 0 := by simp [zero, value_finite]

@[simp] theorem value_cent : cent.value = 1 / 100 := by norm_num [cent, value_finite]

theorem magnitude_pos (hc : 0 < c) (e : Int) : (0 : ℚ) < c * 10 ^ e :=
  mul_pos (by exact_mod_cast hc) (ten_zpow_pos e)

theorem sign_of_nonneg (hc : 0 < c) (h : 0 ≤ (finite s c e).value) : s = false := by
  cases s
  · rfl
  · have hpos := magnitude_pos hc e
    rw [value_finite, if_pos rfl] at h
    linarith

/-- The sign that comparisons look at first is the sign of the value. -/
theorem signOf_cases (s : Bool) (c : Nat) (e : Int) :
    (signOf s c = 0 ∧ (finite s c e).value = 0) ∨
      (signOf s c = 1 ∧ 0 < c ∧ (finite s c e).value = c * 10 ^ e ∧ 0 < (finite s c e).value) ∨
      (signOf s c = -1 ∧ 0 < c ∧ (finite s c e).value = -(c * 10 ^ e) ∧
        (finite s c e).value < 0) := by
  unfold signOf
  rw [value_finite]
  rcases Nat.eq_zero_or_pos c with rfl | hc
  · exact .inl ⟨rfl, by simp⟩
  · have hpos := magnitude_pos hc e
    rw [if_neg hc.ne']
    cases s
    · exact .inr (.inl ⟨rfl, hc, rfl, hpos⟩)
    · exact .inr (.inr ⟨rfl, hc, rfl, neg_lt_zero.mpr hpos⟩)

/-- Finite amounts compare as their values do. -/
theorem compare?_finite :
    compare? (finite s c₁ e₁) (finite t c₂ e₂) =
      some (compare (finite s c₁ e₁).value (finite t c₂ e₂).value) := by
  unfold compare?
  dsimp only
  congr 1
  -- signs that differ decide; magnitudes are compared only under one sign
  rcases signOf_cases s c₁ e₁ with ⟨h₁, v₁⟩ | ⟨h₁, hc₁, v₁, hpos⟩ | ⟨h₁, hc₁, v₁, hneg⟩
  · rcases signOf_cases t c₂ e₂ with ⟨h₂, v₂⟩ | ⟨h₂, hc₂, -, hpos'⟩ | ⟨h₂, hc₂, -, hneg'⟩
    · rw [h₁, h₂, v₁, v₂]
      exact (compare_eq_iff_eq.mpr rfl).symm
    · rw [h₁, h₂]
      exact (compare_lt_iff_lt.mpr (by linarith)).symm
    · rw [h₁, h₂]
      exact (compare_gt_iff_gt.mpr (by linarith)).symm
  · rcases signOf_cases t c₂ e₂ with ⟨h₂, v₂⟩ | ⟨h₂, hc₂, v₂, hpos'⟩ | ⟨h₂, hc₂, -, hneg'⟩
    · rw [h₁, h₂]
      exact (compare_gt_iff_gt.mpr (by linarith)).symm
    · rw [h₁, h₂, v₁, v₂]
      exact compareMagnitude_eq hc₁ hc₂
    · rw [h₁, h₂]
      exact (compare_gt_iff_gt.mpr (by linarith)).symm
  · rcases signOf_cases t c₂ e₂ with ⟨h₂, v₂⟩ | ⟨h₂, hc₂, -, hpos'⟩ | ⟨h₂, hc₂, v₂, hneg'⟩
    · rw [h₁, h₂]
      exact (compare_lt_iff_lt.mpr (by linarith)).symm
    · rw [h₁, h₂]
      exact (compare_lt_iff_lt.mpr (by linarith)).symm
    · rw [h₁, h₂, v₁, v₂]
      exact (compareMagnitude_eq hc₂ hc₁).trans (compare_neg_neg _ _).symm

theorem isFinite_iff : x.isFinite ↔ ∃ s c e, x = finite s c e := by
  cases x <;> simp [isFinite]

theorem order_finite (hx : x.isFinite) (hy : y.isFinite) :
    order x y = .ok (compare x.value y.value) := by
  obtain ⟨s, c₁, e₁, rfl⟩ := isFinite_iff.mp hx
  obtain ⟨t, c₂, e₂, rfl⟩ := isFinite_iff.mp hy
  rw [order, compare?_finite]

theorem lt_finite (hx : x.isFinite) (hy : y.isFinite) :
    x.lt y = .ok (decide (x.value < y.value)) := by
  rw [lt, order_finite hx hy]
  refine congrArg Except.ok ?_
  rw [Bool.eq_iff_iff, beq_iff_eq, compare_lt_iff_lt, decide_eq_true_iff]

theorem le_finite (hx : x.isFinite) (hy : y.isFinite) :
    x.le y = .ok (decide (x.value ≤ y.value)) := by
  rw [le, order_finite hx hy]
  refine congrArg Except.ok ?_
  rw [Bool.eq_iff_iff, bne_iff_ne, ne_eq, compare_gt_iff_gt, decide_eq_true_iff, not_lt]

theorem isZero_finite (hx : x.isFinite) : x.isZero = .ok (decide (x.value = 0)) := by
  obtain ⟨s, c, e, rfl⟩ := isFinite_iff.mp hx
  have hcompare : compare? (finite s c e) zero = some (compare (finite s c e).value 0) := by
    rw [← value_zero]
    exact compare?_finite
  rw [isZero, eq, hcompare]
  refine congrArg Except.ok ?_
  rw [Bool.eq_iff_iff, beq_iff_eq, Option.some.injEq, compare_eq_iff_eq, decide_eq_true_iff]

/-! ## Fitting whole cents -/

/-- A whole number of cents. -/
def WholeCents (q : ℚ) : Prop := ∃ m : Int, q = m / 100

theorem WholeCents.zero : WholeCents 0 := ⟨0, by norm_num⟩

theorem WholeCents.neg {q : ℚ} (h : WholeCents q) : WholeCents (-q) := by
  obtain ⟨m, rfl⟩ := h
  exact ⟨-m, by push_cast; ring⟩

theorem WholeCents.add {q r : ℚ} (hq : WholeCents q) (hr : WholeCents r) : WholeCents (q + r) := by
  obtain ⟨m, rfl⟩ := hq
  obtain ⟨n, rfl⟩ := hr
  exact ⟨m + n, by push_cast; ring⟩

theorem WholeCents.sub {q r : ℚ} (hq : WholeCents q) (hr : WholeCents r) : WholeCents (q - r) := by
  rw [sub_eq_add_neg]
  exact hq.add hr.neg

/-- Whole cents that 28 digits can hold. -/
structure IsCents (q : ℚ) : Prop where
  whole : WholeCents q
  lt : |q| < 10 ^ 26

theorem IsCents.neg {q : ℚ} (h : IsCents q) : IsCents (-q) := ⟨h.whole.neg, by rw [abs_neg]; exact h.lt⟩

theorem abs_value (s : Bool) (c : Nat) (e : Int) : |(finite s c e).value| = c * 10 ^ e := by
  have hpos : (0 : ℚ) ≤ c * 10 ^ e := mul_nonneg (Nat.cast_nonneg c) (ten_zpow_pos e).le
  rw [value_finite]
  split
  · rw [abs_neg, abs_of_nonneg hpos]
  · exact abs_of_nonneg hpos

/-- The magnitude of whole cents. -/
theorem WholeCents.magnitude (h : WholeCents (finite s c e).value) :
    ∃ k : Nat, (c : ℚ) * 10 ^ e = k * 10 ^ (-2 : Int) := by
  obtain ⟨m, hm⟩ := h
  refine ⟨m.natAbs, ?_⟩
  have hcent : (10 : ℚ) ^ (-2 : Int) = 1 / 100 := by norm_num
  rw [← abs_value s, hm, abs_div, Nat.cast_natAbs, Int.cast_abs, hcent,
    abs_of_pos (by norm_num : (0 : ℚ) < 100)]
  ring

/-- Whole cents stay below `10 ^ 26`. -/
theorem IsCents.lead_lt (h : IsCents (finite s c e).value) (hc : 0 < c) : e + digitCount c ≤ 26 := by
  have hlead := (magnitude_bounds hc e).1.trans_lt (abs_value s c e ▸ h.lt)
  rw [← zpow_natCast] at hlead
  have := (zpow_lt_zpow_iff_right₀ (by norm_num : (1 : ℚ) < 10)).mp hlead
  omega

/-- Whole cents have zeros below the second place. -/
theorem WholeCents.eq_mul_pow10 (h : WholeCents (finite s c e).value) {low : Int} (hlow : low ≤ -2)
    (he : e < low) : ∃ m : Nat, c = m * pow10 (low - e).toNat := by
  obtain ⟨k, hk⟩ := h.magnitude
  refine ⟨k * pow10 (-2 - low).toNat, ?_⟩
  have hcast : (c : ℚ) = k * 10 ^ (-2 - low) * 10 ^ (low - e) := by
    rw [mul_assoc, ← ten_zpow_add, ← mul_right_cancel_iff_of_pos (ten_zpow_pos e), hk, mul_assoc,
      ← ten_zpow_add]
    congr 2
    omega
  have hexp (i : Int) (hi : 0 ≤ i) : (10 : ℚ) ^ i = (pow10 i.toNat : Nat) := by
    rw [cast_pow10, Int.toNat_of_nonneg hi]
  rw [hexp _ (by omega), hexp _ (by omega)] at hcast
  exact_mod_cast hcast

/-- A result of whole cents is fitted without loss. -/
theorem fit_exact (h : IsCents (finite s c e).value) :
    ∃ r, fit s c e = .ok r ∧ r.isFinite ∧ r.value = (finite s c e).value := by
  unfold fit
  split
  · next hc =>
      subst hc
      exact ⟨_, rfl, rfl, by simp [value_finite]⟩
  · next hc =>
      have hc := Nat.pos_of_ne_zero hc
      have hlead := h.lead_lt hc
      dsimp only
      rw [if_neg (by simp only [maxExponent]; omega)]
      split
      · exact ⟨_, rfl, rfl, rfl⟩
      · next hlow =>
          generalize hl : max (e + digitCount c - 1 + 1 - (precision : Int)) minExponent = low at hlow ⊢
          simp only [precision, minExponent] at hl
          -- only zeros are dropped, so nothing is rounded, and the digits that stay are few enough
          have hlt : e < low := by omega
          obtain ⟨m, rfl⟩ := h.whole.eq_mul_pow10 (by omega) hlt
          have hvalue : ((m * pow10 (low - e).toNat : Nat) : ℚ) * 10 ^ e = m * 10 ^ low := by
            rw [magnitude_aligned m low e, min_eq_right hlt.le]
          have hm : 0 < m := Nat.pos_of_mul_pos_right hc
          have hdigits : digitCount m ≤ precision := by
            refine digitCount_le hm ?_
            have hhigh := (magnitude_bounds hc e).2
            have hle : (10 : ℚ) ^ (e + digitCount (m * pow10 (low - e).toNat)) ≤
                10 ^ (28 : Int) * 10 ^ low := by
              rw [← ten_zpow_add]
              exact ten_zpow_le (by omega)
            rw [hvalue] at hhigh
            have hlt := lt_of_mul_lt_mul_right (hhigh.trans_le hle) (ten_zpow_pos low).le
            exact_mod_cast hlt.trans_eq (cast_pow10 28).symm
          rw [dropDigits_mul_pow10, if_pos hdigits]
          refine ⟨_, rfl, rfl, ?_⟩
          rw [value_finite, value_finite, hvalue]

/-! ## Sums of whole cents -/

theorem natAbs_signed (s : Bool) (c : Nat) : (signed s c).natAbs = c := by
  cases s <;> simp [signed]

theorem signed_neg_iff : signed s c < 0 ↔ s ∧ c ≠ 0 := by
  cases s
  · simp [signed]
  · simp only [signed, if_true, true_and]
    omega

theorem signed_natAbs (v : Int) (b : Bool) :
    signed (if v = 0 then b else decide (v < 0)) v.natAbs = v := by
  rcases eq_or_ne v 0 with rfl | hv
  · cases b <;> rfl
  · rw [if_neg hv, signed]
    split
    · next h =>
        have := of_decide_eq_true h
        omega
    · next h =>
        have : ¬ v < 0 := fun hlt => h (decide_eq_true hlt)
        omega

theorem value_natAbs (v : Int) (e : Int) (b : Bool) :
    (finite (if v = 0 then b else decide (v < 0)) v.natAbs e).value = v * 10 ^ e := by
  rw [value, signed_natAbs]

theorem fitSum_exact {v : Int} {b : Bool} (h : IsCents (v * 10 ^ e)) :
    ∃ r, fitSum b v e = .ok r ∧ r.isFinite ∧ r.value = v * 10 ^ e := by
  rw [← value_natAbs v e b] at h ⊢
  exact fit_exact h

/-- Whole cents that are not zero reach the second place. -/
theorem WholeCents.lead_gt (h : WholeCents (finite s c e).value) (hc : 0 < c) : -2 < e + digitCount c := by
  obtain ⟨k, hk⟩ := h.magnitude
  have hhigh := (magnitude_bounds hc e).2
  have hpos := magnitude_pos hc e
  have hone : (1 : ℚ) ≤ k := by
    rw [hk] at hpos
    exact_mod_cast Nat.pos_of_ne_zero (by rintro rfl; simp at hpos)
  have hcent : (10 : ℚ) ^ (-2 : Int) < 10 ^ (e + digitCount c) :=
    calc (10 : ℚ) ^ (-2 : Int) ≤ k * 10 ^ (-2 : Int) :=
          le_mul_of_one_le_left (ten_zpow_pos _).le hone
      _ < 10 ^ (e + digitCount c) := hk ▸ hhigh
  exact (zpow_lt_zpow_iff_right₀ (by norm_num : (1 : ℚ) < 10)).mp hcent

theorem addAligned_exact (he : e₂ ≤ e₁) (h₁ : IsCents (finite s c₁ e₁).value)
    (h₂ : IsCents (finite t c₂ e₂).value)
    (h : IsCents ((finite s c₁ e₁).value + (finite t c₂ e₂).value)) :
    ∃ r, addAligned s c₁ e₁ t c₂ e₂ = .ok r ∧ r.isFinite ∧
      r.value = (finite s c₁ e₁).value + (finite t c₂ e₂).value := by
  have exact_of {v : Int} {d : Int}
      (hv : (v : ℚ) * 10 ^ d = (finite s c₁ e₁).value + (finite t c₂ e₂).value) :
      ∃ r, fitSum (s && t) v d = .ok r ∧ r.isFinite ∧
        r.value = (finite s c₁ e₁).value + (finite t c₂ e₂).value := by
    rw [← hv] at h ⊢
    exact fitSum_exact h
  unfold addAligned
  dsimp only
  split
  · next hc =>
      refine exact_of ?_
      simp [value, hc, signed]
  · next hc =>
      have hc := Nat.pos_of_ne_zero hc
      split
      · next hgap =>
          rcases Nat.eq_zero_or_pos c₂ with rfl | hc₂
          · refine exact_of ?_
            have hsmall : signed t (min 0 1) = 0 := by cases t <;> rfl
            have hzero : (finite t 0 e₂).value = 0 := by simp [value_finite]
            rw [hsmall, hzero, add_zero, add_zero, value, Int.cast_mul, Int.cast_natCast, cast_pow10,
              mul_assoc, ← ten_zpow_add]
            congr 2
            omega
          · -- the second term would lie below the second place
            have hlead₁ := h₁.lead_lt hc
            have hlead₂ := h₂.whole.lead_gt hc₂
            have hdigits := (digitCount_bounds hc).1
            simp only [guardDigits, precision] at hgap
            omega
      · refine exact_of ?_
        rw [value, value, Int.cast_add, Int.cast_mul, Int.cast_natCast, cast_pow10, add_mul,
          mul_assoc, ← ten_zpow_add]
        congr 3
        omega

/-- A sum of whole cents is exact. -/
theorem add_exact (hx : x.isFinite) (hy : y.isFinite) (hcx : IsCents x.value)
    (hcy : IsCents y.value) (h : IsCents (x.value + y.value)) :
    ∃ r, x.add y = .ok r ∧ r.isFinite ∧ r.value = x.value + y.value := by
  obtain ⟨s, c₁, e₁, rfl⟩ := isFinite_iff.mp hx
  obtain ⟨t, c₂, e₂, rfl⟩ := isFinite_iff.mp hy
  unfold add nanOfTwo?
  dsimp only
  split
  · next he => exact addAligned_exact he hcx hcy h
  · next he =>
      rw [add_comm] at h ⊢
      exact addAligned_exact (not_le.mp he).le hcy hcx h

theorem isFinite_flipSign : x.flipSign.isFinite = x.isFinite := by cases x <;> rfl

theorem value_flipSign (x : Decimal) : x.flipSign.value = -x.value := by
  cases x with
  | finite s c e => cases s <;> simp [flipSign, value, signed]
  | infinity s => simp [flipSign, value]
  | nan s g p => simp [flipSign, value]

/-- A difference of whole cents is exact. -/
theorem sub_exact (hx : x.isFinite) (hy : y.isFinite) (hcx : IsCents x.value)
    (hcy : IsCents y.value) (h : IsCents (x.value - y.value)) :
    ∃ r, x.sub y = .ok r ∧ r.isFinite ∧ r.value = x.value - y.value := by
  have hnan : nanOfTwo? x y = none := by
    obtain ⟨s, c₁, e₁, rfl⟩ := isFinite_iff.mp hx
    obtain ⟨t, c₂, e₂, rfl⟩ := isFinite_iff.mp hy
    rfl
  have hflip := value_flipSign y
  rw [sub, hnan]
  rw [sub_eq_add_neg, ← hflip] at h ⊢
  exact add_exact hx (isFinite_flipSign.trans hy) hcx (hflip ▸ hcy.neg) h

theorem abs_exact (hx : x.isFinite) (h : IsCents x.value) :
    ∃ r, x.abs = .ok r ∧ r.isFinite ∧ r.value = |x.value| := by
  obtain ⟨s, c, e, rfl⟩ := isFinite_iff.mp hx
  have hvalue : (finite false c e).value = |(finite s c e).value| := by
    rw [abs_value, value_finite]
    rfl
  rw [← hvalue]
  refine fit_exact (s := false) ?_
  cases s
  · exact h
  · have hneg := h.neg
    rwa [value_finite, if_pos rfl, neg_neg] at hneg

/-- Adding up whole cents that are not negative is exact. -/
theorem foldlM_add_exact {xs : List Decimal} (finite : ∀ x ∈ xs, x.isFinite)
    (whole : ∀ x ∈ xs, WholeCents x.value) (nonneg : ∀ x ∈ xs, 0 ≤ x.value) {a : Decimal}
    (ha : a.isFinite) (hwhole : WholeCents a.value) (hnonneg : 0 ≤ a.value)
    (hlt : a.value + (xs.map value).sum < 10 ^ 26) :
    ∃ r, xs.foldlM add a = .ok r ∧ r.isFinite ∧ WholeCents r.value ∧ 0 ≤ r.value ∧
      r.value = a.value + (xs.map value).sum := by
  induction xs generalizing a with
  | nil => exact ⟨a, rfl, ha, hwhole, hnonneg, by simp⟩
  | cons x xs ih =>
      have hx := nonneg x (by simp)
      have hxs : 0 ≤ (xs.map value).sum := List.sum_nonneg fun q hq => by
        obtain ⟨y, hy, rfl⟩ := List.mem_map.mp hq
        exact nonneg y (by simp [hy])
      rw [List.map_cons, List.sum_cons, ← add_assoc] at hlt ⊢
      -- no partial sum exceeds the bound, because nothing is negative
      have isCents {q : ℚ} (hq : WholeCents q) (h0 : 0 ≤ q)
          (hle : q ≤ a.value + x.value + (xs.map value).sum) : IsCents q :=
        ⟨hq, by rw [abs_of_nonneg h0]; exact hle.trans_lt hlt⟩
      have hwx := whole x (by simp)
      obtain ⟨b, hb, hbf, hbv⟩ := add_exact ha (finite x (by simp))
        (isCents hwhole hnonneg (by linarith)) (isCents hwx hx (by linarith))
        (isCents (hwhole.add hwx) (add_nonneg hnonneg hx) (by linarith))
      obtain ⟨r, hr, hrf, hrw, hr0, hrv⟩ := ih (fun y hy => finite y (by simp [hy]))
        (fun y hy => whole y (by simp [hy])) (fun y hy => nonneg y (by simp [hy])) hbf
        (hbv ▸ hwhole.add hwx) (hbv ▸ add_nonneg hnonneg hx) (hbv ▸ hlt)
      refine ⟨r, ?_, hrf, hrw, hr0, hbv ▸ hrv⟩
      rw [List.foldlM_cons, hb]
      exact hr

/-- The sum of non-negative whole cents is exact as long as 28 digits can hold it. -/
theorem sum_exact {α : Type} {xs : List α} {f : α → Decimal} (finite : ∀ x ∈ xs, (f x).isFinite)
    (whole : ∀ x ∈ xs, WholeCents (f x).value) (nonneg : ∀ x ∈ xs, 0 ≤ (f x).value)
    (hlt : (xs.map fun x => (f x).value).sum < 10 ^ 26) :
    ∃ r, sum (xs.map f) = .ok r ∧ r.isFinite ∧ WholeCents r.value ∧ 0 ≤ r.value ∧
      r.value = (xs.map fun x => (f x).value).sum := by
  have hmap : (xs.map f).map value = xs.map fun x => (f x).value := List.map_map
  have hfinite : ∀ x ∈ xs.map f, x.isFinite := by simpa using finite
  have hlt' : zero.value + ((xs.map f).map value).sum < 10 ^ 26 := by
    rw [value_zero, zero_add, hmap]
    exact hlt
  obtain ⟨r, hr, hfinite, hwhole, hnonneg, hvalue⟩ := foldlM_add_exact hfinite
    (by simpa using whole) (by simpa using nonneg) rfl (value_zero ▸ .zero) value_zero.ge hlt'
  rw [value_zero, zero_add, hmap] at hvalue
  exact ⟨r, hr, hfinite, hwhole, hnonneg, hvalue⟩

/-- The gap between two totals of whole cents is exact. -/
theorem gap_exact (hx : x.isFinite) (hy : y.isFinite) (hwx : WholeCents x.value)
    (hwy : WholeCents y.value) (hnx : 0 ≤ x.value) (hny : 0 ≤ y.value)
    (hltx : x.value < 10 ^ 26) (hlty : y.value < 10 ^ 26) :
    ∃ difference gap, x.sub y = .ok difference ∧ difference.abs = .ok gap ∧ gap.isFinite ∧
      gap.value = |x.value - y.value| := by
  have hdiff : IsCents (x.value - y.value) :=
    ⟨hwx.sub hwy, abs_sub_lt_of_nonneg_of_lt hnx hltx hny hlty⟩
  obtain ⟨d, hd, hdf, hdv⟩ := sub_exact hx hy ⟨hwx, by rwa [abs_of_nonneg hnx]⟩
    ⟨hwy, by rwa [abs_of_nonneg hny]⟩ hdiff
  obtain ⟨g, hg, hgf, hgv⟩ := abs_exact hdf (hdv ▸ hdiff)
  exact ⟨d, g, hd, hg, hgf, hdv ▸ hgv⟩

end Bookkeeping.Decimal

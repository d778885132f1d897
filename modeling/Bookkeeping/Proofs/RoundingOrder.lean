import Bookkeeping.Proofs.Precision
import Mathlib.Algebra.Order.Floor.Ring
import Mathlib.Data.Rat.Floor

set_option autoImplicit false

/-! # Rounding keeps order

Of two numbers the smaller one is never rounded to the larger result. What an operation makes of its
exact result is told by a relation between the two numbers (`RoundsTo`), in which neither the operation
nor the way in which the operands are written plays a part: halves go to even in the last place that the
leading digit leaves. Products round so, and sums of results do (`mul_roundsTo`, `add_roundsTo`).
Rounding to cents takes the nearest whole number of cents, a half one upwards (`roundMoney_cases`). -/

namespace Bookkeeping.Decimal

variable {x y r : Decimal} {s : Bool} {c n d m k : Nat} {e lead : Int} {p q v w : ℚ}

/-! ## Half to even -/

/-- The nearest whole number, of two the even one. -/
def halfEven (q : ℚ) : ℤ :=
  if 2 * (q - ⌊q⌋) < 1 then ⌊q⌋
  else if 1 < 2 * (q - ⌊q⌋) then ⌊q⌋ + 1
  else if ⌊q⌋ % 2 = 0 then ⌊q⌋ else ⌊q⌋ + 1

theorem floor_le_halfEven (q : ℚ) : ⌊q⌋ ≤ halfEven q := by
  unfold halfEven
  split_ifs <;> omega

theorem halfEven_le_floor_succ (q : ℚ) : halfEven q ≤ ⌊q⌋ + 1 := by
  unfold halfEven
  split_ifs <;> omega

theorem halfEven_mono (h : p ≤ q) : halfEven p ≤ halfEven q := by
  rcases (Int.floor_mono h).lt_or_eq with hlt | heq
  · have := halfEven_le_floor_succ p
    have := floor_le_halfEven q
    omega
  · -- in one interval between whole numbers only the rest decides
    unfold halfEven
    rw [← heq]
    split_ifs
    all_goals first | omega | linarith

/-- A rest of less than one half is dropped. -/
theorem halfEven_add (m : ℤ) (hp : 0 ≤ p) (hlt : p < 1 / 2) : halfEven (m + p) = m := by
  have hfloor : ⌊(m : ℚ) + p⌋ = m := by
    rw [Int.floor_eq_iff]
    constructor <;> linarith
  unfold halfEven
  rw [hfloor, if_pos (by linarith)]

theorem halfEven_intCast (m : ℤ) : halfEven m = m := by
  have h := halfEven_add m (le_refl (0 : ℚ)) (by norm_num)
  rwa [add_zero] at h

/-- Rounded quotients are rounded numbers. -/
theorem halfEven_div (n : Nat) (hd : 0 < d) : halfEven (n / d) = roundDiv .toEven n d := by
  have hd' : (0 : ℚ) < d := by exact_mod_cast hd
  have hfloor : ⌊(n : ℚ) / d⌋ = (n / d : Nat) := by
    have h := Rat.floor_intCast_div_natCast (n : ℤ) d
    rw [Int.cast_natCast] at h
    exact h.trans (Int.natCast_div n d).symm
  have hrest : 2 * ((n : ℚ) / d - (n / d : Nat)) = (2 * (n % d) : Nat) / d := by
    have hsplit : ((n / d : Nat) * d + (n % d : Nat) : ℚ) = n := by exact_mod_cast Nat.div_add_mod' n d
    rw [eq_div_iff hd'.ne', mul_assoc, sub_mul, div_mul_cancel₀ _ hd'.ne']
    push_cast
    linarith
  have hbelow : 2 * ((n : ℚ) / d - (n / d : Nat)) < 1 ↔ 2 * (n % d) < d := by
    rw [hrest, div_lt_one hd']
    exact_mod_cast Iff.rfl
  have habove : 1 < 2 * ((n : ℚ) / d - (n / d : Nat)) ↔ d < 2 * (n % d) := by
    rw [hrest, one_lt_div hd']
    exact_mod_cast Iff.rfl
  unfold halfEven roundDiv
  dsimp only
  rw [hfloor, Int.cast_natCast]
  simp only [hbelow, habove]
  split_ifs <;> omega

/-- Dropping digits is rounding a quotient. -/
theorem dropDigits_eq_roundDiv (tie : Tie) (k n : Nat) : dropDigits tie k n = roundDiv tie n (pow10 k) := by
  unfold dropDigits
  split
  · next hfew =>
      have hlt : n < pow10 (k - 1) := (lt_pow10_digitCount n).trans_le (pow10_le_pow10 (by omega))
      have hten : pow10 k = 10 * pow10 (k - 1) := by
        rw [show k = 1 + (k - 1) by omega, pow10_add]
        simp [pow10]
      refine (roundDiv_eq tie (pow10_pos k) ?_).symm
      have hpos : (0 : ℚ) < pow10 k := by exact_mod_cast pow10_pos k
      rw [Nat.cast_zero, zero_sub, abs_neg, abs_of_nonneg (by positivity), div_lt_iff₀ hpos]
      have : (2 * n : ℚ) < pow10 k := by exact_mod_cast (by omega : 2 * n < pow10 k)
      linarith
  · rfl

/-! ## Rounding numbers -/

/-- The number `q` that is not negative is rounded to `r`: half to even, at the last place that its
    leading digit leaves. -/
inductive RoundsTo : ℚ → ℚ → Prop
  | zero : RoundsTo 0 0
  | digits {q : ℚ} {lead : Int} (low : 10 ^ lead ≤ q) (high : q < 10 ^ (lead + 1)) :
      RoundsTo q (halfEven (q / 10 ^ lastPlace lead) * 10 ^ lastPlace lead)

namespace RoundsTo

variable {q' v' : ℚ}

theorem pos_of_low (low : (10 : ℚ) ^ lead ≤ q) : 0 < q := (ten_zpow_pos lead).trans_le low

theorem nonneg (h : RoundsTo q v) : 0 ≤ q ∧ 0 ≤ v := by
  cases h with
  | zero => exact ⟨le_rfl, le_rfl⟩
  | @digits _ lead low high =>
      refine ⟨(pos_of_low low).le, mul_nonneg ?_ (ten_zpow_pos _).le⟩
      have hfloor := Int.floor_nonneg.mpr
        (div_nonneg (pos_of_low low).le (ten_zpow_pos (lastPlace lead)).le)
      exact_mod_cast hfloor.trans (floor_le_halfEven _)

/-- Whole units of the last place are not passed. -/
theorem halfEven_le_units {m : ℤ} {e : Int} (h : q ≤ m * 10 ^ e) : (halfEven (q / 10 ^ e) : ℚ) * 10 ^ e ≤
    m * 10 ^ e := by
  have hle := halfEven_mono ((div_le_iff₀ (ten_zpow_pos e)).mpr h)
  rw [halfEven_intCast] at hle
  exact mul_le_mul_of_nonneg_right (by exact_mod_cast hle) (ten_zpow_pos e).le

theorem units_le_halfEven {m : ℤ} {e : Int} (h : m * 10 ^ e ≤ q) :
    (m : ℚ) * 10 ^ e ≤ halfEven (q / 10 ^ e) * 10 ^ e := by
  have hle := halfEven_mono ((le_div_iff₀ (ten_zpow_pos e)).mpr h)
  rw [halfEven_intCast] at hle
  exact mul_le_mul_of_nonneg_right (by exact_mod_cast hle) (ten_zpow_pos e).le

/-- A power of ten in units of a lower place. -/
theorem zpow_units (h : e ≤ lead) : (10 : ℚ) ^ lead = ((pow10 (lead - e).toNat : Nat) : ℤ) * 10 ^ e := by
  rw [ten_zpow_lower h, Int.cast_natCast]

/-- Rounding keeps order. -/
theorem mono (h : RoundsTo q v) (h' : RoundsTo q' v') (hle : q ≤ q') : v ≤ v' := by
  cases h with
  | zero => exact h'.nonneg.2
  | @digits _ lead low high =>
      cases h' with
      | zero => exact absurd (pos_of_low low) (not_lt.mpr hle)
      | @digits _ lead' low' high' =>
          have hlead := zpow_lt_of_lt ((low.trans hle).trans_lt high')
          have hplace : lastPlace lead ≤ lastPlace lead' := by
            unfold lastPlace
            omega
          rcases hplace.lt_or_eq with hlt | heq
          · -- a power of ten lies between the two numbers, and none of them is rounded past it
            have hbetween : lead + 1 ≤ lead' ∧ lastPlace lead' ≤ lead' := by
              unfold lastPlace at hlt ⊢
              simp only [precision] at *
              omega
            have hunits := zpow_units (hplace.trans hbetween.2)
            have hunits' := zpow_units hbetween.2
            refine (halfEven_le_units (hunits ▸ high.le.trans (ten_zpow_le hbetween.1))).trans ?_
            rw [← hunits, hunits']
            exact units_le_halfEven (hunits' ▸ low')
          · rw [← heq]
            refine mul_le_mul_of_nonneg_right ?_ (ten_zpow_pos _).le
            exact_mod_cast halfEven_mono (div_le_div_of_nonneg_right hle (ten_zpow_pos _).le)

/-- A number is rounded in one way. -/
theorem unique (h : RoundsTo q v) (h' : RoundsTo q v') : v = v' :=
  le_antisymm (h.mono h' le_rfl) (h'.mono h le_rfl)

/-- Digits that fit are kept, and what comes far below them is dropped. -/
theorem tail (hc : 0 < c) (few : c < pow10 precision) (he : minExponent ≤ e) (hp : 0 ≤ p)
    (hlt : p < 10 ^ (e - precision - 1)) : RoundsTo (c * 10 ^ e + p) (c * 10 ^ e) := by
  obtain ⟨hlow, -⟩ := magnitude_bounds hc e
  obtain ⟨hdigits, -, hnext⟩ := digitCount_bounds hc
  have hcount : digitCount c ≤ precision := digitCount_le hc few
  have high : (c : ℚ) * 10 ^ e + p < 10 ^ (e + digitCount c - 1 + 1) := by
    have hnext' : ((c + 1 : Nat) : ℚ) * 10 ^ e ≤ (pow10 (digitCount c) : Nat) * 10 ^ e :=
      mul_le_mul_of_nonneg_right (by exact_mod_cast hnext) (ten_zpow_pos e).le
    rw [cast_pow10, ← ten_zpow_add, Nat.cast_add, Nat.cast_one, add_mul, one_mul] at hnext'
    have hsmall : (10 : ℚ) ^ (e - precision - 1) ≤ 10 ^ e :=
      ten_zpow_le (by simp only [precision]; omega)
    rw [sub_add_cancel, add_comm e]
    linarith
  have hplace : lastPlace (e + digitCount c - 1) ≤ e := by
    unfold lastPlace
    omega
  have h := RoundsTo.digits (hlow.trans (le_add_of_nonneg_right hp)) high
  have hunits : (c : ℚ) * 10 ^ e =
      ((c * pow10 (e - lastPlace (e + digitCount c - 1)).toNat : Nat) : ℤ) *
        10 ^ lastPlace (e + digitCount c - 1) := by
    rw [Int.cast_natCast]
    exact magnitude_lower c hplace
  have hrest : p / 10 ^ lastPlace (e + digitCount c - 1) < 1 / 2 := by
    have hplace' : (10 : ℚ) ^ (e - precision - 1) * 10 ≤ 10 ^ lastPlace (e + digitCount c - 1) := by
      have hten : (10 : ℚ) ^ (e - precision - 1) * 10 = 10 ^ (e - precision - 1 + 1) := by
        rw [ten_zpow_add, zpow_one]
      rw [hten]
      refine ten_zpow_le ?_
      unfold lastPlace
      omega
    rw [div_lt_iff₀ (ten_zpow_pos _)]
    linarith
  rw [hunits, add_div, mul_div_cancel_right₀ _ (ten_zpow_pos _).ne',
    halfEven_add _ (div_nonneg hp (ten_zpow_pos _).le) hrest, ← hunits] at h
  exact h

end RoundsTo

/-! ## Fitting -/

/-- An amount whose digits fit: what every operation answers that has a finite result. -/
inductive Fitted : Decimal → Prop
  | digits (s : Bool) {c : Nat} {e : Int} (few : c < pow10 precision) (place : minExponent ≤ e) :
      Fitted (.finite s c e)

theorem Fitted.isFinite (h : x.Fitted) : x.isFinite := by
  cases h
  rfl

theorem fitted_zero : zero.Fitted := .digits false (by decide) (by decide)

/-- A number whose digits fit is not changed. -/
theorem RoundsTo.kept (hc : 0 < c) (hplace : lastPlace (e + digitCount c - 1) ≤ e) :
    RoundsTo (c * 10 ^ e) (c * 10 ^ e) := by
  obtain ⟨hlow, hhigh⟩ := magnitude_bounds hc e
  have h := RoundsTo.digits hlow (by rwa [sub_add_cancel])
  have hunits : (c : ℚ) * 10 ^ e =
      ((c * pow10 (e - lastPlace (e + digitCount c - 1)).toNat : Nat) : ℤ) *
        10 ^ lastPlace (e + digitCount c - 1) := by
    rw [Int.cast_natCast]
    exact magnitude_lower c hplace
  rw [hunits, mul_div_cancel_right₀ _ (ten_zpow_pos _).ne', halfEven_intCast, ← hunits] at h
  exact h

/-- The value of a fitted amount is not changed by rounding. -/
theorem Fitted.roundsTo (h : x.Fitted) (h0 : 0 ≤ x.value) : RoundsTo x.value x.value := by
  cases h with
  | @digits s c e few place =>
      rcases Nat.eq_zero_or_pos c with rfl | hc
      · have hzero : (finite s 0 e).value = 0 := by simp [value_finite]
        rw [hzero]
        exact .zero
      · rw [← abs_of_nonneg h0, abs_value]
        have := digitCount_le hc few
        exact .kept hc (max_le (by omega) place)

/-- A number loses the digits below the last place. -/
theorem RoundsTo.dropped (hc : 0 < c) (hplace : e < lastPlace (e + digitCount c - 1)) :
    RoundsTo (c * 10 ^ e)
      (dropDigits .toEven (lastPlace (e + digitCount c - 1) - e).toNat c *
        10 ^ lastPlace (e + digitCount c - 1)) := by
  obtain ⟨hlow, hhigh⟩ := magnitude_bounds hc e
  have h := RoundsTo.digits hlow (by rwa [sub_add_cancel])
  have hquotient : (c : ℚ) * 10 ^ e / 10 ^ lastPlace (e + digitCount c - 1) =
      c / (pow10 (lastPlace (e + digitCount c - 1) - e).toNat : Nat) := by
    rw [ten_zpow_lower hplace.le, mul_div_mul_right _ _ (ten_zpow_pos e).ne']
  rw [hquotient, halfEven_div _ (pow10_pos _), ← dropDigits_eq_roundDiv, Int.cast_natCast] at h
  exact h

/-- At most one unit more is left than the digits hold. -/
theorem dropDigits_lastPlace_le (hc : 0 < c) (hplace : e < lastPlace (e + digitCount c - 1)) :
    dropDigits .toEven (lastPlace (e + digitCount c - 1) - e).toNat c ≤ pow10 precision := by
  have hle : (c : ℚ) * 10 ^ e ≤ (pow10 precision : Nat) * 10 ^ lastPlace (e + digitCount c - 1) := by
    rw [cast_pow10, ← ten_zpow_add]
    exact (magnitude_bounds hc e).2.le.trans (ten_zpow_le (by unfold lastPlace; omega))
  exact_mod_cast le_of_mul_le_mul_right (dropDigits_mul_le hplace.le hle) (ten_zpow_pos _)

/-- Fitting rounds the magnitude, and its result is fitted. -/
theorem fit_roundsTo (h : fit s c e = .ok r) : r.Fitted ∧ RoundsTo |(finite s c e).value| |r.value| := by
  unfold fit at h
  split at h
  · next hc =>
      cases h
      refine ⟨.digits s (pow10_pos _) (by simp only [minExponent, maxExponent]; omega), ?_⟩
      simp only [abs_value, hc, Nat.cast_zero, zero_mul]
      exact .zero
  · next hc =>
      have hc := Nat.pos_of_ne_zero hc
      dsimp only at h
      split at h
      · cases h
      · rw [← lastPlace] at h
        have hlast : minExponent ≤ lastPlace (e + digitCount c - 1) := le_max_right _ _
        split at h
        · next hkept =>
            cases h
            have hdigits : digitCount c ≤ precision := by
              unfold lastPlace at hkept
              omega
            rw [abs_value]
            exact ⟨.digits s ((lt_pow10_digitCount c).trans_le (pow10_le_pow10 hdigits))
              (hlast.trans hkept), .kept hc hkept⟩
        · next hlost =>
            have hrounds := RoundsTo.dropped hc (not_le.mp hlost)
            split at h
            · next hfew =>
                cases h
                rw [abs_value, abs_value]
                exact ⟨.digits s ((lt_pow10_digitCount _).trans_le (pow10_le_pow10 hfew)) hlast, hrounds⟩
            · next hmany =>
                split at h
                · cases h
                · cases h
                  -- one unit more than the digits hold, told with a digit less
                  have hcarried := le_antisymm (dropDigits_lastPlace_le hc (not_le.mp hlost))
                    (not_lt.mp fun hlt => hmany ((digitCount_le_iff precision (by decide) _).mpr hlt))
                  rw [hcarried] at hrounds ⊢
                  rw [abs_value, abs_value, ← pow10_precision_mul]
                  exact ⟨.digits s (by decide) (by omega), hrounds⟩

/-! ## Products and sums -/

theorem value_mul (s t : Bool) (c₁ c₂ : Nat) (e₁ e₂ : Int) :
    (finite (s != t) (c₁ * c₂) (e₁ + e₂)).value = (finite s c₁ e₁).value * (finite t c₂ e₂).value := by
  rw [value_finite, value_finite, value_finite, ten_zpow_add]
  cases s <;> cases t <;> push_cast <;> simp only [bne_self_eq_false, Bool.false_bne, Bool.true_bne,
    Bool.not_false, Bool.false_eq_true, if_true, if_false] <;> ring

/-- What is fitted of a number that is not negative. -/
theorem fit_roundsTo_of_nonneg (h : fit s c e = .ok r) (h0 : 0 ≤ (finite s c e).value) :
    r.Fitted ∧ RoundsTo (finite s c e).value r.value := by
  obtain ⟨fitted, rounds⟩ := fit_roundsTo h
  have hr := (h ▸ fit_fits s c e).of_ok.2.nonneg h0
  rw [abs_of_nonneg h0, abs_of_nonneg hr] at rounds
  exact ⟨fitted, rounds⟩

/-- A product of amounts that are not negative is rounded. -/
theorem mul_roundsTo (hx : x.isFinite) (hy : y.isFinite) (hx0 : 0 ≤ x.value) (hy0 : 0 ≤ y.value)
    (h : x.mul y = .ok r) : r.Fitted ∧ RoundsTo (x.value * y.value) r.value := by
  obtain ⟨s, c₁, e₁, rfl⟩ := isFinite_iff.mp hx
  obtain ⟨t, c₂, e₂, rfl⟩ := isFinite_iff.mp hy
  rw [← value_mul]
  exact fit_roundsTo_of_nonneg h (value_mul s t c₁ c₂ e₁ e₂ ▸ mul_nonneg hx0 hy0)

theorem signed_of_nonneg (h : 0 ≤ (finite s c e).value) : signed s c = c := by
  rcases Nat.eq_zero_or_pos c with rfl | hc
  · cases s <;> rfl
  · rw [sign_of_nonneg hc h]
    rfl

theorem fitSum_natCast (b : Bool) (n : Nat) (e : Int) : ∃ s, fitSum b n e = fit s n e :=
  ⟨_, by rw [fitSum, Int.natAbs_natCast]⟩

/-- A magnitude that stays behind the guard digits is dropped when it is added, and so is the unit that
    stands in its place. -/
theorem fit_guarded_roundsTo {k : Nat} {q : ℚ} (hc : 0 < c) (few : c < pow10 precision)
    (place : minExponent ≤ e) (hk : k ≤ 1) (hq0 : 0 ≤ q) (hq : q ≤ 10 ^ (e - guardDigits))
    (h : fit s (c * pow10 guardDigits + k) (e - guardDigits) = .ok r) :
    r.Fitted ∧ RoundsTo (c * 10 ^ e + q) |r.value| := by
  obtain ⟨fitted, rounds⟩ := fit_roundsTo h
  have hguard : (guardDigits : Int) = precision + 2 := rfl
  have hbelow : (10 : ℚ) ^ (e - guardDigits) < 10 ^ (e - precision - 1) :=
    zpow_lt_zpow_right₀ (by norm_num) (by omega)
  have dropped {q : ℚ} (hq0 : 0 ≤ q) (hq : q ≤ 10 ^ (e - guardDigits)) :
      RoundsTo (c * 10 ^ e + q) (c * 10 ^ e) := .tail hc few place hq0 (hq.trans_lt hbelow)
  have hstood : |(finite s (c * pow10 guardDigits + k) (e - guardDigits)).value| =
      c * 10 ^ e + k * 10 ^ (e - guardDigits) := by
    rw [abs_value, Nat.cast_add, add_mul, Nat.cast_mul, cast_pow10, mul_assoc, ← ten_zpow_add,
      add_sub_cancel]
  have hstand : (k : ℚ) * 10 ^ (e - guardDigits) ≤ 10 ^ (e - guardDigits) :=
    mul_le_of_le_one_left (ten_zpow_pos _).le (by exact_mod_cast hk)
  rw [hstood] at rounds
  rw [rounds.unique (dropped (mul_nonneg (Nat.cast_nonneg _) (ten_zpow_pos _).le) hstand)]
  exact ⟨fitted, dropped hq0 hq⟩

/-- A sum of magnitudes, the first one with the larger exponent, is rounded. -/
theorem addAligned_roundsTo {t : Bool} {c₁ c₂ : Nat} {e₁ e₂ : Int} (hx : (finite s c₁ e₁).Fitted)
    (hx0 : 0 ≤ (finite s c₁ e₁).value) (hy0 : 0 ≤ (finite t c₂ e₂).value) (he : e₂ ≤ e₁)
    (h : addAligned s c₁ e₁ t c₂ e₂ = .ok r) :
    r.Fitted ∧ RoundsTo ((finite s c₁ e₁).value + (finite t c₂ e₂).value) |r.value| := by
  obtain ⟨few, hplace⟩ : c₁ < pow10 precision ∧ minExponent ≤ e₁ := by
    cases hx with
    | digits _ few place => exact ⟨few, place⟩
  have magnitude {u : Bool} {c : Nat} {e : Int} (h : 0 ≤ (finite u c e).value) :
      (finite u c e).value = c * 10 ^ e := by rw [← abs_of_nonneg h, abs_value]
  unfold addAligned at h
  dsimp only at h
  rw [signed_of_nonneg hx0, signed_of_nonneg hy0] at h
  split at h
  · next hc =>
      obtain ⟨u, hfit⟩ := fitSum_natCast (s && t) c₂ e₂
      have := fit_roundsTo (hfit ▸ h)
      rw [abs_value] at this
      rwa [magnitude hx0, magnitude hy0, hc, Nat.cast_zero, zero_mul, zero_add]
  · next hc =>
      split at h
      · next hgap =>
          have hunit : signed t (min c₂ 1) = (min c₂ 1 : Nat) := by
            rcases Nat.eq_zero_or_pos c₂ with rfl | hc₂
            · cases t <;> rfl
            · rw [sign_of_nonneg hc₂ hy0]
              rfl
          have hsum : (c₁ : ℤ) * (pow10 guardDigits : Nat) + (min c₂ 1 : Nat) =
              ((c₁ * pow10 guardDigits + min c₂ 1 : Nat) : ℤ) := by push_cast; rfl
          rw [hunit, hsum] at h
          obtain ⟨u, hfit⟩ := fitSum_natCast (s && t) (c₁ * pow10 guardDigits + min c₂ 1)
            (e₁ - guardDigits)
          have hsmall : (c₂ : ℚ) * 10 ^ e₂ ≤ 10 ^ (e₁ - guardDigits) :=
            (lt_of_digits (lt_pow10_digitCount c₂) e₂).le.trans (ten_zpow_le (by omega))
          rw [magnitude hx0, magnitude hy0]
          exact fit_guarded_roundsTo (Nat.pos_of_ne_zero hc) few hplace (min_le_right c₂ 1)
            (magnitude hy0 ▸ hy0) hsmall (hfit ▸ h)
      · have hsum : (c₁ : ℤ) * (pow10 (e₁ - e₂).toNat : Nat) + c₂ =
            ((c₁ * pow10 (e₁ - e₂).toNat + c₂ : Nat) : ℤ) := by push_cast; rfl
        rw [hsum] at h
        obtain ⟨u, hfit⟩ := fitSum_natCast (s && t) (c₁ * pow10 (e₁ - e₂).toNat + c₂) e₂
        have := fit_roundsTo (hfit ▸ h)
        rwa [abs_value, Nat.cast_add, add_mul, ← magnitude_lower c₁ he, ← magnitude hx0,
          ← magnitude hy0] at this

/-- A sum of results that are not negative is rounded. -/
theorem add_roundsTo (hx : x.Fitted) (hy : y.Fitted) (hx0 : 0 ≤ x.value) (hy0 : 0 ≤ y.value)
    (h : x.add y = .ok r) : r.Fitted ∧ RoundsTo (x.value + y.value) r.value := by
  have hr := (h ▸ add_fits hx.isFinite hy.isFinite).of_ok.2.nonneg (add_nonneg hx0 hy0)
  rw [← abs_of_nonneg hr]
  obtain ⟨s, c₁, e₁, rfl⟩ := isFinite_iff.mp hx.isFinite
  obtain ⟨t, c₂, e₂, rfl⟩ := isFinite_iff.mp hy.isFinite
  unfold add nanOfTwo? at h
  dsimp only at h
  split at h
  · next he => exact addAligned_roundsTo hx hx0 hy0 he h
  · next he =>
      rw [add_comm]
      exact addAligned_roundsTo hy hy0 hx0 (not_le.mp he).le h

/-- A sum of results that are not negative is found while it is far from the largest amount. -/
theorem add_found (hx : x.Fitted) (hy : y.Fitted) (hx0 : 0 ≤ x.value) (hy0 : 0 ≤ y.value)
    (hle : x.value + y.value ≤ 10 ^ 27) :
    ∃ r, x.add y = .ok r ∧ r.Fitted ∧ RoundsTo (x.value + y.value) r.value := by
  have hbound : Representable (10 ^ 27) := by
    have h := representable_of_digits (m := 10 ^ 27) (e := 0) (by decide) (by decide) (by
      rw [zpow_zero, mul_one]
      calc ((10 ^ 27 : Nat) : ℚ) = 10 ^ (27 : Int) := by norm_cast
        _ < 10 ^ (maxExponent + 1) := zpow_lt_zpow_right₀ (by norm_num) (by decide))
    rw [zpow_zero, mul_one] at h
    exact_mod_cast h
  obtain ⟨r, hr, -⟩ := (add_fits hx.isFinite hy.isFinite).answers hbound
    (by rwa [abs_of_nonneg (add_nonneg hx0 hy0)])
  exact ⟨r, hr, add_roundsTo hx hy hx0 hy0 hr⟩

/-- Nothing is lost when zero is added. -/
theorem add_zero_found (hx : x.Fitted) (hx0 : 0 ≤ x.value) (hle : x.value ≤ 10 ^ 27) :
    ∃ r, x.add zero = .ok r ∧ r.Fitted ∧ r.value = x.value := by
  obtain ⟨r, hr, fitted, rounds⟩ := add_found hx fitted_zero hx0 value_zero.ge (by simpa using hle)
  rw [value_zero, add_zero] at rounds
  exact ⟨r, hr, fitted, rounds.unique (hx.roundsTo hx0)⟩

theorem zero_add_found (hx : x.Fitted) (hx0 : 0 ≤ x.value) (hle : x.value ≤ 10 ^ 27) :
    ∃ r, zero.add x = .ok r ∧ r.Fitted ∧ r.value = x.value := by
  obtain ⟨r, hr, fitted, rounds⟩ := add_found fitted_zero hx value_zero.ge hx0 (by simpa using hle)
  rw [value_zero, zero_add] at rounds
  exact ⟨r, hr, fitted, rounds.unique (hx.roundsTo hx0)⟩

/-- Nothing is lost when zeros are added. -/
theorem Fitted.foldlM_add_zeros (hx : x.Fitted) (hx0 : 0 ≤ x.value) (hle : x.value ≤ 10 ^ 27)
    (n : Nat) : ∃ r, (List.replicate n zero).foldlM add x = .ok r ∧ r.value = x.value := by
  induction n generalizing x with
  | zero => exact ⟨x, rfl, rfl⟩
  | succ n ih =>
      obtain ⟨z, hz, fitted, hzv⟩ := add_zero_found hx hx0 hle
      obtain ⟨r, hr, hrv⟩ := ih fitted (hzv ▸ hx0) (hzv ▸ hle)
      refine ⟨r, ?_, hrv.trans hzv⟩
      rw [List.replicate_succ, List.foldlM_cons, hz]
      exact hr

/-! ## Rounding to cents -/

/-- A half is rounded upwards. -/
theorem roundDiv_up (n : Nat) (hd : 0 < d) : (roundDiv .up n d : ℤ) = ⌊(n : ℚ) / d + 1 / 2⌋ := by
  have hd' : (0 : ℚ) < d := by exact_mod_cast hd
  have hsplit : (n : ℚ) / d = (n / d : Nat) + (n % d : Nat) / d := by
    rw [div_eq_iff hd'.ne', add_mul, div_mul_cancel₀ _ hd'.ne']
    exact_mod_cast (Nat.div_add_mod' n d).symm
  have hrest : 0 ≤ ((n % d : Nat) : ℚ) / d ∧ ((n % d : Nat) : ℚ) / d < 1 := by
    refine ⟨by positivity, ?_⟩
    rw [div_lt_one hd']
    exact_mod_cast Nat.mod_lt n hd
  have hhalf : ((n % d : Nat) : ℚ) / d < 1 / 2 ↔ 2 * (n % d) < d := by
    rw [div_lt_iff₀ hd', ← mul_lt_mul_iff_right₀ (two_pos : (0 : ℚ) < 2), one_div, ← mul_assoc,
      mul_inv_cancel₀ two_ne_zero, one_mul]
    exact_mod_cast Iff.rfl
  symm
  rw [Int.floor_eq_iff, hsplit]
  unfold roundDiv
  dsimp only
  by_cases hbelow : 2 * (n % d) < d
  · have := hhalf.mpr hbelow
    rw [if_pos hbelow, Int.cast_natCast]
    constructor <;> linarith
  · have := not_lt.mp (mt hhalf.mp hbelow)
    rw [if_neg hbelow, ite_self, Int.cast_natCast, Nat.cast_add, Nat.cast_one]
    constructor <;> linarith

/-- The whole number of cents that is nearest to a magnitude, a half one upwards. -/
theorem cents_eq_floor (c : Nat) (e : Int) :
    ((if -2 ≤ e then c * pow10 (e - -2).toNat else dropDigits .up (-2 - e).toNat c : Nat) : ℤ) =
      ⌊100 * ((c : ℚ) * 10 ^ e) + 1 / 2⌋ := by
  have hcent : (100 : ℚ) * 10 ^ (-2 : Int) = 1 := by norm_num
  split
  · next hplace =>
      rw [magnitude_lower c hplace, mul_left_comm, hcent, mul_one]
      symm
      rw [Int.floor_eq_iff]
      push_cast
      constructor <;> linarith
  · next hplace =>
      have hquotient : 100 * ((c : ℚ) * 10 ^ e) = c / (pow10 (-2 - e).toNat : Nat) := by
        have hpos : (0 : ℚ) < (pow10 (-2 - e).toNat : Nat) := by exact_mod_cast pow10_pos _
        rw [eq_div_iff hpos.ne', mul_assoc, mul_assoc, mul_comm ((10 : ℚ) ^ e),
          ← ten_zpow_lower (not_le.mp hplace).le, mul_left_comm, hcent, mul_one]
      rw [dropDigits_eq_roundDiv, roundDiv_up _ (pow10_pos _), hquotient]

/-- The smallest number that rounding to cents takes beyond 28 digits. -/
def centsLimit : ℚ := 10 ^ 26 - 1 / 200

/-- The number `q` rounded to cents, a half cent upwards. -/
def inCents (q : ℚ) : ℚ := (⌊100 * q + 1 / 2⌋ : ℚ) / 100

theorem inCents_mono (h : p ≤ q) : inCents p ≤ inCents q := by
  have hfloor : ⌊100 * p + 1 / 2⌋ ≤ ⌊100 * q + 1 / 2⌋ := Int.floor_mono (by linarith)
  exact div_le_div_of_nonneg_right (by exact_mod_cast hfloor) (by norm_num)

theorem inCents_nonneg (h : 0 ≤ q) : 0 ≤ inCents q := by
  have hzero : inCents 0 = 0 := by norm_num [inCents]
  exact hzero ▸ inCents_mono h

theorem floor_lt_iff_centsLimit (q : ℚ) :
    ⌊100 * q + 1 / 2⌋ < (pow10 precision : Nat) ↔ q < centsLimit := by
  have hdigits : (((pow10 precision : Nat) : ℤ) : ℚ) = 10 ^ 28 := by
    rw [Int.cast_natCast]
    exact_mod_cast rfl
  rw [Int.floor_lt, hdigits, centsLimit]
  constructor
  · intro h
    linarith
  · intro h
    linarith

theorem inCents_lt (h : q < centsLimit) : inCents q < 10 ^ 26 := by
  have hfloor := (floor_lt_iff_centsLimit q).mpr h
  have hlt : (⌊100 * q + 1 / 2⌋ : ℚ) < 10 ^ 28 := by exact_mod_cast hfloor
  rw [inCents, div_lt_iff₀ (by norm_num)]
  linarith

/-- An amount that is not negative has a value in cents, unless it reaches the limit. -/
theorem roundMoney_eq (hx : x.isFinite) (hx0 : 0 ≤ x.value) :
    (x.value < centsLimit → ∃ r, x.roundMoney = .ok r ∧ r.Fitted ∧ r.value = inCents x.value) ∧
      (centsLimit ≤ x.value → x.roundMoney = .error .invalidOperation) := by
  obtain ⟨s, c, e, rfl⟩ := isFinite_iff.mp hx
  rcases Nat.eq_zero_or_pos c with rfl | hc
  · have hzero (e : Int) : (finite s 0 e).value = 0 := by simp [value_finite]
    rw [hzero]
    refine ⟨fun _ => ⟨.finite s 0 (-2), rfl, .digits s (pow10_pos _) (by decide), ?_⟩, fun h => ?_⟩
    · rw [hzero, inCents]
      norm_num
    · exact absurd h (by norm_num [centsLimit])
  · obtain rfl := sign_of_nonneg hc hx0
    have hvalue (c : Nat) (e : Int) : (finite false c e).value = c * 10 ^ e := value_finite _ _ _
    let m := if -2 ≤ e then c * pow10 (e - -2).toNat else dropDigits .up (-2 - e).toNat c
    have hm : (m : ℤ) = ⌊100 * (finite false c e).value + 1 / 2⌋ := by
      rw [hvalue]
      exact cents_eq_floor c e
    have hlimit : m < pow10 precision ↔ (finite false c e).value < centsLimit := by
      rw [← floor_lt_iff_centsLimit, ← hm]
      exact Int.ofNat_lt.symm
    have hdigits : digitCount m ≤ precision ↔ m < pow10 precision :=
      digitCount_le_iff precision (by decide) m
    -- an amount with its leading digit too high reaches the limit
    have hlead : (precision : Int) < digitCount c + (e - -2) → centsLimit ≤ (finite false c e).value := by
      intro hhigh
      have hlow := (magnitude_bounds hc e).1
      have hpower : (10 : ℚ) ^ (26 : Int) ≤ 10 ^ (e + digitCount c - 1) :=
        ten_zpow_le (by simp only [precision] at hhigh; omega)
      rw [hvalue, centsLimit]
      have : (10 : ℚ) ^ (26 : Int) = 10 ^ 26 := by norm_cast
      linarith
    have hround : (finite false c e).roundMoney =
        if (precision : Int) < digitCount c + (e - -2) then .error .invalidOperation
        else if precision < digitCount m then .error .invalidOperation else .ok (finite false m (-2)) := by
      rw [roundMoney, quantize, if_neg hc.ne']
    rw [hround]
    constructor
    · intro hlt
      have hfew := hlimit.mpr hlt
      rw [if_neg (fun h => absurd (hlead h) (not_le.mpr hlt)), if_neg (not_lt.mpr (hdigits.mpr hfew))]
      refine ⟨_, rfl, .digits false hfew (by decide), ?_⟩
      have hcast : (m : ℚ) = (⌊100 * (finite false c e).value + 1 / 2⌋ : ℤ) := by
        rw [← hm, Int.cast_natCast]
      have hcent : (10 : ℚ) ^ (-2 : Int) = 1 / 100 := by norm_num
      rw [hvalue, hcast, hcent, inCents, mul_one_div]
    · intro hge
      split
      · rfl
      · rw [if_pos (not_le.mp fun h => absurd (hlimit.mp (hdigits.mp h)) (not_lt.mpr hge))]

/-- What rounding to cents answers. -/
theorem roundMoney_ok (hx : x.isFinite) (hx0 : 0 ≤ x.value) (h : x.roundMoney = .ok r) :
    x.value < centsLimit ∧ r.Fitted ∧ r.value = inCents x.value := by
  obtain ⟨below, reached⟩ := roundMoney_eq hx hx0
  have hlt : x.value < centsLimit := by
    by_contra hge
    rw [reached (not_lt.mp hge)] at h
    cases h
  obtain ⟨r', hr', fitted, hvalue⟩ := below hlt
  cases hr'.symm.trans h
  exact ⟨hlt, fitted, hvalue⟩

end Bookkeeping.Decimal

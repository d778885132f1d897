import Bookkeeping.Proofs.DecimalValue
import Bookkeeping.Proofs.Transaction

set_option autoImplicit false

/-! # Arithmetic at the limit of the digits

A result that 28 digits cannot hold is rounded, and one beyond the exponents has no amount. Of a rounded
result it is known which numbers it lies between: rounding ends at a number that some amount has for its
value, and passes none on the way (`Rounded`). Fitting, sums and differences round so, or overflow where
no amount is large enough (`fit_fits`, `add_fits`, `sub_fits`). A result that some amount has for its
value is therefore exact (`Rounded.eq`). -/

namespace Bookkeeping.Decimal

variable {x y r : Decimal} {s t : Bool} {c c₁ c₂ m k : Nat} {e e₁ e₂ : Int} {p q v w : ℚ}

/-! ## Numbers that amounts stand for -/

/-- A number that 28 digits hold within the range of the exponents. -/
structure Representable (q : ℚ) : Prop where
  lt : |q| < 10 ^ (maxExponent + 1)
  digits : ∃ (m : Nat) (e : Int), m < pow10 precision ∧ minExponent ≤ e ∧ |q| = m * 10 ^ e

theorem Representable.neg (h : Representable q) : Representable (-q) := by
  constructor
  · rw [abs_neg]
    exact h.lt
  · rw [abs_neg]
    exact h.digits

theorem representable_abs_iff : Representable |q| ↔ Representable q := by
  constructor
  · rintro ⟨hlt, hdigits⟩
    rw [abs_abs] at hlt hdigits
    exact ⟨hlt, hdigits⟩
  · rintro ⟨hlt, hdigits⟩
    rw [← abs_abs] at hlt hdigits
    exact ⟨hlt, hdigits⟩

theorem Representable.zero : Representable 0 := by
  refine ⟨?_, ?_⟩
  · rw [abs_zero]
    exact ten_zpow_pos (maxExponent + 1)
  · exact ⟨0, 0, pow10_pos _, by decide, by rw [abs_zero, Nat.cast_zero, zero_mul]⟩

/-- A magnitude in units of a lower place. -/
theorem magnitude_lower (m : Nat) (h : e₂ ≤ e₁) :
    (m : ℚ) * 10 ^ e₁ = (m * pow10 (e₁ - e₂).toNat : Nat) * 10 ^ e₂ := by
  rw [magnitude_aligned m e₁ e₂, min_eq_right h]

theorem ten_zpow_lower (h : e₂ ≤ e₁) : (10 : ℚ) ^ e₁ = (pow10 (e₁ - e₂).toNat : Nat) * 10 ^ e₂ := by
  rw [cast_pow10, ← ten_zpow_add]
  congr 1
  omega

theorem zpow_lt_of_lt (h : (10 : ℚ) ^ e₁ < 10 ^ e₂) : e₁ < e₂ :=
  (zpow_lt_zpow_iff_right₀ (by norm_num : (1 : ℚ) < 10)).mp h

theorem lt_of_digits (hm : m < pow10 k) (e : Int) : (m : ℚ) * 10 ^ e < 10 ^ ((k : Int) + e) := by
  rw [ten_zpow_add, ← cast_pow10]
  exact mul_lt_mul_of_pos_right (by exact_mod_cast hm) (ten_zpow_pos e)

/-- Digits within the range of the exponents. -/
theorem representable_of_digits (hm : m < pow10 precision) (he : minExponent ≤ e)
    (hlt : (m : ℚ) * 10 ^ e < 10 ^ (maxExponent + 1)) : Representable (m * 10 ^ e) := by
  have hnonneg : (0 : ℚ) ≤ m * 10 ^ e := mul_nonneg (Nat.cast_nonneg m) (ten_zpow_pos e).le
  have habs := abs_of_nonneg hnonneg
  exact { lt := habs.symm ▸ hlt, digits := ⟨m, e, hm, he, habs⟩ }

/-- The place of the last digit that a representable number can have, told by its leading digit. -/
theorem Representable.place (h : Representable q) (hlead : (10 : ℚ) ^ e ≤ |q|) :
    ∃ j : Nat, |q| = j * 10 ^ max (e + 1 - precision) minExponent := by
  obtain ⟨m, d, hm, hd, hq⟩ := h.digits
  have hlt := zpow_lt_of_lt (hlead.trans_lt (hq ▸ lt_of_digits hm d))
  exact ⟨_, hq.trans (magnitude_lower m (max_le (by omega) hd))⟩

/-- A representable number that is not zero reaches the last place. -/
theorem Representable.le_abs (h : Representable q) (hq : q ≠ 0) : (10 : ℚ) ^ minExponent ≤ |q| := by
  obtain ⟨m, d, -, hd, hq'⟩ := h.digits
  have hm : 1 ≤ m := by
    refine Nat.pos_of_ne_zero ?_
    rintro rfl
    exact hq (abs_eq_zero.mp (by rw [hq', Nat.cast_zero, zero_mul]))
  calc (10 : ℚ) ^ minExponent ≤ 10 ^ d := ten_zpow_le hd
    _ ≤ m * 10 ^ d := le_mul_of_one_le_left (ten_zpow_pos d).le (by exact_mod_cast hm)
    _ = |q| := hq'.symm

/-! ## Rounded numbers -/

/-- No representable number lies between `q` and `r`, the number `q` itself apart. -/
def PassesNone (q r : ℚ) : Prop := ∀ p, Representable p → (q ≤ p → r ≤ p) ∧ (p ≤ q → p ≤ r)

theorem PassesNone.neg {r : ℚ} (h : PassesNone q r) : PassesNone (-q) (-r) := fun _ hp =>
  ⟨fun hle => neg_le.mpr ((h _ hp.neg).2 (neg_le.mp hle)),
    fun hle => le_neg.mpr ((h _ hp.neg).1 (le_neg.mp hle))⟩

/-- Rounding `q` to `r` ends at a representable number and passes none on the way. -/
structure Rounded (q r : ℚ) : Prop where
  representable : Representable r
  passesNone : PassesNone q r

theorem Rounded.refl (h : Representable q) : Rounded q q := ⟨h, fun _ _ => ⟨id, id⟩⟩

/-- What is representable is not changed by rounding. -/
theorem Rounded.eq {r : ℚ} (h : Rounded q r) (hq : Representable q) : r = q :=
  le_antisymm ((h.passesNone q hq).1 le_rfl) ((h.passesNone q hq).2 le_rfl)

theorem Rounded.neg {r : ℚ} (h : Rounded q r) : Rounded (-q) (-r) :=
  ⟨h.representable.neg, h.passesNone.neg⟩

theorem Rounded.nonneg {r : ℚ} (h : Rounded q r) (hq : 0 ≤ q) : 0 ≤ r := (h.passesNone 0 .zero).2 hq

/-- The numbers lie on the same side of every representable one. -/
def SameSide (v w : ℚ) : Prop := ∀ p, Representable p → (v ≤ p ↔ w ≤ p) ∧ (p ≤ v ↔ p ≤ w)

theorem Rounded.congr {r : ℚ} (h : Rounded v r) (side : SameSide v w) : Rounded w r :=
  ⟨h.representable, fun p hp => ⟨fun hle => (h.passesNone p hp).1 ((side p hp).1.mpr hle),
    fun hle => (h.passesNone p hp).2 ((side p hp).2.mpr hle)⟩⟩

/-- What comes of fitting the exact result `q`: a finite amount of the rounded value, or an overflow
    where every representable number is smaller. -/
inductive Fits (q : ℚ) : Except Fault Decimal → Prop where
  | rounded {r : Decimal} (finite : r.isFinite) (value : Rounded q r.value) : Fits q (.ok r)
  | overflow (beyond : ∀ p, Representable p → p < |q|) : Fits q (.error .overflow)

theorem Fits.of_ok (h : Fits q (.ok r)) : r.isFinite ∧ Rounded q r.value := by
  cases h with
  | rounded finite value => exact ⟨finite, value⟩

/-- A result that some representable number bounds is found. -/
theorem Fits.answers {o : Except Fault Decimal} (h : Fits q o) (hp : Representable p) (hle : |q| ≤ p) :
    ∃ r, o = .ok r ∧ r.isFinite ∧ Rounded q r.value := by
  cases h with
  | rounded finite value => exact ⟨_, rfl, finite, value⟩
  | overflow beyond => exact absurd (beyond p hp) (not_lt.mpr hle)

/-- A representable result is found and exact. -/
theorem Fits.exact {o : Except Fault Decimal} (h : Fits q o) (hq : Representable q) :
    ∃ r, o = .ok r ∧ r.isFinite ∧ r.value = q := by
  obtain ⟨r, ho, hr, hround⟩ := h.answers (representable_abs_iff.mpr hq) le_rfl
  exact ⟨r, ho, hr, hround.eq hq⟩

theorem Fits.congr {o : Except Fault Decimal} (h : Fits v o) (side : SameSide v w) : Fits w o := by
  cases h with
  | rounded finite value => exact .rounded finite (value.congr side)
  | overflow beyond =>
      refine .overflow fun p hp => ?_
      by_contra hle
      obtain ⟨hlow, hhigh⟩ := abs_le.mp (not_lt.mp hle)
      exact absurd (beyond p hp) (not_lt.mpr (abs_le.mpr
        ⟨(side _ hp.neg).2.mpr hlow, (side _ hp).1.mpr hhigh⟩))

/-! ## Dropping digits -/

theorem dropDigits_le {tie : Tie} (h : c ≤ m * pow10 k) : dropDigits tie k c ≤ m := by
  unfold dropDigits
  split
  · exact Nat.zero_le m
  · have hpos := pow10_pos k
    have hsplit := Nat.div_add_mod' c (pow10 k)
    rcases roundDiv_cases tie c (pow10 k) with ⟨hround, -⟩ | ⟨hround, hhalf⟩
    · rw [hround]
      exact Nat.div_le_of_le_mul (by rwa [Nat.mul_comm])
    · rw [hround]
      exact Nat.lt_of_mul_lt_mul_right (show c / pow10 k * pow10 k < m * pow10 k by omega)

theorem le_dropDigits {tie : Tie} (h : m * pow10 k ≤ c) : m ≤ dropDigits tie k c := by
  unfold dropDigits
  split
  · next hfew =>
      have hlt : m * pow10 k < 1 * pow10 k := by
        rw [Nat.one_mul]
        exact h.trans_lt ((lt_pow10_digitCount c).trans_le (pow10_le_pow10 hfew.le))
      exact (Nat.lt_one_iff.mp (Nat.lt_of_mul_lt_mul_right hlt)).le
  · have hdiv : m ≤ c / pow10 k := (Nat.le_div_iff_mul_le (pow10_pos k)).mpr h
    rcases roundDiv_cases tie c (pow10 k) with ⟨hround, -⟩ | ⟨hround, -⟩ <;> omega

/-- Magnitudes are compared after digits are dropped as before, with whole units of the last place. -/
theorem dropDigits_mul_le {tie : Tie} (he : e ≤ e₁) (h : (c : ℚ) * 10 ^ e ≤ m * 10 ^ e₁) :
    (dropDigits tie (e₁ - e).toNat c : ℚ) * 10 ^ e₁ ≤ m * 10 ^ e₁ := by
  refine mul_le_mul_of_nonneg_right ?_ (ten_zpow_pos e₁).le
  rw [magnitude_lower m he] at h
  exact_mod_cast dropDigits_le (by exact_mod_cast le_of_mul_le_mul_right h (ten_zpow_pos e))

theorem le_dropDigits_mul {tie : Tie} (he : e ≤ e₁) (h : (m : ℚ) * 10 ^ e₁ ≤ c * 10 ^ e) :
    (m : ℚ) * 10 ^ e₁ ≤ dropDigits tie (e₁ - e).toNat c * 10 ^ e₁ := by
  refine mul_le_mul_of_nonneg_right ?_ (ten_zpow_pos e₁).le
  rw [magnitude_lower m he] at h
  exact_mod_cast le_dropDigits (by exact_mod_cast le_of_mul_le_mul_right h (ten_zpow_pos e))

/-- The exponent of the last digit that is kept, by the place of the leading digit. -/
def lastPlace (lead : Int) : Int := max (lead + 1 - precision) minExponent

/-- Dropping the digits below the last place passes no representable number. -/
theorem dropDigits_passesNone (hc : 0 < c) (he : e < lastPlace (e + digitCount c - 1)) :
    PassesNone (c * 10 ^ e)
      (dropDigits .toEven (lastPlace (e + digitCount c - 1) - e).toNat c *
        10 ^ lastPlace (e + digitCount c - 1)) := by
  intro p hp
  have hpos := magnitude_pos hc e
  have hlead := (magnitude_bounds hc e).1
  constructor
  · intro hle
    have habs : |p| = p := abs_of_pos (hpos.trans_le hle)
    obtain ⟨j, hj⟩ := hp.place (habs ▸ hlead.trans hle)
    rw [habs] at hj
    rw [hj] at hle ⊢
    exact dropDigits_mul_le he.le hle
  · intro hle
    rcases le_or_gt p 0 with hneg | hp0
    · exact hneg.trans (mul_nonneg (Nat.cast_nonneg _) (ten_zpow_pos _).le)
    · have habs : |p| = p := abs_of_pos hp0
      rcases le_or_gt ((10 : ℚ) ^ (e + digitCount c - 1)) p with hlarge | hsmall
      · obtain ⟨j, hj⟩ := hp.place (habs ▸ hlarge)
        rw [habs] at hj
        rw [hj] at hle ⊢
        exact le_dropDigits_mul he.le hle
      · -- below the leading digit, which is kept as it is
        have hlow : lastPlace (e + digitCount c - 1) ≤ e + digitCount c - 1 := by
          have hmin := zpow_lt_of_lt ((hp.le_abs hp0.ne').trans_lt (habs ▸ hsmall))
          exact max_le (by simp only [precision]; omega) hmin.le
        refine hsmall.le.trans ?_
        rw [ten_zpow_lower hlow] at hlead ⊢
        exact le_dropDigits_mul he.le hlead

/-! ## Fitting -/

/-- A sign does not matter to rounding. -/
theorem Rounded.signed (s : Bool) (h : Rounded (c₁ * 10 ^ e₁) (c₂ * 10 ^ e₂)) :
    Rounded (finite s c₁ e₁).value (finite s c₂ e₂).value := by
  rw [value_finite, value_finite]
  cases s
  · exact h
  · exact h.neg

/-- Digits that are few enough are kept. -/
theorem fits_kept (s : Bool) (h : PassesNone (c * 10 ^ e) (m * 10 ^ e₁)) (hm : m < pow10 precision)
    (hmin : minExponent ≤ e₁) (hmax : e₁ + precision ≤ maxExponent + 1) :
    Fits (finite s c e).value (.ok (finite s m e₁)) := by
  have hlt : (m : ℚ) * 10 ^ e₁ < 10 ^ (maxExponent + 1) :=
    (lt_of_digits hm e₁).trans_le (ten_zpow_le (by omega))
  exact .rounded rfl (.signed s ⟨representable_of_digits hm hmin hlt, h⟩)

/-- One unit more than the digits hold, told with a digit less. -/
theorem pow10_precision_mul (e : Int) :
    ((pow10 precision : Nat) : ℚ) * 10 ^ e = (pow10 precision / 10 : Nat) * 10 ^ (e + 1) := by
  rw [ten_zpow_add, mul_comm ((10 : ℚ) ^ e), ← mul_assoc]
  congr 1
  exact_mod_cast (Nat.div_mul_cancel (by decide : 10 ∣ pow10 precision)).symm

/-- One unit more than the digits hold is kept with a digit less. -/
theorem fits_carried (s : Bool) (h : PassesNone (c * 10 ^ e) (pow10 precision * 10 ^ e₁))
    (hmin : minExponent ≤ e₁) (hmax : e₁ + precision ≤ maxExponent) :
    Fits (finite s c e).value (.ok (finite s (pow10 precision / 10) (e₁ + 1))) := by
  rw [pow10_precision_mul] at h
  exact fits_kept s h (by decide) (by omega) (by omega)

/-- One unit more than the digits hold lies beyond the representable numbers. -/
theorem fits_overflow (s : Bool) (h : PassesNone (c * 10 ^ e) (pow10 precision * 10 ^ e₁))
    (hmax : maxExponent < e₁ + precision) : Fits (finite s c e).value (.error .overflow) := by
  refine .overflow fun p hp => ?_
  by_contra hle
  rw [abs_value, not_lt] at hle
  have hbeyond := ((h p hp).1 hle).trans_lt ((le_abs_self p).trans_lt hp.lt)
  rw [cast_pow10, ← ten_zpow_add] at hbeyond
  have := zpow_lt_of_lt hbeyond
  omega

theorem digitCount_le_iff (k : Nat) (hk : 0 < k) (n : Nat) : digitCount n ≤ k ↔ n < pow10 k := by
  constructor
  · exact fun h => (lt_pow10_digitCount n).trans_le (pow10_le_pow10 h)
  · intro h
    rcases Nat.eq_zero_or_pos n with rfl | hn
    · exact hk
    · exact digitCount_le hn h

/-- What is fitted after digits were dropped. -/
theorem fits_dropped (s : Bool) {lead : Int} (h : PassesNone (c * 10 ^ e) (m * 10 ^ lastPlace lead))
    (hmost : m ≤ pow10 precision) (hlead : lead ≤ maxExponent) :
    Fits (finite s c e).value
      (if digitCount m ≤ precision then .ok (finite s m (lastPlace lead))
        else if maxExponent < lead + 1 then .error .overflow
        else .ok (finite s (m / 10) (lastPlace lead + 1))) := by
  have hmin : minExponent ≤ lastPlace lead := le_max_right _ _
  have hplace : lastPlace lead + precision = max (lead + 1) (minExponent + precision) := by
    unfold lastPlace
    omega
  have hlow : minExponent + precision ≤ maxExponent := by decide
  have hdigits := digitCount_le_iff precision (by decide) m
  split
  · next hfew => exact fits_kept s h (hdigits.mp hfew) hmin (by omega)
  · next hmany =>
      have hm : m = pow10 precision :=
        le_antisymm hmost (not_lt.mp fun h => hmany (hdigits.mpr h))
      subst hm
      split
      · next hlast => exact fits_overflow s h (by omega)
      · next hlast => exact fits_carried s h hmin (by omega)

/-- Fitting rounds, or overflows where every representable number is smaller. -/
theorem fit_fits (s : Bool) (c : Nat) (e : Int) : Fits (finite s c e).value (fit s c e) := by
  unfold fit
  split
  · next hc =>
      subst hc
      have hzero (d : Int) : (finite s 0 d).value = 0 := by simp [value_finite]
      refine .rounded rfl ?_
      rw [hzero, hzero]
      exact .refl .zero
  · next hc =>
      have hc := Nat.pos_of_ne_zero hc
      obtain ⟨hlead, hhigh⟩ := magnitude_bounds hc e
      dsimp only
      split
      · next hlarge =>
          refine .overflow fun p hp => ?_
          calc p ≤ |p| := le_abs_self p
            _ < 10 ^ (maxExponent + 1) := hp.lt
            _ ≤ 10 ^ (e + digitCount c - 1) := ten_zpow_le (by omega)
            _ ≤ |(finite s c e).value| := abs_value s c e ▸ hlead
      · next hlarge =>
          split
          · next hkept =>
              obtain ⟨hplace, hmin⟩ := max_le_iff.mp hkept
              have hdigits : c < pow10 precision :=
                (lt_pow10_digitCount c).trans_le (pow10_le_pow10 (by omega))
              exact .rounded rfl (.signed s (.refl (representable_of_digits hdigits hmin
                (hhigh.trans_le (ten_zpow_le (by omega))))))
          · next hlost =>
              have hlost := not_le.mp hlost
              rw [← lastPlace] at hlost ⊢
              have hle : (c : ℚ) * 10 ^ e ≤
                  (pow10 precision : Nat) * 10 ^ lastPlace (e + digitCount c - 1) := by
                rw [cast_pow10, ← ten_zpow_add]
                exact hhigh.le.trans (ten_zpow_le (by unfold lastPlace; omega))
              refine fits_dropped s (dropDigits_passesNone hc hlost) ?_ (not_lt.mp hlarge)
              exact_mod_cast le_of_mul_le_mul_right (dropDigits_mul_le hlost.le hle) (ten_zpow_pos _)

/-! ## Sums -/

theorem fitSum_fits (b : Bool) (v : Int) (e : Int) : Fits (v * 10 ^ e) (fitSum b v e) := by
  rw [← value_natAbs v e b]
  exact fit_fits _ _ _

/-- Numbers nearer to `q` than any representable one lie on the same side of all of them, when they are
    on the same side of `q`. -/
theorem sameSide_of_near {d : ℚ} (hv : |v| < d) (hw : |w| < d) (hpos : 0 < v ↔ 0 < w)
    (hneg : v < 0 ↔ w < 0) (far : ∀ p, Representable p → p = q ∨ d ≤ |p - q|) :
    SameSide (q + v) (q + w) := by
  intro p hp
  obtain ⟨hv₁, hv₂⟩ := abs_lt.mp hv
  obtain ⟨hw₁, hw₂⟩ := abs_lt.mp hw
  rcases far p hp with rfl | hfar
  · have hv (u : ℚ) : (p + u ≤ p ↔ ¬ 0 < u) ∧ (p ≤ p + u ↔ ¬ u < 0) := by
      constructor <;> constructor <;> intro h <;> linarith
    rw [(hv v).1, (hv w).1, (hv v).2, (hv w).2, hpos, hneg]
    exact ⟨Iff.rfl, Iff.rfl⟩
  · rcases le_abs.mp hfar with hfar | hfar
    · exact ⟨⟨fun _ => by linarith, fun _ => by linarith⟩,
        ⟨fun h => absurd h (by linarith), fun h => absurd h (by linarith)⟩⟩
    · exact ⟨⟨fun h => absurd h (by linarith), fun h => absurd h (by linarith)⟩,
        ⟨fun _ => by linarith, fun _ => by linarith⟩⟩

theorem exists_int_of_abs {q : ℚ} (h : |q| = m * p) : ∃ a : Int, q = a * p := by
  rcases abs_choice q with habs | habs
  · exact ⟨m, by rw [← habs, h, Int.cast_natCast]⟩
  · refine ⟨-m, ?_⟩
    rw [Int.cast_neg, Int.cast_natCast, neg_mul, ← h, habs, neg_neg]

theorem value_pos_iff : 0 < (finite s c e).value ↔ 0 < signed s c := by
  rw [value, mul_pos_iff_of_pos_right (ten_zpow_pos e), Int.cast_pos]

theorem value_neg_iff : (finite s c e).value < 0 ↔ signed s c < 0 := by
  rw [value, ← neg_pos, ← neg_mul, mul_pos_iff_of_pos_right (ten_zpow_pos e), neg_pos, Int.cast_lt_zero]

/-- A representable number that is not `±c · 10 ^ e` differs from it by a unit of the digits below. -/
theorem representable_far (s : Bool) (hc : 0 < c) (e : Int) (hp : Representable p) :
    p = (finite s c e).value ∨ (10 : ℚ) ^ (e - precision) ≤ |p - (finite s c e).value| := by
  obtain ⟨hlead, -⟩ := magnitude_bounds hc e
  have hdigits := (digitCount_bounds hc).1
  rcases le_or_gt ((10 : ℚ) ^ (e + digitCount c - 2)) |p| with hlarge | hsmall
  · -- both are whole numbers of these units
    obtain ⟨j, hj⟩ := hp.place hlarge
    rw [magnitude_lower j (show e - (precision : Int) ≤ _ from le_max_of_le_left (by omega))] at hj
    obtain ⟨a, ha⟩ := exists_int_of_abs hj
    have hvalue : (finite s c e).value = (signed s c * pow10 precision : Int) * 10 ^ (e - precision) := by
      rw [value, Int.cast_mul, Int.cast_natCast, cast_pow10, mul_assoc, ← ten_zpow_add]
      congr 2
      omega
    rw [ha, hvalue, ← sub_mul, abs_mul, abs_of_pos (ten_zpow_pos _), ← Int.cast_sub, ← Int.cast_abs]
    rcases eq_or_ne a (signed s c * pow10 precision) with heq | hne
    · exact .inl (by rw [heq])
    · refine .inr (le_mul_of_one_le_left (ten_zpow_pos _).le ?_)
      exact_mod_cast Int.one_le_abs (sub_ne_zero.mpr hne)
  · -- the numbers differ in the place of the leading digit
    right
    have htenth : (10 : ℚ) ^ (e + digitCount c - 1) = 10 * 10 ^ (e + digitCount c - 2) := by
      rw [show e + (digitCount c : Int) - 1 = 1 + (e + digitCount c - 2) by omega, ten_zpow_add, zpow_one]
    have hunit : (10 : ℚ) ^ (e - precision) ≤ 10 ^ (e + digitCount c - 2) :=
      ten_zpow_le (by simp only [precision]; omega)
    have hgap : |(finite s c e).value| - |p| ≤ |p - (finite s c e).value| := by
      rw [abs_sub_comm]
      exact abs_sub_abs_le_abs_sub _ _
    rw [abs_value] at hgap
    have hpos := ten_zpow_pos (e + digitCount c - 2)
    linarith

/-- A term far below another one may be replaced by a unit of the guard digits, or by nothing when it is
    zero. -/
theorem sameSide_guard (s t : Bool) (hc : 0 < c₁) (h : digitCount c₂ + guardDigits ≤ (e₁ - e₂).toNat) :
    SameSide
      ((signed s c₁ * (pow10 guardDigits : Nat) + signed t (min c₂ 1) : Int) * 10 ^ (e₁ - guardDigits))
      ((finite s c₁ e₁).value + (finite t c₂ e₂).value) := by
  have hunit : ((signed s c₁ * (pow10 guardDigits : Nat) + signed t (min c₂ 1) : Int) : ℚ) *
      10 ^ (e₁ - guardDigits) =
        (finite s c₁ e₁).value + (finite t (min c₂ 1) (e₁ - guardDigits)).value := by
    rw [value, value, Int.cast_add, Int.cast_mul, Int.cast_natCast, cast_pow10, add_mul, mul_assoc,
      ← ten_zpow_add]
    congr 3
    omega
  rw [hunit]
  have hguard : guardDigits = precision + 2 := rfl
  have hnear {c : Nat} {d : Int} (hd : d + digitCount c ≤ e₁ - guardDigits + 1) :
      |(finite t c d).value| < 10 ^ (e₁ - precision) := by
    rw [abs_value]
    exact (lt_of_digits (lt_pow10_digitCount c) d).trans_le (ten_zpow_le (by omega))
  have hone : digitCount (min c₂ 1) = 1 := by
    rcases Nat.eq_zero_or_pos c₂ with rfl | hc₂
    · decide
    · rw [Nat.min_eq_right hc₂]
      decide
  refine sameSide_of_near (hnear (by omega)) (hnear (by omega)) ?_ ?_
    fun p hp => representable_far s hc e₁ hp
  · rw [value_pos_iff, value_pos_iff, signed, signed]
    split <;> omega
  · rw [value_neg_iff, value_neg_iff, signed, signed]
    split <;> omega

theorem addAligned_fits (s t : Bool) (c₁ c₂ : Nat) (he : e₂ ≤ e₁) :
    Fits ((finite s c₁ e₁).value + (finite t c₂ e₂).value) (addAligned s c₁ e₁ t c₂ e₂) := by
  unfold addAligned
  dsimp only
  split
  · next hc =>
      have hzero : (finite s c₁ e₁).value = 0 := by simp [value_finite, hc]
      rw [hzero, zero_add]
      exact fitSum_fits _ _ _
  · next hc =>
      split
      · next hgap =>
          exact (fitSum_fits _ _ _).congr (sameSide_guard s t (Nat.pos_of_ne_zero hc) hgap)
      · have hsum : (finite s c₁ e₁).value + (finite t c₂ e₂).value =
            (signed s c₁ * (pow10 (e₁ - e₂).toNat : Nat) + signed t c₂ : Int) * 10 ^ e₂ := by
          rw [value, value, Int.cast_add, Int.cast_mul, Int.cast_natCast, add_mul, mul_assoc,
            ten_zpow_lower he]
        rw [hsum]
        exact fitSum_fits _ _ _

/-- A sum is rounded, or overflows where every representable number is smaller. -/
theorem add_fits (hx : x.isFinite) (hy : y.isFinite) : Fits (x.value + y.value) (x.add y) := by
  obtain ⟨s, c₁, e₁, rfl⟩ := isFinite_iff.mp hx
  obtain ⟨t, c₂, e₂, rfl⟩ := isFinite_iff.mp hy
  unfold add nanOfTwo?
  dsimp only
  split
  · next he => exact addAligned_fits s t c₁ c₂ he
  · next he =>
      rw [add_comm]
      exact addAligned_fits t s c₂ c₁ (not_le.mp he).le

/-- A difference is rounded, or overflows where every representable number is smaller. -/
theorem sub_fits (hx : x.isFinite) (hy : y.isFinite) : Fits (x.value - y.value) (x.sub y) := by
  have hnan : nanOfTwo? x y = none := by
    obtain ⟨s, c₁, e₁, rfl⟩ := isFinite_iff.mp hx
    obtain ⟨t, c₂, e₂, rfl⟩ := isFinite_iff.mp hy
    rfl
  rw [sub, hnan, sub_eq_add_neg, ← value_flipSign]
  exact add_fits hx (isFinite_flipSign.trans hy)

theorem abs_fits (hx : x.isFinite) : Fits |x.value| x.abs := by
  obtain ⟨s, c, e, rfl⟩ := isFinite_iff.mp hx
  have hvalue : |(finite s c e).value| = (finite false c e).value := by
    rw [abs_value, value_finite]
    rfl
  rw [hvalue]
  exact fit_fits false c e

/-! ## Sums of many amounts -/

/-- An amount that a computation has answered: finite, of a representable value that is not negative. -/
structure IsTotal (x : Decimal) : Prop where
  finite : x.isFinite
  representable : Representable x.value
  nonneg : 0 ≤ x.value

theorem isTotal_zero : zero.IsTotal := ⟨rfl, value_zero ▸ .zero, value_zero.ge⟩

/-- Totals stay totals while amounts that are not negative are added. -/
theorem IsTotal.foldlM_add {xs : List Decimal} (hx : x.IsTotal) (finite : ∀ y ∈ xs, y.isFinite)
    (nonneg : ∀ y ∈ xs, 0 ≤ y.value) (h : xs.foldlM add x = .ok r) : r.IsTotal := by
  induction xs generalizing x with
  | nil =>
      cases h
      exact hx
  | cons y rest ih =>
      rw [List.foldlM_cons] at h
      obtain ⟨z, hz, h⟩ := bind_eq_ok h
      obtain ⟨hfinite, hround⟩ := (hz ▸ add_fits hx.finite (finite y (by simp))).of_ok
      have hnonneg := add_nonneg hx.nonneg (nonneg y (by simp))
      exact ih ⟨hfinite, hround.representable, hround.nonneg hnonneg⟩
        (fun y hy => finite y (by simp [hy])) (fun y hy => nonneg y (by simp [hy])) h

/-- Nothing comes of adding zeros. -/
theorem value_foldlM_add_zeros {xs : List Decimal} (hx : x.isFinite) (h0 : x.value = 0)
    (finite : ∀ y ∈ xs, y.isFinite) (zeros : ∀ y ∈ xs, y.value = 0) (h : xs.foldlM add x = .ok r) :
    r.value = 0 := by
  induction xs generalizing x with
  | nil =>
      cases h
      exact h0
  | cons y rest ih =>
      rw [List.foldlM_cons] at h
      obtain ⟨z, hz, h⟩ := bind_eq_ok h
      obtain ⟨hfinite, hround⟩ := (hz ▸ add_fits hx (finite y (by simp))).of_ok
      rw [h0, zeros y (by simp), add_zero] at hround
      exact ih hfinite (hround.eq .zero) (fun y hy => finite y (by simp [hy]))
        (fun y hy => zeros y (by simp [hy])) h

/-- The difference of two totals is found. -/
theorem IsTotal.sub_ok (hx : x.IsTotal) (hy : y.IsTotal) :
    ∃ d, x.sub y = .ok d ∧ d.isFinite ∧ Rounded (x.value - y.value) d.value := by
  have hfits := sub_fits hx.finite hy.finite
  rcases le_total x.value y.value with hle | hle
  · refine hfits.answers hy.representable ?_
    rw [abs_of_nonpos (sub_nonpos.mpr hle)]
    linarith [hx.nonneg]
  · refine hfits.answers hx.representable ?_
    rw [abs_of_nonneg (sub_nonneg.mpr hle)]
    linarith [hy.nonneg]

/-- The absolute value of a representable number is found and exact. -/
theorem abs_of_representable (hx : x.isFinite) (h : Representable x.value) :
    ∃ a, x.abs = .ok a ∧ a.isFinite ∧ a.value = |x.value| :=
  (abs_fits hx).exact (representable_abs_iff.mpr h)

end Bookkeeping.Decimal

import Bookkeeping.Proofs.DoubleValue
import Bookkeeping.Proofs.Lists
import Bookkeeping.Store.Totals
import Mathlib.Data.Nat.Cast.Order.Field

set_option autoImplicit false

/-! # Sums of stored amounts

A sum of stored amounts is read as the sum of what is read of each of them (`KeptExactly.sum`) in two
cases. Whole numbers are kept as such and are summed as such. Whole cents are kept as doubles near to
them, and each addition rounds once more; while the errors together stay below half a cent, reading the
sum in whole cents undoes them. -/

namespace Bookkeeping

open Decimal (roundDiv digitCount value WholeCents)

namespace Binary64

variable {n d : Nat} {x y : Binary64} {q r err : ℚ}

/-! ## Rounding errors in proportion -/

/-- Half a unit of the last place, in proportion to the magnitude. -/
theorem half_surplus_le (n : Nat) : (pow2 (surplusBits n) : ℚ) / 2 ≤ n / 2 ^ 53 + 1 / 2 := by
  have hn : (0 : ℚ) ≤ n / 2 ^ 53 := by positivity
  rcases Nat.eq_zero_or_pos (surplusBits n) with h | h
  · rw [h, pow2_zero]
    push_cast
    linarith
  · have hpos : n ≠ 0 := by
      rintro rfl
      simp [surplusBits, significantBits] at h
    have hlog : n.log2 = 52 + surplusBits n := by
      unfold surplusBits significantBits at h ⊢
      omega
    have hle : pow2 52 * pow2 (surplusBits n) ≤ n := by
      rw [← pow2_add, ← hlog]
      exact Nat.log2_self_le hpos
    have hle' : (2 : ℚ) ^ 52 * pow2 (surplusBits n) ≤ n := by exact_mod_cast hle
    have hhalf : (pow2 (surplusBits n) : ℚ) / 2 ≤ n / 2 ^ 53 := by
      rw [le_div_iff₀ (by positivity)]
      linarith
    linarith

theorem roundUnits_near (n : Nat) (hd : 0 < d) :
    |(roundUnits n d : ℚ) - n / d| ≤ n / d / 2 ^ 53 + 1 / 2 := by
  have hfloor : ((n / d : Nat) : ℚ) ≤ n / d := Nat.cast_div_le
  calc |(roundUnits n d : ℚ) - n / d| ≤ (pow2 (surplusBits (n / d)) : ℚ) / 2 := roundUnits_error n hd
    _ ≤ ((n / d : Nat) : ℚ) / 2 ^ 53 + 1 / 2 := half_surplus_le _
    _ ≤ n / d / 2 ^ 53 + 1 / 2 := by gcongr

/-! ## Doubles near to a value -/

/-- The double is a number that is not negative and lies within an error of a value. -/
def Near (x : Binary64) (q err : ℚ) : Prop :=
  ∃ s u, x = .finite s u ∧ (s → u = 0) ∧ |(u : ℚ) / one - q| ≤ err

theorem Near.mono {err' : ℚ} (h : x.Near q err) (hle : err ≤ err') : x.Near q err' := by
  obtain ⟨s, u, rfl, hs, hu⟩ := h
  exact ⟨s, u, rfl, hs, hu.trans hle⟩

theorem Near.plainZero (h : x.Near q err) : x.plainZero.Near q err := by
  obtain ⟨s, u, rfl, hs, hu⟩ := h
  exact ⟨_, u, rfl, fun h => hs (Bool.and_elim_left h), hu⟩

theorem near_zero (s : Bool) : (finite s 0).Near 0 0 := by
  refine ⟨s, 0, rfl, fun _ => rfl, ?_⟩
  rw [Nat.cast_zero, zero_div, sub_zero, abs_zero]

theorem cast_one_pos : (0 : ℚ) < one := by exact_mod_cast one_pos

/-- Units that are rounded to a number of bits lie near to the exact ones. -/
theorem ofUnits_near (n : Nat) (hd : 0 < d) (hq : (n : ℚ) / d / one = q) (hlt : q < 2 ^ 64) :
    (ofUnits false (roundUnits n d)).Near q ((q + 1 / 2) / 2 ^ 53) := by
  have hone := cast_one_pos
  have hd' : (0 : ℚ) < d := by exact_mod_cast hd
  have hn : (n : ℚ) / d = q * one := by
    rw [← hq]
    field_simp
  have hbits : surplusBits (n / d) ≤ 1085 := by
    refine surplusBits_le ?_
    have hpow : significantBits + 1085 = 64 + 1074 := rfl
    have hunits : pow2 1074 = one := by rw [one]
    have hle : ((n / d : Nat) : ℚ) < (pow2 64 * one : Nat) :=
      calc ((n / d : Nat) : ℚ) ≤ n / d := Nat.cast_div_le
        _ < (2 ^ 64 : ℚ) * one := by
            rw [hn]
            exact mul_lt_mul_of_pos_right hlt hone
        _ = (pow2 64 * one : Nat) := by
            rw [Nat.cast_mul]
            rfl
    rw [hpow, pow2_add, hunits]
    exact Nat.cast_lt.mp hle
  have hfinite : roundUnits n d < infiniteUnits := by
    have hsig : significantBits = 53 := rfl
    exact (roundUnits_le n d).trans_lt (pow2_lt_pow2 (by omega))
  rw [ofUnits, if_pos hfinite]
  refine ⟨false, _, rfl, by simp, ?_⟩
  have herror := roundUnits_near n hd
  rw [hn] at herror
  have hscale : (roundUnits n d : ℚ) / one - q = (roundUnits n d - q * one) / one := by
    rw [sub_div, mul_div_cancel_right₀ q hone.ne']
  rw [hscale, abs_div, abs_of_pos hone, div_le_iff₀ hone]
  have hhalf : (1 : ℚ) / 2 ≤ 1 / 2 / 2 ^ 53 * one := by
    have hle : pow2 53 ≤ one := pow2_le_pow2 (by omega)
    have hle' : (2 : ℚ) ^ 53 ≤ one := by exact_mod_cast hle
    linarith
  calc |(roundUnits n d : ℚ) - q * one| ≤ q * one / 2 ^ 53 + 1 / 2 := herror
    _ ≤ q * one / 2 ^ 53 + 1 / 2 / 2 ^ 53 * one := by gcongr
    _ = (q + 1 / 2) / 2 ^ 53 * one := by ring

theorem ofRatio_near (n : Nat) (hd : 0 < d) (hq : (n : ℚ) / d = q) (hlt : q < 2 ^ 64) :
    (ofRatio false n d).Near q ((q + 1 / 2) / 2 ^ 53) := by
  refine ofUnits_near (n * one) hd ?_ hlt
  have hone := cast_one_pos
  rw [← hq, Nat.cast_mul]
  field_simp

/-- A sum of doubles near to two values is near to their sum. -/
theorem Near.add {err' : ℚ} (hx : x.Near q err) (hy : y.Near r err')
    (hlt : q + r + err + err' < 2 ^ 64) :
    (x.add y).Near (q + r) (err + err' + (q + r + err + err' + 1 / 2) / 2 ^ 53) := by
  obtain ⟨s, u, rfl, hs, hu⟩ := hx
  obtain ⟨t, w, rfl, ht, hw⟩ := hy
  have hsum : Decimal.signed s u + Decimal.signed t w = ((u + w : Nat) : Int) := by
    have signed_eq (b : Bool) (c : Nat) (h : b → c = 0) : Decimal.signed b c = c := by
      cases b
      · rfl
      · rw [h rfl]
        rfl
    rw [signed_eq s u hs, signed_eq t w ht, Nat.cast_add]
  have hexact : |((u + w : Nat) : ℚ) / one - (q + r)| ≤ err + err' := by
    have hsplit : ((u + w : Nat) : ℚ) / one - (q + r) = (u / one - q) + (w / one - r) := by
      push_cast
      ring
    rw [hsplit]
    exact (abs_add_le _ _).trans (add_le_add hu hw)
  have hle : ((u + w : Nat) : ℚ) / one ≤ q + r + err + err' := by
    have := (abs_le.mp hexact).2
    linarith
  have hnear := ofUnits_near (u + w) (q := ((u + w : Nat) : ℚ) / one) Nat.one_pos
    (by rw [Nat.cast_one, div_one]) (hle.trans_lt hlt)
  unfold add
  dsimp only
  rw [hsum]
  by_cases hzero : ((u + w : Nat) : Int) = 0
  · rw [if_pos hzero]
    have hzero' : u + w = 0 := by exact_mod_cast hzero
    refine ⟨_, 0, rfl, fun _ => rfl, ?_⟩
    rw [hzero', Nat.cast_zero] at hexact
    rw [hzero', Nat.cast_zero, zero_div] at hle
    refine hexact.trans ?_
    have : 0 ≤ (q + r + err + err' + 1 / 2) / 2 ^ 53 := div_nonneg (by linarith) (by positivity)
    linarith
  · rw [if_neg hzero, Int.natAbs_natCast, decide_eq_false (by omega)]
    obtain ⟨b, v, hv, hb, hvw⟩ := hnear
    refine ⟨b, v, hv, hb, ?_⟩
    calc |(v : ℚ) / one - (q + r)|
        ≤ |(v : ℚ) / one - ((u + w : Nat) : ℚ) / one| +
          |((u + w : Nat) : ℚ) / one - (q + r)| := abs_sub_le _ _ _
      _ ≤ (((u + w : Nat) : ℚ) / one + 1 / 2) / 2 ^ 53 + (err + err') := add_le_add hvw hexact
      _ ≤ err + err' + (q + r + err + err' + 1 / 2) / 2 ^ 53 := by
          rw [add_comm]
          gcongr

/-- A double that is near enough to whole cents is read as these cents. -/
theorem Near.toDecimal (h : x.Near q err) (herr : err ≤ 1 / 256) (whole : WholeCents q)
    (nonneg : 0 ≤ q) : (x.toDecimal 2).isFinite ∧ (x.toDecimal 2).value = q := by
  obtain ⟨s, u, rfl, hs, hu⟩ := h
  obtain ⟨k, rfl⟩ := whole
  have hk : 0 ≤ k := by
    by_contra hneg
    have : (k : ℚ) < 0 := by exact_mod_cast not_le.mp hneg
    linarith
  obtain ⟨m, rfl⟩ := Int.eq_ofNat_of_zero_le hk
  have hcents : roundDiv .toEven (u * 100) one = m := by
    refine Decimal.roundDiv_eq .toEven one_pos ?_
    have hscale : (m : ℚ) - (u * 100 : Nat) / one = -(u / one - (m : ℤ) / 100) * 100 := by
      push_cast
      ring
    rw [hscale, abs_mul, abs_neg, abs_of_pos (by norm_num : (0 : ℚ) < 100)]
    linarith
  refine ⟨rfl, ?_⟩
  rw [value_toDecimal, cents, hcents]
  cases s
  · rfl
  · obtain rfl := hs rfl
    rw [Nat.zero_mul, roundDiv_zero] at hcents
    rw [← hcents]
    rfl

/-- The double of whole cents that are not too many. -/
theorem ofDecimal_near {a : Decimal} (ha : a.isFinite) (whole : WholeCents a.value)
    (nonneg : 0 ≤ a.value) (hlt : a.value < 2 ^ 64) :
    (ofDecimal a).Near a.value ((a.value + 1 / 2) / 2 ^ 53) := by
  obtain ⟨s, c, e, rfl⟩ := Decimal.isFinite_iff.mp ha
  rcases Nat.eq_zero_or_pos c with rfl | hc
  · have hzero : (Decimal.finite s 0 e).value = 0 := by simp [Decimal.value_finite]
    rw [hzero]
    exact (near_zero s).mono (by positivity)
  · obtain rfl := Decimal.sign_of_nonneg hc nonneg
    have hcents : Decimal.IsCents (Decimal.finite false c e).value := by
      refine ⟨whole, ?_⟩
      rw [abs_of_nonneg nonneg]
      exact hlt.trans (by norm_num)
    rw [ofDecimal_eq_ofRatio hc hcents]
    refine ofRatio_near _ (pow10_pos _) ?_ hlt
    rw [ratio_eq, Decimal.value_finite]
    rfl

/-! ## Whole numbers -/

/-- A ratio that is a whole number of few bits is a double. -/
theorem ofRatio_whole {m : Nat} (hd : 0 < d) (hm : m < 2 ^ 53) :
    ofRatio false (m * d) d = .finite false (m * one) := by
  have hlt : m * one < pow2 (significantBits + 1074) := by
    have hunits : pow2 (significantBits + 1074) = pow2 53 * one := by
      rw [one, ← pow2_add, significantBits]
    rw [hunits]
    exact Nat.mul_lt_mul_of_pos_right hm one_pos
  have hdvd : pow2 (surplusBits (m * one)) ∣ m * one :=
    (pow2_dvd_pow2 (surplusBits_le hlt)).trans (Dvd.intro_left m rfl)
  have hfinite : m * one < infiniteUnits := by
    have hsig : significantBits = 53 := rfl
    exact hlt.trans (pow2_lt_pow2 (by omega))
  rw [ofRatio, Nat.mul_right_comm, roundUnits_mul hd hdvd, ofUnits, if_pos hfinite]

/-- The double of a whole number of few bits. -/
theorem ofDecimal_whole {a : Decimal} (ha : a.isFinite) {m : Nat} (hv : a.value = m)
    (hm : m < 2 ^ 53) : ∃ s, ofDecimal a = .finite s (m * one) ∧ (s → m = 0) := by
  obtain ⟨s, c, e, rfl⟩ := Decimal.isFinite_iff.mp ha
  have hm' : (m : ℚ) < 2 ^ 53 := by exact_mod_cast hm
  rcases Nat.eq_zero_or_pos c with rfl | hc
  · have hzero : (Decimal.finite s 0 e).value = 0 := by simp [Decimal.value_finite]
    obtain rfl : m = 0 := by exact_mod_cast hv.symm.trans hzero
    refine ⟨s, ?_, fun _ => rfl⟩
    rw [ofDecimal, if_pos rfl, Nat.zero_mul]
  · obtain rfl := Decimal.sign_of_nonneg hc (hv ▸ Nat.cast_nonneg m)
    have hcents : Decimal.IsCents (Decimal.finite false c e).value := by
      rw [hv]
      refine ⟨⟨m * 100, by push_cast; ring⟩, ?_⟩
      rw [Nat.abs_cast]
      exact hm'.trans (by norm_num)
    rw [Decimal.value_finite, if_neg Bool.false_ne_true, ← ratio_eq,
      div_eq_iff (by exact_mod_cast (pow10_pos _).ne')] at hv
    have hnum : c * pow10 e.toNat = m * pow10 (-e).toNat := by exact_mod_cast hv
    rw [ofDecimal_eq_ofRatio hc hcents, hnum, ofRatio_whole (pow10_pos _) hm]
    exact ⟨false, rfl, by simp⟩

theorem toInt?_whole {s : Bool} {m : Nat} (hs : s → m = 0) :
    (finite s (m * one)).toInt? = some (m : Int) := by
  unfold toInt?
  dsimp only
  rw [if_pos (Nat.mul_mod_left m one), Nat.mul_div_cancel m one_pos]
  cases s
  · rfl
  · rw [hs rfl]
    rfl

/-- A double that is a whole number is so many ones. -/
theorem units_of_toInt? {s : Bool} {u : Nat} {n : Int} (h : (finite s u).toInt? = some n)
    (hs : s → u = 0) : 0 ≤ n ∧ (n : ℚ) = u / one := by
  unfold toInt? at h
  dsimp only at h
  split at h
  · next hmod =>
      have hu : u / one * one = u := Nat.div_mul_cancel (Nat.dvd_of_mod_eq_zero hmod)
      have hn : n = ((u / one : Nat) : Int) := by
        rw [← Option.some.inj h]
        cases s
        · rfl
        · rw [hs rfl, Nat.zero_div]
          rfl
      rw [hn]
      refine ⟨Int.natCast_nonneg _, ?_⟩
      rw [eq_div_iff cast_one_pos.ne', Int.cast_natCast]
      exact_mod_cast hu
  · cases h

end Binary64

namespace Cell

variable {a : Decimal} {c : Cell} {cells cells' : List Cell} {q err : ℚ}

/-! ## Stored amounts -/

/-- The value that is read of a stored amount. -/
def amount (c : Cell) : ℚ := c.toDecimal.value

/-- A whole number, kept as such. -/
def IsWhole (c : Cell) : Prop := ∃ n : Nat, c = .int n ∧ n < 2 ^ 53

/-- Whole cents, kept as a double near to them. -/
structure IsCents (c : Cell) : Prop where
  finite : c.toDecimal.isFinite
  whole : WholeCents c.amount
  nonneg : 0 ≤ c.amount
  near : c.toBinary64.Near c.amount ((c.amount + 1 / 2) / 2 ^ 53)
  /-- A cell that is a whole number is near to the cents as that number. -/
  exact : ∀ n, c = .int n → 0 ≤ n ∧ |(n : ℚ) - c.amount| ≤ (c.amount + 1 / 2) / 2 ^ 53

theorem toDecimal_int {n : Nat} (h : n < 2 ^ 53) :
    (int n).toDecimal.isFinite ∧ (int n).amount = n := by
  have hunits : (int n).toBinary64 = .finite false (n * Binary64.one) := by
    have hratio := Binary64.ofRatio_whole (d := 1) Nat.one_pos h
    rw [Nat.mul_one] at hratio
    rw [toBinary64, Binary64.ofInt, Int.natAbs_natCast, decide_eq_false (by omega), hratio]
  rw [amount, toDecimal, Binary64.isFinite_toDecimal, Binary64.value_toDecimal, hunits,
    Binary64.cents, Nat.mul_right_comm, Decimal.roundDiv_mul_self _ _ Binary64.one_pos]
  refine ⟨rfl, ?_⟩
  simp [Decimal.signed]

theorem IsWhole.amount_eq (h : c.IsWhole) :
    c.toDecimal.isFinite ∧ WholeCents c.amount ∧ 0 ≤ c.amount := by
  obtain ⟨n, rfl, hn⟩ := h
  obtain ⟨hfinite, hvalue⟩ := toDecimal_int hn
  rw [hvalue]
  exact ⟨hfinite, ⟨n * 100, by push_cast; ring⟩, Nat.cast_nonneg n⟩

/-- A whole number is written as such. -/
theorem isWhole_of_ofDecimal? (h : ofDecimal? a = some c) (ha : a.isFinite) {n : Nat}
    (hv : a.value = n) (hn : n < 2 ^ 53) : c.IsWhole ∧ c.amount = a.value := by
  obtain ⟨s, hx, hs⟩ := Binary64.ofDecimal_whole ha hv hn
  have hc : c = .int n := by
    rw [← ofBinary64_of_ofDecimal? h, hx, ofBinary64, Binary64.toInt?_whole hs]
    dsimp only
    rw [if_pos (by simp only [minInt, maxInt]; omega)]
  subst hc
  rw [hv]
  exact ⟨⟨n, rfl, hn⟩, (toDecimal_int hn).2⟩

/-- Whole cents are written as a double near to them. -/
theorem isCents_of_ofDecimal? (h : ofDecimal? a = some c) (ha : a.isFinite)
    (whole : WholeCents a.value) (nonneg : 0 ≤ a.value) (hlt : a.value < 2 ^ 46) :
    c.IsCents ∧ c.amount = a.value := by
  obtain ⟨hfinite, hvalue⟩ := toDecimal_ofDecimal? h
  obtain ⟨hx, hcents⟩ := Binary64.cents_exact ha whole nonneg hlt
  have hamount : c.amount = a.value := hvalue.trans hcents
  have hnear := Binary64.ofDecimal_near ha whole nonneg (hlt.trans (by norm_num))
  refine ⟨⟨hfinite.trans hx, hamount ▸ whole, hamount ▸ nonneg, ?_, ?_⟩, hamount⟩
  · rw [hamount]
    rcases toBinary64_ofDecimal? h with hc | hc
    · rw [hc]
      exact hnear
    · rw [hc]
      exact hnear.plainZero
  · rintro n rfl
    rw [hamount]
    obtain ⟨s, u, hx, hs, hu⟩ := hnear
    have hn := ofBinary64_of_ofDecimal? h
    rw [hx, ofBinary64] at hn
    split at hn
    · next m hm =>
        split at hn <;> cases hn
        obtain ⟨h0, hunits⟩ := Binary64.units_of_toInt? hm hs
        rw [hunits]
        exact ⟨h0, hu⟩
    · cases hn

/-! ## Running sums -/

theorem amount_nonneg_sum (h : ∀ c ∈ cells, 0 ≤ c.amount) : 0 ≤ (cells.map amount).sum := by
  refine List.sum_nonneg fun q hq => ?_
  obtain ⟨c, hc, rfl⟩ := List.mem_map.mp hq
  exact h c hc

theorem RunningSum.add_int {s : RunningSum} {n : Int} (exact : s.approximate = false)
    (hfits : Cell.fits (s.exact + n) = true) :
    s.add (.int n) = { s with exact := s.exact + n, real := s.real.add (int n).toBinary64 } := by
  simp [RunningSum.add, exact, hfits]

theorem RunningSum.add_int_of_approximate {s : RunningSum} {n : Int}
    (approximate : s.approximate = true) :
    s.add (.int n) = { s with real := s.real.add (int n).toBinary64 } := by
  simp [RunningSum.add, approximate]

theorem fits_of_nonneg {n : Int} (h : 0 ≤ n) (hlt : n < 2 ^ 63) : Cell.fits n = true := by
  rw [Cell.fits, Bool.and_eq_true, decide_eq_true_iff, decide_eq_true_iff, minInt, maxInt]
  omega

/-- Whole numbers are added up as whole numbers. -/
theorem foldl_whole (h : ∀ c ∈ cells, c.IsWhole) {s : RunningSum} {n : Nat} (hn : s.exact = n)
    (exact : s.approximate = false) (fits : s.overflowed = false)
    (hlt : n + (cells.map amount).sum < 2 ^ 53) :
    ∃ m : Nat, (cells.foldl RunningSum.add s).value? = some (.int m) ∧
      (m : ℚ) = n + (cells.map amount).sum := by
  induction cells generalizing s n with
  | nil =>
      refine ⟨n, ?_, by simp⟩
      rw [List.foldl_nil, RunningSum.value?, fits, exact, hn]
      rfl
  | cons c rest ih =>
      obtain ⟨k, rfl, hk⟩ := h c (by simp)
      have hrest : ∀ c ∈ rest, c.IsWhole := fun c hc => h c (by simp [hc])
      have hnonneg := amount_nonneg_sum fun c hc => (hrest c hc).amount_eq.2.2
      rw [List.map_cons, List.sum_cons, (toDecimal_int hk).2, ← add_assoc, ← Nat.cast_add] at hlt ⊢
      have hsmall : ((n + k : Nat) : ℚ) < 2 ^ 53 := by linarith
      have hsmall' : n + k < 2 ^ 53 := by exact_mod_cast hsmall
      have hfits : Cell.fits (s.exact + k) = true := fits_of_nonneg (by omega) (by omega)
      rw [List.foldl_cons, RunningSum.add_int exact hfits]
      refine ih hrest (n := n + k) ?_ exact fits hlt
      rw [hn, Nat.cast_add]

/-- A sum in progress is near to a value. -/
structure RunningSum.Near (s : RunningSum) (q err : ℚ) : Prop where
  real : s.real.Near q err
  exact : s.approximate = false → 0 ≤ s.exact ∧ |(s.exact : ℚ) - q| ≤ err
  fits : s.overflowed = false

/-- Adding whole cents comes with the error of the cell and one of rounding; `total` is the sum of all
    cells. -/
theorem RunningSum.Near.add {s : RunningSum} {total : ℚ} (h : s.Near q err) (hc : c.IsCents)
    (hq : 0 ≤ q) (hle : q + c.amount ≤ total) (htotal : total ≤ 2 ^ 44) (herr : err ≤ 1 / 256) :
    (s.add c).Near (q + c.amount) (err + (total + 1) / 2 ^ 52) := by
  have h0 := hc.nonneg
  -- the error of the cell, and of the rounding of the sum
  have hcell : (c.amount + 1 / 2) / 2 ^ 53 ≤ (total + 1 / 2) / 2 ^ 53 := by
    gcongr
    linarith
  have hsmall : (total + 1 / 2) / 2 ^ 53 ≤ 1 / 256 := by
    rw [div_le_iff₀ (by positivity)]
    linarith
  have hround : (q + c.amount + err + (c.amount + 1 / 2) / 2 ^ 53 + 1 / 2) / 2 ^ 53 ≤
      (total + 3 / 2) / 2 ^ 53 := by
    refine div_le_div_of_nonneg_right ?_ (by positivity)
    linarith
  have hboth : err + (c.amount + 1 / 2) / 2 ^ 53 +
      (q + c.amount + err + (c.amount + 1 / 2) / 2 ^ 53 + 1 / 2) / 2 ^ 53 ≤
        err + (total + 1) / 2 ^ 52 := by
    have hsplit : (total + 1) / 2 ^ 52 = (total + 1 / 2) / 2 ^ 53 + (total + 3 / 2) / 2 ^ 53 := by
      ring
    linarith
  have hreal : (s.real.add c.toBinary64).Near (q + c.amount) (err + (total + 1) / 2 ^ 52) := by
    refine (h.real.add hc.near ?_).mono hboth
    linarith
  cases c with
  | real x =>
      exact ⟨hreal, nofun, h.fits⟩
  | int n =>
      obtain ⟨hn0, hn⟩ := hc.exact n rfl
      cases happroximate : s.approximate with
      | true =>
          rw [RunningSum.add_int_of_approximate happroximate]
          exact ⟨hreal, fun hfalse => absurd (happroximate.symm.trans hfalse) (by simp), h.fits⟩
      | false =>
          obtain ⟨hs0, hs⟩ := h.exact happroximate
          have hsum : |((s.exact + n : Int) : ℚ) - (q + (int n).amount)| ≤
              err + ((int n).amount + 1 / 2) / 2 ^ 53 := by
            have hsplit : ((s.exact + n : Int) : ℚ) - (q + (int n).amount) =
                (s.exact - q) + (n - (int n).amount) := by
              push_cast
              ring
            rw [hsplit]
            exact (abs_add_le _ _).trans (add_le_add hs hn)
          have hpositive : 0 ≤ (total + 3 / 2) / 2 ^ 53 := div_nonneg (by linarith) (by positivity)
          have hfits : Cell.fits (s.exact + n) = true := by
            refine fits_of_nonneg (add_nonneg hs0 hn0) ?_
            have hle' : ((s.exact + n : Int) : ℚ) ≤ (2 ^ 62 : Int) := by
              have := (abs_le.mp hsum).2
              push_cast at this ⊢
              linarith
            exact (Int.cast_le.mp hle').trans_lt (by norm_num)
          rw [RunningSum.add_int happroximate hfits]
          refine ⟨hreal, fun _ => ⟨add_nonneg hs0 hn0, hsum.trans ?_⟩, h.fits⟩
          linarith

theorem foldl_near (h : ∀ c ∈ cells, c.IsCents) {s : RunningSum} {total : ℚ} (hs : s.Near q err)
    (hq : 0 ≤ q) (hle : q + (cells.map amount).sum ≤ total) (htotal : total ≤ 2 ^ 44)
    (herr : err + cells.length * ((total + 1) / 2 ^ 52) ≤ 1 / 256) :
    (cells.foldl RunningSum.add s).Near (q + (cells.map amount).sum)
      (err + cells.length * ((total + 1) / 2 ^ 52)) := by
  induction cells generalizing s q err with
  | nil => simpa using hs
  | cons c rest ih =>
      have hc := h c (by simp)
      have hrest : ∀ c ∈ rest, c.IsCents := fun c hc => h c (by simp [hc])
      have hnonneg := amount_nonneg_sum fun c hc => (hrest c hc).nonneg
      have h0 := hc.nonneg
      rw [List.map_cons, List.sum_cons, ← add_assoc] at hle ⊢
      have hstep : 0 ≤ (total + 1) / 2 ^ 52 := div_nonneg (by linarith) (by positivity)
      have hlater : 0 ≤ (rest.length : ℚ) * ((total + 1) / 2 ^ 52) := by positivity
      have hsplit : err + ((c :: rest).length : ℚ) * ((total + 1) / 2 ^ 52) =
          err + (total + 1) / 2 ^ 52 + rest.length * ((total + 1) / 2 ^ 52) := by
        rw [List.length_cons]
        push_cast
        ring
      rw [hsplit] at herr ⊢
      have hnext : q + c.amount ≤ total := by linarith
      have hadd := hs.add hc hq hnext htotal (by linarith)
      exact ih hrest hadd (add_nonneg hq h0) hle herr

theorem near_start : RunningSum.Near {} 0 0 :=
  ⟨Binary64.near_zero false, fun _ => ⟨Int.le_refl 0, by simp⟩, rfl⟩

/-- A sum that is near to whole cents is read as these cents. -/
theorem RunningSum.Near.value {s : RunningSum} (h : s.Near q err) (herr : err ≤ 1 / 256)
    (whole : WholeCents q) (nonneg : 0 ≤ q) (hlt : q < 2 ^ 44) :
    ∃ c, s.value? = some c ∧ c.toDecimal.isFinite ∧ c.amount = q := by
  unfold value?
  rw [h.fits]
  cases happroximate : s.approximate with
  | true => exact ⟨_, rfl, h.real.toDecimal herr whole nonneg⟩
  | false =>
      obtain ⟨h0, hnear⟩ := h.exact happroximate
      obtain ⟨n, hn⟩ := Int.eq_ofNat_of_zero_le h0
      -- a whole number that is near to whole cents is these cents
      have hq : (n : ℚ) = q := by
        obtain ⟨k, rfl⟩ := whole
        rw [hn, Int.cast_natCast] at hnear
        have hbound := abs_le.mp (hnear.trans herr)
        have hlow : (k : ℚ) - 1 < (n * 100 : Int) := by
          push_cast
          linarith
        have hhigh : ((n * 100 : Int) : ℚ) < k + 1 := by
          push_cast
          linarith
        have hlow' : k - 1 < (n * 100 : Int) := by exact_mod_cast hlow
        have hhigh' : (n * 100 : Int) < k + 1 := by exact_mod_cast hhigh
        have hk : k = n * 100 := by omega
        rw [hk]
        push_cast
        ring
      have hsmall : n < 2 ^ 53 := by
        rw [← hq] at hlt
        have hlt' : (n : ℚ) < (2 ^ 53 : Nat) := hlt.trans (by norm_num)
        exact_mod_cast hlt'
      obtain ⟨hfinite, hamount⟩ := toDecimal_int hsmall
      refine ⟨.int n, ?_, hfinite, hamount.trans hq⟩
      rw [hn]
      rfl

/-! ## Amounts that are summed exactly -/

/-- Amounts that the store sums exactly: whole numbers, or whole cents that are neither too many nor too
    large. -/
inductive KeptExactly (cells : List Cell) : Prop where
  | whole (each : ∀ c ∈ cells, c.IsWhole) (lt : (cells.map amount).sum < 2 ^ 53)
  | cents (each : ∀ c ∈ cells, c.IsCents)
      (le : cells.length * ((cells.map amount).sum + 1) ≤ 2 ^ 44)

namespace KeptExactly

theorem each (h : KeptExactly cells) (hc : c ∈ cells) :
    c.toDecimal.isFinite ∧ WholeCents c.amount ∧ 0 ≤ c.amount := by
  cases h with
  | whole each _ => exact (each c hc).amount_eq
  | cents each _ => exact ⟨(each c hc).finite, (each c hc).whole, (each c hc).nonneg⟩

/-- What holds of amounts holds of some of them, in any order. -/
theorem subperm (h : KeptExactly cells) (sub : cells'.Subperm cells) : KeptExactly cells' := by
  have hle := sum_map_le_of_subperm (fun c hc => (h.each hc).2.2) sub
  cases h with
  | whole each lt => exact .whole (fun c hc => each c (sub.subset hc)) (hle.trans_lt lt)
  | cents each le =>
      refine .cents (fun c hc => each c (sub.subset hc)) (le_trans ?_ le)
      have hlength : (cells'.length : ℚ) ≤ cells.length := by exact_mod_cast sub.length_le
      have hnonneg := amount_nonneg_sum fun c hc => (each c (sub.subset hc)).nonneg
      exact mul_le_mul hlength (by linarith) (by linarith) (by positivity)

theorem sum_facts (h : KeptExactly cells) :
    WholeCents (cells.map amount).sum ∧ 0 ≤ (cells.map amount).sum := by
  refine ⟨?_, amount_nonneg_sum fun c hc => (h.each hc).2.2⟩
  have whole : ∀ c ∈ cells, WholeCents c.amount := fun c hc => (h.each hc).2.1
  clear h
  induction cells with
  | nil => exact .zero
  | cons c rest ih =>
      rw [List.map_cons, List.sum_cons]
      exact (whole c (by simp)).add (ih fun c hc => whole c (by simp [hc]))

theorem sum_lt_of_cents (each : ∀ c ∈ cells, c.IsCents)
    (le : cells.length * ((cells.map amount).sum + 1) ≤ 2 ^ 44) : (cells.map amount).sum < 2 ^ 44 := by
  have hnonneg := amount_nonneg_sum fun c hc => (each c hc).nonneg
  rcases Nat.eq_zero_or_pos cells.length with hzero | hpos
  · rw [List.length_eq_zero_iff] at hzero
    rw [hzero]
    norm_num
  · have hone : (1 : ℚ) ≤ cells.length := by exact_mod_cast hpos
    have hle := le_mul_of_one_le_left (by linarith : 0 ≤ (cells.map amount).sum + 1) hone
    linarith

theorem sum_lt (h : KeptExactly cells) : (cells.map amount).sum < 2 ^ 53 := by
  cases h with
  | whole _ lt => exact lt
  | cents each le => exact (sum_lt_of_cents each le).trans (by norm_num)

/-- The sum is read as the sum of what is read of each amount. -/
theorem sum (h : KeptExactly cells) :
    ∃ d, Store.sumCells cells = .ok d ∧ d.isFinite ∧ d.value = (cells.map amount).sum := by
  have of_cell {c : Cell} (hc : (cells.foldl RunningSum.add {}).value? = some c) :
      Store.sumCells cells = .ok c.toDecimal := by
    rw [Store.sumCells, sum?, hc]
  cases h with
  | whole each lt =>
      obtain ⟨n, hn, hsum⟩ := foldl_whole each (s := {}) (n := 0) rfl rfl rfl (by simpa using lt)
      have hn' : n < 2 ^ 53 := by
        rw [Nat.cast_zero, zero_add] at hsum
        rw [← hsum] at lt
        exact_mod_cast lt
      obtain ⟨hfinite, hamount⟩ := toDecimal_int hn'
      exact ⟨_, of_cell hn, hfinite, hamount.trans (by simpa using hsum)⟩
  | cents each le =>
      obtain ⟨whole, nonneg⟩ := sum_facts (.cents each le)
      have hlt := sum_lt_of_cents each le
      have herr : 0 + cells.length * (((cells.map amount).sum + 1) / 2 ^ 52) ≤ 1 / 256 := by
        rw [zero_add, ← mul_div_assoc, div_le_iff₀ (by positivity)]
        linarith
      have hnear := foldl_near each near_start le_rfl (zero_add _).le hlt.le herr
      rw [zero_add] at hnear
      obtain ⟨c, hc, hfinite, hamount⟩ := hnear.value herr whole nonneg hlt
      exact ⟨_, of_cell hc, hfinite, hamount⟩

end KeptExactly

end Cell

/-! ## Amounts as they are given -/

/-- Amounts that are summed exactly once they are stored: whole numbers below `2 ^ 53` in total, or whole
    cents of which the number times the total is not too large for sums of doubles. -/
inductive Decimal.SumExactly (given : List Decimal) : Prop where
  | whole (each : ∀ a ∈ given, ∃ n : Int, a.value = n)
      (lt : (given.map Decimal.value).sum < 2 ^ 53)
  | cents (each : ∀ a ∈ given, WholeCents a.value)
      (le : given.length * ((given.map Decimal.value).sum + 1) ≤ 2 ^ 44)

namespace Decimal.SumExactly

open Cell (KeptExactly ofDecimal?)

variable {given chosen : List Decimal} {cells : List Cell}

theorem le_sum {a : Decimal} (nonneg : ∀ a ∈ given, 0 ≤ a.value) (ha : a ∈ given) :
    a.value ≤ (given.map Decimal.value).sum := by
  refine List.single_le_sum (fun q hq => ?_) _ (List.mem_map_of_mem ha)
  obtain ⟨b, hb, rfl⟩ := List.mem_map.mp hq
  exact nonneg b hb

theorem wholeCents (h : SumExactly given) : ∀ a ∈ given, WholeCents a.value := by
  cases h with
  | whole each lt =>
      intro a ha
      obtain ⟨n, hn⟩ := each a ha
      exact ⟨n * 100, by rw [hn]; push_cast; ring⟩
  | cents each le => exact each

/-- Some of the amounts are kept so that they are summed exactly. -/
theorem kept (h : SumExactly given) (plain : ∀ a ∈ given, a.isFinite ∧ 0 ≤ a.value)
    (sub : chosen.Subperm given)
    (stored : List.Forall₂ (fun a c => ofDecimal? a = some c) chosen cells) :
    KeptExactly cells ∧ cells.map Cell.amount = chosen.map Decimal.value := by
  have nonneg : ∀ a ∈ given, 0 ≤ a.value := fun a ha => (plain a ha).2
  have hsum := sum_map_le_of_subperm nonneg sub
  cases h with
  | whole each lt =>
      have cell {a : Decimal} (ha : a ∈ chosen) {c : Cell} (hc : ofDecimal? a = some c) :
          c.IsWhole ∧ c.amount = a.value := by
        obtain ⟨n, hn⟩ := each a (sub.subset ha)
        have h0 : (0 : ℚ) ≤ n := hn ▸ nonneg a (sub.subset ha)
        obtain ⟨m, rfl⟩ := Int.eq_ofNat_of_zero_le (Int.cast_nonneg_iff.mp h0)
        rw [Int.cast_natCast] at hn
        have hm : (m : ℚ) < (2 ^ 53 : Nat) := by
          rw [← hn]
          exact (le_sum nonneg (sub.subset ha)).trans_lt (lt.trans_eq (by norm_num))
        exact Cell.isWhole_of_ofDecimal? hc (plain a (sub.subset ha)).1 hn (by exact_mod_cast hm)
      have hsame := map_eq_of_forall₂ stored fun a ha c hc => (cell ha hc).2
      refine ⟨.whole (fun c hc => ?_) (hsame ▸ hsum.trans_lt lt), hsame⟩
      obtain ⟨a, ha, hac⟩ := exists_left_of_forall₂ stored hc
      exact (cell ha hac).1
  | cents each le =>
      have cell {a : Decimal} (ha : a ∈ chosen) {c : Cell} (hc : ofDecimal? a = some c) :
          c.IsCents ∧ c.amount = a.value := by
        have hle := le_sum nonneg (sub.subset ha)
        have h0 := nonneg a (sub.subset ha)
        have hone : (1 : ℚ) ≤ given.length := by
          exact_mod_cast List.length_pos_of_mem (sub.subset ha)
        have hmul := le_mul_of_one_le_left
          (by linarith : 0 ≤ (given.map Decimal.value).sum + 1) hone
        exact Cell.isCents_of_ofDecimal? hc (plain a (sub.subset ha)).1 (each a (sub.subset ha)) h0
          (by linarith)
      have hsame := map_eq_of_forall₂ stored fun a ha c hc => (cell ha hc).2
      have hlength : (cells.length : ℚ) ≤ given.length := by
        rw [← stored.length_eq]
        exact_mod_cast sub.length_le
      have hnonneg : 0 ≤ (chosen.map Decimal.value).sum := by
        refine List.sum_nonneg fun q hq => ?_
        obtain ⟨a, ha, rfl⟩ := List.mem_map.mp hq
        exact nonneg a (sub.subset ha)
      refine ⟨.cents (fun c hc => ?_) (le_trans ?_ le), hsame⟩
      · obtain ⟨a, ha, hac⟩ := exists_left_of_forall₂ stored hc
        exact (cell ha hac).1
      · rw [hsame]
        exact mul_le_mul hlength (by linarith) (by linarith) (by positivity)

end Decimal.SumExactly

end Bookkeeping

import Bookkeeping.Proofs.Balances

set_option autoImplicit false

/-! # Bounds of sums

The store sums amounts of any kind and number without a failure as long as their exact total stays below
`2 ^ 63` (`Cell.sum_within`). Whole numbers are then summed within 64 bits. A sum of doubles is rounded
with every amount that is added, but never away from the exact sum by more than that amount, because
the sum so far is a double itself (`roundUnits_le_add`): so it stays below twice the exact total,
however many amounts there are. -/

namespace Bookkeeping

namespace Binary64

variable {n m u v : Nat} {x y : Binary64}

/-! ## Rounding a sum -/

theorem roundUnits_mul_le (n d : Nat) : roundUnits n d * d ≤ 2 * n := by
  unfold roundUnits
  dsimp only
  rw [Nat.mul_assoc, Nat.mul_comm (pow2 _) d]
  exact Decimal.roundDiv_mul_le .toEven n _

/-- A number of units that rounding keeps does not lie beyond the last place of a larger one. -/
theorem le_floor_of_dvd (hn : pow2 (surplusBits n) ∣ n) (hle : n ≤ m) :
    n ≤ m / pow2 (surplusBits m) * pow2 (surplusBits m) := by
  by_cases hsurplus : surplusBits m ≤ surplusBits n
  · obtain ⟨q, hq⟩ := (pow2_dvd_pow2 hsurplus).trans hn
    rw [Nat.mul_comm] at hq
    rw [hq] at hle ⊢
    exact Nat.mul_le_mul_right _ ((Nat.le_div_iff_mul_le (pow2_pos _)).mpr hle)
  · -- a power of two lies in between
    have hlog : m.log2 = 52 + surplusBits m := by
      unfold surplusBits significantBits at hsurplus ⊢
      omega
    have hm : m ≠ 0 := by
      rintro rfl
      simp [surplusBits, significantBits] at hsurplus
    have hpower : pow2 52 * pow2 (surplusBits m) ≤ m := by
      rw [← pow2_add, ← hlog]
      exact Nat.log2_self_le hm
    have hsmall : n < pow2 52 * pow2 (surplusBits m) := by
      rw [← pow2_add]
      have hbits : significantBits = 53 := rfl
      exact (lt_pow2_surplusBits n).trans_le (pow2_le_pow2 (by omega))
    refine hsmall.le.trans (Nat.mul_le_mul_right _ ?_)
    exact (Nat.le_div_iff_mul_le (pow2_pos _)).mpr hpower

/-- A larger number of units is rounded by no more than what it is larger by. -/
theorem roundUnits_le_add (hn : pow2 (surplusBits n) ∣ n) (hle : n ≤ m) :
    roundUnits m 1 + n ≤ 2 * m := by
  have hfloor := le_floor_of_dvd hn hle
  unfold roundUnits
  dsimp only
  rw [Nat.div_one, Nat.one_mul]
  generalize pow2 (surplusBits m) = p at hfloor ⊢
  have hsplit := Nat.div_add_mod' m p
  rcases Decimal.roundDiv_cases .toEven m p with ⟨h, -⟩ | ⟨h, hhalf⟩
  · rw [h]
    omega
  · rw [h, Nat.add_mul, Nat.one_mul]
    omega

/-! ## Doubles as numbers of units -/

/-- The double is this number of units, which rounding keeps, and is not negative. -/
structure IsUnits (x : Binary64) (u : Nat) : Prop where
  shape : ∃ s, x = .finite s u ∧ (s → u = 0)
  dvd : pow2 (surplusBits u) ∣ u

theorem isUnits_zero (s : Bool) : (finite s 0).IsUnits 0 :=
  ⟨⟨s, rfl, fun _ => rfl⟩, Nat.dvd_zero _⟩

theorem isUnits_ofUnits (n d : Nat) (lt : roundUnits n d < infiniteUnits) :
    (ofUnits false (roundUnits n d)).IsUnits (roundUnits n d) := by
  rw [ofUnits, if_pos lt]
  exact ⟨⟨false, rfl, fun negative => absurd negative Bool.false_ne_true⟩, dvd_roundUnits n d⟩

theorem signed_of_not_negative {s : Bool} (h : s → u = 0) : Decimal.signed s u = u := by
  cases s
  · rfl
  · rw [h rfl]
    rfl

/-- A sum of doubles exceeds the first by at most twice the second. -/
theorem IsUnits.add (hx : x.IsUnits u) (hy : y.IsUnits v) (lt : u + 2 * v < infiniteUnits) :
    ∃ r, (x.add y).IsUnits r ∧ r ≤ u + 2 * v := by
  obtain ⟨⟨s, rfl, hs⟩, hdvd⟩ := hx
  obtain ⟨⟨t, rfl, ht⟩, -⟩ := hy
  have hround := roundUnits_le_add hdvd (Nat.le_add_right u v)
  have hsum : Decimal.signed s u + Decimal.signed t v = ((u + v : Nat) : Int) := by
    rw [signed_of_not_negative hs, signed_of_not_negative ht, Nat.cast_add]
  unfold Binary64.add
  dsimp only
  rw [hsum]
  by_cases hzero : ((u + v : Nat) : Int) = 0
  · rw [if_pos hzero]
    exact ⟨0, isUnits_zero _, Nat.zero_le _⟩
  · rw [if_neg hzero, Int.natAbs_natCast, decide_eq_false (by omega)]
    exact ⟨_, isUnits_ofUnits (u + v) 1 (by omega), by omega⟩

/-- A whole number becomes a double of at most twice its size. -/
theorem isUnits_ofInt (n : Nat) (lt : 2 * (n * one) < infiniteUnits) :
    ∃ r, (ofInt n).IsUnits r ∧ r ≤ 2 * (n * one) := by
  have hround := roundUnits_mul_le (n * one) 1
  rw [Nat.mul_one] at hround
  have hint : ofInt n = ofUnits false (roundUnits (n * one) 1) := by
    rw [ofInt, ofRatio, Int.natAbs_natCast, decide_eq_false (by omega)]
  rw [hint]
  exact ⟨_, isUnits_ofUnits _ 1 (hround.trans_lt lt), hround⟩

/-- An amount of few digits becomes a zero or the double of a ratio. -/
theorem ofDecimal_ratio {a : Decimal} (ha : a.isFinite) (h0 : 0 ≤ a.value) (lt : a.value < 10 ^ 26) :
    (∃ s, ofDecimal a = .finite s 0) ∨
      ∃ n d : Nat, 0 < d ∧ (n : ℚ) / d = a.value ∧ ofDecimal a = ofRatio false n d := by
  obtain ⟨s, c, e, rfl⟩ := Decimal.isFinite_iff.mp ha
  rcases Nat.eq_zero_or_pos c with rfl | hc
  · exact .inl ⟨s, rfl⟩
  · obtain rfl := Decimal.sign_of_nonneg hc h0
    have hvalue : (Decimal.finite false c e).value = c * 10 ^ e := Decimal.value_finite false c e
    have hlead := (Decimal.magnitude_bounds hc e).1.trans_lt (hvalue ▸ lt)
    rw [← zpow_natCast] at hlead
    have hhigh := (zpow_lt_zpow_iff_right₀ (by norm_num : (1 : ℚ) < 10)).mp hlead
    unfold ofDecimal
    dsimp only
    rw [if_neg hc.ne', if_neg (by simp only [decimalReach]; omega)]
    split
    · exact .inl ⟨false, rfl⟩
    · exact .inr ⟨_, _, pow10_pos _, (ratio_eq c e).trans hvalue.symm, rfl⟩

/-- A double is read in whole cents, as at most twice what it is. -/
theorem IsUnits.toDecimal (h : x.IsUnits u) :
    (x.toDecimal 2).isFinite ∧ Decimal.WholeCents (x.toDecimal 2).value ∧
      0 ≤ (x.toDecimal 2).value ∧ (x.toDecimal 2).value ≤ 2 * u / one := by
  obtain ⟨⟨s, rfl, hs⟩, -⟩ := h
  have hcents : (finite s u).cents = (Decimal.roundDiv .toEven (u * 100) one : Nat) := by
    refine signed_of_not_negative fun hneg => ?_
    rw [hs hneg, Nat.zero_mul, roundDiv_zero]
  rw [value_toDecimal, hcents]
  refine ⟨rfl, ⟨_, rfl⟩, by positivity, ?_⟩
  have hle := Decimal.roundDiv_mul_le .toEven (u * 100) one
  generalize Decimal.roundDiv .toEven (u * 100) one = k at hle ⊢
  have hle' : (k : ℚ) * one ≤ 2 * (u * 100) := by exact_mod_cast hle
  rw [div_le_div_iff₀ (by norm_num) (by exact_mod_cast one_pos)]
  push_cast
  linarith

end Binary64

/-! ## Stored amounts -/

namespace Cell

variable {a : Decimal} {c : Cell} {cells : List Cell} {u : Nat}

/-- The units that a stored amount is; none for one that is no number. -/
def units (c : Cell) : Nat :=
  match c.toBinary64 with
  | .finite _ u => u
  | _ => 0

/-- Is the stored amount a number? -/
def isFinite (c : Cell) : Bool := c.toBinary64.isFinite

/-- The cell keeps a number that is not negative, and a whole number as such. -/
structure Keeps (c : Cell) : Prop where
  double : c.toBinary64.IsUnits c.units
  exact : ∀ n, c = .int n → n * Binary64.one = (c.units : Int)

theorem keeps_of_units {s : Bool} (hc : c.toBinary64 = .finite s u) (hs : s → u = 0)
    (dvd : pow2 (Binary64.surplusBits u) ∣ u) (exact : ∀ n, c = .int n → n * Binary64.one = (u : Int)) :
    c.Keeps := by
  have hunits : c.units = u := by rw [units, hc]
  refine ⟨?_, ?_⟩
  · rw [hunits]
    exact ⟨⟨s, hc, hs⟩, dvd⟩
  · rw [hunits]
    exact exact

/-- An amount that is not negative is kept so, unless it is too large for a double. -/
theorem keeps_of_ofDecimal? (h : ofDecimal? a = some c) (ha : a.isFinite) (h0 : 0 ≤ a.value)
    (finite : c.isFinite) : c.Keeps := by
  rw [← ofBinary64_of_ofDecimal? h] at finite ⊢
  have hrounded := Binary64.isRounded_ofDecimal a
  rcases Binary64.ofDecimal_of_nonneg ha h0 with hx | ⟨s, u, hx, hs⟩
  · rw [hx] at finite
    cases finite
  rw [hx] at hrounded ⊢
  have hdvd : pow2 (Binary64.surplusBits u) ∣ u := by
    cases hrounded
    assumption
  unfold ofBinary64
  cases hn : (Binary64.finite s u).toInt? with
  | none => exact keeps_of_units rfl hs hdvd nofun
  | some n =>
      dsimp only
      by_cases hrange : minInt < n ∧ n < maxInt
      · rw [if_pos hrange]
        refine keeps_of_units (Binary64.ofInt_toInt? hrounded hn) (fun hneg => ?_) hdvd fun m hm => ?_
        · exact hs (Bool.and_elim_left hneg)
        · cases hm
          rw [Binary64.toInt?] at hn
          split at hn
          · next hmod =>
              cases hn
              have hsign : s → u / Binary64.one = 0 := fun hneg => by rw [hs hneg, Nat.zero_div]
              rw [Binary64.signed_of_not_negative hsign]
              exact_mod_cast Nat.div_mul_cancel (Nat.dvd_of_mod_eq_zero hmod)
          · cases hn
      · rw [if_neg hrange]
        exact keeps_of_units rfl hs hdvd nofun

/-- A whole number is never too large for a double. -/
theorem isFinite_int {n : Int} (h : ofDecimal? a = some (.int n)) : (int n).isFinite = true := by
  have hcell := ofBinary64_of_ofDecimal? h
  have hdouble := toBinary64_ofDecimal? h
  rw [isFinite]
  generalize Binary64.ofDecimal a = x at hcell hdouble
  cases x with
  | finite s u =>
      rcases hdouble with hdouble | hdouble
      · rw [hdouble]
        rfl
      · rw [hdouble]
        rfl
  | infinity s => cases hcell
  | nan => cases hcell

/-! ## Running sums -/

/-- The units in the first whole number beyond 64 bits. -/
def sumLimit : Nat := pow2 63 * Binary64.one

theorem two_mul_lt_infiniteUnits (h : u < sumLimit) : 2 * u < Binary64.infiniteUnits :=
  calc 2 * u < 2 * sumLimit := Nat.mul_lt_mul_of_pos_left h (by decide)
    _ = pow2 (1 + 63 + 1074) := by
        rw [sumLimit, Binary64.one, pow2_add, pow2_add, Nat.mul_assoc, show pow2 1 = 2 from rfl]
    _ ≤ Binary64.infiniteUnits := pow2_le_pow2 (by omega)

theorem cast_sumLimit : (sumLimit : ℚ) = 2 ^ 63 * Binary64.one := by
  have hpower : (pow2 63 : ℚ) = 2 ^ 63 := Nat.cast_pow 2 63
  rw [sumLimit, Nat.cast_mul, hpower]

/-- A sum in progress stands at a number of units: exactly as long as it is one of whole numbers, and as
    a double that is at most twice as large. -/
structure RunningSum.Counts (s : RunningSum) (u : Nat) : Prop where
  real : ∃ r, s.real.IsUnits r ∧ r ≤ 2 * u
  exact : s.approximate = false → s.exact * Binary64.one = (u : Int)
  fits : s.overflowed = false

theorem counts_start : RunningSum.Counts {} 0 :=
  ⟨⟨0, Binary64.isUnits_zero false, Nat.zero_le _⟩, fun _ => Int.zero_mul _, rfl⟩

/-- A multiple of one below the limit is a whole number within 64 bits. -/
theorem fits_of_lt_sumLimit {n : Int} (hn : n * Binary64.one = (u : Int)) (lt : u < sumLimit) :
    Cell.fits n = true := by
  have hone : (0 : Int) < Binary64.one := by exact_mod_cast Binary64.one_pos
  have hlow : 0 ≤ n := by
    refine Int.le_of_mul_le_mul_right ?_ hone
    rw [hn, Int.zero_mul]
    exact Int.natCast_nonneg u
  have hpower : ((pow2 63 : Nat) : Int) = 2 ^ 63 := rfl
  refine fits_of_nonneg hlow (Int.lt_of_mul_lt_mul_right ?_ hone.le)
  rw [hn, ← hpower, ← Nat.cast_mul]
  exact Nat.cast_lt.mpr lt

theorem RunningSum.Counts.add {s : RunningSum} (h : s.Counts u) (hc : c.Keeps)
    (lt : u + c.units < sumLimit) : (s.add c).Counts (u + c.units) := by
  obtain ⟨⟨r, hr, hle⟩, hexact, hfits⟩ := h
  have hlimit := two_mul_lt_infiniteUnits lt
  have hreal : ∃ r, (s.real.add c.toBinary64).IsUnits r ∧ r ≤ 2 * (u + c.units) := by
    obtain ⟨q, hq, hqle⟩ := hr.add hc.double (by omega)
    exact ⟨q, hq, by omega⟩
  cases c with
  | real x => exact ⟨hreal, nofun, hfits⟩
  | int n =>
      cases happroximate : s.approximate with
      | true =>
          rw [RunningSum.add_int_of_approximate happroximate]
          exact ⟨hreal, fun hfalse => absurd (happroximate.symm.trans hfalse) (by simp), hfits⟩
      | false =>
          have hsum : (s.exact + n) * Binary64.one = ((u + (int n).units : Nat) : Int) := by
            rw [Int.add_mul, hexact happroximate, hc.exact n rfl, Nat.cast_add]
          rw [RunningSum.add_int happroximate (fits_of_lt_sumLimit hsum lt)]
          exact ⟨hreal, fun _ => hsum, hfits⟩

theorem foldl_counts (h : ∀ c ∈ cells, c.Keeps) {s : RunningSum} (hs : s.Counts u)
    (lt : u + (cells.map units).sum < sumLimit) :
    (cells.foldl RunningSum.add s).Counts (u + (cells.map units).sum) := by
  induction cells generalizing s u with
  | nil => exact hs
  | cons c rest ih =>
      rw [List.map_cons, List.sum_cons, ← Nat.add_assoc] at lt ⊢
      exact ih (fun c hc => h c (by simp [hc])) (hs.add (h c (by simp)) (by omega)) lt

/-- The value of a sum is a double that is at most twice as large. -/
theorem RunningSum.Counts.value {s : RunningSum} (h : s.Counts u) (lt : u < sumLimit) :
    ∃ c r, s.value? = some c ∧ c.toBinary64.IsUnits r ∧ r ≤ 2 * u := by
  unfold value?
  rw [h.fits]
  cases happroximate : s.approximate with
  | true =>
      obtain ⟨r, hr, hle⟩ := h.real
      exact ⟨_, r, rfl, hr, hle⟩
  | false =>
      have hexact := h.exact happroximate
      have hlow : 0 ≤ s.exact := by
        have hone : (0 : Int) < Binary64.one := by exact_mod_cast Binary64.one_pos
        refine Int.le_of_mul_le_mul_right ?_ hone
        rw [hexact, Int.zero_mul]
        exact Int.natCast_nonneg u
      obtain ⟨n, hn⟩ := Int.eq_ofNat_of_zero_le hlow
      rw [hn] at hexact
      have hunits : n * Binary64.one = u := by exact_mod_cast hexact
      have hlimit := two_mul_lt_infiniteUnits lt
      rw [← hunits] at hlimit ⊢
      obtain ⟨r, hr, hle⟩ := Binary64.isUnits_ofInt n hlimit
      exact ⟨.int n, r, by rw [hn]; rfl, hr, hle⟩

end Cell

/-! ## Reading sums -/

/-- The amount is a total of at most four times this value. -/
structure Decimal.Within (x : Decimal) (q : ℚ) : Prop where
  total : x.HoldsTotal x.value
  le : x.value ≤ 4 * q

theorem Decimal.Within.zero : Decimal.zero.Within 0 := by
  refine ⟨HoldsTotal.zero.self, ?_⟩
  rw [value_zero, mul_zero]

namespace Cell

variable {c : Cell} {cells : List Cell} {u : Nat}

/-- The value of a stored amount; zero for one that is no number. -/
def stored (c : Cell) : ℚ := c.units / Binary64.one

theorem stored_nonneg (c : Cell) : 0 ≤ c.stored := by
  rw [stored]
  positivity

theorem stored_eq {n : Int} (h : n * Binary64.one = (c.units : Int)) : c.stored = n := by
  have hunits : (n : ℚ) * Binary64.one = c.units := by exact_mod_cast h
  rw [stored, ← hunits, mul_div_cancel_right₀ _ Binary64.cast_one_pos.ne']

theorem sum_stored (cells : List Cell) :
    (cells.map stored).sum = ((cells.map units).sum : Nat) / Binary64.one := by
  induction cells with
  | nil => rw [List.map_nil, List.map_nil, List.sum_nil, List.sum_nil, Nat.cast_zero, zero_div]
  | cons c rest ih =>
      rw [List.map_cons, List.sum_cons, ih, stored, ← add_div, List.map_cons, List.sum_cons, Nat.cast_add]

theorem lt_sumLimit (h : (u : ℚ) / Binary64.one < 2 ^ 63) : u < sumLimit := by
  rw [div_lt_iff₀ Binary64.cast_one_pos, ← cast_sumLimit] at h
  exact Nat.cast_lt.mp h

/-- An amount that is not too large is kept as a number of at most twice its size. -/
theorem stored_le_of_ofDecimal? {a : Decimal} (h : ofDecimal? a = some c) (ha : a.isFinite)
    (h0 : 0 ≤ a.value) (lt : a.value < 2 ^ 62) : c.isFinite ∧ c.stored ≤ 2 * a.value := by
  obtain ⟨s, u, hx, hle⟩ : ∃ s u, Binary64.ofDecimal a = .finite s u ∧
      (u : ℚ) / Binary64.one ≤ 2 * a.value := by
    rcases Binary64.ofDecimal_ratio ha h0 (lt.trans (by norm_num)) with ⟨s, hx⟩ | ⟨n, d, hd, hn, hx⟩
    · refine ⟨s, 0, hx, ?_⟩
      rw [Nat.cast_zero, zero_div]
      linarith
    · have hround := Binary64.roundUnits_mul_le (n * Binary64.one) d
      rw [Binary64.ofRatio] at hx
      generalize Binary64.roundUnits (n * Binary64.one) d = u at hround hx
      have hround' : (u : ℚ) * d ≤ 2 * n * Binary64.one := by
        rw [mul_assoc]
        exact_mod_cast hround
      have hle : (u : ℚ) / Binary64.one ≤ 2 * a.value := by
        rw [← hn, ← mul_div_assoc]
        exact (div_le_div_iff₀ Binary64.cast_one_pos (by exact_mod_cast hd)).mpr hround'
      have hlimit : u < sumLimit := lt_sumLimit (by linarith)
      have hfinite := two_mul_lt_infiniteUnits hlimit
      rw [Binary64.ofUnits, if_pos (by omega)] at hx
      exact ⟨false, u, hx, hle⟩
  have hdouble : ∃ s, c.toBinary64 = .finite s u := by
    have hcell := toBinary64_ofDecimal? h
    rw [hx] at hcell
    exact hcell.elim (fun h => ⟨_, h⟩) fun h => ⟨_, h⟩
  obtain ⟨s, hs⟩ := hdouble
  rw [isFinite, stored, units, hs]
  exact ⟨rfl, hle⟩

/-- What is read of a double that is at most twice a number of units. -/
theorem toDecimal_within {r : Nat} (h : c.toBinary64.IsUnits r) (hle : r ≤ 2 * u)
    (lt : (u : ℚ) / Binary64.one < 2 ^ 63) : c.toDecimal.Within (u / Binary64.one) := by
  obtain ⟨finite, whole, nonneg, le⟩ := h.toDecimal
  have hle' : (r : ℚ) ≤ 2 * u := by exact_mod_cast hle
  have hfour : c.toDecimal.value ≤ 4 * (u / Binary64.one) := by
    rw [← mul_div_assoc]
    refine le.trans (div_le_div_of_nonneg_right ?_ Binary64.cast_one_pos.le)
    linarith
  refine ⟨⟨⟨finite, rfl⟩, whole, nonneg, ?_⟩, hfour⟩
  linarith

/-- An amount that is not too large can be read. -/
theorem Keeps.toDecimal (h : c.Keeps) (lt : c.stored < 2 ^ 63) : c.toDecimal.Within c.stored :=
  toDecimal_within h.double (by omega) lt

/-- Amounts that are not too large together can be summed. -/
theorem sum_within (h : ∀ c ∈ cells, c.Keeps) (lt : (cells.map stored).sum < 2 ^ 63) :
    ∃ d, Store.sumCells cells = .ok d ∧ d.Within (cells.map stored).sum := by
  rw [sum_stored] at lt ⊢
  have hlimit := lt_sumLimit lt
  have hcounts := foldl_counts h counts_start (by rwa [Nat.zero_add])
  rw [Nat.zero_add] at hcounts
  obtain ⟨c, r, hc, hr, hle⟩ := hcounts.value hlimit
  refine ⟨c.toDecimal, ?_, toDecimal_within hr hle lt⟩
  rw [Store.sumCells, sum?, hc]

/-! ### Sums that overflow -/

/-- A whole number is kept exactly. -/
theorem Keeps.stored_int {n : Int} (h : (int n).Keeps) : (int n).stored = n :=
  stored_eq (h.exact n rfl)

theorem overflowed_add {s : RunningSum} (h : s.overflowed = true) (c : Cell) :
    (s.add c).overflowed = true := by
  cases c with
  | real x => exact h
  | int n =>
      unfold RunningSum.add
      dsimp only
      split
      · exact h
      · split
        · exact h
        · rfl

theorem foldl_overflowed {s : RunningSum} (h : s.overflowed = true) (cells : List Cell) :
    (cells.foldl RunningSum.add s).overflowed = true := by
  induction cells generalizing s with
  | nil => exact h
  | cons c rest ih => exact ih (overflowed_add h c)

/-- Whole numbers that come to more than 64 bits hold leave them on the way. -/
theorem foldl_beyond (keeps : ∀ c ∈ cells, c.Keeps) (whole : ∀ c ∈ cells, ∃ n, c = .int n)
    {s : RunningSum} (exact : s.approximate = false) (fits : Cell.fits s.exact = true)
    (beyond : 2 ^ 63 ≤ s.exact + (cells.map stored).sum) :
    (cells.foldl RunningSum.add s).overflowed = true := by
  induction cells generalizing s with
  | nil =>
      rw [List.map_nil, List.sum_nil, add_zero] at beyond
      have hbeyond : (2 ^ 63 : Int) ≤ s.exact := by exact_mod_cast beyond
      rw [Cell.fits, Bool.and_eq_true, decide_eq_true_iff, decide_eq_true_iff, minInt, maxInt] at fits
      omega
  | cons c rest ih =>
      obtain ⟨n, rfl⟩ := whole c (by simp)
      rw [List.map_cons, List.sum_cons, (keeps _ (by simp)).stored_int, ← add_assoc, ← Int.cast_add]
        at beyond
      rw [List.foldl_cons]
      by_cases hfits : Cell.fits (s.exact + n) = true
      · rw [RunningSum.add_int exact hfits]
        exact ih (fun c hc => keeps c (by simp [hc])) (fun c hc => whole c (by simp [hc])) exact hfits
          beyond
      · refine foldl_overflowed ?_ rest
        simp [RunningSum.add, exact, hfits]

/-- Whole numbers are not summed beyond 64 bits. -/
theorem sum_overflow (keeps : ∀ c ∈ cells, c.Keeps) (whole : ∀ c ∈ cells, ∃ n, c = .int n)
    (beyond : 2 ^ 63 ≤ (cells.map stored).sum) : Store.sumCells cells = .error Store.sumOverflow := by
  have hoverflowed := foldl_beyond keeps whole (s := {}) rfl rfl (by simpa using beyond)
  rw [Store.sumCells, sum?, RunningSum.value?, if_pos hoverflowed]

end Cell

end Bookkeeping

import Bookkeeping.Proofs.PostingVerdict

set_option autoImplicit false

/-! # When the check of double entry is exact

The check adds up amounts with 28 digits. Amounts in whole units of one power of ten are added without
loss while the totals stay within `10 ^ 28` units, and then the totals that the check answers are the
exact sums, which differ by at most a cent. Beyond that a digit can be lost, and lines are accepted with
totals that are not their sums: 28 digits are enough, 29 are not (`exactTotals_iff`). The digits that are
lost can hide a difference of more than a cent (`exactTotals_false_of_lostUnit`). -/

namespace Bookkeeping

namespace Decimal

variable {x r : Decimal} {e : Int} {j n : Nat} {q v : ℚ}

/-! ## Whole units -/

/-- A whole number of units `10 ^ e`. -/
def WholeUnits (e : Int) (q : ℚ) : Prop := ∃ j : Nat, q = j * 10 ^ e

theorem WholeUnits.zero : WholeUnits e 0 := ⟨0, by rw [Nat.cast_zero, zero_mul]⟩

theorem WholeUnits.add (hq : WholeUnits e q) (hv : WholeUnits e v) : WholeUnits e (q + v) := by
  obtain ⟨i, rfl⟩ := hq
  obtain ⟨j, rfl⟩ := hv
  exact ⟨i + j, by rw [Nat.cast_add, add_mul]⟩

theorem WholeUnits.nonneg (h : WholeUnits e q) : 0 ≤ q := by
  obtain ⟨j, rfl⟩ := h
  exact mul_nonneg (Nat.cast_nonneg j) (ten_zpow_pos e).le

theorem WholeUnits.sub (hq : WholeUnits e q) (hv : WholeUnits e v) (hle : v ≤ q) :
    WholeUnits e (q - v) := by
  obtain ⟨i, rfl⟩ := hq
  obtain ⟨j, rfl⟩ := hv
  have hij : j ≤ i := by
    exact_mod_cast le_of_mul_le_mul_right hle (ten_zpow_pos e)
  exact ⟨i - j, by rw [Nat.cast_sub hij, sub_mul]⟩

/-- The unit lies within the range of the exponents, and so does the largest number of 28 digits of it. -/
structure UnitInRange (e : Int) : Prop where
  low : minExponent ≤ e
  high : e + precision ≤ maxExponent

/-- Units that 28 digits hold are representable. -/
theorem WholeUnits.representable (range : UnitInRange e) (h : WholeUnits e q)
    (hle : q ≤ pow10 precision * 10 ^ e) : Representable q := by
  obtain ⟨hmin, hmax⟩ := range
  obtain ⟨j, rfl⟩ := h
  have hj : j ≤ pow10 precision := by
    exact_mod_cast le_of_mul_le_mul_right hle (ten_zpow_pos e)
  have within {m : Nat} {d : Int} (hm : m < pow10 precision) (hd : minExponent ≤ d)
      (hle : d + precision ≤ maxExponent + 1) : Representable (m * 10 ^ d) :=
    representable_of_digits hm hd ((lt_of_digits hm d).trans_le (ten_zpow_le (by omega)))
  rcases hj.lt_or_eq with hlt | rfl
  · exact within hlt hmin (by omega)
  · rw [pow10_precision_mul]
    exact within (by decide) (by omega) (by omega)

/-- So is the difference of two such totals. -/
theorem WholeUnits.representable_sub (range : UnitInRange e) (hq : WholeUnits e q) (hv : WholeUnits e v)
    (hleq : q ≤ pow10 precision * 10 ^ e) (hlev : v ≤ pow10 precision * 10 ^ e) :
    Representable (q - v) := by
  rcases le_total v q with hle | hle
  · exact (hq.sub hv hle).representable range (by linarith [hv.nonneg])
  · have h := (hv.sub hq hle).representable range (by linarith [hq.nonneg])
    rw [← neg_sub]
    exact h.neg

/-- A representable number has no 29 digits, the last of them not a zero. -/
theorem not_representable_succ (e : Int) : ¬ Representable ((pow10 precision + 1 : Nat) * 10 ^ e) := by
  intro h
  obtain ⟨m, d, hm, -, hq⟩ := h.digits
  rw [abs_of_nonneg (WholeUnits.nonneg ⟨_, rfl⟩)] at hq
  rcases le_total d e with hle | hle
  · -- too many digits
    rw [magnitude_lower _ hle] at hq
    have hnat : (pow10 precision + 1) * pow10 (e - d).toNat = m := by
      exact_mod_cast mul_right_cancel₀ (ten_zpow_pos d).ne' hq
    have := Nat.le_mul_of_pos_right (pow10 precision + 1) (pow10_pos (e - d).toNat)
    omega
  · rcases hle.eq_or_lt with rfl | hlt
    · have hnat : pow10 precision + 1 = m := by
        exact_mod_cast mul_right_cancel₀ (ten_zpow_pos e).ne' hq
      omega
    · -- a last digit that is not a zero
      rw [magnitude_lower m hle] at hq
      have hnat : pow10 precision + 1 = m * pow10 (d - e).toNat := by
        exact_mod_cast mul_right_cancel₀ (ten_zpow_pos e).ne' hq
      have hten : 10 ∣ m * pow10 (d - e).toNat :=
        Dvd.dvd.mul_left (dvd_pow_self 10 (by omega)) m
      rw [← hnat] at hten
      exact absurd hten (by decide)

/-! ## Sums of whole units -/

/-- Adding up whole units is exact while 28 digits hold them. -/
theorem foldlM_add_units {xs : List Decimal} (range : UnitInRange e) (finite : ∀ y ∈ xs, y.isFinite)
    (whole : ∀ y ∈ xs, WholeUnits e y.value) (hx : x.isFinite) (hwhole : WholeUnits e x.value)
    (hle : x.value + (xs.map value).sum ≤ pow10 precision * 10 ^ e) :
    ∃ r, xs.foldlM add x = .ok r ∧ r.isFinite ∧ r.value = x.value + (xs.map value).sum := by
  induction xs generalizing x with
  | nil => exact ⟨x, rfl, hx, by simp⟩
  | cons y rest ih =>
      have hy := whole y (by simp)
      have hrest : 0 ≤ (rest.map value).sum := List.sum_nonneg fun q hq => by
        obtain ⟨z, hz, rfl⟩ := List.mem_map.mp hq
        exact (whole z (by simp [hz])).nonneg
      rw [List.map_cons, List.sum_cons, ← add_assoc] at hle ⊢
      have hsum := hwhole.add hy
      obtain ⟨z, hz, hzf, hzv⟩ := (add_fits hx (finite y (by simp))).exact
        (hsum.representable range (by linarith))
      obtain ⟨r, hr, hrf, hrv⟩ := ih (fun z hz => finite z (by simp [hz]))
        (fun z hz => whole z (by simp [hz])) hzf (hzv ▸ hsum) (hzv ▸ hle)
      refine ⟨r, ?_, hrf, hzv ▸ hrv⟩
      rw [List.foldlM_cons, hz]
      exact hr

/-- The sum of whole units is exact while 28 digits hold it. -/
theorem sum_units {α : Type} {xs : List α} {f : α → Decimal} (range : UnitInRange e)
    (finite : ∀ x ∈ xs, (f x).isFinite) (whole : ∀ x ∈ xs, WholeUnits e (f x).value)
    (hle : (xs.map fun x => (f x).value).sum ≤ pow10 precision * 10 ^ e) :
    ∃ r, sum (xs.map f) = .ok r ∧ r.isFinite ∧ r.value = (xs.map fun x => (f x).value).sum := by
  have hmap : (xs.map f).map value = xs.map fun x => (f x).value := List.map_map
  have hfinite : ∀ x ∈ xs.map f, x.isFinite := by simpa using finite
  have hwhole : ∀ x ∈ xs.map f, WholeUnits e x.value := by simpa using whole
  have hsum := foldlM_add_units (x := zero) range hfinite hwhole rfl (value_zero ▸ .zero)
  rw [value_zero, zero_add, hmap] at hsum
  exact hsum hle

theorem sum_wholeUnits {α : Type} {xs : List α} {f : α → ℚ} (whole : ∀ x ∈ xs, WholeUnits e (f x)) :
    WholeUnits e (xs.map f).sum := by
  induction xs with
  | nil => exact .zero
  | cons x rest ih =>
      rw [List.map_cons, List.sum_cons]
      exact (whole x (by simp)).add (ih fun y hy => whole y (by simp [hy]))

/-! ## Lost digits -/

theorem add_zero_of_representable (hx : x.isFinite) (h : Representable x.value) :
    ∃ r, x.add zero = .ok r ∧ r.isFinite ∧ r.value = x.value := by
  have hfits := add_fits hx (y := zero) rfl
  rw [value_zero, add_zero] at hfits
  exact hfits.exact h

theorem zero_add_of_representable (hx : x.isFinite) (h : Representable x.value) :
    ∃ r, zero.add x = .ok r ∧ r.isFinite ∧ r.value = x.value := by
  have hfits := add_fits (x := zero) rfl hx
  rw [value_zero, zero_add] at hfits
  exact hfits.exact h

/-- One amount among zeros. -/
theorem sum_alone (hx : x.isFinite) (h : Representable x.value) :
    ∃ r, sum [zero, zero, x] = .ok r ∧ r.isFinite ∧ r.value = x.value := by
  obtain ⟨r, hr, hrf, hrv⟩ := zero_add_of_representable hx h
  refine ⟨r, ?_, hrf, hrv⟩
  have hzero : zero.add zero = .ok zero := by decide
  rw [sum, List.foldlM_cons, hzero]
  dsimp only [bind, Except.bind]
  rw [List.foldlM_cons, hzero]
  dsimp only [bind, Except.bind]
  rw [List.foldlM_cons, hr]
  rfl

/-- One unit more than 28 digits hold is lost or becomes ten units. -/
theorem sum_overfull (range : UnitInRange e) :
    ∃ r, sum [finite false (pow10 precision) e, finite false 1 e, zero] = .ok r ∧ r.IsTotal ∧
      pow10 precision * 10 ^ e ≤ r.value ∧ r.value ≤ (pow10 precision + 10 : Nat) * 10 ^ e := by
  have hlow : Representable (pow10 precision * 10 ^ e) :=
    WholeUnits.representable range ⟨_, rfl⟩ le_rfl
  have hhigh : Representable ((pow10 precision + 10 : Nat) * 10 ^ e) := by
    have hten : ((pow10 precision + 10 : Nat) : ℚ) * 10 ^ e =
        (pow10 precision / 10 + 1 : Nat) * 10 ^ (e + 1) := by
      rw [Nat.cast_add, add_mul, pow10_precision_mul, Nat.cast_add, add_mul, ten_zpow_add]
      norm_num
      ring
    obtain ⟨hmin, hmax⟩ := range
    rw [hten]
    exact representable_of_digits (by decide) (by omega)
      ((lt_of_digits (by decide : _ < pow10 precision) _).trans_le (ten_zpow_le (by omega)))
  have hunit : (finite false (pow10 precision) e).value = pow10 precision * 10 ^ e := value_finite _ _ _
  have hone : (finite false 1 e).value = 10 ^ e := by simp [value_finite]
  have hpos := ten_zpow_pos e
  obtain ⟨x, hx, hxf, hxv⟩ := zero_add_of_representable (x := finite false (pow10 precision) e) rfl
    (hunit ▸ hlow)
  have hfits := add_fits (y := finite false 1 e) hxf rfl
  rw [hxv, hunit, hone] at hfits
  obtain ⟨y, hy, hyf, hround⟩ := hfits.answers hhigh (by
    rw [abs_of_nonneg (by positivity), Nat.cast_add, add_mul]
    norm_num
    linarith)
  have hylow := (hround.passesNone _ hlow).2 (by linarith)
  have hyhigh := (hround.passesNone _ hhigh).1 (by
    rw [Nat.cast_add, add_mul]
    norm_num
    linarith)
  obtain ⟨r, hr, hrf, hrv⟩ := add_zero_of_representable hyf hround.representable
  rw [← hrv] at hylow hyhigh
  refine ⟨r, ?_, ⟨hrf, hrv ▸ hround.representable, ?_⟩, hylow, hyhigh⟩
  · rw [sum, List.foldlM_cons, hx]
    dsimp only [bind, Except.bind]
    rw [List.foldlM_cons, hy]
    dsimp only [bind, Except.bind]
    rw [List.foldlM_cons, hr]
    rfl
  · exact (WholeUnits.nonneg ⟨_, rfl⟩).trans hylow

end Decimal

namespace Posting

open Decimal (WholeUnits UnitInRange Representable value precision)

variable {accounts : Directory} {company : Option Uuid} {lines : List PostingLine} {l : PostingLine}
  {D C : Decimal} {e : Int} {n : Nat}

/-! ## Exact totals -/

/-- The exact sum of the debits. -/
def debitSum (lines : List PostingLine) : ℚ := (lines.map fun l => l.debit.value).sum

/-- The exact sum of the credits. -/
def creditSum (lines : List PostingLine) : ℚ := (lines.map fun l => l.credit.value).sum

/-- The totals are the exact sums, and these differ by at most a cent. -/
structure ExactlyBalanced (lines : List PostingLine) (D C : Decimal) : Prop where
  debit : D.value = debitSum lines
  credit : C.value = creditSum lines
  gap : |debitSum lines - creditSum lines| ≤ 1 / 100

/-- The amounts are finite and in whole units `10 ^ e`, with totals of at most `10 ^ n` units. -/
structure InUnits (e : Int) (n : Nat) (lines : List PostingLine) : Prop where
  finite : ∀ l ∈ lines, FiniteAmounts l
  whole : ∀ l ∈ lines, WholeUnits e l.debit.value ∧ WholeUnits e l.credit.value
  debit : debitSum lines ≤ pow10 n * 10 ^ e
  credit : creditSum lines ≤ pow10 n * 10 ^ e

/-- Lines that are accepted are exactly balanced, if 28 digits hold their totals. -/
theorem InUnits.exactlyBalanced (range : UnitInRange e) (h : InUnits e precision lines)
    (accepted : (check accounts company lines).totals = .ok (D, C)) : ExactlyBalanced lines D C := by
  obtain ⟨D', hD, hDf, hDv⟩ := Decimal.sum_units range (fun l hl => (h.finite l hl).1)
    (fun l hl => (h.whole l hl).1) h.debit
  obtain ⟨C', hC, hCf, hCv⟩ := Decimal.sum_units range (fun l hl => (h.finite l hl).2)
    (fun l hl => (h.whole l hl).2) h.credit
  have verdict := Summed.verdict accounts company ⟨h.finite, hD, hC⟩
  rw [accepted] at verdict
  cases verdict with
  | accepted something sound difference gap debit credit =>
    next x =>
      have hdiff : Representable (D.value - C.value) := by
        rw [hDv, hCv]
        exact (Decimal.sum_wholeUnits fun l hl => (h.whole l hl).1).representable_sub range
          (Decimal.sum_wholeUnits fun l hl => (h.whole l hl).2) h.debit h.credit
      obtain ⟨-, hround⟩ := (difference ▸ Decimal.sub_fits hDf hCf).of_ok
      rw [hround.eq hdiff, hDv, hCv] at gap
      exact ⟨hDv, hCv, gap⟩

/-! ## Lost digits -/

/-- A directory in which every account is an open one of one company. -/
def openDirectory : Directory := fun id => some (.ofDraft id ⟨1⟩ default ⟨"1000", "Cash", .asset, none, false, false⟩)

/-- The largest number of 28 digits in units `10 ^ e` and one more such unit, against a given credit. -/
def overfull (e : Int) (credit : Decimal) : List PostingLine :=
  [{ account := Uuid.issue 0, debit := .finite false (pow10 precision) e },
    { account := Uuid.issue 0, debit := .finite false 1 e },
    { account := Uuid.issue 1, credit }]

theorem debitSum_overfull (e : Int) (credit : Decimal) :
    debitSum (overfull e credit) = (pow10 precision + 1 : Nat) * 10 ^ e := by
  simp [debitSum, overfull, Decimal.value_finite]
  ring

theorem creditSum_overfull (e : Int) (credit : Decimal) :
    creditSum (overfull e credit) = credit.value := by
  simp [creditSum, overfull]

theorem oneSided_overfull {credit : Decimal} (finite : credit.isFinite) (nonneg : 0 ≤ credit.value) :
    ∀ l ∈ overfull e credit, OneSided l := by
  have hunits (c : Nat) : 0 ≤ (Decimal.finite false c e).value := WholeUnits.nonneg ⟨c, Decimal.value_finite _ _ _⟩
  simp only [overfull, List.forall_mem_cons]
  exact ⟨⟨⟨rfl, rfl⟩, hunits _, Decimal.value_zero.ge, .inr Decimal.value_zero⟩,
    ⟨⟨rfl, rfl⟩, hunits _, Decimal.value_zero.ge, .inr Decimal.value_zero⟩,
    ⟨⟨rfl, finite⟩, Decimal.value_zero.ge, nonneg, .inl Decimal.value_zero⟩, by simp⟩

/-- Lines that are accepted with totals that are not their sums. -/
theorem overfull_accepted (range : UnitInRange e) :
    ∃ D C, (check openDirectory (some ⟨1⟩) (overfull e D)).totals = .ok (D, C) ∧ D.IsTotal ∧
      (pow10 precision : ℚ) * 10 ^ e ≤ D.value ∧ D.value ≤ (pow10 precision + 10 : Nat) * 10 ^ e := by
  obtain ⟨D, hD, total, hlow, hhigh⟩ := Decimal.sum_overfull range
  obtain ⟨C, hC, hCf, hCv⟩ := Decimal.sum_alone total.finite total.representable
  have oneSided := oneSided_overfull (e := e) total.finite total.nonneg
  have summed : Summed (overfull e D) D C := ⟨fun l hl => (oneSided l hl).finite, hD, hC⟩
  have hpos : 0 < D.value :=
    (mul_pos (by exact_mod_cast pow10_pos _) (Decimal.ten_zpow_pos e)).trans_le hlow
  have hsame : D.value - C.value = 0 := by rw [hCv, sub_self]
  obtain ⟨x, hx, -, hxv⟩ := (Decimal.sub_fits total.finite hCf).exact (hsame ▸ .zero)
  have gap : |x.value| ≤ 1 / 100 := by
    rw [hxv, hsame, abs_zero]
    norm_num
  have accepted : Verdict openDirectory (some ⟨1⟩) (overfull e D) D C (.ok (D, C)) :=
    .accepted (by simp [overfull]) (fun l hl => (oneSided l hl).sound rfl rfl rfl) hx gap hpos.ne' (hCv ▸ hpos.ne')
  exact ⟨D, C, accepted.answered summed, total, hlow, hhigh⟩

theorem inUnits_overfull {credit : Decimal} (total : credit.IsTotal)
    (hlow : (pow10 precision : ℚ) * 10 ^ e ≤ credit.value)
    (hhigh : credit.value ≤ (pow10 precision + 10 : Nat) * 10 ^ e) (hn : precision < n) :
    InUnits e n (overfull e credit) := by
  have wholeUnits (c : Nat) : WholeUnits e (Decimal.finite false c e).value := ⟨c, Decimal.value_finite _ _ _⟩
  have wholeZero : WholeUnits e Decimal.zero.value := Decimal.value_zero ▸ .zero
  have wholeCredit : WholeUnits e credit.value := by
    rw [Decimal.cast_pow10, ← Decimal.ten_zpow_add, ← abs_of_nonneg total.nonneg] at hlow
    obtain ⟨j, hj⟩ := total.representable.place hlow
    rw [abs_of_nonneg total.nonneg] at hj
    exact ⟨_, hj.trans (Decimal.magnitude_lower j (le_max_of_le_left (by omega)))⟩
  have hle : pow10 precision + 10 ≤ pow10 n :=
    (by decide : pow10 precision + 10 ≤ pow10 (precision + 1)).trans (Decimal.pow10_le_pow10 hn)
  have hmost : ((pow10 precision + 10 : Nat) : ℚ) * 10 ^ e ≤ pow10 n * 10 ^ e :=
    mul_le_mul_of_nonneg_right (by exact_mod_cast hle) (Decimal.ten_zpow_pos e).le
  constructor
  · exact fun l hl => (oneSided_overfull total.finite total.nonneg l hl).finite
  · simp only [overfull, List.forall_mem_cons]
    exact ⟨⟨wholeUnits _, wholeZero⟩, ⟨wholeUnits _, wholeZero⟩, ⟨wholeZero, wholeCredit⟩, by simp⟩
  · rw [debitSum_overfull]
    refine le_trans (mul_le_mul_of_nonneg_right ?_ (Decimal.ten_zpow_pos e).le) hmost
    exact_mod_cast Nat.add_le_add_left (by decide) _
  · rw [creditSum_overfull]
    exact hhigh.trans hmost

/-- For accepted lines in whole units, totals of 28 digits are exact and balanced, and those of more
    digits need not be. -/
theorem exactTotals_iff (range : UnitInRange e) (n : Nat) :
    (∀ accounts company lines D C, InUnits e n lines →
      (check accounts company lines).totals = .ok (D, C) → ExactlyBalanced lines D C) ↔
      n ≤ precision := by
  constructor
  · intro exact
    by_contra hn
    obtain ⟨D, C, accepted, total, hlow, hhigh⟩ := overfull_accepted range
    have sums := exact _ _ _ D C (inUnits_overfull total hlow hhigh (not_le.mp hn)) accepted
    exact Decimal.not_representable_succ e (debitSum_overfull e D ▸ sums.debit ▸ total.representable)
  · intro hn accounts company lines D C h accepted
    have hle : (pow10 n : ℚ) * 10 ^ e ≤ pow10 precision * 10 ^ e :=
      mul_le_mul_of_nonneg_right (by exact_mod_cast Decimal.pow10_le_pow10 hn) (Decimal.ten_zpow_pos e).le
    exact InUnits.exactlyBalanced range ⟨h.finite, h.whole, h.debit.trans hle, h.credit.trans hle⟩ accepted

theorem exactTotals_iff_splitHundred :
    UnitInRange (-1) ∧
      ExactlyBalanced splitHundred (.finite false 1000 (-1)) (.finite false 100 0) := by
  have range : UnitInRange (-1) := ⟨by decide, by decide⟩
  have units : InUnits (-1) precision splitHundred := by
    constructor
    · simp [splitHundred, FiniteAmounts, Decimal.isFinite, Decimal.zero]
    · simp only [splitHundred, List.forall_mem_cons]
      refine ⟨⟨⟨605, ?_⟩, ⟨0, ?_⟩⟩, ⟨⟨395, ?_⟩, ⟨0, ?_⟩⟩, ⟨⟨0, ?_⟩, ⟨1000, ?_⟩⟩, by simp⟩ <;>
        norm_num [Decimal.value_finite, Decimal.zero]
    · norm_num [debitSum, splitHundred, Decimal.value_finite, precision, Decimal.cast_pow10]
    · norm_num [creditSum, splitHundred, Decimal.value_finite, precision, Decimal.cast_pow10]
  exact ⟨range, (exactTotals_iff range precision).mpr le_rfl
    (Directory.ofList (Store.after [Session.opensTwoAccounts]).accounts) (some ⟨1⟩) _ _ _ units
    (by decide +kernel)⟩

/-- A debit of one is lost beside a debit of `10 ^ 28`, so that both are accepted against a credit of
    `10 ^ 28`. -/
theorem exactTotals_false_of_lostUnit :
    ¬ ∀ accounts company lines D C, (∀ l ∈ lines, FiniteAmounts l) →
      (check accounts company lines).totals = .ok (D, C) → ExactlyBalanced lines D C := by
  intro exact
  have sums := exact openDirectory (some ⟨1⟩) (overfull 0 (.finite false (pow10 precision) 0))
    (.finite false (pow10 precision / 10) 1) (.finite false (pow10 precision / 10) 1)
    (by simp [overfull, FiniteAmounts, Decimal.isFinite, Decimal.zero]) (by decide +kernel)
  have gap := sums.gap
  rw [debitSum_overfull, creditSum_overfull, Decimal.value_finite] at gap
  norm_num at gap

end Posting

end Bookkeeping

import Bookkeeping.Posting
import Bookkeeping.Proofs.DecimalValue
import Bookkeeping.Proofs.Transaction

set_option autoImplicit false

/-! # What the check of double entry lets pass

Lines that pass the check have finite amounts, each line stands on one side and is not negative
(`Passed.amounts`), and where all amounts are whole cents, both sides agree exactly within one cent
(`Passed.balanced`). -/

namespace Bookkeeping.Posting

open Decimal (WholeCents value)

variable {lines : List PostingLine} {l : PostingLine} {debit credit d c : Decimal} {n : Nat}

theorem liftAmount_ok {α : Type} {r : Except Decimal.Fault α} {a : α} (h : liftAmount r = .ok a) :
    r = .ok a := by
  cases r with
  | error f => cases h
  | ok b =>
      cases h
      rfl

/-! ## One line -/

theorem checkAmounts_ok (h : checkAmounts n l = .ok ()) :
    l.debit.lt .zero = .ok false ∧ l.credit.lt .zero = .ok false ∧
      (Decimal.zero.lt l.debit = .ok false ∨ Decimal.zero.lt l.credit = .ok false) := by
  unfold checkAmounts at h
  obtain ⟨b₁, h₁, h⟩ := bind_eq_ok h
  cases b₁ with
  | true => cases h
  | false =>
      obtain ⟨b₂, h₂, h⟩ := bind_eq_ok h
      cases b₂ with
      | true => cases h
      | false =>
          obtain ⟨b₃, h₃, h⟩ := bind_eq_ok h
          refine ⟨liftAmount_ok h₁, liftAmount_ok h₂, ?_⟩
          cases b₃ with
          | false => exact .inl (liftAmount_ok h₃)
          | true =>
              obtain ⟨b₄, h₄, h⟩ := bind_eq_ok h
              cases b₄ with
              | true => cases h
              | false => exact .inr (liftAmount_ok h₄)

theorem checkAccount_ok {accounts : Directory} {company : Uuid} {a : Account}
    (h : checkAccount accounts (some company) n l = .ok a) :
    accounts l.account = some a ∧ a.company = company ∧ a.canPost := by
  unfold checkAccount at h
  cases found : accounts l.account with
  | none => simp [found] at h
  | some b =>
      simp only [found] at h
      by_cases own : b.company = company
      · by_cases opened : b.canPost
        · simp only [own, bne_self_eq_false, Bool.false_eq_true, if_false, opened, if_true,
            Except.ok.injEq] at h
          subst h
          exact ⟨rfl, own, opened⟩
        · simp [own, opened] at h
      · simp [own] at h

/-! ## Totals -/

/-- Totals that pass are not zero, and the gap between them is not more than one cent. -/
theorem checkTotals_ok {t : Decimal × Decimal} (h : checkTotals d c = .ok t) :
    ∃ difference gap, d.sub c = .ok difference ∧ difference.abs = .ok gap ∧
      Decimal.cent.lt gap = .ok false ∧ d.isZero = .ok false ∧ c.isZero = .ok false := by
  unfold checkTotals at h
  obtain ⟨gap, hgap, h⟩ := bind_eq_ok h
  obtain ⟨difference, hdifference, hgap⟩ := bind_eq_ok (liftAmount_ok hgap)
  obtain ⟨b₁, h₁, h⟩ := bind_eq_ok h
  cases b₁ with
  | true =>
      obtain ⟨x, -, h⟩ := bind_eq_ok h
      cases h
  | false =>
      obtain ⟨b₂, h₂, h⟩ := bind_eq_ok h
      cases b₂ with
      | true => cases h
      | false =>
          obtain ⟨b₃, h₃, h⟩ := bind_eq_ok h
          cases b₃ with
          | true => cases h
          | false =>
              exact ⟨difference, gap, hdifference, hgap, liftAmount_ok h₁, liftAmount_ok h₂,
                liftAmount_ok h₃⟩

/-! ## All lines -/

/-- What the check finds of lines, whatever the accounts are. -/
structure Checked (lines : List PostingLine) (debit credit d c : Decimal) : Prop where
  amounts : ∀ l ∈ lines, ∃ n, checkAmounts n l = .ok ()
  debits : (lines.map PostingLine.debit).foldlM Decimal.add debit = .ok d
  credits : (lines.map PostingLine.credit).foldlM Decimal.add credit = .ok c

theorem checkLines_ok {accounts : Directory} {company : Option Uuid} {notes : List LogRecord}
    (h : (checkLines accounts company n lines debit credit notes).totals = .ok (d, c)) :
    Checked lines debit credit d c ∧
      ∀ l ∈ lines, ∃ m a, checkAccount accounts company m l = .ok a := by
  induction lines generalizing n debit credit notes with
  | nil =>
      cases h
      exact ⟨⟨by simp, rfl, rfl⟩, by simp⟩
  | cons l rest ih =>
      unfold checkLines at h
      split at h
      · cases h
      next account haccount =>
        split at h
        · cases h
        · next hamounts =>
            split at h
            · cases h
            · dsimp only at h
              split at h
              · cases h
              · next hdebit =>
                  split at h
                  · cases h
                  · next hcredit =>
                      obtain ⟨⟨amounts, debits, credits⟩, owned⟩ := ih h
                      refine ⟨⟨?_, ?_, ?_⟩, ?_⟩
                      · rintro x hx
                        rcases List.mem_cons.mp hx with rfl | hx
                        · exact ⟨n, hamounts⟩
                        · exact amounts x hx
                      · rw [List.map_cons, List.foldlM_cons, hdebit]
                        exact debits
                      · rw [List.map_cons, List.foldlM_cons, hcredit]
                        exact credits
                      · rintro x hx
                        rcases List.mem_cons.mp hx with rfl | hx
                        · exact ⟨n, account, haccount⟩
                        · exact owned x hx

/-- The lines pass the check of double entry, as far as their amounts go. -/
def Passed (lines : List PostingLine) : Prop :=
  ∃ d c, Checked lines .zero .zero d c ∧ ∃ t, checkTotals d c = .ok t

theorem check_passed {accounts : Directory} {company : Option Uuid} {t : Decimal × Decimal}
    (h : (check accounts company lines).totals = .ok t) : Passed lines := by
  unfold check at h
  split at h
  · cases h
  · obtain ⟨⟨d, c⟩, hlines, htotals⟩ := bind_eq_ok h
    exact ⟨d, c, (checkLines_ok hlines).1, t, htotals⟩

/-- Every line that passes is on an account of the company that may be posted to. -/
theorem check_accounts {accounts : Directory} {company : Uuid} {t : Decimal × Decimal}
    (h : (check accounts (some company) lines).totals = .ok t) (hl : l ∈ lines) :
    ∃ a, accounts l.account = some a ∧ a.company = company ∧ a.canPost := by
  unfold check at h
  split at h
  · cases h
  · obtain ⟨⟨d, c⟩, hlines, -⟩ := bind_eq_ok h
    obtain ⟨m, a, ha⟩ := (checkLines_ok hlines).2 l hl
    exact ⟨a, checkAccount_ok ha⟩

/-! ## What passing tells of the values -/

/-- What is not a number makes a sum that is none either. -/
theorem not_finite_of_nan {x y r : Decimal} (h : Decimal.nanOfTwo? x y = some (.ok r)) :
    r.isFinite = false := by
  unfold Decimal.nanOfTwo? at h
  split at h <;> cases h <;> rfl

/-- A sum is finite only when its terms are. -/
theorem finite_of_add {x y r : Decimal} (h : x.add y = .ok r) (hr : r.isFinite) :
    x.isFinite ∧ y.isFinite := by
  unfold Decimal.add at h
  split at h
  · next hnan =>
      subst h
      rw [not_finite_of_nan hnan] at hr
      cases hr
  · split at h
    · split at h <;> cases h
      cases hr
    · cases h
      cases hr
    · cases h
      cases hr
    · exact ⟨rfl, rfl⟩
    · cases h

theorem finite_of_foldlM_add {xs : List Decimal} {a r : Decimal}
    (h : xs.foldlM Decimal.add a = .ok r) (hr : r.isFinite) :
    a.isFinite ∧ ∀ x ∈ xs, x.isFinite := by
  induction xs generalizing a with
  | nil =>
      cases h
      exact ⟨hr, by simp⟩
  | cons x xs ih =>
      rw [List.foldlM_cons] at h
      obtain ⟨b, hb, h⟩ := bind_eq_ok h
      obtain ⟨hbf, hxs⟩ := ih h
      obtain ⟨ha, hx⟩ := finite_of_add hb hbf
      exact ⟨ha, by simpa [hx] using hxs⟩

/-- Totals that pass are finite. -/
theorem finite_of_checkTotals {t : Decimal × Decimal} (h : checkTotals d c = .ok t) :
    d.isFinite ∧ c.isFinite := by
  obtain ⟨difference, gap, hsub, habs, hcent, -, -⟩ := checkTotals_ok h
  -- a gap that is not finite fails the comparison or exceeds a cent
  have hdifference : difference.isFinite := by
    cases difference with
    | finite s m e => rfl
    | infinity s =>
        cases habs
        cases hcent
    | nan s g p =>
        cases g with
        | true => cases habs
        | false =>
            cases habs
            cases hcent
  unfold Decimal.sub at hsub
  split at hsub
  · next hnan =>
      subst hsub
      rw [not_finite_of_nan hnan] at hdifference
      cases hdifference
  · obtain ⟨hd, hc⟩ := finite_of_add hsub hdifference
    exact ⟨hd, Decimal.isFinite_flipSign.symm.trans hc⟩

/-- A line that passes is not negative and stands on one side. -/
structure OneSided (l : PostingLine) : Prop where
  finite : l.debit.isFinite ∧ l.credit.isFinite
  debit : 0 ≤ l.debit.value
  credit : 0 ≤ l.credit.value
  side : l.debit.value = 0 ∨ l.credit.value = 0

theorem Passed.oneSided (h : Passed lines) (hl : l ∈ lines) : OneSided l := by
  obtain ⟨d, c, ⟨amounts, debits, credits⟩, t, ht⟩ := h
  obtain ⟨hd, hc⟩ := finite_of_checkTotals ht
  have hdebit := (finite_of_foldlM_add debits hd).2 _ (List.mem_map.mpr ⟨l, hl, rfl⟩)
  have hcredit := (finite_of_foldlM_add credits hc).2 _ (List.mem_map.mpr ⟨l, hl, rfl⟩)
  obtain ⟨n, hn⟩ := amounts l hl
  obtain ⟨h₁, h₂, h₃⟩ := checkAmounts_ok hn
  rw [Decimal.lt_finite hdebit rfl, Decimal.value_zero] at h₁
  rw [Decimal.lt_finite hcredit rfl, Decimal.value_zero] at h₂
  rw [Decimal.lt_finite rfl hdebit, Decimal.lt_finite rfl hcredit, Decimal.value_zero] at h₃
  simp only [Except.ok.injEq, decide_eq_false_iff_not, not_lt] at h₁ h₂ h₃
  exact ⟨⟨hdebit, hcredit⟩, h₁, h₂, h₃.imp (le_antisymm · h₁) (le_antisymm · h₂)⟩

/-- Lines of whole cents that pass agree exactly: both sides within one cent, and neither is zero. -/
theorem Passed.balanced (h : Passed lines)
    (whole : ∀ l ∈ lines, WholeCents l.debit.value ∧ WholeCents l.credit.value)
    (hd : (lines.map fun l => l.debit.value).sum < 10 ^ 26)
    (hc : (lines.map fun l => l.credit.value).sum < 10 ^ 26) :
    |(lines.map fun l => l.debit.value).sum - (lines.map fun l => l.credit.value).sum| ≤ 1 / 100 ∧
      (lines.map fun l => l.debit.value).sum ≠ 0 ∧
      (lines.map fun l => l.credit.value).sum ≠ 0 := by
  have side (l) (hl : l ∈ lines) := h.oneSided hl
  obtain ⟨d, c, ⟨-, debits, credits⟩, t, ht⟩ := h
  obtain ⟨x, hx, hdf, hdw, hdn, hdv⟩ := Decimal.sum_exact (fun l hl => (side l hl).finite.1)
    (fun l hl => (whole l hl).1) (fun l hl => (side l hl).debit) hd
  obtain ⟨y, hy, hcf, hcw, hcn, hcv⟩ := Decimal.sum_exact (fun l hl => (side l hl).finite.2)
    (fun l hl => (whole l hl).2) (fun l hl => (side l hl).credit) hc
  rw [Decimal.sum, debits] at hx
  rw [Decimal.sum, credits] at hy
  cases hx
  cases hy
  rw [← hdv, ← hcv]
  rw [← hdv] at hd
  rw [← hcv] at hc
  obtain ⟨difference, gap, hsub, habs, hcent, hd0, hc0⟩ := checkTotals_ok ht
  rw [Decimal.isZero_finite hdf] at hd0
  rw [Decimal.isZero_finite hcf] at hc0
  obtain ⟨x, y, hx, hy, hyf, hyv⟩ := Decimal.gap_exact hdf hcf hdw hcw hdn hcn hd hc
  rw [hx] at hsub
  cases hsub
  rw [hy] at habs
  cases habs
  rw [Decimal.lt_finite rfl hyf, Decimal.value_cent, hyv] at hcent
  simp only [Except.ok.injEq, decide_eq_false_iff_not, not_lt] at hcent hd0 hc0
  exact ⟨hcent, hd0, hc0⟩

end Bookkeeping.Posting

import Bookkeeping.Proofs.Balances

set_option autoImplicit false

/-! # What the check of double entry accepts

Of lines whose amounts are whole cents within the digits of amounts, the check accepts those that stand
on open accounts of the company and agree (`Posting.Agreeing`, `Posting.accepted_iff`). It looks at
accounts and values only, so lines with other amounts of the same values are accepted alike
(`Store.Accepts.congr`): what an entry is read back as is accepted when the entry was. -/

namespace Bookkeeping

namespace Posting

open Decimal (WholeCents HoldsTotal TotalCents value)

variable {lines : List PostingLine} {l : PostingLine} {debit credit d c : Decimal} {n : Nat}
  {accounts : Directory} {company : Uuid} {p q : ℚ}

/-! ## Lines that agree -/

/-- Every line is on an open account of the company. -/
def Owned (accounts : Directory) (company : Uuid) (lines : List PostingLine) : Prop :=
  ∀ l ∈ lines, ∃ a, accounts l.account = some a ∧ a.company = company ∧ a.canPost

/-- The amounts are whole cents within the digits of amounts. -/
structure InCents (lines : List PostingLine) : Prop where
  whole : ∀ l ∈ lines, WholeCents l.debit.value ∧ WholeCents l.credit.value
  debits : (lines.map fun l => l.debit.value).sum < 10 ^ 26
  credits : (lines.map fun l => l.credit.value).sum < 10 ^ 26

/-- Every line is one-sided, and both sides agree within one cent and are not zero. -/
structure Agreeing (lines : List PostingLine) : Prop where
  oneSided : ∀ l ∈ lines, OneSided l
  gap : |(lines.map fun l => l.debit.value).sum - (lines.map fun l => l.credit.value).sum| ≤ 1 / 100
  debit : (lines.map fun l => l.debit.value).sum ≠ 0
  credit : (lines.map fun l => l.credit.value).sum ≠ 0

/-! ## One line -/

theorem OneSided.checkAmounts (h : OneSided l) (n : Nat) : checkAmounts n l = .ok () := by
  have hd : l.debit.lt .zero = .ok false := by
    rw [Decimal.lt_finite h.finite.1 rfl, Decimal.value_zero, decide_eq_false (not_lt.mpr h.debit)]
  have hc : l.credit.lt .zero = .ok false := by
    rw [Decimal.lt_finite h.finite.2 rfl, Decimal.value_zero, decide_eq_false (not_lt.mpr h.credit)]
  unfold Posting.checkAmounts
  rw [hd, hc, Decimal.lt_finite rfl h.finite.1, Decimal.lt_finite rfl h.finite.2, Decimal.value_zero]
  rcases h.side with hzero | hzero
  · rw [hzero]
    rfl
  · rw [hzero]
    cases decide (0 < l.debit.value) <;> rfl

theorem OneSided.isMemo (h : OneSided l) : ∃ memo, l.isMemo = .ok memo := by
  unfold PostingLine.isMemo
  rw [Decimal.isZero_finite h.finite.1, Decimal.isZero_finite h.finite.2]
  cases decide (l.debit.value = 0) <;> exact ⟨_, rfl⟩

theorem checkAccount_of_open {a : Account} (found : accounts l.account = some a)
    (own : a.company = company) (opened : a.canPost) (n : Nat) :
    checkAccount accounts (some company) n l = .ok a := by
  unfold checkAccount
  rw [found]
  dsimp only
  rw [own, if_neg (by simp), if_pos opened]

/-! ## All lines -/

/-- One-sided lines on open accounts are added up exactly. -/
theorem checkLines_of_oneSided (owned : Owned accounts company lines)
    (oneSided : ∀ l ∈ lines, OneSided l)
    (whole : ∀ l ∈ lines, WholeCents l.debit.value ∧ WholeCents l.credit.value)
    (hdebit : debit.HoldsTotal p) (hcredit : credit.HoldsTotal q)
    (hp : p + (lines.map fun l => l.debit.value).sum < 10 ^ 26)
    (hq : q + (lines.map fun l => l.credit.value).sum < 10 ^ 26) (notes : List LogRecord) :
    ∃ d c, (checkLines accounts (some company) n lines debit credit notes).totals = .ok (d, c) ∧
      d.HoldsTotal (p + (lines.map fun l => l.debit.value).sum) ∧
      c.HoldsTotal (q + (lines.map fun l => l.credit.value).sum) := by
  induction lines generalizing debit credit p q n notes with
  | nil => exact ⟨debit, credit, rfl, by simpa using hdebit, by simpa using hcredit⟩
  | cons l rest ih =>
      have side := oneSided l (by simp)
      obtain ⟨a, found, own, opened⟩ := owned l (by simp)
      obtain ⟨memo, hmemo⟩ := side.isMemo
      simp only [List.map_cons, List.sum_cons, ← add_assoc] at hp hq ⊢
      -- no total exceeds the digits of amounts, because nothing that follows is negative
      have later {f : PostingLine → ℚ} (hf : ∀ l ∈ rest, 0 ≤ f l) : 0 ≤ (rest.map f).sum :=
        List.sum_nonneg (by simpa using hf)
      have hdebits := later fun x hx => (oneSided x (by simp [hx])).debit
      have hcredits := later fun x hx => (oneSided x (by simp [hx])).credit
      have ownDebit : l.debit.HoldsTotal l.debit.value :=
        ⟨⟨side.finite.1, rfl⟩, (whole l (by simp)).1, side.debit, by linarith [hdebit.total.nonneg]⟩
      have ownCredit : l.credit.HoldsTotal l.credit.value :=
        ⟨⟨side.finite.2, rfl⟩, (whole l (by simp)).2, side.credit, by linarith [hcredit.total.nonneg]⟩
      obtain ⟨d, hd, hdTotal⟩ := hdebit.add ownDebit (by linarith)
      obtain ⟨c, hc, hcTotal⟩ := hcredit.add ownCredit (by linarith)
      unfold checkLines
      rw [checkAccount_of_open found own opened, side.checkAmounts, hmemo]
      dsimp only
      rw [hd]
      dsimp only
      rw [hc]
      dsimp only
      exact ih (fun x hx => owned x (by simp [hx])) (fun x hx => oneSided x (by simp [hx]))
        (fun x hx => whole x (by simp [hx])) hdTotal hcTotal hp hq _

/-- Totals that agree within one cent pass when neither is zero. -/
theorem checkTotals_of_agreeing (hd : d.HoldsTotal p) (hc : c.HoldsTotal q) (gap : |p - q| ≤ 1 / 100)
    (hp : p ≠ 0) (hq : q ≠ 0) : checkTotals d c = .ok (d, c) := by
  obtain ⟨⟨hdf, rfl⟩, hdt⟩ := hd
  obtain ⟨⟨hcf, rfl⟩, hct⟩ := hc
  obtain ⟨x, y, hx, hy, hyf, hyv⟩ := Decimal.gap_exact hdf hcf hdt.whole hct.whole hdt.nonneg hct.nonneg
    hdt.lt hct.lt
  have within : Decimal.cent.lt y = .ok false := by
    rw [Decimal.lt_finite rfl hyf, Decimal.value_cent, hyv, decide_eq_false (not_lt.mpr gap)]
  unfold checkTotals
  rw [hx]
  dsimp only [bind, Except.bind]
  rw [hy]
  dsimp only [liftAmount]
  rw [within, Decimal.isZero_finite hdf, Decimal.isZero_finite hcf, decide_eq_false hp,
    decide_eq_false hq]
  rfl

/-- Of lines in whole cents, those pass that stand on open accounts of the company and agree. -/
theorem accepted_iff (cents : InCents lines) :
    (∃ t, (check accounts (some company) lines).totals = .ok t) ↔
      Owned accounts company lines ∧ Agreeing lines := by
  constructor
  · rintro ⟨t, h⟩
    have passed := check_passed h
    obtain ⟨gap, hd, hc⟩ := passed.balanced cents.whole cents.debits cents.credits
    exact ⟨fun l hl => check_accounts h hl, fun l hl => passed.oneSided hl, gap, hd, hc⟩
  · rintro ⟨owned, oneSided, gap, hd, hc⟩
    have something : lines.isEmpty = false := by
      cases lines with
      | nil => exact absurd rfl hd
      | cons l rest => rfl
    obtain ⟨d, c, hlines, hdTotal, hcTotal⟩ := checkLines_of_oneSided (n := 1) owned oneSided
      cents.whole .zero .zero ((zero_add _).trans_lt cents.debits) ((zero_add _).trans_lt cents.credits) []
    rw [zero_add] at hdTotal hcTotal
    refine ⟨(d, c), ?_⟩
    rw [check, something, if_neg Bool.false_ne_true]
    dsimp only
    rw [hlines]
    exact checkTotals_of_agreeing hdTotal hcTotal gap hd hc

end Posting

/-! ## Lines of the same values -/

/-- The line `l'` is on the account of the line `l`, with amounts of the same values. -/
structure PostingLine.SameValues (l l' : PostingLine) : Prop where
  account : l'.account = l.account
  debit : l'.debit.Holds l.debit.value
  credit : l'.credit.Holds l.credit.value

variable {lines lines' : List PostingLine}

namespace Posting

open Decimal (WholeCents)

theorem values_congr (same : List.Forall₂ PostingLine.SameValues lines lines') :
    lines'.map (fun l => l.debit.value) = lines.map (fun l => l.debit.value) ∧
      lines'.map (fun l => l.credit.value) = lines.map fun l => l.credit.value :=
  ⟨map_eq_of_forall₂ same fun _ _ _ h => h.debit.value,
    map_eq_of_forall₂ same fun _ _ _ h => h.credit.value⟩

theorem InCents.congr (h : InCents lines) (same : List.Forall₂ PostingLine.SameValues lines lines') :
    InCents lines' := by
  obtain ⟨debits, credits⟩ := values_congr same
  refine ⟨fun l' hl' => ?_, debits ▸ h.debits, credits ▸ h.credits⟩
  obtain ⟨l, hl, hsame⟩ := exists_left_of_forall₂ same hl'
  rw [hsame.debit.value, hsame.credit.value]
  exact h.whole l hl

theorem Agreeing.congr (h : Agreeing lines) (same : List.Forall₂ PostingLine.SameValues lines lines') :
    Agreeing lines' := by
  obtain ⟨debits, credits⟩ := values_congr same
  refine ⟨fun l' hl' => ?_, debits ▸ credits ▸ h.gap, debits ▸ h.debit, credits ▸ h.credit⟩
  obtain ⟨l, hl, hsame⟩ := exists_left_of_forall₂ same hl'
  obtain ⟨-, hdebit, hcredit, side⟩ := h.oneSided l hl
  refine ⟨⟨hsame.debit.finite, hsame.credit.finite⟩, ?_, ?_, ?_⟩
  · rw [hsame.debit.value]
    exact hdebit
  · rw [hsame.credit.value]
    exact hcredit
  · rw [hsame.debit.value, hsame.credit.value]
    exact side

theorem Owned.congr {accounts : Directory} {company : Uuid} (h : Owned accounts company lines)
    (same : List.Forall₂ PostingLine.SameValues lines lines') : Owned accounts company lines' := by
  intro l' hl'
  obtain ⟨l, hl, hsame⟩ := exists_left_of_forall₂ same hl'
  rw [hsame.account]
  exact h l hl

end Posting

/-- Lines with the values of accepted ones are accepted, while the accounts are the same. -/
theorem Store.Accepts.congr {s s' : Store} {company : Uuid} (h : s.Accepts company lines)
    (accounts : s'.accounts = s.accounts) (cents : Posting.InCents lines)
    (same : List.Forall₂ PostingLine.SameValues lines lines') : s'.Accepts company lines' := by
  have found : lines'.map PostingLine.account = lines.map PostingLine.account :=
    map_eq_of_forall₂ same fun _ _ _ h => h.account
  obtain ⟨few, checked⟩ := h
  obtain ⟨owned, agreeing⟩ := (Posting.accepted_iff cents).mp checked
  have checked' := (Posting.accepted_iff (cents.congr same)).mpr ⟨owned.congr same, agreeing.congr same⟩
  refine ⟨?_, ?_⟩
  · rw [Posting.FewAccounts, found]
    exact few
  · rw [Store.checkLines, found, Store.accountsById, accounts]
    exact checked'

end Bookkeeping

import Bookkeeping.Invoice
import Bookkeeping.Proofs.PostingVerdict
import Bookkeeping.Proofs.RoundingOrder

set_option autoImplicit false

/-! # What an invoice comes to

The tax on the lines of an invoice is at most their net amount, because rates are at most one and
rounding keeps order; so the tax in cents is at most the net amount in cents
(`InvoiceTotals.Ordered.billed`). The total is their sum, and what is posted of an invoice has this total
on both sides (`InvoiceTotals.Billed.debits`, `InvoiceTotals.Billed.credits`). -/

namespace Bookkeeping

open Decimal (RoundsTo Fitted centsLimit inCents)

/-! ## One line -/

namespace InvoiceItem

variable {i : InvoiceItem} {n v : Decimal}

/-- Quantity and price are not negative, and the rate is a fraction. -/
structure Admissible (i : InvoiceItem) : Prop where
  quantity : i.quantity.isFinite ∧ 0 ≤ i.quantity.value
  price : i.unitPrice.isFinite ∧ 0 ≤ i.unitPrice.value
  rate : i.vatRate.isFinite ∧ 0 ≤ i.vatRate.value ∧ i.vatRate.value ≤ 1

theorem Admissible.net (h : i.Admissible) (hn : i.net = .ok n) : n.Fitted ∧ 0 ≤ n.value := by
  obtain ⟨fitted, rounds⟩ := Decimal.mul_roundsTo h.quantity.1 h.price.1 h.quantity.2 h.price.2 hn
  exact ⟨fitted, rounds.nonneg.2⟩

/-- The tax on a line is at most its net amount. -/
theorem Admissible.vat (h : i.Admissible) (hn : i.net = .ok n) (hv : i.vat = .ok v) :
    v.Fitted ∧ 0 ≤ v.value ∧ v.value ≤ n.value := by
  obtain ⟨hnf, hn0⟩ := h.net hn
  have hv : n.mul i.vatRate = .ok v := by
    rw [InvoiceItem.vat, hn] at hv
    exact hv
  obtain ⟨fitted, rounds⟩ := Decimal.mul_roundsTo hnf.isFinite h.rate.1 hn0 h.rate.2.1 hv
  refine ⟨fitted, rounds.nonneg.2, rounds.mono (hnf.roundsTo hn0) ?_⟩
  exact mul_le_of_le_one_right hn0 h.rate.2.2

end InvoiceItem

/-! ## All lines -/

namespace InvoiceTotals

variable {items : List InvoiceItem} {S V T S' V' : Decimal}

/-- Sums of net amounts and taxes, the taxes not more than the net amounts. -/
structure Ordered (S V : Decimal) : Prop where
  subtotal : S.Fitted
  vat : V.Fitted
  nonneg : 0 ≤ V.value
  le : V.value ≤ S.value

theorem ordered_zero : Ordered .zero .zero :=
  ⟨Decimal.fitted_zero, Decimal.fitted_zero, Decimal.value_zero.ge, le_rfl⟩

/-- A line is added to both sums, and keeps their order. -/
theorem Ordered.addItems (h : Ordered S V) (admissible : ∀ i ∈ items, i.Admissible)
    (added : addItems S V items = .ok (S', V')) : Ordered S' V' := by
  induction items generalizing S V with
  | nil =>
      cases added
      exact h
  | cons i rest ih =>
      have hi := admissible i (by simp)
      obtain ⟨n, hn, added⟩ := bind_eq_ok added
      obtain ⟨S₁, hS, added⟩ := bind_eq_ok added
      obtain ⟨v, hv, added⟩ := bind_eq_ok added
      obtain ⟨V₁, hV, added⟩ := bind_eq_ok added
      obtain ⟨hnf, hn0⟩ := hi.net hn
      obtain ⟨hvf, hv0, hvn⟩ := hi.vat hn hv
      have hS0 := h.nonneg.trans h.le
      obtain ⟨hSf, hSround⟩ := Decimal.add_roundsTo h.subtotal hnf hS0 hn0 hS
      obtain ⟨hVf, hVround⟩ := Decimal.add_roundsTo h.vat hvf h.nonneg hv0 hV
      refine ih ⟨hSf, hVf, hVround.nonneg.2, ?_⟩ (fun j hj => admissible j (by simp [hj])) added
      exact hVround.mono hSround (add_le_add h.le hvn)

/-! ## Totals in cents -/

/-- Net amount and tax in cents, and their sum. -/
structure Billed (S V T : Decimal) : Prop extends Ordered S V where
  total : T.Fitted
  add : S.add V = .ok T
  rounds : RoundsTo (S.value + V.value) T.value
  lt : S.value < 10 ^ 26

/-- The sums below the limit have a total in cents. -/
theorem Ordered.billed (h : Ordered S V) (hS : S.roundMoney = .ok S') (hV : V.roundMoney = .ok V') :
    ∃ T, Billed S' V' T := by
  have hS0 := h.nonneg.trans h.le
  obtain ⟨hlt, hSf, hSv⟩ := Decimal.roundMoney_ok h.subtotal.isFinite hS0 hS
  obtain ⟨-, hVf, hVv⟩ := Decimal.roundMoney_ok h.vat.isFinite h.nonneg hV
  have hV0 : 0 ≤ V'.value := hVv ▸ Decimal.inCents_nonneg h.nonneg
  have hle : V'.value ≤ S'.value := by
    rw [hSv, hVv]
    exact Decimal.inCents_mono h.le
  have hbound : S'.value < 10 ^ 26 := hSv ▸ Decimal.inCents_lt hlt
  obtain ⟨T, hT, hTf, rounds⟩ := Decimal.add_found hSf hVf (hV0.trans hle) hV0 (by linarith)
  exact ⟨T, ⟨hSf, hVf, hV0, hle⟩, hTf, hT, rounds, hbound⟩

namespace Billed

variable (h : Billed S V T)

include h

theorem subtotal_nonneg : 0 ≤ S.value := h.nonneg.trans h.le

theorem subtotal_le : S.value ≤ T.value :=
  (h.subtotal.roundsTo h.subtotal_nonneg).mono h.rounds (le_add_of_nonneg_right h.nonneg)

theorem vat_le : V.value ≤ T.value := h.le.trans h.subtotal_le

theorem total_le : T.value ≤ 10 ^ 27 := by
  have hbound : RoundsTo (10 ^ 27) (10 ^ 27) := by
    have h := (Fitted.digits false (c := 10 ^ 27) (e := 0) (by decide) (by decide)).roundsTo
      (by norm_num [Decimal.value_finite])
    norm_num [Decimal.value_finite] at h
    norm_num
    exact h
  exact h.rounds.mono hbound (by linarith [h.lt, h.le])

/-- An invoice comes to nothing when neither the net amount nor the tax is positive. -/
theorem total_eq_zero_iff : T.value = 0 ↔ S.value = 0 ∧ V.value = 0 := by
  constructor
  · intro hT
    have hS := le_antisymm (hT ▸ h.subtotal_le) h.subtotal_nonneg
    exact ⟨hS, le_antisymm (hS ▸ h.le) h.nonneg⟩
  · rintro ⟨hS, hV⟩
    have rounds := h.rounds
    rw [hS, hV, add_zero] at rounds
    exact rounds.unique .zero

/-- Otherwise the net amount is positive. -/
theorem subtotal_pos (hne : ¬ (S.value = 0 ∧ V.value = 0)) : 0 < S.value := by
  refine lt_of_le_of_ne h.subtotal_nonneg fun hS => hne ⟨hS.symm, ?_⟩
  exact le_antisymm (hS ▸ h.le) h.nonneg

/-! ## Both sides of what is posted -/

/-- The total is debited, next to lines without a debit. -/
theorem debits (n : Nat) : ∃ D, Decimal.sum (T :: List.replicate n .zero) = .ok D ∧ D.value = T.value := by
  have hT0 := h.subtotal_nonneg.trans h.subtotal_le
  obtain ⟨D₁, first, fitted, hD₁⟩ := Decimal.zero_add_found h.total hT0 h.total_le
  obtain ⟨D, rest, hD⟩ := fitted.foldlM_add_zeros (hD₁ ▸ hT0) (hD₁ ▸ h.total_le) n
  refine ⟨D, ?_, hD.trans hD₁⟩
  rw [Decimal.sum, List.foldlM_cons, first]
  exact rest

/-- Net amount and tax are credited, and come to the total. -/
theorem credits :
    ∃ C, Decimal.sum (.zero :: S :: if 0 < V.value then [V] else []) = .ok C ∧ C.value = T.value := by
  have hS0 := h.subtotal_nonneg
  have hS := h.subtotal_le.trans h.total_le
  have nothing : Decimal.zero.add .zero = .ok .zero := by decide
  obtain ⟨C₁, first, fitted, hC₁⟩ := Decimal.zero_add_found h.subtotal hS0 hS
  rw [Decimal.sum, List.foldlM_cons, nothing]
  dsimp only [bind, Except.bind]
  rw [List.foldlM_cons, first]
  dsimp only [bind, Except.bind]
  by_cases hV : 0 < V.value
  · rw [if_pos hV]
    obtain ⟨C, hC, -, rounds⟩ := Decimal.add_found fitted h.vat (hC₁ ▸ hS0) h.nonneg
      (by linarith [h.lt, h.le])
    rw [hC₁] at rounds
    refine ⟨C, ?_, rounds.unique h.rounds⟩
    rw [List.foldlM_cons, hC]
    rfl
  · rw [if_neg hV]
    have rounds := h.rounds
    rw [le_antisymm (not_lt.mp hV) h.nonneg, add_zero] at rounds
    exact ⟨C₁, rfl, hC₁.trans ((h.subtotal.roundsTo hS0).unique rounds)⟩

end Billed

end InvoiceTotals

end Bookkeeping

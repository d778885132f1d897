import Bookkeeping.Proofs.JournalFaults

set_option autoImplicit false

/-! # When calls that post documents fail with a fault of amounts

Amounts of documents are rounded to cents before they are posted, and an amount that 28 digits in cents
do not hold is a fault (`Decimal.centsLimit`). Below that limit nothing about the lines goes wrong any
more: they are on a few accounts, and what is posted adds up on whatever accounts it is posted to. So a
document is posted or refused, unless its amounts have no sum or reach the limit, or its entry gets no
number. -/

namespace Bookkeeping

open Procedure
open Decimal (centsLimit)

variable {clock : Clock} {w : World} {s : Store} {now : Instant} {user : String} {st : Setting} {L : Prop}

/-! ## Amounts -/

namespace FaultsUnless

variable {α β : Type} {f : α → Procedure β}

/-- Go on with a computation with amounts. -/
theorem amount {x : Except Decimal.Fault α} {P : α → Prop}
    (rest : ∀ a, x = .ok a → FaultsUnless (P a) L ((f a).exec clock w).1) :
    FaultsUnless (∃ a, x = .ok a ∧ P a) L ((ofAmount x >>= f).exec clock w).1 := by
  cases x with
  | error e => exact .fault e (by simp)
  | ok a => exact (rest a rfl).congr (by simp)

/-- Go on with an amount in cents; it is a fault from the limit on. -/
theorem roundMoney {x : Decimal} {f : Decimal → Procedure β} (hx : x.isFinite) (hx0 : 0 ≤ x.value)
    (rest : ∀ r, x.roundMoney = .ok r → FaultsUnless True L ((f r).exec clock w).1) :
    FaultsUnless (x.value < centsLimit) L ((ofAmount x.roundMoney >>= f).exec clock w).1 := by
  obtain ⟨below, reached⟩ := Decimal.roundMoney_eq hx hx0
  by_cases small : x.value < centsLimit
  · obtain ⟨r, hr, -⟩ := below small
    exact (after (looks_ofAmount hr) (rest r hr)).of_answered small
  · rw [reached (not_lt.mp small)]
    exact .fault _ small

end FaultsUnless

/-! ## Accounts -/

namespace Documents

/-- What a document says about an account leads to one, or the document is refused. -/
theorem exec_resolve (idle : w.pending = none) (company : Uuid) (account : Option Uuid) (usual : String) :
    ∃ r, (resolve company account usual).exec clock w = (r, w) ∧ FaultsUnless True L r := by
  have own (a : Account) : ∃ r, (do
      if a.company ≠ company then reject (.documentAccountForeign a.code)
      return a : Procedure Account).exec clock w = (r, w) ∧ FaultsUnless True L r := by
    by_cases h : a.company ≠ company
    · rw [if_pos h]
      exact ⟨_, rfl, .refused nofun trivial⟩
    · rw [if_neg h]
      exact ⟨_, rfl, .ok a trivial⟩
  unfold resolve
  cases account with
  | some id =>
      have read : (perform (.account id)).Looks clock w (w.store.account? id) := looks_perform idle rfl
      cases found : w.store.account? id with
      | none =>
          rw [found] at read
          exact ⟨.error (.ledger (.accountNotFound id)), exec_bind_ok read, .refused nofun trivial⟩
      | some a =>
          rw [found] at read
          obtain ⟨r, hr, answered⟩ := own a
          exact ⟨r, (exec_bind_ok read).trans hr, answered⟩
  | none =>
      have read : (perform (.accountByCode company usual)).Looks clock w
          (w.store.accountByCode? company usual) := looks_perform idle rfl
      cases found : w.store.accountByCode? company usual with
      | none =>
          rw [found] at read
          exact ⟨.error (.ledger (.roleUnfilled company usual)), exec_bind_ok read,
            .refused nofun trivial⟩
      | some a =>
          rw [found] at read
          obtain ⟨r, hr, answered⟩ := own a
          exact ⟨r, (exec_bind_ok read).trans hr, answered⟩

end Documents

namespace FaultsUnless

/-- Go on with an account of a document. -/
theorem resolve {β : Type} {f : Account → Procedure β} {company : Uuid} {account : Option Uuid}
    {usual : String} (contended : w.Contended s)
    (rest : ∀ a, FaultsUnless True L ((f a).exec clock w).1) :
    FaultsUnless True L ((Documents.resolve company account usual >>= f).exec clock w).1 := by
  obtain ⟨r, hr, answered⟩ := Documents.exec_resolve contended.idle company account usual
  refine .bind (by rw [hr]; exact answered) fun a v hv => ?_
  cases hr.symm.trans hv
  exact rest a

end FaultsUnless

/-! ## What is posted -/

namespace Documents

variable {header : EntryHeader} {lines : List PostingLine} {post : Bool}

/-- The amounts of the lines are such as amounts in cents come to. -/
structure InRange (l : PostingLine) : Prop where
  finite : Posting.FiniteAmounts l
  debit : l.debit.value ≤ 10 ^ 27
  credit : l.credit.value ≤ 10 ^ 27

/-- A few lines in range are posted or refused. -/
theorem createEntry_answered (orderly : s.Orderly) (contended : w.Contended s)
    (time : st.clock = .ok now) (inRange : ∀ l ∈ lines, InRange l) (few : lines.length ≤ 3) :
    FaultsUnless True (EntryNumber.LongWord st.numberWord)
      ((Journal.createEntry st header lines post).exec st.clock w).1 := by
  have numbers (l) (hl : l ∈ lines) : Posting.Numbers l :=
    ⟨.of_finite (inRange l hl).finite.1, .of_finite (inRange l hl).finite.2⟩
  have addsUp : s.AddsUp header.company lines := by
    have zero : Decimal.zero.value ≤ (0 : Nat) * 10 ^ 27 := by simp
    exact Posting.addsUp_of_le Decimal.isTotal_zero Decimal.isTotal_zero zero zero
      (fun l hl => (inRange l hl).finite) (fun l hl => ⟨(inRange l hl).debit, (inRange l hl).credit⟩)
      (by rw [zero_add]; exact few.trans_lt (by decide)) (by norm_num)
  have checkable : s.Checkable header.company lines :=
    ⟨Posting.fewAccounts_of_length (few.trans (by decide)), addsUp⟩
  exact (Journal.createEntry_faultsUnless orderly contended time numbers).congr (by simp [checkable])

/-- A debit in cents is in range. -/
theorem InRange.ofDebit {x : Decimal} (hx : x.isFinite) (hle : x.value ≤ 10 ^ 27) (account : Uuid)
    (description : Option String) : InRange { account, debit := x, description } :=
  ⟨⟨hx, rfl⟩, hle, by rw [Decimal.value_zero]; norm_num⟩

/-- A credit in cents is in range. -/
theorem InRange.ofCredit {x : Decimal} (hx : x.isFinite) (hle : x.value ≤ 10 ^ 27) (account : Uuid)
    (description : Option String) : InRange { account, credit := x, description } :=
  ⟨⟨rfl, hx⟩, by rw [Decimal.value_zero]; norm_num, hle⟩

/-- An amount in cents is finite and in range. -/
theorem bounds_of_roundMoney {x r : Decimal} (hx : x.isFinite) (hx0 : 0 ≤ x.value)
    (hr : x.roundMoney = .ok r) : r.isFinite ∧ r.value ≤ 10 ^ 27 := by
  obtain ⟨small, fitted, value⟩ := Decimal.roundMoney_ok hx hx0 hr
  have hlt := value ▸ Decimal.inCents_lt small
  exact ⟨fitted.isFinite, by linarith⟩

/-- An amount in cents is moved from one account to another, or refused. -/
theorem moved_answered (orderly : s.Orderly) (contended : w.Contended s)
    (time : st.clock = .ok now) {x : Decimal} (bounds : x.isFinite ∧ x.value ≤ 10 ^ 27) (a b : Uuid)
    (d d' : Option String) :
    FaultsUnless True (EntryNumber.LongWord st.numberWord) ((Journal.createEntry st header
      [{ account := a, debit := x, description := d }, { account := b, credit := x, description := d' }]
      post).exec st.clock w).1 := by
  refine createEntry_answered orderly contended time (fun l hl => ?_) (by simp)
  rcases List.mem_cons.mp hl with rfl | hl
  · exact .ofDebit bounds.1 bounds.2 a d
  · rw [List.mem_singleton.mp hl]
    exact .ofCredit bounds.1 bounds.2 b d'

/-- The lines of an invoice are in range. -/
theorem Invoice.inRange_of_mem {i : Invoice} {S V T : Decimal} (billed : InvoiceTotals.Billed S V T)
    {r v t : Uuid} {l : PostingLine} (hl : l ∈ i.lines r v t S V T) : InRange l := by
  have hT := billed.total_le
  have hS := billed.subtotal_le.trans hT
  have hV := billed.vat_le.trans hT
  rcases List.mem_append.mp hl with hl | hl
  · rcases List.mem_cons.mp hl with rfl | hl
    · exact .ofDebit billed.total.isFinite hT _ _
    · rw [List.mem_singleton.mp hl]
      exact .ofCredit billed.subtotal.isFinite hS _ _
  · split at hl
    · rw [List.mem_singleton.mp hl]
      exact .ofCredit billed.vat.isFinite hV _ _
    · cases hl

/-! ## The calls -/

/-- A payment in cents is recorded or refused, unless it reaches the limit. -/
theorem recordPayment_faultsUnless (orderly : s.Orderly) (contended : w.Contended s)
    (time : st.clock = .ok now) {p : Payment} (finite : p.amount.isFinite) (nonneg : 0 ≤ p.amount.value) :
    FaultsUnless (p.account ≠ none → p.amount.value < centsLimit) (EntryNumber.LongWord st.numberWord)
      ((recordPayment st p user).exec st.clock w).1 := by
  unfold recordPayment
  by_cases missing : p.account = none
  · rw [missing]
    exact .refused nofun fun h => absurd rfl h
  · have named : p.account.isNone = false :=
      Option.isNone_eq_false_iff.mpr (Option.isSome_iff_ne_none.mpr missing)
    rw [named, if_neg Bool.false_ne_true]
    refine FaultsUnless.congr (.roundMoney finite nonneg fun r hr => ?_) (by simp [missing])
    have bounds := bounds_of_roundMoney finite nonneg hr
    refine .after (looks_notPositive bounds.1) ?_
    by_cases nothing : r.value ≤ 0
    · rw [decide_eq_true nothing]
      exact .refused nofun trivial
    · rw [decide_eq_false nothing, if_neg Bool.false_ne_true]
      refine .resolve contended fun account => ?_
      by_cases asset : account.type = .asset
      · rw [if_neg (not_not.mpr asset)]
        refine .resolve contended fun receivable => ?_
        exact moved_answered orderly contended time bounds _ _ _ _
      · rw [if_pos asset]
        exact .refused nofun trivial

/-- A receipt is posted or refused, unless its amounts have no sum, or one that reaches the limit. -/
theorem postExpense_faultsUnless (orderly : s.Orderly) (contended : w.Contended s)
    (time : st.clock = .ok now) {r : Receipt} (amount : r.amount.isFinite ∧ 0 ≤ r.amount.value)
    (vat : r.vat.isFinite ∧ 0 ≤ r.vat.value) :
    FaultsUnless
      (r.expense ≠ none → r.payment ≠ none → ∃ gross, r.amount.add r.vat = .ok gross ∧
        gross.value < centsLimit)
      (EntryNumber.LongWord st.numberWord)
      ((postExpense st r user).exec st.clock w).1 := by
  unfold postExpense
  by_cases missing : (r.expense.isNone || r.payment.isNone) = true
  · rw [if_pos missing]
    refine .refused nofun fun expense payment => ?_
    simp [expense, payment] at missing
  · rw [if_neg missing]
    have named : r.expense ≠ none ∧ r.payment ≠ none := by
      simpa using missing
    cases hadd : r.amount.add r.vat with
    | error f => exact .fault f (by simp [named])
    | ok gross =>
        have fits := Decimal.add_fits amount.1 vat.1
        rw [hadd] at fits
        obtain ⟨finite, round⟩ := fits.of_ok
        have nonneg := round.nonneg (add_nonneg amount.2 vat.2)
        refine FaultsUnless.congr (.roundMoney finite nonneg fun x hx => ?_) (by simp [named])
        have bounds := bounds_of_roundMoney finite nonneg hx
        refine .after (looks_notPositive bounds.1) ?_
        by_cases nothing : x.value ≤ 0
        · rw [decide_eq_true nothing]
          exact .refused nofun trivial
        · rw [decide_eq_false nothing, if_neg Bool.false_ne_true]
          refine .resolve contended fun expense => ?_
          refine .resolve contended fun payment => ?_
          by_cases spent : expense.type = .expense
          · rw [if_neg (not_not.mpr spent)]
            by_cases asset : payment.type = .asset
            · rw [if_neg (not_not.mpr asset)]
              exact moved_answered orderly contended time bounds _ _ _ _
            · rw [if_pos asset]
              exact .refused nofun trivial
          · rw [if_pos spent]
            exact .refused nofun trivial

/-- An invoice is posted or refused, unless its sums cannot be computed or its net amount reaches the
    limit. -/
theorem postInvoice_faultsUnless (orderly : s.Orderly) (contended : w.Contended s)
    (time : st.clock = .ok now) {i : Invoice} (admissible : ∀ item ∈ i.items, item.Admissible) :
    FaultsUnless
      (∃ totals, InvoiceTotals.ofItems i.items = .ok totals ∧ totals.subtotal.value < centsLimit)
      (EntryNumber.LongWord st.numberWord)
      ((postInvoice st i user).exec st.clock w).1 := by
  unfold postInvoice
  by_cases empty : i.items = []
  · rw [empty]
    refine .refused nofun ⟨⟨.zero, .zero, .zero⟩, by decide +kernel, ?_⟩
    rw [Decimal.value_zero]
    norm_num [centsLimit]
  · rw [List.isEmpty_eq_false_iff.mpr empty, if_neg Bool.false_ne_true]
    refine .amount fun totals htotals => ?_
    have ordered : InvoiceTotals.Ordered totals.subtotal totals.vat := by
      obtain ⟨⟨S, V⟩, added, htotals⟩ := bind_eq_ok htotals
      obtain ⟨T, -, htotals⟩ := bind_eq_ok htotals
      cases htotals
      exact InvoiceTotals.ordered_zero.addItems admissible added
    refine .roundMoney ordered.subtotal.isFinite (ordered.nonneg.trans ordered.le) fun S hS => ?_
    -- the tax is at most the net amount, and so below the limit as well
    have small : totals.vat.value < centsLimit := ordered.le.trans_lt
      (Decimal.roundMoney_ok ordered.subtotal.isFinite (ordered.nonneg.trans ordered.le) hS).1
    refine FaultsUnless.congr (.roundMoney ordered.vat.isFinite ordered.nonneg fun V hV => ?_)
      (by simp [small])
    obtain ⟨T, billed⟩ := ordered.billed hS hV
    refine .after (looks_ofAmount billed.add) ?_
    refine .after (looks_notPositive billed.total.isFinite) ?_
    by_cases nothing : T.value ≤ 0
    · rw [decide_eq_true nothing]
      exact .refused (by rintro ⟨⟩) trivial
    · rw [decide_eq_false nothing, if_neg Bool.false_ne_true]
      refine .resolve contended fun receivable => ?_
      refine .resolve contended fun revenue => ?_
      refine .after (looks_ofAmount (Decimal.lt_finite rfl billed.vat.isFinite)) ?_
      have posted (tax : Uuid) : FaultsUnless True (EntryNumber.LongWord st.numberWord)
          ((Journal.createEntry st (i.header user) (i.lines receivable.id revenue.id tax S V T)
            false).exec st.clock w).1 :=
        createEntry_answered orderly contended time (fun l => Invoice.inRange_of_mem billed)
          (Invoice.length_lines ..)
      rw [Decimal.value_zero]
      unfold Invoice.lines at posted
      by_cases taxed : 0 < V.value
      · rw [decide_eq_true taxed, if_pos rfl]
        simp only [if_pos taxed] at posted
        exact .resolve contended fun tax => posted tax.id
      · rw [decide_eq_false taxed, if_neg Bool.false_ne_true]
        simp only [if_neg taxed] at posted
        exact posted receivable.id

end Documents

end Bookkeeping

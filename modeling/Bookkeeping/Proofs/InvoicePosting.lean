import Bookkeeping.Proofs.AccountEdits
import Bookkeeping.Proofs.InvoiceSums
import Bookkeeping.Proofs.PostingPaths

set_option autoImplicit false

/-! # Posting invoices

Net amount and tax are rounded to cents, and the total is formed of what they are rounded to. So both
sides of the entry come to the same, and neither is zero unless both amounts are: on accounts that may be
posted to, an invoice is refused by the rules of the ledger only when it comes to nothing, and every other
one becomes a draft when there is a number for it (`Session.invoice_posted`). -/

namespace Bookkeeping

variable {clock : Clock} {s : Store} {w : World} {now : Instant} {st : Setting}

/-! ## Lines on open accounts -/

namespace Posting

variable {D C : Decimal}

/-- The check finds the accounts that it asks the store for. -/
theorem Directory.ofList_accountsById {ids : List Uuid} {id : Uuid} (h : id ∈ ids) :
    Directory.ofList (s.accountsById ids) id = s.account? id := by
  rw [Directory.ofList, Store.accountsById, List.find?_filter, Store.account?]
  congr
  funext a
  by_cases ha : a.id = id
  · simp [ha, h]
  · simp [ha]

/-- Not many lines are on few accounts. -/
theorem fewAccounts_of_length {lines : List PostingLine} (h : lines.length ≤ Store.maxValues) :
    FewAccounts lines :=
  (length_eraseDups_le _).trans (by rwa [List.length_map])

/-- Totals of the same value pass. -/
theorem checkTotals_of_same (hD : D.IsTotal) (hC : C.IsTotal) (same : D.value = C.value)
    (positive : 0 < C.value) : checkTotals D C = .ok (D, C) := by
  obtain ⟨x, hx, htotals⟩ := checkTotals_eq hD hC
  obtain ⟨y, hy, -, hround⟩ := hD.sub_ok hC
  cases hx.symm.trans hy
  rw [same, sub_self] at hround
  rw [htotals, hround.eq .zero, if_neg (by norm_num), if_neg]
  rw [same, or_self]
  exact positive.ne'

end Posting

/-! ## Accounts of a document -/

namespace Documents

/-- What a document says about an account leads to `a`, an account of the company that may be posted to. -/
structure Resolves (s : Store) (company : Uuid) (account : Option Uuid) (usual : String) (a : Account) :
    Prop where
  named : ∀ id, account = some id → s.account? id = some a
  unnamed : account = none → s.accountByCode? company usual = some a
  own : a.company = company
  opened : a.canPost

variable {company : Uuid} {account : Option Uuid} {usual : String} {a : Account}

theorem Resolves.account?_eq (h : Resolves s company account usual a) (chartered : s.Chartered) :
    s.account? a.id = some a := by
  cases account with
  | some id =>
      have found := h.named id rfl
      rwa [(Store.account?_some found).2]
  | none => exact chartered.account?_eq (List.mem_of_find?_eq_some (h.unnamed rfl))

open Procedure

theorem looks_resolve (idle : w.pending = none) (h : Resolves w.store company account usual a) :
    (resolve company account usual).Looks clock w a := by
  have own : ¬ a.company ≠ company := not_not.mpr h.own
  unfold resolve
  cases account with
  | some id =>
      have read : (perform (.account id)).Looks clock w (some a) :=
        looks_perform idle (by rw [← h.named id rfl]; rfl)
      refine (exec_bind_ok read).trans ?_
      refine (exec_bind_ok (a := a) rfl).trans ?_
      dsimp only
      rw [if_neg own]
      rfl
  | none =>
      have read : (perform (.accountByCode company usual)).Looks clock w (some a) :=
        looks_perform idle (by rw [← h.unnamed rfl]; rfl)
      refine (exec_bind_ok read).trans ?_
      refine (exec_bind_ok (a := a) rfl).trans ?_
      dsimp only
      rw [if_neg own]
      rfl

/-! ## The entry for an invoice -/

namespace Invoice

/-- The header of the entry for an invoice. -/
def header (i : Invoice) (user : String) : EntryHeader where
  company := i.company
  date := i.date
  createdBy := user
  memo := some ("Sales Invoice " ++ i.number ++ " - " ++ i.customer)
  source := .invoice
  sourceId := i.sourceId

/-- The lines of the entry for an invoice: the receivable is debited with the total, revenue credited
    with the net amount, and tax payable with the tax if there is any. -/
def lines (i : Invoice) (receivable revenue tax : Uuid) (S V T : Decimal) : List PostingLine :=
  [ { account := receivable, debit := T
      description := some ("Invoice " ++ i.number ++ " - " ++ i.customer) },
    { account := revenue, credit := S
      description := some ("Sales revenue - Invoice " ++ i.number) } ] ++
    if 0 < V.value then
      [ { account := tax, credit := V
          description := some ("VAT output - Invoice " ++ i.number) } ]
    else []

end Invoice

/-- The accounts that the lines of an invoice are posted to. -/
structure Accounts (s : Store) (i : Invoice) (receivable revenue tax : Account) : Prop where
  receivable : Resolves s i.company i.receivable Chart.receivable receivable
  revenue : Resolves s i.company i.revenue Chart.salesRevenue revenue
  tax : Resolves s i.company i.vatAccount Chart.vatPayable tax

variable {i : Invoice} {user : String} {totals : InvoiceTotals} {S V T : Decimal}
  {receivable revenue tax : Account}

theorem looks_notPositive (finite : T.isFinite) :
    (notPositive T).Looks clock w (decide (T.value ≤ 0)) := by
  refine looks_ofAmount ?_
  rw [Decimal.le_finite finite rfl, Decimal.value_zero]

section

variable (something : i.items ≠ []) (summed : InvoiceTotals.ofItems i.items = .ok totals)
  (subtotal : totals.subtotal.roundMoney = .ok S) (vat : totals.vat.roundMoney = .ok V)
  (billed : InvoiceTotals.Billed S V T)

include something summed subtotal vat billed

/-- Without a total an invoice is refused; any other is posted as its lines say. -/
theorem exec_postInvoice (idle : w.pending = none) (accounts : Accounts w.store i receivable revenue tax) :
    (postInvoice st i user).exec clock w =
      if T.value ≤ 0 then (.error (.ledger .invoiceNotPositive), w)
      else (Journal.createEntry st (i.header user)
        (i.lines receivable.id revenue.id tax.id S V T) false).exec clock w := by
  have nonempty : i.items.isEmpty = false := List.isEmpty_eq_false_iff.mpr something
  unfold postInvoice
  rw [nonempty, if_neg Bool.false_ne_true]
  refine (exec_bind_ok (looks_ofAmount summed)).trans ?_
  refine (exec_bind_ok (looks_ofAmount subtotal)).trans ?_
  refine (exec_bind_ok (looks_ofAmount vat)).trans ?_
  refine (exec_bind_ok (looks_ofAmount billed.add)).trans ?_
  refine (exec_bind_ok (looks_notPositive billed.total.isFinite)).trans ?_
  dsimp only
  by_cases nothing : T.value ≤ 0
  · rw [decide_eq_true nothing, if_pos nothing]
    rfl
  · rw [decide_eq_false nothing, if_neg nothing, if_neg Bool.false_ne_true]
    refine (exec_bind_ok (looks_resolve idle accounts.receivable)).trans ?_
    refine (exec_bind_ok (looks_resolve idle accounts.revenue)).trans ?_
    refine (exec_bind_ok (looks_ofAmount (Decimal.lt_finite rfl billed.vat.isFinite))).trans ?_
    rw [Decimal.value_zero, Invoice.lines]
    by_cases taxed : 0 < V.value
    · rw [decide_eq_true taxed, if_pos rfl, if_pos taxed]
      refine (exec_bind_ok (looks_resolve idle accounts.tax)).trans ?_
      exact exec_bind_ok rfl
    · rw [decide_eq_false taxed, if_neg Bool.false_ne_true, if_neg taxed]
      exact exec_bind_ok rfl

end

/-! ## The check of the lines -/

variable (billed : InvoiceTotals.Billed S V T) (positive : 0 < T.value)
  (accounts : Accounts s i receivable revenue tax)

namespace Invoice

/-- An invoice has two lines or three. -/
theorem length_lines (i : Invoice) (r v t : Uuid) (S V T : Decimal) :
    (i.lines r v t S V T).length ≤ 3 := by
  unfold lines
  split <;> simp

theorem debit_lines (i : Invoice) (r v t : Uuid) (S V T : Decimal) :
    (i.lines r v t S V T).map PostingLine.debit =
      T :: List.replicate (if 0 < V.value then 2 else 1) .zero := by
  unfold lines
  split <;> rfl

theorem credit_lines (i : Invoice) (r v t : Uuid) (S V T : Decimal) :
    (i.lines r v t S V T).map PostingLine.credit =
      .zero :: S :: if 0 < V.value then [V] else [] := by
  unfold lines
  split <;> rfl

include billed

/-- No line is negative, or on both sides. -/
theorem oneSided_of_mem {r v t : Uuid} {l : PostingLine} (hl : l ∈ i.lines r v t S V T) :
    Posting.OneSided l := by
  have debit {x : Uuid} {d : Option String} : Posting.OneSided { account := x, debit := T, description := d } :=
    ⟨⟨billed.total.isFinite, rfl⟩, billed.subtotal_nonneg.trans billed.subtotal_le, Decimal.value_zero.ge,
      .inr Decimal.value_zero⟩
  have credit {x : Uuid} {y : Decimal} {d : Option String} (hy : y.Fitted) (hy0 : 0 ≤ y.value) :
      Posting.OneSided { account := x, credit := y, description := d } :=
    ⟨⟨rfl, hy.isFinite⟩, Decimal.value_zero.ge, hy0, .inl Decimal.value_zero⟩
  rcases List.mem_append.mp hl with hl | hl
  · rcases List.mem_cons.mp hl with rfl | hl
    · exact debit
    · rw [List.mem_singleton.mp hl]
      exact credit billed.subtotal billed.subtotal_nonneg
  · split at hl
    · rw [List.mem_singleton.mp hl]
      exact credit billed.vat billed.nonneg
    · cases hl

/-- The lines of an invoice have the total on both sides. -/
theorem summed (r v t : Uuid) : ∃ D C, Posting.Summed (i.lines r v t S V T) D C ∧ D.value = T.value ∧
    C.value = T.value := by
  obtain ⟨D, hD, hDv⟩ := billed.debits (if 0 < V.value then 2 else 1)
  obtain ⟨C, hC, hCv⟩ := billed.credits
  refine ⟨D, C, ⟨fun l hl => (oneSided_of_mem billed hl).finite, ?_, ?_⟩, hDv, hCv⟩
  · rw [debit_lines]
    exact hD
  · rw [credit_lines]
    exact hC

end Invoice

include accounts

/-- Every line is on one of the three accounts. -/
theorem Accounts.open (chartered : s.Chartered) {l : PostingLine}
    (hl : l ∈ i.lines receivable.id revenue.id tax.id S V T) :
    ∃ a, s.account? l.account = some a ∧ a.company = i.company ∧ a.canPost := by
  have holds {account : Option Uuid} {usual : String} {a : Account}
      (h : Resolves s i.company account usual a) :
      ∃ b, s.account? a.id = some b ∧ b.company = i.company ∧ b.canPost :=
    ⟨a, h.account?_eq chartered, h.own, h.opened⟩
  rcases List.mem_append.mp hl with hl | hl
  · rcases List.mem_cons.mp hl with rfl | hl
    · exact holds accounts.receivable
    · rw [List.mem_singleton.mp hl]
      exact holds accounts.revenue
  · split at hl
    · rw [List.mem_singleton.mp hl]
      exact holds accounts.tax
    · cases hl

include billed positive

/-- The check finds the total on both sides of an invoice. -/
theorem Accounts.checked (chartered : s.Chartered) : ∃ D C,
    (s.checkLines i.company (i.lines receivable.id revenue.id tax.id S V T)).totals = .ok (D, C) ∧
      D.value = T.value ∧ C.value = T.value := by
  obtain ⟨D, C, summed, hD, hC⟩ := Invoice.summed (i := i) billed receivable.id revenue.id tax.id
  have sound (l) (hl : l ∈ i.lines receivable.id revenue.id tax.id S V T) :
      Posting.Sound (.ofList (s.accountsById
        ((i.lines receivable.id revenue.id tax.id S V T).map PostingLine.account).eraseDups))
        (some i.company) l := by
    obtain ⟨a, found, own, opened⟩ := accounts.open chartered hl
    refine (Invoice.oneSided_of_mem billed hl).sound ?_ own opened
    rw [Posting.Directory.ofList_accountsById (List.mem_eraseDups.mpr (List.mem_map_of_mem hl))]
    exact found
  obtain ⟨hDt, hCt⟩ := summed.isTotal sound
  refine ⟨D, C, ?_, hD, hC⟩
  rw [Store.checkLines, Posting.check_sound summed (by simp [Invoice.lines]) sound]
  exact Posting.checkTotals_of_same hDt hCt (hD.trans hC.symm) (hC ▸ positive)

end Documents

/-! ## Sessions -/

namespace Session

/-- The session that posts an invoice. -/
def invoicing (st : Setting) (i : Documents.Invoice) (user : String) : Session where
  call := .postInvoice i user
  setting := st

/-- Calls that come to the same alone answer the same and leave the same store. -/
theorem run_congr {x y : Session} (h : (x.call.procedure x.setting).exec x.setting.clock (x.world s) =
    (y.call.procedure y.setting).exec y.setting.clock (y.world s)) : x.run s = y.run s := by
  simp only [run, Procedure.run, h]

variable {i : Documents.Invoice} {user : String} {totals : InvoiceTotals} {S V T : Decimal}
  {receivable revenue tax : Account}

section

variable (something : i.items ≠ [])
  (summed : InvoiceTotals.ofItems i.items = .ok totals) (subtotal : totals.subtotal.roundMoney = .ok S)
  (vat : totals.vat.roundMoney = .ok V) (billed : InvoiceTotals.Billed S V T)
  (accounts : Documents.Accounts s i receivable revenue tax)

include something summed subtotal vat billed accounts

theorem run_invoicing_nothing (nothing : T.value ≤ 0) :
    (invoicing st i user).run s = (.error (.ledger .invoiceNotPositive), s) := by
  have ended : (Documents.postInvoice st i user).exec st.clock ((invoicing st i user).world s) = _ :=
    Documents.exec_postInvoice something summed subtotal vat billed rfl accounts
  rw [if_pos nothing] at ended
  exact run_of_exec (Procedure.exec_bind_error ended) rfl

/-- Any other invoice is posted by a draft of its lines. -/
theorem run_invoicing (positive : 0 < T.value) : (invoicing st i user).run s =
    ((⟨st, i.header user, i.lines receivable.id revenue.id tax.id S V T, false⟩ : Creation).under []).run
      s := by
  have ended : (Documents.postInvoice st i user).exec st.clock ((invoicing st i user).world s) = _ :=
    Documents.exec_postInvoice something summed subtotal vat billed rfl accounts
  rw [if_neg (not_le.mpr positive)] at ended
  exact run_congr (Procedure.exec_bind_congr ended)

variable (sound : s.Sound) (counted : s.Counted) (chartered : s.Chartered) (positive : 0 < T.value)
  (time : st.clock = .ok now)

omit something summed subtotal vat in
include sound counted chartered positive time in
/-- Nothing but a missing number keeps the draft from being written. -/
theorem invoice_possible (user : String) :
    let c : Creation := ⟨st, i.header user, i.lines receivable.id revenue.id tax.id S V T, false⟩
    s.Accepts c.header.company c.lines ∧ c.Possible s := by
  intro c
  obtain ⟨D, C, checked, -⟩ := accounts.checked billed positive chartered
  have few : Posting.FewAccounts c.lines :=
    Posting.fewAccounts_of_length ((Documents.Invoice.length_lines ..).trans (by decide))
  have accepted : s.Accepts c.header.company c.lines := ⟨few, _, checked⟩
  refine ⟨accepted, Creation.possible_of_counted counted sound accepted fun f hf => ?_⟩
  cases time.symm.trans hf

include sound counted chartered positive time

theorem run_invoicing_allocated (user : String) {q : Write Int}
    (hq : s.allocate i.company (EntryNumber.dayPrefix st.numberWord i.date) = .ok q) :
    ∃ e t, (invoicing st i user).run s = (.ok (.entry e), t) ∧
      e.MadeFrom (i.header user) (i.lines receivable.id revenue.id tax.id S V T) false := by
  obtain ⟨accepted, possible⟩ := invoice_possible billed accounts sound counted chartered positive time
    user
  obtain ⟨t, ht⟩ := Store.allocate_applies hq
  obtain ⟨cells, -, -, hrun⟩ := Creation.run_allocated possible accepted time hq ht
  exact ⟨_, _, (run_invoicing something summed subtotal vat billed accounts positive).trans hrun,
    _, _, _, _, rfl⟩

theorem run_invoicing_unallocated {f : Failure}
    (hf : s.allocate i.company (EntryNumber.dayPrefix st.numberWord i.date) = .error f) :
    (invoicing st i user).run s = (.error f, s) := by
  obtain ⟨accepted, possible⟩ := invoice_possible billed accounts sound counted chartered positive time
    user
  exact (run_invoicing something summed subtotal vat billed accounts positive).trans
    (Creation.run_unallocated possible accepted time hf)

end

/-! ## All invoices -/

/-- What an invoice comes to on the store `s`, after `calls` calls. -/
inductive PostsInvoice (st : Setting) (i : Documents.Invoice) (user : String) (lines : List PostingLine)
    (s : Store) (calls : Nat) : Prop where
  /-- A draft of the lines. -/
  | drafted {e : Entry Decimal} {t : Store} (answer : (invoicing st i user).run s = (.ok (.entry e), t))
      (made : e.MadeFrom (i.header user) lines false)
  /-- No number can be allocated; no rule of the ledger is broken. -/
  | unnumbered {f : Failure}
      (cause : Text.isPatternTooLong (EntryNumber.dayPrefix st.numberWord i.date ++ "-%") = true ∨
        2 ^ 63 ≤ calls + 2)
      (answer : (invoicing st i user).run s = (.error f, s)) (unruled : f.kind? = none)

theorem PostsInvoice.not_failsAs {lines : List PostingLine} {calls : Nat} {kind : ErrorKind}
    (h : PostsInvoice st i user lines s calls) : ¬ (invoicing st i user).FailsAs s kind := by
  cases h with
  | drafted answer => exact Session.not_failsAs answer
  | unnumbered cause answer unruled =>
      rintro ⟨e, he, -⟩
      rw [answer] at he
      cases he
      cases unruled

/-- After every run, an invoice on accounts that may be posted to breaks a rule of the ledger exactly when
    net amount and tax come to nothing. Every other one becomes a draft with the same on both sides, when
    there is a number for it. -/
theorem invoice_posted (sessions : List Session) (user : String) (time : st.clock = .ok now) (something : i.items ≠ [])
    (admissible : ∀ j ∈ i.items, j.Admissible) (summed : InvoiceTotals.ofItems i.items = .ok totals)
    (subtotal : totals.subtotal.roundMoney = .ok S) (vat : totals.vat.roundMoney = .ok V)
    (accounts : Documents.Accounts (Store.after sessions) i receivable revenue tax) :
    ((invoicing st i user).FailsAs (Store.after sessions) .validation ↔ S.value = 0 ∧ V.value = 0) ∧
      (S.value = 0 ∧ V.value = 0 → (invoicing st i user).run (Store.after sessions) =
        (.error (.ledger .invoiceNotPositive), Store.after sessions)) ∧
      (¬ (S.value = 0 ∧ V.value = 0) → ∃ T, S.add V = .ok T ∧ 0 < S.value ∧
        (∃ D C, ((Store.after sessions).checkLines i.company
          (i.lines receivable.id revenue.id tax.id S V T)).totals = .ok (D, C) ∧ D.value = C.value) ∧
        PostsInvoice st i user (i.lines receivable.id revenue.id tax.id S V T) (Store.after sessions)
          sessions.length) := by
  obtain ⟨⟨S₀, V₀⟩, added, rest⟩ := bind_eq_ok summed
  obtain ⟨T₀, -, rest⟩ := bind_eq_ok rest
  cases rest
  obtain ⟨T, billed⟩ := (InvoiceTotals.ordered_zero.addItems admissible added).billed subtotal vat
  have chartered := Store.after_chartered sessions
  have nothing (zero : S.value = 0 ∧ V.value = 0) : (invoicing st i user).run (Store.after sessions) =
      (.error (.ledger .invoiceNotPositive), Store.after sessions) :=
    run_invoicing_nothing something summed subtotal vat billed accounts
      (billed.total_eq_zero_iff.mpr zero).le
  have posts (positive : 0 < T.value) :
      PostsInvoice st i user (i.lines receivable.id revenue.id tax.id S V T) (Store.after sessions)
        sessions.length := by
    have sound := Store.after_sound sessions
    have counted := Store.after_counted sessions
    cases hq : (Store.after sessions).allocate i.company (EntryNumber.dayPrefix st.numberWord i.date) with
    | ok q =>
        obtain ⟨e, t, answer, made⟩ := run_invoicing_allocated something summed subtotal vat billed
          accounts sound counted chartered positive time user hq
        exact .drafted answer made
    | error f =>
        refine .unnumbered ?_ (run_invoicing_unallocated something summed subtotal vat billed accounts sound
          counted chartered positive time hq) (Store.allocate_error hq)
        by_contra supplied
        rw [not_or, Bool.not_eq_true, Nat.not_le] at supplied
        obtain ⟨n, hn, fits⟩ := Store.number_supplied sessions supplied.2 i.company supplied.1
        obtain ⟨q, allocated⟩ := Store.allocate_of_peekSequence hn fits
        cases hq.symm.trans allocated
  have hT0 : 0 ≤ T.value := billed.subtotal_nonneg.trans billed.subtotal_le
  have positive (nonzero : ¬ (S.value = 0 ∧ V.value = 0)) : 0 < T.value :=
    lt_of_le_of_ne hT0 fun hT => nonzero (billed.total_eq_zero_iff.mp hT.symm)
  refine ⟨⟨fun fails => ?_, fun zero => ?_⟩, nothing, fun nonzero => ?_⟩
  · by_contra nonzero
    exact (posts (positive nonzero)).not_failsAs fails
  · exact (failsAs_iff (nothing zero)).mpr rfl
  · obtain ⟨D, C, checked, hD, hC⟩ := accounts.checked billed (positive nonzero) chartered
    exact ⟨T, billed.add, billed.subtotal_pos nonzero, ⟨D, C, checked, hD.trans hC.symm⟩,
      posts (positive nonzero)⟩

/-- Three pieces at 0.335 with five per cent of tax, posted to the accounts of the first company. -/
def smallInvoice (date : Date) : Documents.Invoice where
  company := ⟨1⟩
  number := "INV-1"
  customer := "Customer"
  date := date
  items := [⟨.finite false 3 0, .finite false 335 (-3), .finite false 5 (-2)⟩]
  receivable := some (Uuid.issue 0)
  revenue := some (Uuid.issue 1)
  vatAccount := some (Uuid.issue 1)

theorem smallInvoice_admissible (date : Date) : ∀ j ∈ (smallInvoice date).items, j.Admissible := by
  intro j hj
  rw [List.mem_singleton.mp hj]
  refine ⟨⟨rfl, ?_⟩, ⟨rfl, ?_⟩, rfl, ?_, ?_⟩ <;> norm_num [Decimal.value_finite]

/-- Where a booking of 100 passes the check, the invoice has its accounts. -/
theorem smallInvoice_accounts (accepted : s.Accepts ⟨1⟩ Creation.hundred.lines) (date : Date) :
    ∃ cash capital : Account, cash.id = Uuid.issue 0 ∧ capital.id = Uuid.issue 1 ∧
      Documents.Accounts s (smallInvoice date) cash capital capital := by
  obtain ⟨-, totals, checked⟩ := accepted
  have booked {l : PostingLine} (hl : l ∈ Creation.hundred.lines) :
      ∃ a : Account, a.id = l.account ∧ ∀ usual, Documents.Resolves s ⟨1⟩ (some l.account) usual a := by
    obtain ⟨a, found, own, opened⟩ := Posting.check_accounts checked hl
    rw [Posting.Directory.ofList_accountsById (List.mem_eraseDups.mpr (List.mem_map_of_mem hl))] at found
    refine ⟨a, (Store.account?_some found).2, fun usual => ⟨fun id hid => ?_, nofun, own, opened⟩⟩
    cases hid
    exact found
  obtain ⟨cash, hcash, receivable⟩ := booked (List.mem_cons_self ..)
  obtain ⟨capital, hcapital, others⟩ := booked (List.mem_cons_of_mem _ (List.mem_singleton_self _))
  exact ⟨cash, capital, hcash, hcapital, receivable _, others _, others _⟩

/-- Over 1.005 and 0.05025 of tax an invoice is posted with 1.01 and 0.05. -/
theorem invoice_posted_small :
    ((invoicing { clock := .ok default } (smallInvoice firstDay) "clerk").run
        (Store.after [opensTwoAccounts])).1.isOk = true ∧
      ∃ T, (Decimal.finite false 101 (-2)).add (.finite false 5 (-2)) = .ok T ∧
        0 < (Decimal.finite false 101 (-2)).value ∧
        (∃ D C, ((Store.after [opensTwoAccounts]).checkLines ⟨1⟩ ((smallInvoice firstDay).lines (Uuid.issue 0)
          (Uuid.issue 1) (Uuid.issue 1) (.finite false 101 (-2)) (.finite false 5 (-2)) T)).totals =
            .ok (D, C) ∧ D.value = C.value) ∧
        PostsInvoice { clock := .ok default } (smallInvoice firstDay) "clerk"
          ((smallInvoice firstDay).lines (Uuid.issue 0) (Uuid.issue 1) (Uuid.issue 1)
            (.finite false 101 (-2)) (.finite false 5 (-2)) T) (Store.after [opensTwoAccounts]) 1 := by
  refine ⟨by decide +kernel, ?_⟩
  have accepted : (Store.after [opensTwoAccounts]).Accepts ⟨1⟩ Creation.hundred.lines :=
    ⟨by decide, (.finite false 100 0, .finite false 100 0), by decide +kernel⟩
  obtain ⟨cash, capital, hcash, hcapital, accounts⟩ := smallInvoice_accounts accepted firstDay
  have time : ({ clock := .ok default } : Setting).clock = .ok default := rfl
  have summed : InvoiceTotals.ofItems (smallInvoice firstDay).items =
      .ok ⟨.finite false 1005 (-3), .finite false 5025 (-5), .finite false 105525 (-5)⟩ := by decide +kernel
  have posted := invoice_posted (S := .finite false 101 (-2)) (V := .finite false 5 (-2))
    [opensTwoAccounts] "clerk" time (by decide) (smallInvoice_admissible firstDay) summed
    (by decide +kernel) (by decide +kernel) accounts
  rw [hcash, hcapital] at posted
  exact posted.2.2 fun zero => absurd zero.1 (by norm_num [Decimal.value_finite])

/-- Under the long word no number can be allocated on a second day: the invoice is in order, and is posted
    neither as a draft nor refused for what it says. -/
theorem invoice_unnumbered :
    (∀ j ∈ (smallInvoice laterDay).items, j.Admissible) ∧
      InvoiceTotals.ofItems (smallInvoice laterDay).items =
        .ok ⟨.finite false 1005 (-3), .finite false 5025 (-5), .finite false 105525 (-5)⟩ ∧
      (Decimal.finite false 1005 (-3)).roundMoney = .ok (.finite false 101 (-2)) ∧
      (Decimal.finite false 5025 (-5)).roundMoney = .ok (.finite false 5 (-2)) ∧
      (∃ receivable revenue tax,
        Documents.Accounts (Store.after draftsUnderLongWord) (smallInvoice laterDay) receivable revenue tax) ∧
      (invoicing longSetting (smallInvoice laterDay) "clerk").run (Store.after draftsUnderLongWord) =
        (.error Store.longPattern, Store.after draftsUnderLongWord) := by
  obtain ⟨accepted, ⟨a, ha, hcompany⟩, counter⟩ := after_draftsUnderLongWord
  have unallocated := Store.allocate_of_longPattern (isPatternTooLong_longWord laterDay) counter ha hcompany
  obtain ⟨cash, capital, -, -, accounts⟩ := smallInvoice_accounts accepted laterDay
  have summed : InvoiceTotals.ofItems (smallInvoice laterDay).items =
      .ok ⟨.finite false 1005 (-3), .finite false 5025 (-5), .finite false 105525 (-5)⟩ := by decide +kernel
  have subtotal : (Decimal.finite false 1005 (-3)).roundMoney = .ok (.finite false 101 (-2)) := by
    decide +kernel
  have vat : (Decimal.finite false 5025 (-5)).roundMoney = .ok (.finite false 5 (-2)) := by decide +kernel
  refine ⟨smallInvoice_admissible laterDay, summed, subtotal, vat, ⟨_, _, _, accounts⟩, ?_⟩
  have added : InvoiceTotals.addItems .zero .zero (smallInvoice laterDay).items =
      .ok (.finite false 1005 (-3), .finite false 5025 (-5)) := by decide +kernel
  obtain ⟨T, billed⟩ := (InvoiceTotals.ordered_zero.addItems (smallInvoice_admissible laterDay)
    added).billed subtotal vat
  have positive : 0 < T.value :=
    lt_of_lt_of_le (by norm_num [Decimal.value_finite]) billed.subtotal_le
  exact run_invoicing_unallocated (by decide) summed subtotal vat billed accounts (Store.after_sound _)
    (Store.after_counted _) (Store.after_chartered _) positive rfl unallocated

end Session

end Bookkeeping

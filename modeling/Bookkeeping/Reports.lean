import Bookkeeping.Procedure

set_option autoImplicit false

/-! # Reports

Balances of all accounts of a company, its trial balance, and the ledger of one account with running
balances. Only posted entries count. -/

namespace Bookkeeping.Reports

open Procedure

/-! ## Balances -/

/-- Totals and balance of an account. -/
structure AccountBalance where
  account : Account
  balance : Decimal
  debit : Decimal
  credit : Decimal
  deriving Repr

/-- The balance of an account from the totals of a company; an account without totals has none. -/
def balanceOf (totals : List Store.AccountTotals) (a : Account) :
    Except Decimal.Fault AccountBalance := do
  let (debit, credit) :=
    match totals.find? fun t => t.account == a.id with
    | some t => (t.debit, t.credit)
    | none => (Decimal.zero, Decimal.zero)
  return ⟨a, ← a.type.signedMovement debit credit, debit, credit⟩

/-- The balances of all accounts of a company, archived ones included, by code. -/
def balances (company : Uuid) (range : DateRange) : Procedure (List AccountBalance) := do
  let accounts ← perform (.accountsOf company true)
  let totals ← perform (.postedTotals company range)
  ofAmount (accounts.mapM (balanceOf totals))

/-! ## Trial balance -/

/-- An account with its net debit or its net credit. -/
structure TrialBalanceRow where
  account : Account
  debit : Decimal
  credit : Decimal
  deriving Repr

/-- The accounts of a company with their net amounts and the totals of both columns. -/
structure TrialBalance where
  rows : List TrialBalanceRow
  totalDebit : Decimal
  totalCredit : Decimal
  deriving Repr

namespace TrialBalance

/-- Debits less credits. -/
def difference (t : TrialBalance) : Except Decimal.Fault Decimal := t.totalDebit.sub t.totalCredit

/-- Do the columns agree, within one cent? -/
def isBalanced (t : TrialBalance) : Except Decimal.Fault Bool := do
  (← (← t.difference).abs).le Decimal.cent

/-- The row of an account: its net amount stands on the side that prevails. -/
def row (b : AccountBalance) : Except Decimal.Fault TrialBalanceRow := do
  let net ← b.debit.sub b.credit
  let debit := if ← Decimal.zero.lt net then net else Decimal.zero
  let credit ← if ← net.lt Decimal.zero then net.neg else pure Decimal.zero
  return ⟨b.account, debit, credit⟩

/-- Add the rows of balances and their amounts to a trial balance so far, the last row first. -/
def addRows : List AccountBalance → TrialBalance → Except Decimal.Fault TrialBalance
  | [], t => .ok { t with rows := t.rows.reverse }
  | b :: rest, t => do
      let r ← row b
      let totalDebit ← t.totalDebit.add r.debit
      let totalCredit ← t.totalCredit.add r.credit
      addRows rest ⟨r :: t.rows, totalDebit, totalCredit⟩

/-- The trial balance of balances. -/
def ofBalances (balances : List AccountBalance) : Except Decimal.Fault TrialBalance :=
  addRows balances ⟨[], .zero, .zero⟩

end TrialBalance

/-- The trial balance of a company. -/
def trialBalance (company : Uuid) (range : DateRange) : Procedure TrialBalance := do
  ofAmount (TrialBalance.ofBalances (← balances company range))

/-! ## Ledger -/

/-- A posted line in the ledger of an account, with the balance after it. -/
structure LedgerLine where
  line : PostedLine
  description : String
  runningBalance : Decimal
  deriving Repr

/-- The ledger of an account: one page of lines, and totals of the whole window. -/
structure AccountLedger where
  account : Account
  entries : List LedgerLine
  openingBalance : Decimal
  totalDebit : Decimal
  totalCredit : Decimal
  closingBalance : Decimal
  totalCount : Nat
  deriving Repr

/-- What a line is about: its own description, else the memo of its entry. -/
def shownDescription (l : PostedLine) : String :=
  match l.description with
  | none | some "" => l.memo.getD ""
  | some d => d

/-- Replay lines in order from a balance. -/
def runningBalances (type : AccountType) : Decimal → List PostedLine →
    Except Decimal.Fault (List LedgerLine)
  | _, [] => .ok []
  | balance, l :: rest => do
      let balance ← balance.add (← type.signedMovement l.debit l.credit)
      return ⟨l, shownDescription l, balance⟩ :: (← runningBalances type balance rest)

/-- A search term without the blanks around it; a blank term is none. -/
def searchTerm (search : Option String) : Option String :=
  match search with
  | none => none
  | some s => if (Text.trim s).isEmpty then none else some (Text.trim s)

/-- The ledger of an account. -/
def ledgerFor (id : Uuid) (f : LedgerFilters) : Procedure AccountLedger := do
  match ← perform (.account id) with
  | none => reject (.accountNotFound id)
  | some account =>
    let openingBalance ←
      match f.start with
      | none => pure Decimal.zero
      | some day => do
        let (debit, credit) ← perform (.postedTotalsBefore id day)
        ofAmount (account.type.signedMovement debit credit)
    let lines ← perform (.postedLines id f.range (searchTerm f.search))
    let entries ← ofAmount (runningBalances account.type openingBalance lines)
    let totalDebit ← ofAmount (Decimal.sum (lines.map PostedLine.debit))
    let totalCredit ← ofAmount (Decimal.sum (lines.map PostedLine.credit))
    let closingBalance ← ofAmount (do
      openingBalance.add (← account.type.signedMovement totalDebit totalCredit))
    return {
      account
      entries := f.page entries
      openingBalance, totalDebit, totalCredit, closingBalance
      totalCount := entries.length }

end Bookkeeping.Reports

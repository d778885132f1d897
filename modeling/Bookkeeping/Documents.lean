import Bookkeeping.Chart
import Bookkeeping.Invoice
import Bookkeeping.Journal

set_option autoImplicit false

/-! # Business documents

Invoices, payments and receipts turned into balanced entries. Amounts are rounded to cents before
they are posted; where a document names no account, the account with the usual code is taken. -/

namespace Bookkeeping.Documents

open Procedure

/-- The account that a document names, or the company's account with the usual code. -/
def resolve (company : Uuid) (account : Option Uuid) (usual : String) : Procedure Account := do
  let found ←
    match account with
    | some id => do
      match ← perform (.account id) with
      | some a => pure a
      | none => reject (.accountNotFound id)
    | none => do
      match ← perform (.accountByCode company usual) with
      | some a => pure a
      | none => reject (.roleUnfilled company usual)
  if found.company ≠ company then reject (.documentAccountForeign found.code)
  return found

/-- Is an amount not greater than zero? -/
def notPositive (x : Decimal) : Procedure Bool := ofAmount (x.le .zero)

/-! ## Invoices -/

/-- An invoice to a customer. -/
structure Invoice where
  company : Uuid
  number : String
  customer : String
  date : Date
  items : List InvoiceItem
  receivable : Option Uuid := none
  revenue : Option Uuid := none
  vatAccount : Option Uuid := none
  sourceId : Option Uuid := none
  deriving Repr

/-- Recognise the revenue of an invoice as a draft: the receivable is debited with the total, revenue
    credited with the net amount, and tax payable with the tax if there is any. -/
def postInvoice (s : Setting) (i : Invoice) (user : String) : Procedure (Entry Decimal) := do
  if i.items.isEmpty then reject .emptyInvoice
  let totals ← ofAmount (InvoiceTotals.ofItems i.items)
  let subtotal ← ofAmount totals.subtotal.roundMoney
  let vat ← ofAmount totals.vat.roundMoney
  let total ← ofAmount (subtotal.add vat)
  if ← notPositive total then reject .invoiceNotPositive
  let receivable ← resolve i.company i.receivable Chart.receivable
  let revenue ← resolve i.company i.revenue Chart.salesRevenue
  let mainLines : List PostingLine :=
    [ { account := receivable.id, debit := total
        description := some ("Invoice " ++ i.number ++ " - " ++ i.customer) },
      { account := revenue.id, credit := subtotal
        description := some ("Sales revenue - Invoice " ++ i.number) } ]
  let vatLines : List PostingLine ←
    if ← ofAmount (Decimal.zero.lt vat) then do
      let account ← resolve i.company i.vatAccount Chart.vatPayable
      pure [{ account := account.id, credit := vat
              description := some ("VAT output - Invoice " ++ i.number) }]
    else pure []
  let header : EntryHeader :=
    { company := i.company
      date := i.date
      createdBy := user
      memo := some ("Sales Invoice " ++ i.number ++ " - " ++ i.customer)
      source := .invoice
      sourceId := i.sourceId }
  Journal.createEntry s header (mainLines ++ vatLines) false

/-! ## Payments -/

/-- A payment received against an invoice. -/
structure Payment where
  company : Uuid
  invoiceNumber : String
  amount : Decimal
  date : Date
  account : Option Uuid
  receivable : Option Uuid := none
  sourceId : Option Uuid := none
  deriving Repr

/-- Record a payment as a draft: cash or bank is debited, the receivable credited. -/
def recordPayment (s : Setting) (p : Payment) (user : String) : Procedure (Entry Decimal) := do
  if p.account.isNone then reject .paymentAccountMissing
  let amount ← ofAmount p.amount.roundMoney
  if ← notPositive amount then reject .paymentNotPositive
  let account ← resolve p.company p.account Chart.cash
  if account.type ≠ .asset then reject .paymentAccountNotAsset
  let receivable ← resolve p.company p.receivable Chart.receivable
  let header : EntryHeader :=
    { company := p.company
      date := p.date
      createdBy := user
      memo := some ("Payment received for Invoice " ++ p.invoiceNumber)
      source := .payment
      sourceId := p.sourceId }
  let lines : List PostingLine :=
    [ { account := account.id, debit := amount
        description := some ("Payment received - Invoice " ++ p.invoiceNumber) },
      { account := receivable.id, credit := amount
        description := some ("Clear A/R - Invoice " ++ p.invoiceNumber) } ]
  Journal.createEntry s header lines false

/-! ## Receipts -/

/-- A receipt for an expense that was paid. -/
structure Receipt where
  company : Uuid
  amount : Decimal
  vat : Decimal
  date : Date
  expense : Option Uuid
  payment : Option Uuid
  merchant : Option String := none
  category : Option String := none
  sourceId : Option Uuid := none
  deriving Repr

/-- A text, or a word in its place when there is none or it is empty. -/
def orWord (text : Option String) (word : String) : String :=
  match text with
  | none | some "" => word
  | some t => t

/-- Post a receipt: the expense is debited with the gross amount, cash or bank credited. -/
def postExpense (s : Setting) (r : Receipt) (user : String) : Procedure (Entry Decimal) := do
  if r.expense.isNone || r.payment.isNone then reject .receiptAccountsMissing
  let gross ← ofAmount (do (← r.amount.add r.vat).roundMoney)
  if ← notPositive gross then reject .receiptNotPositive
  let expense ← resolve r.company r.expense Chart.costOfGoods
  let payment ← resolve r.company r.payment Chart.cash
  if expense.type ≠ .expense then reject .accountNotExpense
  if payment.type ≠ .asset then reject .paymentAccountNotAsset
  let merchant := orWord r.merchant "Expense"
  let category := orWord r.category "General"
  let header : EntryHeader :=
    { company := r.company
      date := r.date
      createdBy := user
      memo := some ("Receipt: " ++ merchant ++ " - " ++ category)
      source := .receipt
      sourceId := r.sourceId }
  let lines : List PostingLine :=
    [ { account := expense.id, debit := gross, description := some (merchant ++ " - " ++ category) },
      { account := payment.id, credit := gross, description := some ("Payment for " ++ merchant) } ]
  Journal.createEntry s header lines true

end Bookkeeping.Documents

import Bookkeeping.Documents
import Bookkeeping.Json.Values
import Bookkeeping.Request.Reader

set_option autoImplicit false

/-! # Requests about business documents

The documents that give an invoice, a payment or a receipt, read and written. -/

namespace Bookkeeping.Request

open Documents (Invoice Payment Receipt)

/-! ## Invoices -/

/-- A line of an invoice with what it is about. -/
structure InvoiceLine where
  description : Option String
  item : InvoiceItem
  deriving DecidableEq, Repr

/-- A line of an invoice. -/
def invoiceLine : Shape InvoiceLine :=
  (fun description quantity unitPrice vatRate => ⟨description, quantity, unitPrice, vatRate⟩)
    <$> optional "description" text
    <*> required "quantity" amountFromZero
    <*> required "unit_price" amountFromZero
    <*> withDefault "vat_rate" .zero rate

/-- The lines of an invoice, at least one. -/
def invoiceLines : Shape (List InvoiceLine) :=
  required "items" (listOf 1 (object invoiceLine))

/-- The document of a line of an invoice. -/
def ofInvoiceLine (l : InvoiceLine) : Json :=
  .object
    [("description", .ofText? l.description), ("quantity", .ofAmount l.item.quantity),
      ("unit_price", .ofAmount l.item.unitPrice), ("vat_rate", .ofAmount l.item.vatRate)]

/-- The document of the lines of an invoice. -/
def ofInvoiceLines (ls : List InvoiceLine) : Json :=
  .object [("items", .list (ls.map ofInvoiceLine))]

/-- An invoice to be posted. -/
structure NewInvoice where
  company : Uuid
  number : String
  customer : String
  date : Date
  lines : List InvoiceLine
  receivable : Option Uuid
  revenue : Option Uuid
  vatAccount : Option Uuid
  sourceId : Option Uuid
  deriving DecidableEq, Repr

/-- An invoice to be posted. -/
def newInvoice : Shape NewInvoice :=
  NewInvoice.mk
    <$> required "company_id" identifier
    <*> required "invoice_number" (Reader.atLeast text 1)
    <*> required "customer_name" (Reader.atLeast text 1)
    <*> required "invoice_date" day
    <*> invoiceLines
    <*> optional "receivable_account_id" identifier
    <*> optional "revenue_account_id" identifier
    <*> optional "vat_account_id" identifier
    <*> optional "source_id" identifier

/-- The document of an invoice to be posted. -/
def ofNewInvoice (i : NewInvoice) : Json :=
  .object
    [("company_id", .ofUuid i.company), ("invoice_number", .text i.number),
      ("customer_name", .text i.customer), ("invoice_date", .ofDate i.date),
      ("items", .list (i.lines.map ofInvoiceLine)),
      ("receivable_account_id", .ofOption .ofUuid i.receivable),
      ("revenue_account_id", .ofOption .ofUuid i.revenue),
      ("vat_account_id", .ofOption .ofUuid i.vatAccount), ("source_id", .ofOption .ofUuid i.sourceId)]

/-- The invoice as it is posted; what its lines are about is not part of it. -/
def NewInvoice.toInvoice (i : NewInvoice) : Invoice :=
  { company := i.company
    number := i.number
    customer := i.customer
    date := i.date
    items := i.lines.map InvoiceLine.item
    receivable := i.receivable
    revenue := i.revenue
    vatAccount := i.vatAccount
    sourceId := i.sourceId }

/-! ## Payments -/

/-- A payment to be recorded. -/
def payment : Shape Payment :=
  Payment.mk
    <$> required "company_id" identifier
    <*> required "invoice_number" (Reader.atLeast text 1)
    <*> required "amount" positiveAmount
    <*> required "payment_date" day
    <*> optional "payment_account_id" identifier
    <*> optional "receivable_account_id" identifier
    <*> optional "source_id" identifier

/-- The document of a payment to be recorded. -/
def ofPayment (p : Payment) : Json :=
  .object
    [("company_id", .ofUuid p.company), ("invoice_number", .text p.invoiceNumber),
      ("amount", .ofAmount p.amount), ("payment_date", .ofDate p.date),
      ("payment_account_id", .ofOption .ofUuid p.account),
      ("receivable_account_id", .ofOption .ofUuid p.receivable),
      ("source_id", .ofOption .ofUuid p.sourceId)]

/-! ## Receipts -/

/-- A receipt to be posted. -/
def receipt : Shape Receipt :=
  Receipt.mk
    <$> required "company_id" identifier
    <*> required "amount" amountFromZero
    <*> withDefault "vat_amount" .zero amountFromZero
    <*> required "expense_date" day
    <*> optional "debit_account_id" identifier
    <*> optional "credit_account_id" identifier
    <*> optional "merchant" text
    <*> optional "category" text
    <*> optional "source_id" identifier

/-- The document of a receipt to be posted. -/
def ofReceipt (r : Receipt) : Json :=
  .object
    [("company_id", .ofUuid r.company), ("amount", .ofAmount r.amount), ("vat_amount", .ofAmount r.vat),
      ("expense_date", .ofDate r.date), ("debit_account_id", .ofOption .ofUuid r.expense),
      ("credit_account_id", .ofOption .ofUuid r.payment), ("merchant", .ofText? r.merchant),
      ("category", .ofText? r.category), ("source_id", .ofOption .ofUuid r.sourceId)]

end Bookkeeping.Request

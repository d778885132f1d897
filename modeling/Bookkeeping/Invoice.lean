import Bookkeeping.Decimal.Arithmetic

set_option autoImplicit false

/-! # Invoice totals

Net and tax of the lines of an invoice and their sums, before any rounding to cents. -/

namespace Bookkeeping

/-- A line of an invoice. The rate is a fraction: 0.05 stands for five per cent. -/
structure InvoiceItem where
  quantity : Decimal
  unitPrice : Decimal
  vatRate : Decimal := Decimal.zero
  deriving DecidableEq, Repr

namespace InvoiceItem

/-- Quantity times price. -/
def net (i : InvoiceItem) : Except Decimal.Fault Decimal := i.quantity.mul i.unitPrice

/-- The tax on the net amount. -/
def vat (i : InvoiceItem) : Except Decimal.Fault Decimal := do
  (← i.net).mul i.vatRate

end InvoiceItem

/-- The sums of an invoice. -/
structure InvoiceTotals where
  subtotal : Decimal
  vat : Decimal
  total : Decimal
  deriving DecidableEq, Repr

namespace InvoiceTotals

/-- Add the lines of an invoice to sums of net amounts and taxes, from left to right. -/
def addItems : Decimal → Decimal → List InvoiceItem → Except Decimal.Fault (Decimal × Decimal)
  | subtotal, vat, [] => .ok (subtotal, vat)
  | subtotal, vat, i :: rest => do
      let subtotal ← subtotal.add (← i.net)
      let vat ← vat.add (← i.vat)
      addItems subtotal vat rest

/-- The sums of the lines of an invoice. -/
def ofItems (items : List InvoiceItem) : Except Decimal.Fault InvoiceTotals := do
  let (subtotal, vat) ← addItems Decimal.zero Decimal.zero items
  return ⟨subtotal, vat, ← subtotal.add vat⟩

end InvoiceTotals

end Bookkeeping

import Bookkeeping.Documents
import Bookkeeping.Reports
import Bookkeeping.Web.Part

set_option autoImplicit false

/-! # What answers show

Accounts, entries and reports as the documents of answers. An answer shows finite amounts only: a
document with another amount, or with a total that cannot be computed, cannot be shown. -/

namespace Bookkeeping.Web

open Reports (AccountBalance AccountLedger LedgerLine TrialBalance TrialBalanceRow)

/-! ## Parts -/

/-- Documents of a list of things, all of which can be shown. -/
def ofAll {α : Type} (write : α → Except Failure Json) (xs : List α) : Except Failure Json := do
  return .list (← xs.mapM write)

/-- The result of a computation from something of a kind. -/
def ofComputed {α : Type} (kind outline : String) (write : α → Part) :
    Except Decimal.Fault α → Part
  | .ok a => write a
  | .error _ => .missing (.notComputed kind outline)

/-- The first and the last characters of a long text. -/
def outline (start stop : String) : String :=
  String.ofList (start.toList.take 25) ++ "..." ++
    String.ofList (stop.toList.drop (stop.toList.length - 24))

/-! ## Accounts -/

/-- An account. -/
def ofAccount (a : Account) : Json :=
  .object
    [("id", .ofUuid a.id), ("company_id", .ofUuid a.company), ("code", .text a.code),
      ("name_en", .text a.nameEn), ("name_ar", .ofText? a.nameAr),
      ("account_type", .text a.type.toText), ("is_vat_account", .bool a.isVat),
      ("is_system_account", .bool a.isSystem), ("is_active", .bool a.isActive),
      ("is_archived", .bool a.isArchived), ("created_at", .ofInstant a.createdAt),
      ("updated_at", .ofOption .ofInstant a.updatedAt)]

/-! ## Entries -/

/-- A line of an entry. -/
def ofLine (l : Line Decimal) : Part :=
  .object
    [("account_id", .ofJson (.ofUuid l.account)), ("line_number", .ofJson (.int l.number)),
      ("debit", .ofAmount l.debit), ("credit", .ofAmount l.credit),
      ("description", .ofJson (.ofText? l.description))]

/-- The fields of an entry before its totals. -/
def headerFields (e : Entry Decimal) : List (String × Json) :=
  [("id", .ofUuid e.id), ("company_id", .ofUuid e.company), ("entry_number", .text e.number),
    ("date", .ofDate e.date), ("memo", .ofText? e.memo), ("status", .text e.status.toText),
    ("source", .text e.source.toText), ("source_id", .ofOption .ofUuid e.sourceId),
    ("reversed_entry_id", .ofOption .ofUuid e.reversedEntry),
    ("reversal_reason", .ofText? e.reversalReason), ("created_by", .text e.createdBy),
    ("created_at", .ofInstant e.createdAt), ("posted_by", .ofText? e.postedBy),
    ("posted_at", .ofOption .ofInstant e.postedAt), ("updated_by", .ofText? e.updatedBy),
    ("updated_at", .ofOption .ofInstant e.updatedAt)]

/-- An entry with its lines and its totals. -/
def ofEntry (e : Entry Decimal) : Except Failure Json :=
  let total := ofComputed "JournalEntry" "JournalEntry" Part.ofAmount
  (Part.object
    ((headerFields e).map (fun f => (f.1, .ofJson f.2)) ++
      [("total_debit", total e.totalDebit), ("total_credit", total e.totalCredit),
        ("lines", .list (e.lines.map ofLine))])).shown "JournalEntryResponseDTO"

/-- The number that the next entry of a day would receive. -/
def ofEntryNumber (company : Uuid) (number : String) : Json :=
  .object [("company_id", .ofUuid company), ("entry_number", .text number)]

/-! ## Reports -/

/-- An account with its balance. -/
def ofBalance (b : AccountBalance) : Except Failure Json :=
  (Part.object
    [("account", .ofJson (ofAccount b.account)), ("balance", .ofAmount b.balance),
      ("debit_total", .ofAmount b.debit),
      ("credit_total", .ofAmount b.credit)]).shown "AccountBalanceResponseDTO"

/-- A row of a trial balance. -/
def ofTrialBalanceRow (r : TrialBalanceRow) : Part :=
  .object
    [("account", .ofJson (ofAccount r.account)), ("debit", .ofAmount r.debit),
      ("credit", .ofAmount r.credit)]

/-- What a trial balance looks like from outside. -/
def outlineOf (t : TrialBalance) : String :=
  outline "TrialBalance(rows=[TrialBalanceRow(" ("total_credit=Decimal('" ++ t.totalCredit.toText ++ "'))")

/-- A trial balance. -/
def ofTrialBalance (t : TrialBalance) : Except Failure Json :=
  (Part.object
    [("rows", .list (t.rows.map ofTrialBalanceRow)), ("total_debit", .ofAmount t.totalDebit),
      ("total_credit", .ofAmount t.totalCredit),
      ("difference", ofComputed "TrialBalance" (outlineOf t) .ofAmount t.difference),
      ("is_balanced", ofComputed "TrialBalance" (outlineOf t) (fun b => .ofJson (.bool b))
        t.isBalanced)]).shown "TrialBalanceResponseDTO"

/-- A line of a ledger. -/
def ofLedgerLine (l : LedgerLine) : Part :=
  .object
    [("entry_id", .ofJson (.ofUuid l.line.entry)), ("entry_number", .ofJson (.text l.line.entryNumber)),
      ("date", .ofJson (.ofDate l.line.date)), ("description", .ofJson (.text l.description)),
      ("memo", .ofJson (.ofText? l.line.memo)), ("source", .ofJson (.text l.line.source.toText)),
      ("status", .ofJson (.text l.line.status.toText)), ("debit", .ofAmount l.line.debit),
      ("credit", .ofAmount l.line.credit), ("running_balance", .ofAmount l.runningBalance)]

/-- The ledger of an account. -/
def ofLedger (l : AccountLedger) : Except Failure Json :=
  (Part.object
    [("account", .ofJson (ofAccount l.account)), ("entries", .list (l.entries.map ofLedgerLine)),
      ("opening_balance", .ofAmount l.openingBalance), ("total_debit", .ofAmount l.totalDebit),
      ("total_credit", .ofAmount l.totalCredit), ("closing_balance", .ofAmount l.closingBalance),
      ("total_count", .ofJson (.int l.totalCount))]).shown "AccountLedgerResponseDTO"

/-- The sums of an invoice. -/
def ofInvoiceTotals (t : InvoiceTotals) : Except Failure Json :=
  (Part.object
    [("subtotal", .ofAmount t.subtotal), ("vat_amount", .ofAmount t.vat),
      ("total", .ofAmount t.total)]).shown "InvoiceTotalsResponseDTO"

end Bookkeeping.Web

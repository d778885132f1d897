import Bookkeeping.Account
import Bookkeeping.Entry.Basic
import Bookkeeping.Json.Values
import Bookkeeping.Request.Whole

set_option autoImplicit false

/-! # Records

The documents that answers are made of, read by the rules of requests: every field must be given, and
amounts must be finite but have no bounds. What is read is written back in its normal form: amounts,
days and identifiers as the ledger writes them. -/

namespace Bookkeeping.Request

/-! ## Normal forms -/

/-- Read a value and write it in its normal form. -/
def normal {α : Type} (write : α → Json) (read : Reader α) : Reader Json :=
  fun at' j => write <$> read at' j

/-- Null, or a value in its normal form. -/
def orNull (read : Reader Json) : Reader Json := normal (Json.ofOption id) (nullable read)

/-- A text. -/
def textField : Reader Json := normal .text text

/-- A flag. -/
def flagField : Reader Json := normal .bool flag

/-- A whole number. -/
def wholeField : Reader Json := normal .int whole

/-- A finite amount. -/
def amountField : Reader Json := normal .ofAmount amount

/-- An identifier. -/
def identifierField : Reader Json := normal .ofUuid identifier

/-- A day. -/
def dayField : Reader Json := normal .ofDate day

/-- A point in time. -/
def momentField : Reader Json :=
  fun at' j =>
    let ofRead (unreadable : ProblemKind) : Except Lenient.Fault Lenient.Moment → Checked Json
      | .ok m =>
        match m.toText with
        | .ok t => .accepted (.text t)
        | .error _ => .refuse at' .momentOutside j
      | .error .kind => .refuse at' .notMoment j
      | .error _ => .refuse at' unreadable j
    match j with
    | .text s => ofRead .momentUnreadable (Lenient.momentOfText s)
    | .int n => ofRead .momentOutside (Lenient.momentOfInt n)
    | .float x => ofRead .momentOutside (Lenient.momentOf (Lenient.ofBinary64? x))
    | _ => .refuse at' .notMoment j

/-- A list of values in their normal forms. -/
def listField (read : Reader Json) : Reader Json := normal .list (listOf 0 read)

/-- Fields that must all be given. -/
def fieldsOf : List (String × Reader Json) → Shape (List (String × Json))
  | [] => pure []
  | (name, read) :: rest => (fun j js => (name, j) :: js) <$> required name read <*> fieldsOf rest

/-- An object of fields that must all be given. -/
def record (fields : List (String × Reader Json)) : Reader Json :=
  normal .object (object (fieldsOf fields))

/-! ## The records -/

/-- An account. -/
def accountRecord : Reader Json :=
  record
    [("id", identifierField), ("company_id", identifierField), ("code", textField),
      ("name_en", textField), ("name_ar", orNull textField),
      ("account_type", normal (fun t => .text t.toText) (word AccountType.ofText?)),
      ("is_vat_account", flagField), ("is_system_account", flagField), ("is_active", flagField),
      ("is_archived", flagField), ("created_at", momentField), ("updated_at", orNull momentField)]

/-- A line of an entry. -/
def lineRecord : Reader Json :=
  record
    [("id", identifierField), ("account_id", identifierField), ("line_number", wholeField),
      ("debit", amountField), ("credit", amountField), ("description", orNull textField)]

/-- The status of an entry. -/
def statusField : Reader Json := normal (fun s => .text s.toText) (word EntryStatus.ofText?)

/-- The source of an entry. -/
def sourceField : Reader Json := normal (fun s => .text s.toText) (word EntrySource.ofText?)

/-- An entry with its lines. -/
def entryRecord : Reader Json :=
  record
    [("id", identifierField), ("company_id", identifierField), ("entry_number", textField),
      ("date", dayField), ("memo", orNull textField), ("status", statusField),
      ("source", sourceField), ("source_id", orNull identifierField),
      ("reversed_entry_id", orNull identifierField), ("reversal_reason", orNull textField),
      ("created_by", textField), ("created_at", momentField), ("posted_by", orNull textField),
      ("posted_at", orNull momentField), ("updated_by", orNull textField),
      ("updated_at", orNull momentField), ("total_debit", amountField),
      ("total_credit", amountField), ("lines", listField lineRecord)]

/-- The number that the next entry of a day would receive. -/
def entryNumberRecord : Reader Json :=
  record [("company_id", identifierField), ("entry_number", textField)]

/-- An account with its balance. -/
def balanceRecord : Reader Json :=
  record
    [("account", accountRecord), ("balance", amountField), ("debit_total", amountField),
      ("credit_total", amountField)]

/-- A line of a ledger. -/
def ledgerLineRecord : Reader Json :=
  record
    [("line_id", identifierField), ("entry_id", identifierField), ("entry_number", textField),
      ("date", dayField), ("description", textField), ("memo", orNull textField),
      ("source", sourceField), ("status", statusField), ("debit", amountField),
      ("credit", amountField), ("running_balance", amountField)]

/-- The ledger of an account. -/
def ledgerRecord : Reader Json :=
  record
    [("account", accountRecord), ("entries", listField ledgerLineRecord),
      ("opening_balance", amountField), ("total_debit", amountField), ("total_credit", amountField),
      ("closing_balance", amountField), ("total_count", wholeField)]

/-- A row of a trial balance. -/
def trialBalanceRowRecord : Reader Json :=
  record [("account", accountRecord), ("debit", amountField), ("credit", amountField)]

/-- A trial balance. -/
def trialBalanceRecord : Reader Json :=
  record
    [("rows", listField trialBalanceRowRecord), ("total_debit", amountField),
      ("total_credit", amountField), ("difference", amountField), ("is_balanced", flagField)]

/-- The sums of an invoice. -/
def invoiceTotalsRecord : Reader Json :=
  record [("subtotal", amountField), ("vat_amount", amountField), ("total", amountField)]

end Bookkeeping.Request

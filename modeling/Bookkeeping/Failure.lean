import Bookkeeping.Calendar.Iso
import Bookkeeping.Gap
import Bookkeeping.Uuid

set_option autoImplicit false

/-! # Failures

Why a call has no result, as causes: a rule of the ledger was broken (`LedgerError`), a value lies
outside its domain (`ValueFault`), amounts could not be computed with, or the store refused. The
wording of each cause is given by one function, `message`; the family that an error of the ledger
belongs to is its `ErrorKind`. -/

namespace Bookkeeping

/-! ## Families of errors -/

/-- Families of errors of the ledger. -/
inductive ErrorKind where
  | ledger
  | validation
  | unbalancedEntry
  | invalidAccount
  | entryState
  | notFound
  | accountNotFound
  | entryNotFound
  | conflict
  | duplicateEntryNumber
  | duplicateAccountCode
  | accountInUse
  | concurrency
  deriving DecidableEq, Repr

namespace ErrorKind

/-- All families. -/
def all : List ErrorKind :=
  [.ledger, .validation, .unbalancedEntry, .invalidAccount, .entryState, .notFound,
    .accountNotFound, .entryNotFound, .conflict, .duplicateEntryNumber, .duplicateAccountCode,
    .accountInUse, .concurrency]

/-- The code of a family in answers. -/
def code : ErrorKind → String
  | .ledger => "LEDGER_ERROR"
  | .validation => "VALIDATION_ERROR"
  | .unbalancedEntry => "UNBALANCED_ENTRY"
  | .invalidAccount => "INVALID_ACCOUNT"
  | .entryState => "INVALID_ENTRY_STATE"
  | .notFound => "NOT_FOUND"
  | .accountNotFound => "ACCOUNT_NOT_FOUND"
  | .entryNotFound => "ENTRY_NOT_FOUND"
  | .conflict => "CONFLICT"
  | .duplicateEntryNumber => "DUPLICATE_ENTRY_NUMBER"
  | .duplicateAccountCode => "DUPLICATE_ACCOUNT_CODE"
  | .accountInUse => "ACCOUNT_IN_USE"
  | .concurrency => "CONCURRENCY_CONFLICT"

/-- Errors about what was asked for. -/
def isValidation : ErrorKind → Bool
  | .validation | .unbalancedEntry | .invalidAccount | .entryState => true
  | _ => false

/-- Errors about something that does not exist. -/
def isNotFound : ErrorKind → Bool
  | .notFound | .accountNotFound | .entryNotFound => true
  | _ => false

/-- Errors about something that exists already or is in use. -/
def isConflict : ErrorKind → Bool
  | .conflict | .duplicateEntryNumber | .duplicateAccountCode | .accountInUse => true
  | _ => false

/-- Errors after which the allocation of an entry number is tried again. -/
def isRetried : ErrorKind → Bool
  | .duplicateEntryNumber | .concurrency => true
  | _ => false

end ErrorKind

/-! ## Broken rules of the ledger -/

/-- A broken rule of the ledger. Lines are numbered from one. -/
inductive LedgerError where
  /-- An entry without lines. -/
  | emptyEntry
  | negativeAmount (line : Nat)
  /-- A line with both a debit and a credit. -/
  | twoSidedLine (line : Nat)
  /-- An entry that lacks debits or credits. -/
  | oneSidedEntry
  | unbalanced (debit credit difference : Decimal)
  | unknownAccount (line : Nat) (account : Uuid)
  /-- A line on an account of another company. -/
  | foreignAccount (line : Nat) (code : String)
  /-- A line on an account that is archived or inactive. -/
  | closedAccount (line : Nat) (code : String)
  /-- What is attempted is not allowed on a posted entry. -/
  | entryPosted (number action : String)
  /-- What is attempted is not allowed on a void entry. -/
  | entryVoid (number action : String)
  | alreadyPosted (number : String)
  /-- The entry was a draft when it was read and is none any more. -/
  | noLongerDraft (number : String)
  | reversalOfUnposted
  | alreadyReversed (number reversal : String)
  | accountNotFound (account : Uuid)
  | codeNotFound (company : Uuid) (code : String)
  | entryNotFound (entry : Uuid)
  | duplicateCodes (codes : List String)
  /-- Code or type of an account with lines cannot change. -/
  | accountFieldsInUse (code : String) (fields : List String)
  /-- An account with lines cannot be deleted. -/
  | accountHasLines (code : String)
  | systemAccountArchived (code : String)
  | systemAccountDeleted (code : String)
  | archivedReactivated (code : String)
  /-- The number that was allocated exists already. -/
  | numberTaken (dayPrefix : String)
  /-- Another writer holds the counter. -/
  | numberContended (dayPrefix : String)
  /-- Every attempt to allocate a number met a conflict. -/
  | allocationFailed (dayPrefix : String) (attempts : Nat)
  | emptyInvoice
  | invoiceNotPositive
  | paymentAccountMissing
  | paymentNotPositive
  | paymentAccountNotAsset
  | receiptAccountsMissing
  | receiptNotPositive
  | accountNotExpense
  /-- The company has no account with a code that documents are posted to. -/
  | roleUnfilled (company : Uuid) (code : String)
  /-- A document names an account of another company. -/
  | documentAccountForeign (code : String)
  /-- An error that something outside the ledger raised in its name. -/
  | reported (kind : ErrorKind) (text : String)
  deriving DecidableEq, Repr

namespace LedgerError

/-- The family of an error. -/
def kind : LedgerError → ErrorKind
  | .emptyEntry | .negativeAmount _ | .twoSidedLine _ | .oneSidedEntry => .validation
  | .unbalanced _ _ _ => .unbalancedEntry
  | .unknownAccount _ _ | .foreignAccount _ _ | .closedAccount _ _ => .invalidAccount
  | .entryPosted _ _ | .entryVoid _ _ | .alreadyPosted _ | .noLongerDraft _
  | .reversalOfUnposted | .alreadyReversed _ _ => .entryState
  | .accountNotFound _ | .codeNotFound _ _ => .accountNotFound
  | .entryNotFound _ => .entryNotFound
  | .duplicateCodes _ => .duplicateAccountCode
  | .accountFieldsInUse _ _ | .accountHasLines _ => .accountInUse
  | .systemAccountArchived _ | .systemAccountDeleted _ | .archivedReactivated _ => .validation
  | .numberTaken _ => .duplicateEntryNumber
  | .numberContended _ | .allocationFailed _ _ => .concurrency
  | .emptyInvoice | .invoiceNotPositive | .paymentAccountMissing | .paymentNotPositive
  | .receiptAccountsMissing | .receiptNotPositive => .validation
  | .paymentAccountNotAsset | .accountNotExpense | .roleUnfilled _ _
  | .documentAccountForeign _ => .invalidAccount
  | .reported k _ => k

/-- The start of a message about a line. -/
def lineText (n : Nat) : String := "Line " ++ Text.natText n ++ ": "

/-- The wording of an error. -/
def message : LedgerError → String
  | .emptyEntry => "Journal entry must have at least one line"
  | .negativeAmount n => lineText n ++ "amounts must not be negative"
  | .twoSidedLine n => lineText n ++ "a line is either a debit or a credit"
  | .oneSidedEntry => "Entry must have at least one debit and one credit"
  | .unbalanced d c x =>
      "Debits (" ++ d.toFixed 2 ++ ") must equal credits (" ++ c.toFixed 2 ++ "); difference "
        ++ x.toFixed 2
  | .unknownAccount n a => lineText n ++ "account " ++ a.toText ++ " does not exist"
  | .foreignAccount n code => lineText n ++ "account " ++ code ++ " belongs to another company"
  | .closedAccount n code => lineText n ++ "account " ++ code ++ " is archived or inactive"
  | .entryPosted number action =>
      "Entry " ++ number ++ " is posted and cannot be " ++ action ++ "; reverse it instead"
  | .entryVoid number action => "Entry " ++ number ++ " is void and cannot be " ++ action
  | .alreadyPosted number => "Entry " ++ number ++ " is already posted"
  | .noLongerDraft number => "Entry " ++ number ++ " is no longer a draft"
  | .reversalOfUnposted => "Only posted entries can be reversed"
  | .alreadyReversed number reversal =>
      "Entry " ++ number ++ " was already reversed by " ++ reversal
  | .accountNotFound a => "Account not found: " ++ a.toText
  | .codeNotFound company code => "Account not found: " ++ company.toText ++ "/" ++ code
  | .entryNotFound e => "Journal entry not found: " ++ e.toText
  | .duplicateCodes codes => "Account code already exists: " ++ String.intercalate ", " codes
  | .accountFieldsInUse code fields =>
      "Account " ++ code ++ " has journal lines; its " ++ String.intercalate ", " fields
        ++ " cannot change"
  | .accountHasLines code => "Account " ++ code ++ " has journal lines and can only be archived"
  | .systemAccountArchived code => "System account " ++ code ++ " cannot be archived"
  | .systemAccountDeleted code => "System account " ++ code ++ " cannot be deleted"
  | .archivedReactivated code => "Account " ++ code ++ " is archived and cannot be reactivated"
  | .numberTaken p => "Entry number for " ++ p ++ " already taken"
  | .numberContended p => "Entry number allocation for " ++ p ++ " is contended"
  | .allocationFailed p n =>
      "Could not allocate an entry number for " ++ p ++ " after " ++ Text.natText n ++ " attempts"
  | .emptyInvoice => "Invoice must have at least one line"
  | .invoiceNotPositive => "Invoice total must be greater than zero"
  | .paymentAccountMissing => "Payment account is required when recording a payment"
  | .paymentNotPositive => "Payment amount must be greater than zero"
  | .paymentAccountNotAsset => "Payment account must be a cash or bank account (asset)"
  | .receiptAccountsMissing => "Expense account and payment account are required"
  | .receiptNotPositive => "Receipt amount must be greater than zero"
  | .accountNotExpense => "Selected account must be an expense account"
  | .roleUnfilled company code =>
      "Company " ++ company.toText ++ " has no account with code " ++ code
  | .documentAccountForeign code => "Account " ++ code ++ " belongs to another company"
  | .reported _ text => text

end LedgerError

/-! ## Values outside their domain -/

/-- A value that is not in the domain of what it is given for. -/
inductive ValueFault where
  /-- A word, or none, that is not in a vocabulary. -/
  | vocabulary (word : Option String) (name : String)
  | calendar (fault : Iso.Fault)
  | number (text : String) (fault : Text.NumberFault)
  | identifier (fault : Uuid.Fault)
  /-- A sequence number has too many digits to be written. -/
  | sequenceTooLong
  /-- A counter has reached the largest number that the store holds, and cannot be advanced. -/
  | counterExhausted
  /-- The clock shows a day whose year cannot be told. -/
  | clockYear
  /-- A range of days that ends before it starts. -/
  | rangeOrder
  | limit
  | offset
  /-- A ledger window that ends before it starts. -/
  | windowOrder
  | databaseType (name : String)
  /-- A document of an answer has parts that cannot be shown. -/
  | gaps (document : String) (gaps : List Gap)
  deriving DecidableEq, Repr

/-- The wording for a text that is not read as a whole number. -/
def numberMessage (text : String) : Text.NumberFault → String
  | .malformed => "invalid literal for int() with base 10: " ++ Text.quotedStart text
  | .tooLong n =>
      "Exceeds the limit (4300 digits) for integer string conversion: value has " ++ Text.natText n
        ++ " digits; use sys.set_int_max_str_digits() to increase the limit"

/-- The wording of a value fault. -/
def ValueFault.message : ValueFault → String
  | .vocabulary none name => "None is not a valid " ++ name
  | .vocabulary (some w) name => Text.quoted w ++ " is not a valid " ++ name
  | .calendar f => f.message
  | .number text f => numberMessage text f
  | .identifier f => f.message
  | .sequenceTooLong =>
      "Exceeds the limit (4300 digits) for integer string conversion; "
        ++ "use sys.set_int_max_str_digits() to increase the limit"
  | .counterExhausted => "Unknown format code 'd' for object of type 'float'"
  | .clockYear => "year 0 is out of range"
  | .rangeOrder => "Date range start must not be after its end"
  | .limit => "limit must be positive"
  | .offset => "offset must not be negative"
  | .windowOrder => "date_start must not be after date_end"
  | .databaseType name => "Unsupported database type: " ++ name
  | .gaps document gs => Gap.report document gs

/-! ## Failures -/

/-- Why a call has no result. -/
inductive Failure where
  /-- A rule of the ledger was broken. -/
  | ledger (error : LedgerError)
  /-- A value lies outside its domain. -/
  | value (fault : ValueFault)
  /-- Amounts could not be computed with. -/
  | amount (fault : Decimal.Fault)
  /-- The database refused, with this text. -/
  | database (text : String)
  /-- A constraint of the database would be violated. -/
  | constraint (text : String)
  /-- Something else went wrong, with this text. -/
  | crash (text : String)
  /-- An error was raised without all that belongs to it, as this text tells. -/
  | misuse (text : String)
  /-- A point in time falls outside the calendar. -/
  | outsideCalendar
  /-- A whole number is too large for a column of the store. -/
  | wideInteger
  deriving DecidableEq, Repr

namespace Failure

/-- The family of a failure, if a rule of the ledger was broken. -/
def kind? : Failure → Option ErrorKind
  | .ledger e => some e.kind
  | _ => none

/-- Is the allocation of an entry number tried again after this failure? -/
def isRetried (f : Failure) : Bool :=
  match f.kind? with
  | some k => k.isRetried
  | none => false

/-- The wording of a failure. -/
def message : Failure → String
  | .ledger e => e.message
  | .value f => f.message
  | .amount .invalidOperation => "the operation on amounts has no result"
  | .amount .conversionSyntax => "the text is not an amount"
  | .amount .overflow => "the amount is too large"
  | .database text => text
  | .constraint text => text
  | .crash text => text
  | .misuse text => text
  | .outsideCalendar => "date value out of range"
  | .wideInteger => "the number is too large for the store"

end Failure

/-- The failure when something outside the ledger raises an error of a family with one text. Some
    families take the text for a part of their wording, and one of them needs two amounts. -/
def Failure.ofReport (kind : ErrorKind) (text : String) : Failure :=
  match kind with
  | .accountNotFound => .ledger (.reported kind ("Account not found: " ++ text))
  | .entryNotFound => .ledger (.reported kind ("Journal entry not found: " ++ text))
  | .duplicateAccountCode => .ledger (.duplicateCodes (text.toList.map String.singleton))
  | .unbalancedEntry =>
      .misuse
        "UnbalancedEntryError.__init__() missing 1 required positional argument: 'total_credit'"
  | _ => .ledger (.reported kind text)

/-- Take over a computation with amounts into a call. -/
def liftAmount {α : Type} : Except Decimal.Fault α → Except Failure α
  | .ok x => .ok x
  | .error f => .error (.amount f)

/-- Fail with a broken rule. -/
def broken {α : Type} (e : LedgerError) : Except Failure α := .error (.ledger e)

end Bookkeeping

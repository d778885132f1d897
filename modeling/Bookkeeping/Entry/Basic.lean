import Bookkeeping.Failure

set_option autoImplicit false

/-! # Journal entries

An entry is a dated and numbered set of lines, each a debit or a credit on an account. It starts as
a draft and is then posted or made void; only posted entries count in reports.

The type of the amounts of a line is a parameter: an answer holds amounts, the store holds what an
amount becomes when it is stored. -/

namespace Bookkeeping

/-! ## Status and source -/

/-- Where an entry is in its life. -/
inductive EntryStatus where
  | draft
  | posted
  | void
  deriving DecidableEq, Repr, Inhabited

namespace EntryStatus

/-- All statuses. -/
def all : List EntryStatus := [.draft, .posted, .void]

/-- The word for a status. -/
def toText : EntryStatus → String
  | .draft => "draft"
  | .posted => "posted"
  | .void => "void"

/-- The status that a word stands for. -/
def ofText? (s : String) : Option EntryStatus := all.find? fun x => x.toText == s

end EntryStatus

/-- What an entry was made from. -/
inductive EntrySource where
  | manual
  | invoice
  | receipt
  | payment
  | reversal
  | imported
  | system
  deriving DecidableEq, Repr, Inhabited

namespace EntrySource

/-- All sources. -/
def all : List EntrySource :=
  [.manual, .invoice, .receipt, .payment, .reversal, .imported, .system]

/-- The word for a source. -/
def toText : EntrySource → String
  | .manual => "manual"
  | .invoice => "invoice"
  | .receipt => "receipt"
  | .payment => "payment"
  | .reversal => "reversal"
  | .imported => "import"
  | .system => "system"

/-- The source that a word stands for. -/
def ofText? (s : String) : Option EntrySource := all.find? fun x => x.toText == s

end EntrySource

/-! ## Lines -/

/-- A debit or credit that is proposed for an entry. -/
structure PostingLine where
  account : Uuid
  debit : Decimal := Decimal.zero
  credit : Decimal := Decimal.zero
  description : Option String := none
  deriving DecidableEq, Repr

namespace PostingLine

/-- A line without an amount on either side. The credit is looked at only if the debit is zero. -/
def isMemo (l : PostingLine) : Except Decimal.Fault Bool := do
  if ← l.debit.isZero then l.credit.isZero else return false

/-- Debit and credit exchanged, with another description if one is given. -/
def swapped (l : PostingLine) (description : Option String) : PostingLine :=
  { account := l.account
    debit := l.credit
    credit := l.debit
    description := description.orElse fun _ => l.description }

end PostingLine

/-- A numbered line of an entry, with amounts of type `α`. -/
structure Line (α : Type) where
  account : Uuid
  number : Nat
  debit : α
  credit : α
  description : Option String
  deriving DecidableEq, Repr

namespace Line

/-- Change the amounts of a line. -/
def map {α β : Type} (f : α → β) (l : Line α) : Line β :=
  { l with debit := f l.debit, credit := f l.credit }

/-- The line as a proposal for another entry. -/
def toPosting (l : Line Decimal) : PostingLine :=
  ⟨l.account, l.debit, l.credit, l.description⟩

end Line

/-- Number proposed lines from `n` on. -/
def numberLines : Nat → List PostingLine → List (Line Decimal)
  | _, [] => []
  | n, l :: rest => ⟨l.account, n, l.debit, l.credit, l.description⟩ :: numberLines (n + 1) rest

/-! ## Entries -/

/-- What is known of an entry before it is written. -/
structure EntryHeader where
  company : Uuid
  date : Date
  createdBy : String
  memo : Option String := none
  source : EntrySource := .manual
  sourceId : Option Uuid := none
  reversedEntry : Option Uuid := none
  reversalReason : Option String := none
  deriving DecidableEq, Repr

/-- The header fields of a draft that may be edited; `none` leaves a field as it is. -/
structure EntryUpdate where
  date : Option Date := none
  memo : Option String := none
  deriving DecidableEq, Repr

/-- A journal entry with its lines, with amounts of type `α`. -/
structure Entry (α : Type) where
  id : Uuid
  company : Uuid
  number : String
  date : Date
  memo : Option String
  status : EntryStatus
  source : EntrySource
  sourceId : Option Uuid
  reversedEntry : Option Uuid
  reversalReason : Option String
  createdBy : String
  createdAt : Instant
  postedBy : Option String
  postedAt : Option Instant
  updatedBy : Option String
  updatedAt : Option Instant
  lines : List (Line α)
  deriving DecidableEq, Repr

namespace Entry

/-- Change the amounts of an entry. -/
def map {α β : Type} (f : α → β) (e : Entry α) : Entry β :=
  { e with lines := e.lines.map (Line.map f) }

/-- The entry after an edit of its header. -/
def edited {α : Type} (u : EntryUpdate) (user : String) (now : Instant) (e : Entry α) : Entry α :=
  { e with
    date := u.date.getD e.date
    memo := u.memo.orElse fun _ => e.memo
    updatedBy := some user
    updatedAt := some now }

/-- The entry after a change of its status. Posting notes who posted it and when. -/
def moved {α : Type} (target : EntryStatus) (user : String) (now : Instant) (e : Entry α) : Entry α :=
  { e with
    status := target
    updatedBy := some user
    updatedAt := some now
    postedBy := if target == .posted then some user else e.postedBy
    postedAt := if target == .posted then some now else e.postedAt }

/-- The sum of the debits. -/
def totalDebit (e : Entry Decimal) : Except Decimal.Fault Decimal :=
  Decimal.sum (e.lines.map Line.debit)

/-- The sum of the credits. -/
def totalCredit (e : Entry Decimal) : Except Decimal.Fault Decimal :=
  Decimal.sum (e.lines.map Line.credit)

end Entry

/-- Do two totals differ by at most one cent? -/
def withinTolerance (debit credit : Decimal) : Except Decimal.Fault Bool := do
  (← (← debit.sub credit).abs).le Decimal.cent

namespace Entry

/-- Do debits and credits agree, within one cent? -/
def isBalanced (e : Entry Decimal) : Except Decimal.Fault Bool := do
  withinTolerance (← e.totalDebit) (← e.totalCredit)

end Entry

/-- Only drafts may be modified. -/
def EntryStatus.canModify (s : EntryStatus) : Bool := s == .draft

/-- Refuse an action on an entry that is no draft. -/
def ensureDraft (status : EntryStatus) (number action : String) : Except LedgerError Unit :=
  match status with
  | .draft => .ok ()
  | .posted => .error (.entryPosted number action)
  | .void => .error (.entryVoid number action)

end Bookkeeping

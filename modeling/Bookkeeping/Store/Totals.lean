import Bookkeeping.Store.Entries
import Bookkeeping.Text.Blank
import Bookkeeping.Window

set_option autoImplicit false

/-! # Totals and posted lines

What reports read from the store: sums of the posted lines per account, and the posted lines of one
account. The sums run over stored amounts, which are not rounded, so the order of addition is part
of the result. -/

namespace Bookkeeping

/-- A posted line with what its entry says about it. -/
structure PostedLine where
  entry : Uuid
  entryNumber : String
  date : Date
  memo : Option String
  source : EntrySource
  status : EntryStatus
  debit : Decimal
  credit : Decimal
  description : Option String
  sequence : Int
  lineNumber : Nat
  deriving DecidableEq, Repr

/-- The lines of an entry on an account. -/
def StoredEntry.linesOn (e : StoredEntry) (account : Uuid) : List (Line Cell) :=
  e.entry.lines.filter fun l => l.account == account

namespace Store

/-! ## Sums -/

/-- The text of the database for a sum of whole numbers that leaves 64 bits. -/
def sumOverflow : Failure := .database "integer overflow"

/-- The sum of stored amounts as it is read. -/
def sumCells (cells : List Cell) : Except Failure Decimal :=
  match Cell.sum? cells with
  | some c => .ok c.toDecimal
  | none => .error sumOverflow

/-- The sums of the debits and of the credits of lines. -/
def sumLines (lines : List (Line Cell)) : Except Failure (Decimal × Decimal) := do
  return (← sumCells (lines.map Line.debit), ← sumCells (lines.map Line.credit))

/-- Earlier days first; entries of one day stay in the order of their creation. -/
def dateLe (a b : StoredEntry) : Bool := decide (a.entry.date ≤ b.entry.date)

/-- The posted entries of a company in a range, by date and creation. -/
def postedEntries (s : Store) (company : Uuid) (range : DateRange) : List StoredEntry :=
  (s.entries.filter fun e =>
    e.entry.company == company && e.isPosted && range.holds e.entry.date).mergeSort dateLe

/-- The accounts that occur in lines, each once, in the order of their first line. -/
def accountsInLines (lines : List (Line Cell)) : List Uuid :=
  (lines.map Line.account).eraseDups

/-- Totals of debits and credits of an account. -/
structure AccountTotals where
  account : Uuid
  debit : Decimal
  credit : Decimal
  deriving DecidableEq, Repr

/-- The totals of the posted lines of a company in a range, for every account that has one. -/
def postedTotals (s : Store) (company : Uuid) (range : DateRange) :
    Except Failure (List AccountTotals) :=
  let lines := (s.postedEntries company range).flatMap fun e => e.entry.lines
  (accountsInLines lines).mapM fun a => do
    let (debit, credit) ← sumLines (lines.filter fun l => l.account == a)
    return ⟨a, debit, credit⟩

/-- Lines that were written earlier first. -/
def writtenLe (a b : StoredEntry) : Bool := a.written ≤ b.written

/-- The totals of the posted lines of an account before a day. -/
def postedTotalsBefore (s : Store) (account : Uuid) (day : Date) :
    Except Failure (Decimal × Decimal) :=
  let earlier := s.entries.filter fun e => e.isPosted && decide (e.entry.date < day)
  sumLines ((earlier.mergeSort writtenLe).flatMap fun e => e.linesOn account)

/-! ## Posted lines -/

/-- A stored line with what its entry says about it. -/
def postedLine (e : StoredEntry) (l : Line Cell) : PostedLine :=
  { entry := e.entry.id
    entryNumber := e.entry.number
    date := e.entry.date
    memo := e.entry.memo
    source := e.entry.source
    status := e.entry.status
    debit := l.debit.toDecimal
    credit := l.credit.toDecimal
    description := l.description
    sequence := e.sequence
    lineNumber := l.number }

/-- Chronological order: by date, sequence, number and line. -/
def chronological (a b : PostedLine) : Bool :=
  if a.date ≠ b.date then decide (a.date < b.date)
  else if a.sequence ≠ b.sequence then decide (a.sequence < b.sequence)
  else if a.entryNumber ≠ b.entryNumber then decide (a.entryNumber < b.entryNumber)
  else decide (a.lineNumber ≤ b.lineNumber)

/-- Does the number, the memo or the description of a line match the pattern of a search? -/
def matchesSearch (pattern : String) (l : PostedLine) : Bool :=
  let test : String → Bool := Text.likeMatches (some '\\') pattern
  test l.entryNumber || l.memo.any test || l.description.any test

/-- The posted lines of an account in a range in which a search term occurs, if there is one, in
    chronological order. -/
def postedLines (s : Store) (account : Uuid) (range : DateRange) (search : Option String) :
    Except Failure (List PostedLine) := do
  let entries := s.entries.filter fun e => e.isPosted && range.holds e.entry.date
  let lines := entries.flatMap fun e => (e.linesOn account).map (postedLine e)
  let found ←
    match search with
    | some term =>
      let pattern := Text.containsPattern term
      keepMatches pattern (matchesSearch pattern) lines
    | none => pure lines
  return found.mergeSort chronological

end Store

end Bookkeeping

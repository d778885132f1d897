import Bookkeeping.Store.Accounts
import Bookkeeping.Text.Wildcard

set_option autoImplicit false

/-! # Entries in the store

Reading and writing of journal entries and the allocation of their numbers. Numbers of a company's
day come from a counter; where there is none yet, the numbers that exist are looked through. -/

namespace Bookkeeping.Store

/-! ## Reading -/

/-- Read a stored entry, if there is one. -/
def readFound : Option StoredEntry → Except Failure (Option (Entry Decimal))
  | some e => e.read.map some
  | none => .ok none

/-- The entry with an identifier. -/
def entry? (s : Store) (id : Uuid) : Except Failure (Option (Entry Decimal)) :=
  readFound (s.stored? id)

/-- Newest first: by date, by sequence and by number, each descending. -/
def newestFirst (a b : StoredEntry) : Bool :=
  if a.entry.date ≠ b.entry.date then decide (b.entry.date < a.entry.date)
  else if a.sequence ≠ b.sequence then decide (b.sequence < a.sequence)
  else !decide (a.entry.number < b.entry.number)

/-- The entries of a company, newest first, of one status on request. -/
def entriesOf (s : Store) (company : Uuid) (status : Option EntryStatus) :
    Except Failure (List (Entry Decimal)) :=
  let wanted (e : StoredEntry) : Bool :=
    e.entry.company == company && (match status with | some x => e.isIn x | none => true)
  ((s.entries.filter wanted).mergeSort newestFirst).mapM StoredEntry.read

/-- The entry that reverses another one. -/
def reversalOf? (s : Store) (id : Uuid) : Except Failure (Option (Entry Decimal)) :=
  readFound (s.entries.find? fun e => e.entry.reversedEntry == some id)

/-! ## Numbers -/

/-- The counter of a company for the numbers of a day. -/
def counter? (s : Store) (company : Uuid) (dayPrefix : String) : Option Counter :=
  s.counters.find? fun c => c.company == company && c.dayPrefix == dayPrefix

/-- What the database tells about a pattern that is too long. -/
def longPattern : Failure := .database "LIKE or GLOB pattern too complex"

/-- Keep what matches a pattern. A pattern that is too long is noticed when something is tried. -/
def keepMatches {α : Type} (pattern : String) (test : α → Bool) (xs : List α) :
    Except Failure (List α) :=
  if Text.isPatternTooLong pattern && !xs.isEmpty then .error longPattern else .ok (xs.filter test)

/-- The numbers of a company that look like numbers of a day. The day is matched as a pattern, without
    regard to case. -/
def numbersLike (s : Store) (company : Uuid) (dayPrefix : String) : Except Failure (List String) :=
  let pattern := dayPrefix ++ "-%"
  let entries := s.entries.filter fun e => e.entry.company == company
  keepMatches pattern (Text.likeMatches none pattern) (entries.map fun e => e.entry.number)

/-- The largest of a sequence number so far and those of the given numbers. -/
def largestSequence : Int → List String → Except Failure Int
  | best, [] => .ok best
  | best, n :: rest => do
      let x ← EntryNumber.sequenceOf n
      largestSequence (max best (x.getD 0)) rest

/-- The highest sequence number in use on a day: at least the count of the numbers there are. -/
def highestExisting (s : Store) (company : Uuid) (dayPrefix : String) : Except Failure Int := do
  let numbers ← s.numbersLike company dayPrefix
  largestSequence numbers.length numbers

/-- The sequence number that the next entry of a day would receive. -/
def peekSequence (s : Store) (company : Uuid) (dayPrefix : String) : Except Failure Int :=
  match s.counter? company dayPrefix with
  | some c => .ok c.next
  | none => do return (← s.highestExisting company dayPrefix) + 1

/-- Refuse a whole number that does not fit into the store. -/
def checkWidth (n : Int) : Except Failure Unit :=
  if Cell.fits n then .ok () else .error .wideInteger

/-- Allocate a sequence number: the counter is advanced, or made if there is none. -/
def allocate (s : Store) (company : Uuid) (dayPrefix : String) : Except Failure (Write Int) :=
  match s.counter? company dayPrefix with
  | some c =>
      if Cell.fits (c.next + 1) then .ok ⟨c.next, [.advanceCounter company dayPrefix]⟩
      else .error (.value .counterExhausted)
  | none => do
      let n := (← s.highestExisting company dayPrefix) + 1
      checkWidth (n + 1)
      return ⟨n, [.insertCounter ⟨company, dayPrefix, n + 1⟩]⟩

/-! ## Writing -/

/-- A new entry with a header. -/
def newEntry {α : Type} (id : Uuid) (now : Instant) (number : String) (h : EntryHeader)
    (status : EntryStatus) (postedBy : Option String) (lines : List (Line α)) : Entry α :=
  { id, number, status, lines
    company := h.company
    date := h.date
    memo := h.memo
    source := h.source
    sourceId := h.sourceId
    reversedEntry := h.reversedEntry
    reversalReason := h.reversalReason
    createdBy := h.createdBy
    createdAt := now
    postedBy := postedBy
    postedAt := if status == .posted then some now else none
    updatedBy := none
    updatedAt := none }

/-- Create an entry: allocate its number, insert its header, then its lines. The answer shows the
    amounts as they were given. -/
def createEntry (s : Store) (now : Instant) (h : EntryHeader) (lines : List PostingLine)
    (dayPrefix : String) (status : EntryStatus) (postedBy : Option String) :
    Except Failure (Write (Entry Decimal)) := do
  let allocation ← s.allocate h.company dayPrefix
  let sequence := allocation.answer
  let id := Uuid.issue s.issued
  let number := EntryNumber.format dayPrefix sequence
  let numbered := numberLines 1 lines
  return {
    answer := newEntry id now number h status postedBy numbered
    statements := allocation.statements
      ++ .insertEntry (newEntry id now number h status postedBy []) sequence
      :: numbered.map (.insertLine id) }

/-- Edit header fields of a draft and replace all of its lines, the new ones first; `none` when there
    is no such draft. -/
def replaceDraft (s : Store) (clock : Clock) (id : Uuid) (u : EntryUpdate) (lines : List PostingLine)
    (user : String) : Except Failure (Write (Option (Entry Decimal))) :=
  match (s.stored? id).filter fun e => e.isIn .draft with
  | none => .ok ⟨none, []⟩
  | some old => do
      let now ← clock
      let numbered := numberLines 1 lines
      return {
        answer := some { old.shown.edited u user now with lines := numbered }
        statements := .editEntry id u user now :: numbered.map (.insertLine id)
          ++ List.replicate old.entry.lines.length (.deleteLine id) }

/-- Change the status of an entry that is in the expected status; `none` when it is not. -/
def transition (s : Store) (now : Instant) (id : Uuid) (expected target : EntryStatus)
    (user : String) : Write (Option (Entry Decimal)) where
  answer :=
    ((s.stored? id).filter fun e => e.isIn expected).map fun old => (old.moved target user now).shown
  statements := [.moveEntry id expected target user now]

/-- Remove an entry, its lines first. -/
def deleteEntry (s : Store) (id : Uuid) : Write Unit :=
  match s.stored? id with
  | none => ⟨(), []⟩
  | some old =>
    ⟨(), List.replicate old.entry.lines.length (.deleteLine id) ++ [.deleteEntry id]⟩

/-! ## Interventions from outside -/

/-- Another writer puts a word in the place of the status of an entry. -/
def overrideStatus (s : Store) (id : Uuid) (word : String) : Store :=
  s.updateStored id fun e =>
    match EntryStatus.ofText? word with
    | some status => { e with entry := { e.entry with status }, strange := none }
    | none => { e with strange := some word }

/-- Overwrite the number of an entry and keep its sequence. -/
def renameEntry (s : Store) (id : Uuid) (number : String) : Except Failure (Unit × Store) :=
  match s.stored? id with
  | none => .ok ((), s)
  | some old =>
    if s.entries.any fun e =>
        e.entry.id != id && e.entry.company == old.entry.company && e.entry.number == number then
      .error (.constraint
        "UNIQUE constraint failed: journalentry.company_id, journalentry.entry_number")
    else .ok ((), s.updateStored id fun e => { e with entry := { e.entry with number } })

/-- Set every counter. -/
def setCounters (s : Store) (next : Int) : Except Failure (Unit × Store) := do
  checkWidth next
  return ((), { s with counters := s.counters.map fun c => { c with next } })

/-- Remove every counter. -/
def clearCounters (s : Store) : Store := { s with counters := [] }

end Bookkeeping.Store

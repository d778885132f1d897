import Bookkeeping.Account
import Bookkeeping.Entry.Number
import Bookkeeping.Store.Cell

set_option autoImplicit false

/-! # The store

All that the ledger keeps: accounts and entries in the order in which they were created, and the
counters from which entry numbers are allocated. How the store is changed is told by single
statements (`Store/Statement.lean`), which an operation sends inside a transaction.

Identifiers are given out by the store from a counter, so none is ever given out twice. -/

namespace Bookkeeping

/-! ## What is stored -/

/-- A stored entry. `sequence` is the number behind `entry.number`, and `written` tells when its lines
    were written, in terms of the writes of the whole store. -/
structure StoredEntry where
  entry : Entry Cell
  sequence : Int
  written : Nat
  /-- What another writer put in the place of the status, if it is no status. -/
  strange : Option String := none
  deriving DecidableEq, Repr

/-- The next sequence number of a company for the numbers of one day. -/
structure Counter where
  company : Uuid
  dayPrefix : String
  next : Int
  deriving DecidableEq, Repr

/-- The state of the ledger. -/
structure Store where
  accounts : List Account := []
  entries : List StoredEntry := []
  counters : List Counter := []
  /-- Identifiers given out so far. -/
  issued : Nat := 0
  /-- Times that lines were written so far. -/
  writes : Nat := 0
  deriving Repr

instance : Inhabited Store := ⟨{}⟩

/-- The identifier that is given out after `n` others. -/
def Uuid.issue (n : Nat) : Uuid := ⟨0x1ED6E400000040008000000000000000 + n⟩

namespace StoredEntry

/-- The entry with amounts of two places. -/
def shown (e : StoredEntry) : Entry Decimal := e.entry.map Cell.toDecimal

/-- The entry as it is read. One without a status cannot be read. -/
def read (e : StoredEntry) : Except Failure (Entry Decimal) :=
  match e.strange with
  | some word => .error (.value (.vocabulary (some word) "EntryStatus"))
  | none => .ok e.shown

/-- Is the entry in a status? -/
def isIn (e : StoredEntry) (status : EntryStatus) : Bool :=
  e.strange.isNone && e.entry.status == status

/-- Does the entry count in reports? -/
def isPosted (e : StoredEntry) : Bool := e.isIn .posted

end StoredEntry

/-! ## Faults of the database -/

/-- Something that goes wrong inside a write, before it is committed. -/
inductive WriteFault where
  /-- A constraint is violated, as the text tells. -/
  | constraint (text : String)
  /-- The database refuses with a text. -/
  | database (text : String)
  /-- Anything else. -/
  | crash (text : String)
  deriving DecidableEq, Repr

/-- Does a text occur in another one? -/
def Text.contains (word text : String) : Bool :=
  go word.toList text.toList
where
  /-- Does a list of characters occur in another one? -/
  go (word : List Char) : List Char → Bool
    | [] => word.isEmpty
    | c :: cs => word.isPrefixOf (c :: cs) || go word cs

/-- Does the text of the database tell of a conflict between writers? -/
def isLockText (text : String) : Bool :=
  let t := Text.lower text
  Text.contains "locked" t || Text.contains "deadlock" t || Text.contains "could not serialize" t

/-- The failure that a fault inside a write surfaces as, where no number is allocated. -/
def WriteFault.plain : WriteFault → Failure
  | .constraint text => .constraint text
  | .database text => .database text
  | .crash text => .crash text

/-- The failure that a fault surfaces as while an entry is created: a violated constraint is a taken
    number, and a lock is contention. -/
def WriteFault.inCreation (dayPrefix : String) : WriteFault → Failure
  | .constraint _ => .ledger (.numberTaken dayPrefix)
  | .database text =>
      if isLockText text then .ledger (.numberContended dayPrefix) else .database text
  | .crash text => .crash text

end Bookkeeping

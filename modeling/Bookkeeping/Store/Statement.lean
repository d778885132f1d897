import Bookkeeping.Account
import Bookkeeping.Store.Basic

set_option autoImplicit false

/-! # Statements

A write is sent to the database in single statements, each of which changes one kind of rows, and
takes effect when its transaction is committed. `Statement.apply` is what a statement makes of the
store that its transaction sees. The database itself watches over constraints only: codes and numbers
are unique within a company, no row is written twice, and a line has an account and amounts. -/

namespace Bookkeeping

/-! ## Looking at rows -/

namespace Store

/-- The account with an identifier. -/
def account? (s : Store) (id : Uuid) : Option Account :=
  s.accounts.find? fun a => a.id == id

/-- Is there a line on the account? -/
def hasLines (s : Store) (id : Uuid) : Bool :=
  s.entries.any fun e => e.entry.lines.any fun l => l.account == id

/-- The stored entry with an identifier. -/
def stored? (s : Store) (id : Uuid) : Option StoredEntry :=
  s.entries.find? fun e => e.entry.id == id

/-- Is the number taken in the company? -/
def numberTaken (s : Store) (company : Uuid) (number : String) : Bool :=
  s.entries.any fun e => e.entry.company == company && e.entry.number == number

/-- Is the code taken in the company by another account? -/
def codeTaken (s : Store) (a : Account) : Bool :=
  s.accounts.any fun b => b.id != a.id && b.company == a.company && b.code == a.code

/-- Change the stored entry with an identifier. -/
def updateStored (s : Store) (id : Uuid) (f : StoredEntry → StoredEntry) : Store :=
  { s with entries := s.entries.map fun e => if e.entry.id == id then f e else e }

end Store

/-- The line as it is stored; a value that is not a number cannot be. -/
def Line.store? (l : Line Decimal) : Option (Line Cell) :=
  match Cell.ofDecimal? l.debit, Cell.ofDecimal? l.credit with
  | some debit, some credit => some { l with debit, credit }
  | _, _ => none

/-! ## Changes of a stored entry -/

namespace StoredEntry

/-- The entry with edited header fields. -/
def edited (u : EntryUpdate) (user : String) (now : Instant) (written : Nat) (e : StoredEntry) :
    StoredEntry :=
  { e with entry := e.entry.edited u user now, written }

/-- The entry after a change of its status. -/
def moved (target : EntryStatus) (user : String) (now : Instant) (e : StoredEntry) : StoredEntry :=
  { e with entry := e.entry.moved target user now }

/-- The entry with one more line. -/
def withLine (l : Line Cell) (e : StoredEntry) : StoredEntry :=
  { e with entry := { e.entry with lines := e.entry.lines ++ [l] } }

/-- The entry without its oldest line. -/
def withoutLine (e : StoredEntry) : StoredEntry :=
  { e with entry := { e.entry with lines := e.entry.lines.drop 1 } }

end StoredEntry

/-! ## Statements -/

/-- A statement that changes rows. -/
inductive Statement where
  | insertAccount (account : Account)
  | updateAccount (account : Account)
  /-- Take the account out of all lines on it. -/
  | detachLines (account : Uuid)
  | deleteAccount (id : Uuid)
  | insertCounter (counter : Counter)
  | advanceCounter (company : Uuid) (dayPrefix : String)
  /-- Insert the header of an entry; its lines are inserted on their own. -/
  | insertEntry (header : Entry Cell) (sequence : Int)
  | editEntry (id : Uuid) (update : EntryUpdate) (user : String) (now : Instant)
  /-- Change the status of an entry, if it is the expected one. -/
  | moveEntry (id : Uuid) (expected target : EntryStatus) (user : String) (now : Instant)
  | insertLine (entry : Uuid) (line : Line Decimal)
  /-- Delete the oldest line of an entry. -/
  | deleteLine (entry : Uuid)
  | deleteEntry (id : Uuid)
  deriving Repr

namespace Statement

/-- Does the statement write a line? -/
def writesLine : Statement → Bool
  | .insertLine _ _ => true
  | _ => false

/-- A constraint that would be violated. -/
def violated (condition : Bool) (text : String) (s : Store) : Except WriteFault Store :=
  if condition then .error (.constraint text) else .ok s

/-- What a statement makes of the store that its transaction sees. -/
def apply : Statement → Store → Except WriteFault Store
  | .insertAccount a, s =>
      violated (s.codeTaken a || (s.account? a.id).isSome)
        "UNIQUE constraint failed: account.company_id, account.code"
        { s with accounts := s.accounts ++ [a], issued := s.issued + 1 }
  | .updateAccount a, s =>
      violated (s.codeTaken a) "UNIQUE constraint failed: account.company_id, account.code"
        { s with accounts := s.accounts.map fun b => if b.id == a.id then a else b }
  | .detachLines id, s =>
      violated (s.hasLines id) "NOT NULL constraint failed: journalline.account_id" s
  | .deleteAccount id, s => .ok { s with accounts := s.accounts.filter fun a => a.id != id }
  | .insertCounter c, s =>
      violated (s.counters.any fun d => d.company == c.company && d.dayPrefix == c.dayPrefix)
        "UNIQUE constraint failed: entrysequence.company_id, entrysequence.day_prefix"
        { s with counters := s.counters ++ [c] }
  | .advanceCounter company dayPrefix, s =>
      .ok { s with
        counters := s.counters.map fun c =>
          if c.company == company && c.dayPrefix == dayPrefix then { c with next := c.next + 1 }
          else c }
  | .insertEntry h sequence, s =>
      violated (s.numberTaken h.company h.number || (s.stored? h.id).isSome)
        "UNIQUE constraint failed: journalentry.company_id, journalentry.entry_number"
        { s with
          entries := s.entries ++ [{ entry := { h with lines := [] }, sequence, written := s.writes }]
          issued := s.issued + 1
          writes := s.writes + 1 }
  | .editEntry id u user now, s =>
      .ok { s.updateStored id (StoredEntry.edited u user now s.writes) with writes := s.writes + 1 }
  | .moveEntry id expected target user now, s =>
      .ok (s.updateStored id fun e => if e.isIn expected then e.moved target user now else e)
  | .insertLine id l, s =>
      match l.store? with
      | some l => .ok (s.updateStored id (StoredEntry.withLine l))
      | none => .error (.constraint "NOT NULL constraint failed: journalline.debit")
  | .deleteLine id, s => .ok (s.updateStored id StoredEntry.withoutLine)
  | .deleteEntry id, s => .ok { s with entries := s.entries.filter fun e => e.entry.id != id }

end Statement

end Bookkeeping

import Bookkeeping.Posting
import Bookkeeping.Store.Totals

set_option autoImplicit false

/-! # Service calls as procedures

A call of a service is a tree of operations on the store: it ends, or notes something in the log, or
performs one operation and goes on with its answer. To run a call alone is to perform its operations
one after the other in a session of its own, which is closed afterwards (`Procedure.run`); two calls
of different clients interleave at the operations.

An operation that writes does so in a transaction: its statements change what the session sees, and
the store has them when the transaction is committed. Operations may be disturbed from outside: a
fault may strike before any statement or before the commit, and another writer may change the status
of an entry just before it is looked at. `Faults` tells how. -/

namespace Bookkeeping

/-! ## Operations -/

/-- An operation on the store. -/
inductive Op where
  | account (id : Uuid)
  | accountByCode (company : Uuid) (code : String)
  | accountsById (ids : List Uuid)
  | accountsOf (company : Uuid) (includeArchived : Bool)
  | vatAccountsOf (company : Uuid)
  | addAccounts (company : Uuid) (drafts : List AccountDraft)
  | saveAccount (account : Account)
  | deleteAccount (id : Uuid)
  | hasLines (id : Uuid)
  | entry (id : Uuid)
  | entriesOf (company : Uuid) (status : Option EntryStatus)
  | reversalOf (id : Uuid)
  | peekSequence (company : Uuid) (dayPrefix : String)
  | createEntry (header : EntryHeader) (lines : List PostingLine) (dayPrefix : String)
      (status : EntryStatus) (postedBy : Option String)
  | replaceDraft (id : Uuid) (update : EntryUpdate) (lines : List PostingLine) (user : String)
  | transition (id : Uuid) (expected target : EntryStatus) (user : String)
  | deleteEntry (id : Uuid)
  | postedTotals (company : Uuid) (range : DateRange)
  | postedTotalsBefore (account : Uuid) (day : Date)
  | postedLines (account : Uuid) (range : DateRange) (search : Option String)
  deriving Repr

/-- What an operation answers. -/
abbrev Op.Result : Op → Type
  | .account _ | .accountByCode _ _ => Option Account
  | .accountsById _ | .accountsOf _ _ | .vatAccountsOf _ | .addAccounts _ _ => List Account
  | .saveAccount _ => Account
  | .deleteAccount _ | .deleteEntry _ => Unit
  | .hasLines _ => Bool
  | .entry _ | .reversalOf _ => Option (Entry Decimal)
  | .entriesOf _ _ => List (Entry Decimal)
  | .peekSequence _ _ => Int
  | .createEntry _ _ _ _ _ => Entry Decimal
  | .replaceDraft _ _ _ _ | .transition _ _ _ _ => Option (Entry Decimal)
  | .postedTotals _ _ => List Store.AccountTotals
  | .postedTotalsBefore _ _ => Decimal × Decimal
  | .postedLines _ _ _ => List PostedLine

/-! ## Disturbances -/

/-- A fault that strikes inside a transaction, with the number of statements that get through. After
    the last one it strikes the commit. -/
structure Strike where
  after : Nat
  fault : WriteFault
  deriving DecidableEq, Repr

/-- The strike as it is due after one more statement. -/
def Strike.next (s : Strike) : Strike := { s with after := s.after - 1 }

/-- What happens to one attempt to create an entry. -/
inductive Disturbance where
  /-- The attempt fails with this failure before it does anything. -/
  | raised (failure : Failure)
  /-- A fault strikes inside the attempt. -/
  | struck (strike : Strike)
  deriving Repr

/-- Disturbances from outside. -/
structure Faults where
  /-- What happens to the attempts to create an entry, one after the other. -/
  creations : List (Option Disturbance) := []
  /-- A fault that strikes inside the other writes. -/
  writes : Option Strike := none
  /-- A fault that strikes whenever lines are written. -/
  lines : Option WriteFault := none
  /-- What another writer puts in the place of the status of an entry just before it is changed. -/
  race : Option String := none
  deriving Repr

/-- The store as it is committed, the log, and what disturbs them. `pending` is the store as the
    session sees it while a transaction of it is neither committed nor undone. -/
structure World where
  store : Store := {}
  pending : Option Store := none
  log : List LogRecord := []
  faults : Faults := {}
  deriving Repr

instance : Inhabited World := ⟨{}⟩

namespace World

/-- Note a record in the log, last record first. -/
def note (w : World) (r : LogRecord) : World := { w with log := r :: w.log }

/-- Let something from outside replace the store; if it fails, the store stays as it is. -/
def commit {α : Type} (w : World) : Except Failure (α × Store) → Except Failure α × World
  | .ok (a, store) => (.ok a, { w with store })
  | .error f => (.error f, w)

/-- Let another writer change the status of an entry, if one is at work. -/
def interfere (w : World) (id : Uuid) : World :=
  match w.faults.race with
  | some word => { w with store := w.store.overrideStatus id word }
  | none => w

/-- Take the disturbance of the next attempt to create an entry. -/
def nextDisturbance (w : World) : Option Disturbance × World :=
  match w.faults.creations with
  | [] => (none, w)
  | d :: rest => (d, { w with faults := { w.faults with creations := rest } })

/-! ## Transactions -/

/-- What the session sees. -/
def view (w : World) : Store := w.pending.getD w.store

/-- Begin a transaction. -/
def begin (w : World) : World := { w with pending := some w.store }

/-- Commit what the session sees. -/
def finish (w : World) : World := { w with store := w.view, pending := none }

/-- Undo what is not committed. -/
def rollback (w : World) : World := { w with pending := none }

/-- The fault that strikes before a statement, if one does. -/
def faultBefore (w : World) (strike : Option Strike) (x : Statement) : Option WriteFault :=
  match strike with
  | some ⟨0, f⟩ => some f
  | _ => if x.writesLine then w.faults.lines else none

/-- Send a statement. -/
def send (w : World) (x : Statement) : Except WriteFault World :=
  (x.apply w.view).map fun s => { w with pending := some s }

/-- Send statements one after the other and commit. A fault ends the transaction where it stands. -/
def transact (strike : Option Strike) : List Statement → World → Option WriteFault × World
  | [], w =>
    match strike with
    | some ⟨0, f⟩ => (some f, w)
    | _ => (none, w.finish)
  | x :: rest, w =>
    match w.faultBefore strike x with
    | some f => (some f, w)
    | none =>
      match w.send x with
      | .error f => (some f, w)
      | .ok w' => w'.transact (strike.map Strike.next) rest

/-- Perform a prepared write in a transaction. Without statements there is no transaction. -/
def write {α : Type} (w : World) (handling : Handling) (strike : Option Strike) (p : Write α) :
    Except Failure α × World :=
  if p.statements.isEmpty then (.ok p.answer, w)
  else
    match w.begin.transact strike p.statements with
    | (none, w') => (.ok p.answer, w')
    | (some f, w') =>
      (.error (handling.surface f), if handling.rollsBack f then w'.rollback else w')

/-- Perform a write if it could be prepared. -/
def tryWrite {α : Type} (w : World) (handling : Handling) (strike : Option Strike) :
    Except Failure (Write α) → Except Failure α × World
  | .ok p => w.write handling strike p
  | .error f => (.error f, w)

end World

/-! ## Performing operations -/

/-- What a session answers between a fault that was not undone and its end. -/
def brokenSession : Failure :=
  .crash "This Session's transaction has been rolled back due to a previous exception during flush."

/-- Perform an operation by a clock. Only writes of something new read it. -/
def Op.perform (clock : Clock) : (op : Op) → World → Except Failure op.Result × World
  | .account id, w => (.ok (w.store.account? id), w)
  | .accountByCode company code, w => (.ok (w.store.accountByCode? company code), w)
  | .accountsById ids, w => (w.store.findAccounts ids, w)
  | .accountsOf company archived, w => (.ok (w.store.accountsOf company archived), w)
  | .vatAccountsOf company, w => (.ok (w.store.vatAccountsOf company), w)
  | .addAccounts _ [], w => (.ok [], w)
  | .addAccounts company (d :: ds), w =>
      w.tryWrite (Store.addingAccounts (d :: ds)) w.faults.writes do
        return w.store.addAccounts company (← clock) (d :: ds)
  | .saveAccount a, w =>
      w.tryWrite (Store.savingAccount a) w.faults.writes do
        w.store.saveAccount { a with updatedAt := some (← clock.unlessKnown a.updatedAt) }
  | .deleteAccount id, w => w.write .never w.faults.writes (w.store.deleteAccount id)
  | .hasLines id, w => (.ok (w.store.hasLines id), w)
  | .entry id, w => (w.store.entry? id, w)
  | .entriesOf company status, w => (w.store.entriesOf company status, w)
  | .reversalOf id, w => (w.store.reversalOf? id, w)
  | .peekSequence company dayPrefix, w => (w.store.peekSequence company dayPrefix, w)
  | .createEntry h lines dayPrefix status postedBy, w =>
      let (d, w) := w.nextDisturbance
      let create (strike : Option Strike) :=
        w.tryWrite (.always (WriteFault.inCreation dayPrefix)) strike do
          w.store.createEntry (← clock) h lines dayPrefix status postedBy
      match d with
      | some (.raised f) => (.error f, w)
      | some (.struck strike) => create (some strike)
      | none => create none
  | .replaceDraft id u lines user, w =>
      let w := w.interfere id
      w.tryWrite (.always WriteFault.plain) w.faults.writes
        (w.store.replaceDraft clock id u lines user)
  | .transition id expected target user, w =>
      let w := w.interfere id
      w.tryWrite (.always WriteFault.plain) w.faults.writes do
        return w.store.transition (← clock) id expected target user
  | .deleteEntry id, w =>
      w.write (.always WriteFault.plain) w.faults.writes (w.store.deleteEntry id)
  | .postedTotals company range, w => (w.store.postedTotals company range, w)
  | .postedTotalsBefore id day, w => (w.store.postedTotalsBefore id day, w)
  | .postedLines id range search, w => (w.store.postedLines id range search, w)

/-- Perform an operation in a session. One with a broken transaction refuses it. -/
def Op.exec (clock : Clock) (op : Op) (w : World) : Except Failure op.Result × World :=
  match w.pending with
  | some _ => (.error brokenSession, w)
  | none => op.perform clock w

/-! ## Procedures -/

/-- A call of a service that answers with an `α`. -/
inductive Procedure (α : Type) where
  /-- The call ends. -/
  | done (result : Except Failure α)
  /-- The call notes something in the log. -/
  | note (record : LogRecord) (rest : Procedure α)
  /-- The call performs an operation and goes on with its answer. -/
  | step (op : Op) (rest : Except Failure op.Result → Procedure α)

namespace Procedure

variable {α β : Type}

/-- Go on with the answer of a call, unless it failed. -/
def bind : Procedure α → (α → Procedure β) → Procedure β
  | .done (.ok a), f => f a
  | .done (.error e), _ => .done (.error e)
  | .note r rest, f => .note r (rest.bind f)
  | .step op rest, f => .step op fun answer => (rest answer).bind f

instance : Monad Procedure where
  pure a := .done (.ok a)
  bind := bind

/-- End with a failure. -/
def fail (f : Failure) : Procedure α := .done (.error f)

/-- End with a broken rule of the ledger. -/
def reject (e : LedgerError) : Procedure α := fail (.ledger e)

/-- Take over a computation that does not touch the store. -/
def ofExcept (r : Except Failure α) : Procedure α := .done r

/-- Take over a computation with amounts. -/
def ofAmount (r : Except Decimal.Fault α) : Procedure α := .done (liftAmount r)

/-- Perform an operation; its failure is the failure of the call. -/
def perform (op : Op) : Procedure op.Result := .step op .done

/-- Perform an operation and go on also after its failure. -/
def attempt (op : Op) : Procedure (Except Failure op.Result) := .step op fun r => .done (.ok r)

/-- Note records in the log. -/
def notes : List LogRecord → Procedure Unit
  | [] => .done (.ok ())
  | r :: rest => .note r (notes rest)

/-- Note something in the log of the services. -/
def log (level : LogLevel) (message : String) : Procedure Unit :=
  notes [⟨level, .services, message⟩]

/-- Perform the operations of a call one after the other. -/
def exec (clock : Clock) : Procedure α → World → Except Failure α × World
  | .done r, w => (r, w)
  | .note r rest, w => rest.exec clock (w.note r)
  | .step op rest, w =>
      let (answer, w') := op.exec clock w
      (rest answer).exec clock w'

/-- Run a call alone, in a session that is closed afterwards. What it has not committed is lost. -/
def run (clock : Clock) (p : Procedure α) (w : World) : Except Failure α × World :=
  let (r, w') := p.exec clock w
  (r, w'.rollback)

end Procedure

/-! ## Settings of a call -/

/-- What the services are told besides their arguments: the clock, the word that entry numbers start
    with, and how often the allocation of a number may be tried. -/
structure Setting where
  clock : Clock
  numberWord : String := "JE"
  maxRetries : Int := 5
  deriving Repr

/-- Attempts to allocate a number; there is always one. -/
def Setting.attempts (s : Setting) : Nat := (max 1 s.maxRetries).toNat

end Bookkeeping

import Bookkeeping.Documents
import Bookkeeping.Registry

set_option autoImplicit false

/-! # Sessions

The calls of the three services that keep the books, as data, and what a client makes of them: a
session is one call with what surrounds it, and it takes a store to an answer and a store
(`Session.run`). A run of the ledger is any list of sessions from the empty store (`Store.after`).
What the calls of a run have done is its history, one event a call (`History.of`). -/

namespace Bookkeeping

/-- Results are compared by what they hold. -/
instance decidableEqResult {ε α : Type} [DecidableEq ε] [DecidableEq α] : DecidableEq (Except ε α)
  | .ok a, .ok b => decidable_of_decidable_of_iff (p := a = b) ⟨congrArg Except.ok, Except.ok.inj⟩
  | .error e, .error f =>
      decidable_of_decidable_of_iff (p := e = f) ⟨congrArg Except.error, Except.error.inj⟩
  | .ok _, .error _ => isFalse nofun
  | .error _, .ok _ => isFalse nofun

/-! ## Calls -/

/-- A call of the registry of accounts, of the journal or of the poster of documents. -/
inductive ServiceCall where
  | getAccount (id : Uuid)
  | getAccountByCode (company : Uuid) (code : String)
  | listAccounts (company : Uuid) (includeArchived : Bool)
  | vatAccounts (company : Uuid)
  | openAccount (company : Uuid) (draft : AccountDraft)
  | openAccounts (company : Uuid) (drafts : List AccountDraft)
  | seedDefaultChart (company : Uuid)
  | updateAccount (id : Uuid) (update : AccountUpdate)
  | archiveAccount (id : Uuid)
  | deleteAccount (id : Uuid)
  | validateLines (lines : List PostingLine) (company : Uuid)
  | getEntry (id : Uuid)
  | listEntries (company : Uuid) (status : Option EntryStatus)
  | nextEntryNumber (company : Uuid) (date : Date)
  | createEntry (header : EntryHeader) (lines : List PostingLine) (post : Bool)
  | updateDraft (id : Uuid) (update : EntryUpdate) (lines : List PostingLine) (user : String)
  | postEntry (id : Uuid) (user : String)
  | voidEntry (id : Uuid) (user : String)
  | reverseEntry (id : Uuid) (user : String) (reason : Option String) (date : Option Date)
  | deleteEntry (id : Uuid)
  | postInvoice (invoice : Documents.Invoice) (user : String)
  | recordPayment (payment : Documents.Payment) (user : String)
  | postExpense (receipt : Documents.Receipt) (user : String)
  deriving Repr

/-- What a call answers. -/
inductive ServiceAnswer where
  | account (account : Account)
  | accounts (accounts : List Account)
  | totals (debit credit : Decimal)
  | entry (entry : Entry Decimal)
  | entries (entries : List (Entry Decimal))
  | number (number : String)
  | nothing
  deriving DecidableEq, Repr

namespace ServiceCall

open Procedure

/-- The procedure of a call. -/
def procedure (s : Setting) : ServiceCall → Procedure ServiceAnswer
  | .getAccount id => do return .account (← Registry.getAccount id)
  | .getAccountByCode company code => do
      return .account (← Registry.getAccountByCode company code)
  | .listAccounts company archived => do
      return .accounts (← Registry.listAccounts company archived)
  | .vatAccounts company => do return .accounts (← Registry.vatAccounts company)
  | .openAccount company draft => do return .account (← Registry.openAccount company draft)
  | .openAccounts company drafts => do return .accounts (← Registry.openAccounts company drafts)
  | .seedDefaultChart company => do return .accounts (← Registry.seedDefaultChart company)
  | .updateAccount id u => do return .account (← Registry.updateAccount s id u)
  | .archiveAccount id => do return .account (← Registry.archiveAccount s id)
  | .deleteAccount id => do
      Registry.deleteAccount id
      return .nothing
  | .validateLines lines company => do
      let (debit, credit) ← Journal.validateLines lines company
      return .totals debit credit
  | .getEntry id => do return .entry (← Journal.getEntry id)
  | .listEntries company status => do return .entries (← Journal.listEntries company status)
  | .nextEntryNumber company date => do
      return .number (← Journal.nextEntryNumber s company date)
  | .createEntry h lines post => do return .entry (← Journal.createEntry s h lines post)
  | .updateDraft id u lines user => do return .entry (← Journal.updateDraft id u lines user)
  | .postEntry id user => do return .entry (← Journal.postEntry id user)
  | .voidEntry id user => do return .entry (← Journal.voidEntry id user)
  | .reverseEntry id user reason date => do
      return .entry (← Journal.reverseEntry s id user reason date)
  | .deleteEntry id => do
      Journal.deleteEntry id
      return .nothing
  | .postInvoice i user => do return .entry (← Documents.postInvoice s i user)
  | .recordPayment p user => do return .entry (← Documents.recordPayment s p user)
  | .postExpense r user => do return .entry (← Documents.postExpense s r user)

end ServiceCall

/-! ## Sessions -/

/-- One call with what surrounds it: what the services are told, and the faults that strike. No other
    writer is at work in the meantime. -/
structure Session where
  call : ServiceCall
  setting : Setting
  /-- What happens to the attempts to create an entry, one after the other. -/
  creations : List (Option Disturbance) := []
  /-- A fault that strikes inside the other writes. -/
  writes : Option Strike := none
  /-- A fault that strikes whenever lines are written. -/
  lines : Option WriteFault := none
  deriving Repr

namespace Session

/-- The world that a session finds around a store. -/
def world (x : Session) (s : Store) : World :=
  { store := s, faults := { creations := x.creations, writes := x.writes, lines := x.lines } }

/-- Make the call: what it answers, and the store after it. -/
def run (x : Session) (s : Store) : Except Failure ServiceAnswer × Store :=
  let outcome := (x.call.procedure x.setting).run x.setting.clock (x.world s)
  (outcome.1, outcome.2.store)

end Session

/-! ## Histories -/

/-- What a call has done to the books. -/
inductive Event where
  /-- The call failed, or it only read. -/
  | nothing
  | accountsOpened (accounts : List Account)
  | accountSaved (account : Account)
  | accountDeleted (id : Uuid)
  /-- An entry was created, with the amounts as they were given. -/
  | entryCreated (entry : Entry Decimal)
  /-- A draft was edited and its lines replaced, with the amounts as they were given. -/
  | draftEdited (entry : Entry Decimal)
  | entryPosted (entry : Entry Decimal)
  | entryVoided (entry : Entry Decimal)
  | entryDeleted (id : Uuid)
  deriving DecidableEq, Repr

/-- What a call has done when it has answered. -/
def ServiceCall.event : ServiceCall → ServiceAnswer → Event
  | .openAccount _ _, .account a => .accountsOpened [a]
  | .openAccounts _ _, .accounts as | .seedDefaultChart _, .accounts as => .accountsOpened as
  | .updateAccount _ _, .account a | .archiveAccount _, .account a => .accountSaved a
  | .deleteAccount id, _ => .accountDeleted id
  | .createEntry _ _ _, .entry e | .reverseEntry _ _ _ _, .entry e | .postInvoice _ _, .entry e
  | .recordPayment _ _, .entry e | .postExpense _ _, .entry e => .entryCreated e
  | .updateDraft _ _ _ _, .entry e => .draftEdited e
  | .postEntry _ _, .entry e => .entryPosted e
  | .voidEntry _ _, .entry e => .entryVoided e
  | .deleteEntry id, _ => .entryDeleted id
  | _, _ => .nothing

/-- What a session does to the books that it finds. -/
def Session.event (x : Session) (s : Store) : Event :=
  match (x.run s).1 with
  | .ok a => x.call.event a
  | .error _ => .nothing

/-- The store after sessions one after the other. -/
def Store.afterSessions (s : Store) : List Session → Store
  | [] => s
  | x :: rest => Store.afterSessions (x.run s).2 rest

/-- The store after sessions one after the other, from the empty store. -/
def Store.after (sessions : List Session) : Store := Store.afterSessions {} sessions

/-- What sessions do one after the other. -/
def Session.events (s : Store) : List Session → List Event
  | [] => []
  | x :: rest => x.event s :: Session.events (x.run s).2 rest

/-- What sessions do one after the other, from the empty store. -/
def History.of (sessions : List Session) : List Event := Session.events {} sessions

end Bookkeeping

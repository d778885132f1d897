import Bookkeeping.Registry
import Bookkeeping.Request.Account
import Bookkeeping.Request.Document
import Bookkeeping.Request.Journal
import Bookkeeping.Web.Representation

set_option autoImplicit false

/-! # Calls

What can be asked of the ledger over the web, as a type: a `Call` holds values that were checked
already, so what may still go wrong is up to the ledger. `Call.procedure` is what the ledger does for a
call and what the answer then shows. -/

namespace Bookkeeping.Web

open Procedure (ofAmount ofExcept)

/-! ## Calls -/

/-- What is asked for of the ledger of an account. -/
structure LedgerQuery where
  start : Option Date
  stop : Option Date
  search : Option String
  limit : Option Int
  offset : Int
  deriving DecidableEq, Repr

/-- A call with everything it needs but the user. -/
inductive Call where
  /-- What the service is. -/
  | about
  /-- Is the service well? -/
  | health
  | openAccount (company : Uuid) (draft : AccountDraft)
  | openAccounts (company : Uuid) (drafts : List AccountDraft)
  | seedChart (company : Uuid)
  | listAccounts (company : Uuid) (includeArchived : Bool)
  | vatAccounts (company : Uuid)
  | accountByCode (company : Uuid) (code : String)
  | account (id : Uuid)
  | updateAccount (id : Uuid) (update : AccountUpdate)
  | archiveAccount (id : Uuid)
  | deleteAccount (id : Uuid)
  | createEntry (entry : Request.NewEntry)
  | entry (id : Uuid)
  | listEntries (company : Uuid) (status : Option EntryStatus)
  | entryNumber (company : Uuid) (date : Date)
  | updateDraft (id : Uuid) (edit : Request.DraftEdit)
  | postEntry (id : Uuid)
  | voidEntry (id : Uuid)
  | reverseEntry (id : Uuid) (reversal : Request.Reversal)
  | deleteEntry (id : Uuid)
  | balances (company : Uuid) (start stop : Option Date)
  | trialBalance (company : Uuid) (start stop : Option Date)
  | ledger (account : Uuid) (query : LedgerQuery)
  | invoiceTotals (lines : List Request.InvoiceLine)
  | postInvoice (invoice : Request.NewInvoice)
  | recordPayment (payment : Documents.Payment)
  | postExpense (receipt : Documents.Receipt)
  deriving Repr

/-! ## Performing calls -/

/-- What the service tells about itself. -/
def aboutDocument : Json :=
  .object
    [("name", .text "Ledger Engine API"), ("version", .text "0.1.0"), ("docs", .text "/docs")]

/-- What the service tells about its health. -/
def healthDocument : Json :=
  .object [("status", .text "healthy"), ("database", .text "connected")]

/-- Take over a value that may lie outside its domain. -/
def ofValue {α : Type} : Except ValueFault α → Procedure α
  | .ok a => ofExcept (.ok a)
  | .error f => ofExcept (.error (.value f))

/-- Show the result of a procedure. -/
def showing {α : Type} (write : α → Except Failure Json) (p : Procedure α) :
    Procedure (Option Json) := do
  return some (← ofExcept (write (← p)))

/-- Show an account. -/
def showingAccount : Procedure Account → Procedure (Option Json) :=
  showing fun a => .ok (ofAccount a)

/-- Show accounts. -/
def showingAccounts : Procedure (List Account) → Procedure (Option Json) :=
  showing (ofAll fun a => .ok (ofAccount a))

/-- Show nothing. -/
def silent (p : Procedure Unit) : Procedure (Option Json) := do
  p
  return none

/-- What the ledger does for the call of a user, and what it shows then. -/
def Call.procedure (s : Setting) (user : String) : Call → Procedure (Option Json)
  | .about => return some aboutDocument
  | .health => return some healthDocument
  | .openAccount company draft => showingAccount (Registry.openAccount company draft)
  | .openAccounts company drafts => showingAccounts (Registry.openAccounts company drafts)
  | .seedChart company => showingAccounts (Registry.seedDefaultChart company)
  | .listAccounts company archived => showingAccounts (Registry.listAccounts company archived)
  | .vatAccounts company => showingAccounts (Registry.vatAccounts company)
  | .accountByCode company code => showingAccount (Registry.getAccountByCode company code)
  | .account id => showingAccount (Registry.getAccount id)
  | .updateAccount id update => showingAccount (Registry.updateAccount s id update)
  | .archiveAccount id => showingAccount (Registry.archiveAccount s id)
  | .deleteAccount id => silent (Registry.deleteAccount id)
  | .createEntry e => showing ofEntry (Journal.createEntry s (e.header user) e.lines e.post)
  | .entry id => showing ofEntry (Journal.getEntry id)
  | .listEntries company status => showing (ofAll ofEntry) (Journal.listEntries company status)
  | .entryNumber company date =>
      showing (fun n => .ok (ofEntryNumber company n)) (Journal.nextEntryNumber s company date)
  | .updateDraft id edit => showing ofEntry (Journal.updateDraft id edit.update edit.lines user)
  | .postEntry id => showing ofEntry (Journal.postEntry id user)
  | .voidEntry id => showing ofEntry (Journal.voidEntry id user)
  | .reverseEntry id r => showing ofEntry (Journal.reverseEntry s id user r.reason r.date)
  | .deleteEntry id => silent (Journal.deleteEntry id)
  | .balances company start stop =>
      showing (ofAll ofBalance) do Reports.balances company (← ofValue (DateRange.make start stop))
  | .trialBalance company start stop =>
      showing ofTrialBalance do
        Reports.trialBalance company (← ofValue (DateRange.make start stop))
  | .ledger id q =>
      showing ofLedger do
        let filters ← ofValue (LedgerFilters.make q.start q.stop q.search q.limit q.offset)
        Reports.ledgerFor id filters
  | .invoiceTotals lines =>
      showing ofInvoiceTotals
        (ofAmount (InvoiceTotals.ofItems (lines.map Request.InvoiceLine.item)))
  | .postInvoice i => showing ofEntry (Documents.postInvoice s i.toInvoice user)
  | .recordPayment p => showing ofEntry (Documents.recordPayment s p user)
  | .postExpense r => showing ofEntry (Documents.postExpense s r user)

/-! ## Statuses -/

/-- The status of the answer to a call that succeeds: 201 where something was made, 204 where something
    was deleted. -/
def Call.status : Call → Nat
  | .openAccount _ _ | .openAccounts _ _ | .seedChart _ => 201
  | .createEntry _ | .reverseEntry _ _ => 201
  | .postInvoice _ | .recordPayment _ | .postExpense _ => 201
  | .deleteAccount _ | .deleteEntry _ => 204
  | _ => 200

end Bookkeeping.Web

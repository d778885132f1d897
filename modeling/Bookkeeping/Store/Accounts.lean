import Bookkeeping.Store.Write

set_option autoImplicit false

/-! # Accounts in the store

Reading, adding, changing and removing accounts. The code of an account is unique within its
company. -/

namespace Bookkeeping.Store

/-! ## Reading -/

/-- The account of a company with a code. -/
def accountByCode? (s : Store) (company : Uuid) (code : String) : Option Account :=
  s.accounts.find? fun a => a.company == company && a.code == code

/-- The accounts with one of several identifiers. -/
def accountsById (s : Store) (ids : List Uuid) : List Account :=
  s.accounts.filter fun a => ids.contains a.id

/-- The most values that the database takes with one statement. -/
def maxValues : Nat := 32766

/-- What the database tells about a statement with too many values. -/
def tooManyValues : Failure := .database "too many SQL variables"

/-- Find the accounts with one of several identifiers; all of them are sent with one statement. -/
def findAccounts (s : Store) (ids : List Uuid) : Except Failure (List Account) :=
  if maxValues < ids.length then .error tooManyValues else .ok (s.accountsById ids)

theorem findAccounts_ok {s : Store} {ids : List Uuid} {accounts : List Account}
    (h : s.findAccounts ids = .ok accounts) :
    ids.length ≤ maxValues ∧ accounts = s.accountsById ids := by
  unfold findAccounts at h
  split at h
  · cases h
  · next few => exact ⟨Nat.not_lt.mp few, (Except.ok.inj h).symm⟩

theorem findAccounts_of_few {s : Store} {ids : List Uuid} (few : ids.length ≤ maxValues) :
    s.findAccounts ids = .ok (s.accountsById ids) := if_neg (Nat.not_lt.mpr few)

/-- Order of codes, by characters. -/
def codeLe (a b : Account) : Bool := !decide (b.code < a.code)

/-- The accounts of a company that satisfy a condition, by code. -/
def companyAccounts (s : Store) (company : Uuid) (p : Account → Bool) : List Account :=
  (s.accounts.filter fun a => a.company == company && p a).mergeSort codeLe

/-- The accounts of a company by code, archived ones on request. -/
def accountsOf (s : Store) (company : Uuid) (includeArchived : Bool) : List Account :=
  s.companyAccounts company fun a => includeArchived || !a.isArchived

/-- The tax accounts of a company by code. -/
def vatAccountsOf (s : Store) (company : Uuid) : List Account :=
  s.companyAccounts company fun a => a.isVat

/-! ## Writing -/

/-- Order of texts, by characters. -/
def textLe (a b : String) : Bool := !decide (b < a)

/-- Make accounts from drafts, with identifiers given out after `issued` others. -/
def makeAccounts (company : Uuid) (now : Instant) : Nat → List AccountDraft → List Account
  | _, [] => []
  | issued, d :: rest =>
      Account.ofDraft (Uuid.issue issued) company now d :: makeAccounts company now (issued + 1) rest

/-- Add accounts to a company. -/
def addAccounts (s : Store) (company : Uuid) (now : Instant) (drafts : List AccountDraft) :
    Write (List Account) :=
  let accounts := makeAccounts company now s.issued drafts
  ⟨accounts, accounts.map .insertAccount⟩

/-- How faults surface when accounts are added: a violated constraint is a taken code. -/
def addingAccounts (drafts : List AccountDraft) : Handling :=
  .onConstraint (.ledger (.duplicateCodes ((drafts.map AccountDraft.code).mergeSort textLe)))

/-- Replace the stored fields of an account. Company, creation time and system flag stay. -/
def saveAccount (s : Store) (a : Account) : Except Failure (Write Account) :=
  match s.account? a.id with
  | none => .error (.ledger (.accountNotFound a.id))
  | some old =>
    let saved :=
      { a with company := old.company, isSystem := old.isSystem, createdAt := old.createdAt }
    .ok ⟨saved, [.updateAccount saved]⟩

/-- How faults surface when an account is saved. -/
def savingAccount (a : Account) : Handling := .onConstraint (.ledger (.duplicateCodes [a.code]))

/-- Remove an account. Its lines lose it first, so one with lines cannot be removed. -/
def deleteAccount (s : Store) (id : Uuid) : Write Unit :=
  match s.account? id with
  | none => ⟨(), []⟩
  | some _ => ⟨(), [.detachLines id, .deleteAccount id]⟩

end Bookkeeping.Store

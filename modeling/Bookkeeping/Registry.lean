import Bookkeeping.Chart
import Bookkeeping.Procedure

set_option autoImplicit false

/-! # The registry of accounts

Opening, editing, archiving and deleting the accounts of a company. A batch of accounts is opened as
a whole or not at all; an account with lines keeps its code and its type and is never deleted. -/

namespace Bookkeeping.Registry

open Procedure

/-! ## Reading -/

/-- The account with an identifier. -/
def getAccount (id : Uuid) : Procedure Account := do
  match ← perform (.account id) with
  | some a => return a
  | none => reject (.accountNotFound id)

/-- The account of a company with a code. -/
def getAccountByCode (company : Uuid) (code : String) : Procedure Account := do
  match ← perform (.accountByCode company code) with
  | some a => return a
  | none => reject (.codeNotFound company code)

/-- The accounts of a company by code. -/
def listAccounts (company : Uuid) (includeArchived : Bool) : Procedure (List Account) :=
  perform (.accountsOf company includeArchived)

/-- The tax accounts of a company by code. -/
def vatAccounts (company : Uuid) : Procedure (List Account) :=
  perform (.vatAccountsOf company)

/-! ## Opening accounts -/

/-- Codes that occur more than once, each once. -/
def repeatedCodes : List String → List String
  | [] => []
  | c :: rest =>
      let others := repeatedCodes rest
      if rest.contains c && !others.contains c then c :: others else others

/-- Codes in ascending order. -/
def sortCodes (codes : List String) : List String := codes.mergeSort Store.textLe

/-- Open several accounts of a company. -/
def openAccounts (company : Uuid) (drafts : List AccountDraft) : Procedure (List Account) := do
  if drafts.isEmpty then return []
  let codes := drafts.map AccountDraft.code
  let repeated := repeatedCodes codes
  if !repeated.isEmpty then reject (.duplicateCodes (sortCodes repeated))
  let existing ← perform (.accountsOf company true)
  let clashes := codes.filter fun c => existing.any fun a => a.code == c
  if !clashes.isEmpty then reject (.duplicateCodes (sortCodes clashes))
  let created ← perform (.addAccounts company drafts)
  log .info ("Created " ++ Text.natText created.length ++ " accounts for company "
    ++ company.toText)
  return created

/-- Open one account. -/
def openAccount (company : Uuid) (draft : AccountDraft) : Procedure Account := do
  match ← openAccounts company [draft] with
  | a :: _ => return a
  | [] => fail (.crash "no account was opened")

/-- Open the default chart in a company without accounts; a company with accounts is left alone. -/
def seedDefaultChart (company : Uuid) : Procedure (List Account) := do
  let existing ← perform (.accountsOf company true)
  if existing.isEmpty then openAccounts company Chart.default
  else
    log .info ("Company " ++ company.toText ++ " already has a chart of accounts")
    return []

/-! ## Editing accounts -/

/-- The fields, in alphabetical order, that an update changes and that must not change once an account
    has lines. -/
def structuralChanges (u : AccountUpdate) (a : Account) : List String :=
  (if u.changesType a then ["account_type"] else []) ++ (if u.changesCode a then ["code"] else [])

/-- Refuse to change code or type of an account with lines. -/
def requireUnused (id : Uuid) (u : AccountUpdate) (account : Account) : Procedure Unit := do
  let structural := structuralChanges u account
  if !structural.isEmpty then
    if ← perform (.hasLines id) then reject (.accountFieldsInUse account.code structural)

/-- Refuse a code that another account of the company has. -/
def requireFreeCode (u : AccountUpdate) (account : Account) : Procedure Unit := do
  if u.changesCode account then
    let code := u.code.getD account.code
    if (← perform (.accountByCode account.company code)).isSome then reject (.duplicateCodes [code])

/-- Edit the given fields of an account. -/
def updateAccount (s : Setting) (id : Uuid) (u : AccountUpdate) : Procedure Account := do
  let account ← getAccount id
  if u.isEmpty then return account
  requireUnused id u account
  requireFreeCode u account
  if u.isActive == some true && account.isArchived then
    reject (.archivedReactivated account.code)
  perform (.saveAccount (u.apply account (← ofExcept s.clock)))

/-- Archive an account. -/
def archiveAccount (s : Setting) (id : Uuid) : Procedure Account := do
  let account ← getAccount id
  let saved ← perform (.saveAccount (← ofExcept (account.archive s.clock)))
  log .info ("Archived account " ++ account.code)
  return saved

/-- Delete an account without lines. -/
def deleteAccount (id : Uuid) : Procedure Unit := do
  let account ← getAccount id
  if account.isSystem then reject (.systemAccountDeleted account.code)
  if ← perform (.hasLines id) then reject (.accountHasLines account.code)
  perform (.deleteAccount id)
  log .info ("Deleted account " ++ account.code)

end Bookkeeping.Registry

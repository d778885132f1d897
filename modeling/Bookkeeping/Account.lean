import Bookkeeping.Clock
import Bookkeeping.Decimal.Arithmetic

set_option autoImplicit false

/-! # Accounts

An account of a company's chart. Its type decides on which side its balance normally stands. System
accounts are never archived or deleted; an archived account takes no postings. -/

namespace Bookkeeping

/-! ## Types of accounts -/

/-- The five types of accounts. -/
inductive AccountType where
  | asset
  | liability
  | equity
  | income
  | expense
  deriving DecidableEq, Repr, Inhabited

namespace AccountType

/-- All types, in the order in which they are listed. -/
def all : List AccountType := [.asset, .liability, .equity, .income, .expense]

/-- The word for a type in requests, answers and the store. -/
def toText : AccountType → String
  | .asset => "asset"
  | .liability => "liability"
  | .equity => "equity"
  | .income => "income"
  | .expense => "expense"

/-- The type that a word stands for. -/
def ofText? (s : String) : Option AccountType := all.find? fun t => t.toText == s

/-- Balances of assets and expenses stand on the debit side, the others on the credit side. -/
def isDebitNormal : AccountType → Bool
  | .asset | .expense => true
  | .liability | .equity | .income => false

/-- A debit and a credit as one movement of the normal balance. -/
def signedMovement (t : AccountType) (debit credit : Decimal) : Except Decimal.Fault Decimal :=
  if t.isDebitNormal then debit.sub credit else credit.sub debit

end AccountType

/-! ## Accounts -/

/-- An account of a company. -/
structure Account where
  id : Uuid
  company : Uuid
  code : String
  nameEn : String
  nameAr : Option String
  type : AccountType
  isVat : Bool
  isSystem : Bool
  isActive : Bool
  isArchived : Bool
  createdAt : Instant
  updatedAt : Option Instant
  deriving DecidableEq, Repr

/-- What is given to open an account. -/
structure AccountDraft where
  code : String
  nameEn : String
  type : AccountType
  nameAr : Option String := none
  isVat : Bool := false
  isSystem : Bool := false
  deriving DecidableEq, Repr

/-- The fields of an account that may be edited; `none` leaves a field as it is. -/
structure AccountUpdate where
  nameEn : Option String := none
  nameAr : Option String := none
  code : Option String := none
  type : Option AccountType := none
  isVat : Option Bool := none
  isActive : Option Bool := none
  deriving DecidableEq, Repr

namespace Account

/-- A new account is active and not archived. -/
def ofDraft (id company : Uuid) (now : Instant) (d : AccountDraft) : Account :=
  { id, company
    code := d.code
    nameEn := d.nameEn
    nameAr := d.nameAr
    type := d.type
    isVat := d.isVat
    isSystem := d.isSystem
    isActive := true
    isArchived := false
    createdAt := now
    updatedAt := none }

/-- Entries may be posted to active accounts that are not archived. -/
def canPost (a : Account) : Bool := a.isActive && !a.isArchived

/-- The account after archiving. System accounts are not archived. -/
def archive (a : Account) (clock : Clock) : Except Failure Account := do
  if a.isSystem then broken (.systemAccountArchived a.code)
  return { a with isArchived := true, isActive := false, updatedAt := some (← clock) }

end Account

namespace AccountUpdate

/-- Does the update set no field? -/
def isEmpty (u : AccountUpdate) : Bool :=
  u.nameEn.isNone && u.nameAr.isNone && u.code.isNone && u.type.isNone && u.isVat.isNone &&
    u.isActive.isNone

/-- Set the given fields and the time of the update. -/
def apply (u : AccountUpdate) (a : Account) (now : Instant) : Account :=
  { a with
    nameEn := u.nameEn.getD a.nameEn
    nameAr := u.nameAr.orElse fun _ => a.nameAr
    code := u.code.getD a.code
    type := u.type.getD a.type
    isVat := u.isVat.getD a.isVat
    isActive := u.isActive.getD a.isActive
    updatedAt := some now }

/-- Does the update give a code that differs from the account's? -/
def changesCode (u : AccountUpdate) (a : Account) : Bool :=
  match u.code with
  | some c => c != a.code
  | none => false

/-- Does the update give a type that differs from the account's? -/
def changesType (u : AccountUpdate) (a : Account) : Bool :=
  match u.type with
  | some t => t != a.type
  | none => false

end AccountUpdate

end Bookkeeping

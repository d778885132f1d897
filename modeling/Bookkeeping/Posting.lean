import Bookkeeping.Account
import Bookkeeping.Entry.Basic

set_option autoImplicit false

/-! # The check of double entry

Proposed lines are checked before anything is written: every line must be on an account that may be
posted to, must be one-sided and not negative, and the totals of both sides must agree within one
cent and not be zero. The check looks accounts up in a given directory and at nothing else. -/

namespace Bookkeeping

/-! ## Log records -/

/-- Severity of a log record. -/
inductive LogLevel where
  | debug
  | info
  | warning
  | error
  deriving DecidableEq, Repr

/-- The word for a level. -/
def LogLevel.toText : LogLevel → String
  | .debug => "DEBUG"
  | .info => "INFO"
  | .warning => "WARNING"
  | .error => "ERROR"

/-- Who writes a log record. -/
inductive LogChannel where
  /-- The services of the ledger. -/
  | services
  /-- The interface for requests. -/
  | requests
  deriving DecidableEq, Repr

/-- A log record. -/
structure LogRecord where
  level : LogLevel
  channel : LogChannel
  message : String
  deriving DecidableEq, Repr

namespace Posting

/-! ## One line -/

/-- A directory of accounts. -/
abbrev Directory := Uuid → Option Account

/-- Find an account in a list. -/
def Directory.ofList (accounts : List Account) : Directory :=
  fun id => accounts.find? fun a => a.id == id

/-- Check that a line stands on an account that may be posted to. With a company given, the account
    must be that company's. -/
def checkAccount (accounts : Directory) (company : Option Uuid) (n : Nat) (l : PostingLine) :
    Except LedgerError Account :=
  match accounts l.account with
  | none => .error (.unknownAccount n l.account)
  | some a =>
      if (match company with | some c => a.company != c | none => false) then
        .error (.foreignAccount n a.code)
      else if a.canPost then .ok a
      else .error (.closedAccount n a.code)

/-- Check that the amounts of a line are not negative and not on both sides. -/
def checkAmounts (n : Nat) (l : PostingLine) : Except Failure Unit := do
  if ← liftAmount (l.debit.lt .zero) then broken (.negativeAmount n)
  if ← liftAmount (l.credit.lt .zero) then broken (.negativeAmount n)
  if ← liftAmount (Decimal.zero.lt l.debit) then
    if ← liftAmount (Decimal.zero.lt l.credit) then broken (.twoSidedLine n)

/-- What is noted about a line without an amount. -/
def memoNote (n : Nat) (a : Account) : LogRecord :=
  ⟨.debug, .services,
    "Line " ++ Text.natText n ++ " on account " ++ a.code ++ " carries no amount"⟩

/-! ## All lines -/

/-- Result of the check, with what was noted on the way. -/
structure Outcome where
  notes : List LogRecord
  totals : Except Failure (Decimal × Decimal)
  deriving Repr

/-- Check the lines from number `n` on and add their amounts to the totals so far. -/
def checkLines (accounts : Directory) (company : Option Uuid) :
    Nat → List PostingLine → Decimal → Decimal → List LogRecord → Outcome
  | _, [], debit, credit, notes => ⟨notes.reverse, .ok (debit, credit)⟩
  | n, l :: rest, debit, credit, notes =>
      match checkAccount accounts company n l with
      | .error e => ⟨notes.reverse, .error (.ledger e)⟩
      | .ok a =>
        match checkAmounts n l with
        | .error f => ⟨notes.reverse, .error f⟩
        | .ok () =>
          match l.isMemo with
          | .error f => ⟨notes.reverse, .error (.amount f)⟩
          | .ok memo =>
            let notes := if memo then memoNote n a :: notes else notes
            match debit.add l.debit with
            | .error f => ⟨notes.reverse, .error (.amount f)⟩
            | .ok debit =>
              match credit.add l.credit with
              | .error f => ⟨notes.reverse, .error (.amount f)⟩
              | .ok credit => checkLines accounts company (n + 1) rest debit credit notes

/-- The error for totals that disagree. -/
def unbalanced (debit credit : Decimal) : Except Failure LedgerError := do
  return .unbalanced debit credit (← liftAmount (debit.sub credit))

/-- Check the totals of all lines. -/
def checkTotals (debit credit : Decimal) : Except Failure (Decimal × Decimal) := do
  let gap ← liftAmount (do (← debit.sub credit).abs)
  if ← liftAmount (Decimal.cent.lt gap) then
    broken (← unbalanced debit credit)
  if ← liftAmount debit.isZero then broken .oneSidedEntry
  if ← liftAmount credit.isZero then broken .oneSidedEntry
  return (debit, credit)

/-- Check proposed lines and answer the totals of debits and credits. -/
def check (accounts : Directory) (company : Option Uuid) (lines : List PostingLine) : Outcome :=
  if lines.isEmpty then ⟨[], broken .emptyEntry⟩
  else
    let outcome := checkLines accounts company 1 lines .zero .zero []
    { outcome with
      totals := do
        let (debit, credit) ← outcome.totals
        checkTotals debit credit }

end Posting

end Bookkeeping

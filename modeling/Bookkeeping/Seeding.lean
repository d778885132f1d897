import Bookkeeping.Documents
import Bookkeeping.Registry
import Bookkeeping.Reports

set_option autoImplicit false

/-! # Demonstration data

A company to look at: the default chart, its opening capital, an invoice and a receipt, all posted in
January 2024. A company that has accounts already is left alone. `Seeding.seed` writes the data as one
procedure; `Seeding.command` is the command that does so and tells what it did. -/

namespace Bookkeeping.Seeding

open Procedure

/-! ## Values -/

/-- An amount of two places. -/
def cents (n : Nat) : Decimal := .finite false n (-2)

/-- 1 January 2024. -/
def openingDay : Date := ⟨738886, by decide, by decide⟩

/-- 10 January 2024. -/
def invoiceDay : Date := ⟨738895, by decide, by decide⟩

/-- 15 January 2024. -/
def receiptDay : Date := ⟨738900, by decide, by decide⟩

/-- The invoice: ten pieces for 250.00 with five per cent of tax. -/
def invoice (company : Uuid) : Documents.Invoice :=
  { company
    number := "INV-0001"
    customer := "Demo Customer LLC"
    date := invoiceDay
    items := [⟨.finite false 10 0, cents 25000, cents 5⟩] }

/-- The receipt: an office rent of 4000.00 with 200.00 of tax. -/
def receipt (company rent bank : Uuid) : Documents.Receipt :=
  { company
    amount := cents 400000
    vat := cents 20000
    date := receiptDay
    expense := some rent
    payment := some bank
    merchant := some "Demo Properties"
    category := some "Office rent" }

/-- The lines of the opening capital of 50000.00. -/
def capital (bank equity : Uuid) : List PostingLine :=
  [ { account := bank, debit := cents 5000000, description := some "Capital deposited" },
    { account := equity, credit := cents 5000000, description := some "Owner's capital" } ]

/-! ## Writing the data -/

/-- The account with a code among those that were opened. -/
def openedAccount (company : Uuid) (opened : List Account) (code : String) : Procedure Account :=
  match opened.find? fun a => a.code == code with
  | some a => return a
  | none => reject (.codeNotFound company code)

/-- Write and post the entries of the demonstration; answer how many there are. -/
def postEntries (s : Setting) (company : Uuid) (opened : List Account) (user : String) :
    Procedure Nat := do
  let bank ← openedAccount company opened Chart.bank
  let equity ← openedAccount company opened Chart.ownersEquity
  let header : EntryHeader :=
    { company, date := openingDay, createdBy := user, memo := some "Opening capital" }
  let opening ← Journal.createEntry s header (capital bank.id equity.id) true
  let draft ← Documents.postInvoice s (invoice company) user
  let billed ← Journal.postEntry draft.id user
  let rent ← openedAccount company opened Chart.rent
  let paid ← Documents.postExpense s (receipt company rent.id bank.id) user
  return [opening, billed, paid].length

/-- What was written, and the trial balance after it. -/
structure Outcome where
  accounts : Nat
  entries : Nat
  trialBalance : Reports.TrialBalance
  deriving Repr

/-- Write the demonstration data of a company. -/
def seed (s : Setting) (company : Uuid) (user : String) : Procedure Outcome := do
  let opened ← Registry.seedDefaultChart company
  let entries ← if opened.isEmpty then pure 0 else postEntries s company opened user
  return ⟨opened.length, entries, ← Reports.trialBalance company .all⟩

/-! ## The command -/

/-- The company that gets the data unless another one is asked for. -/
def demoCompany : Uuid := ⟨1⟩

/-- The company that arguments ask for: a fresh one for the word `new`. -/
def companyOf (fresh : Uuid) : List String → Except Uuid.Fault Uuid
  | [] => .ok demoCompany
  | text :: _ => if text = "new" then .ok fresh else Uuid.parseLoose text

/-- A line across the page. -/
def rule : String := String.ofList (List.replicate 60 '=')

/-- Lines before anything is done. -/
def opening : List String := [rule, "Database Seeding - Ledger Engine", rule]

/-- Lines about what was written. -/
def written (o : Outcome) : List String :=
  if o.accounts = 0 then ["✓ Chart of accounts already exists, nothing seeded"]
  else
    ["✓ Seeded " ++ Text.natText o.accounts ++ " accounts",
      "✓ Posted " ++ Text.natText o.entries ++ " entries"]

/-- The line about the trial balance. -/
def verdict (t : Reports.TrialBalance) : Except Decimal.Fault String := do
  if ← t.isBalanced then
    return "✓ Trial balance OK: Debit=" ++ t.totalDebit.toText ++ ", Credit=" ++ t.totalCredit.toText
  else return "⚠️ Trial balance off by " ++ (← t.difference).toText

/-- Lines after all is done. -/
def closing (company : Uuid) : List String :=
  ["", rule, "Seeding completed successfully!", "Company ID: " ++ company.toText, rule]

/-- What a command prints, and why it ended early if it did. -/
structure Transcript where
  lines : List String
  failure : Option Failure := none
  deriving Repr

/-- Note a failure among the lines. -/
def Transcript.failing (lines : List String) (f : Failure) : Transcript :=
  ⟨lines ++ ["", "❌ Error: " ++ f.message], some f⟩

/-- What the command prints after the data of a company were written, or were not. -/
def report (company : Uuid) : Except Failure Outcome → Transcript
  | .error f => .failing opening f
  | .ok o =>
    let lines := opening ++ written o ++ ["", "=== Validating Seed Data ==="]
    match verdict o.trialBalance with
    | .error f => .failing lines (.amount f)
    | .ok line => ⟨lines ++ [line] ++ closing company, none⟩

/-- Run the command with its arguments; `fresh` is the identifier for a new company. -/
def command (clock : Clock) (fresh : Uuid) (args : List String) (w : World) : Transcript × World :=
  match companyOf fresh args with
  | .error f => (⟨opening, some (.value (.identifier f))⟩, w)
  | .ok company =>
    let (outcome, w') := (seed { clock } company "seed").run clock w
    (report company outcome, w')

end Bookkeeping.Seeding

import Bookkeeping.Seeding

set_option autoImplicit false

/-! # Command line

The command that writes demonstration data into an empty ledger and prints what it did. Its argument
is the company to write them for, or `new` for a new company. -/

open Bookkeeping

/-- An identifier for a new company. -/
def freshCompany : IO Uuid := do
  let bytes ← IO.getRandomBytes 16
  return Uuid.ofRandom (bytes.toList.foldl (fun n b => n * 256 + b.toNat) 0)

/-- Run the command, its entries dated by the clock of the first day they concern. -/
def main (args : List String) : IO UInt32 := do
  let now := (Instant.ofDate Seeding.openingDay 0).getD default
  let (transcript, _) := Seeding.command (.ok now) (← freshCompany) args default
  for line in transcript.lines do
    IO.println line
  match transcript.failure with
  | none => return 0
  | some f =>
    IO.eprintln f.message
    return 1

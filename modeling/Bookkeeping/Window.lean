import Bookkeeping.Failure

set_option autoImplicit false

/-! # Windows of reports

The days that a report covers, and for the ledger of an account also a search term and a page. -/

namespace Bookkeeping

/-! ## Ranges of days -/

/-- Days from `start` to `stop`, both included; either end may be open. -/
structure DateRange where
  start : Option Date := none
  stop : Option Date := none
  deriving DecidableEq, Repr

/-- Does the first day come after the second, both being given? -/
def endsBeforeStart (start stop : Option Date) : Bool :=
  match start, stop with
  | some a, some b => b < a
  | _, _ => false

namespace DateRange

/-- All days. -/
def all : DateRange := {}

/-- A range that does not end before it starts. -/
def make (start stop : Option Date) : Except ValueFault DateRange :=
  if endsBeforeStart start stop then .error .rangeOrder else .ok ⟨start, stop⟩

/-- Is the day in the range? -/
def holds (r : DateRange) (d : Date) : Bool :=
  (match r.start with | some a => decide (a ≤ d) | none => true) &&
    (match r.stop with | some b => decide (d ≤ b) | none => true)

end DateRange

/-! ## Ledger filters -/

/-- What part of an account's ledger is asked for. -/
structure LedgerFilters where
  start : Option Date := none
  stop : Option Date := none
  search : Option String := none
  limit : Option Int := none
  offset : Int := 0
  deriving DecidableEq, Repr

namespace LedgerFilters

/-- Check limit, offset and days, in this order. -/
def make (start stop : Option Date) (search : Option String) (limit : Option Int) (offset : Int) :
    Except ValueFault LedgerFilters :=
  if (match limit with | some n => decide (n < 1) | none => false) then .error .limit
  else if offset < 0 then .error .offset
  else if endsBeforeStart start stop then .error .windowOrder
  else .ok ⟨start, stop, search, limit, offset⟩

/-- The days of the window. -/
def range (f : LedgerFilters) : DateRange := ⟨f.start, f.stop⟩

/-- The page of a list that limit and offset ask for. -/
def page {α : Type} (f : LedgerFilters) (xs : List α) : List α :=
  let rest := xs.drop f.offset.toNat
  match f.limit with
  | some n => rest.take n.toNat
  | none => rest

end LedgerFilters

end Bookkeeping

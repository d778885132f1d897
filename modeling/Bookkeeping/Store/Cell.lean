import Bookkeeping.Binary64.Basic

set_option autoImplicit false

/-! # Stored amounts

What becomes of an amount in the store. An amount is written as the nearest double, and a double
that is a whole number within 64 bits is kept as that whole number; it is not rounded to cents. An
amount is read back with exactly two places. Sums are taken over the stored values: exactly in 64
bits as long as all of them are whole numbers, else by adding doubles from left to right.

Sums follow SQLite as it was before version 3.43: doubles are added as they come, and whole numbers
that have left 64 bits are an error whatever is added to them. Since then doubles are added with a
compensation of what rounding loses, and a double that is added ends an overflow. -/

namespace Bookkeeping

/-- A stored amount. -/
inductive Cell where
  | int (n : Int)
  | real (x : Binary64)
  deriving DecidableEq, Repr

namespace Cell

/-- Largest whole number of 64 bits. -/
def maxInt : Int := 9223372036854775807

/-- Smallest whole number of 64 bits. -/
def minInt : Int := -9223372036854775808

/-- Does a whole number fit into 64 bits? -/
def fits (n : Int) : Bool := minInt ≤ n && n ≤ maxInt

/-- The zero amount. -/
def zero : Cell := .int 0

instance : Inhabited Cell := ⟨zero⟩

/-! ## Writing and reading -/

/-- Keep a double, as a whole number if it is one strictly within the 64-bit limits. -/
def ofBinary64 (x : Binary64) : Cell :=
  match x.toInt? with
  | some n => if minInt < n ∧ n < maxInt then .int n else .real x
  | none => .real x

/-- Write an amount; a value that is not a number cannot be stored. -/
def ofDecimal? (d : Decimal) : Option Cell :=
  match Binary64.ofDecimal d with
  | .nan => none
  | x => some (ofBinary64 x)

/-- The double that a stored amount is. -/
def toBinary64 : Cell → Binary64
  | .int n => Binary64.ofInt n
  | .real x => x

/-- Read an amount, with two places. -/
def toDecimal (c : Cell) : Decimal := c.toBinary64.toDecimal 2

/-! ## Sums -/

/-- A sum in progress: the exact sum of whole numbers, the sum of doubles, whether a double was met,
    and whether the exact sum has left 64 bits while none was. -/
structure RunningSum where
  exact : Int := 0
  real : Binary64 := Binary64.zero
  approximate : Bool := false
  overflowed : Bool := false
  deriving DecidableEq, Repr

/-- Add a stored amount to a sum, without compensation and without recovery from an overflow. -/
def RunningSum.add (s : RunningSum) (c : Cell) : RunningSum :=
  let real := s.real.add c.toBinary64
  match c with
  | .int n =>
      if s.approximate then { s with real }
      else if fits (s.exact + n) then { s with exact := s.exact + n, real }
      else { s with real, approximate := true, overflowed := true }
  | .real _ => { s with real, approximate := true }

/-- The value of a sum, `none` when it overflowed. -/
def RunningSum.value? (s : RunningSum) : Option Cell :=
  if s.overflowed then none
  else if s.approximate then some (.real s.real)
  else some (.int s.exact)

/-- The sum of stored amounts, from left to right; `none` when it overflowed. -/
def sum? (cells : List Cell) : Option Cell :=
  (cells.foldl RunningSum.add {}).value?

end Cell

end Bookkeeping

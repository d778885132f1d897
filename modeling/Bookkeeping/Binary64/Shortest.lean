import Bookkeeping.Binary64.Basic
import Bookkeeping.Decimal.Text

set_option autoImplicit false

/-! # Shortest decimal text of a double

A double is written with the fewest significant digits that read back as the same double, and of
those with the digits nearest to its value. On each decimal grid only the two neighbours of the
value have to be tried: if a point of the grid reads back, one of them does. -/

namespace Bookkeeping.Binary64

open Bookkeeping.Text
open Decimal (digitCount)

/-! ## Digits -/

/-- Place of the leading digit: the value of `units` lies in `[10 ^ (p - 1), 10 ^ p)`. -/
def leadingPlace (units : Nat) : Int :=
  (digitCount (units * pow10 324 / one) : Int) - 324

/-- The interval of reals that read back as `units`, in quarter units: its lower end, its upper end,
    and whether the ends belong to it. -/
structure ReadBack where
  lower : Nat
  upper : Nat
  closed : Bool
  deriving Repr

/-- The reals that read back as a positive number of units. Below a power of two the neighbouring
    double is nearer. -/
def readBack (units : Nat) : ReadBack :=
  let s := surplusBits units
  let gap := pow2 s
  let below := if s ≠ 0 && units == pow2 (s + significantBits - 1) then gap else 2 * gap
  { lower := 4 * units - below
    upper := 4 * units + 2 * gap
    closed := (units / gap) % 2 == 0 }

/-- A decimal `c · 10 ^ g` and the scale at which it is compared with quarter units. -/
def inReadBack (r : ReadBack) (c : Nat) (g : Int) : Bool :=
  let v := c * pow10 g.toNat * (4 * one)
  let lower := r.lower * pow10 (-g).toNat
  let upper := r.upper * pow10 (-g).toNat
  if r.closed then lower ≤ v && v ≤ upper else lower < v && v < upper

/-- The point of the grid `10 ^ g` that reads back as `units`, if there is one: of two the nearer,
    of two equally near the even one. -/
def gridPoint? (units : Nat) (g : Int) : Option Nat :=
  let n := units * pow10 (-g).toNat
  let d := one * pow10 g.toNat
  let q := n / d
  let r := readBack units
  let nearest := Decimal.roundDiv .toEven n d
  let other := if nearest = q then q + 1 else q
  if inReadBack r nearest g then some nearest
  else if inReadBack r other g then some other
  else none

/-- Try grids of `n, n + 1, ...` digits, `fuel` of them. -/
def searchGrids (units : Nat) (place : Int) : Nat → Nat → Nat × Int
  | 0, n => (units * pow10 n / one, -(n : Int))
  | fuel + 1, n =>
      match gridPoint? units (place - n) with
      | some c => (c, place - n)
      | none => searchGrids units place fuel (n + 1)

/-- Drop trailing zeros of a coefficient, at most `fuel` of them. -/
def dropZeros : Nat → Nat → Int → Nat × Int
  | 0, c, g => (c, g)
  | fuel + 1, c, g => if c % 10 = 0 then dropZeros fuel (c / 10) (g + 1) else (c, g)

/-- The shortest decimal `c · 10 ^ g` that reads back as a positive number of units; seventeen
    digits always suffice. -/
def shortest (units : Nat) : Nat × Int :=
  let (c, g) := searchGrids units (leadingPlace units) 17 1
  dropZeros 17 c g

/-! ## Text -/

/-- The shortest text: positional with at least one place while the leading digit stands between the
    fourth place after the point and the sixteenth before it, scientific with an exponent of at
    least two digits elsewhere. -/
def toText : Binary64 → String
  | .nan => "nan"
  | .infinity s => Decimal.signText s ++ "inf"
  | .finite s u =>
      if u = 0 then Decimal.signText s ++ "0.0"
      else
        let (c, g) := shortest u
        let digits := natText c
        let place := g + digits.length
        let body :=
          if -4 < place ∧ place ≤ 16 then
            if g < 0 then Decimal.placesText digits (-g).toNat
            else digits ++ Decimal.zeros g.toNat ++ ".0"
          else
            let mantissa :=
              match digits.toList with
              | [] => ""
              | [d] => String.ofList [d]
              | d :: rest => String.ofList (d :: '.' :: rest)
            let e := place - 1
            mantissa ++ "e" ++ (if e < 0 then "-" else "+") ++ padZeros 2 (natText e.natAbs)
        Decimal.signText s ++ body

/-- Read a double from a decimal text with an exponent of any size; `none` when the text is no
    number. -/
def ofText? (s : String) : Option Binary64 :=
  match Decimal.readNumber (Decimal.takeSign s.toList).2 with
  | some (c, e) => some (ofDecimal (Decimal.finite (Decimal.takeSign s.toList).1 c e))
  | none => none

end Bookkeeping.Binary64

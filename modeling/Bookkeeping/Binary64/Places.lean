import Bookkeeping.Binary64.Shortest

set_option autoImplicit false

/-! # Texts of a double with a given number of digits

Besides its shortest text a double has texts with a fixed number of places after the point
(`fixedText`), with a fixed number of digits in scientific form (`scientificText`), and with a number
of significant digits in whichever of the two forms is shorter (`generalText`). The exact value is
rounded, a half going to the even neighbour. With `keepPoint` the point is written even where no
digit follows it. -/

namespace Bookkeeping.Binary64

open Bookkeeping.Text
open Decimal (digitCount)

/-! ## Significant digits -/

/-- A positive number of units rounded to `n` significant digits: a coefficient of `n` digits and the
    power of ten of its leading digit. -/
def significant (n units : Nat) : Nat × Int :=
  let place := leadingPlace units
  let g := place - n
  let c := Decimal.roundDiv .toEven (units * pow10 (-g).toNat) (one * pow10 g.toNat)
  if digitCount c ≤ n then (c, place - 1) else (c / 10, place)

/-- Significant digits of a magnitude; zero has the digit zero `n` times. -/
def digitsOf (n units : Nat) : String × Int :=
  if units = 0 then (Decimal.zeros n, 0)
  else
    let (c, e) := significant n units
    (natText c, e)

/-- A point, where one is kept though no digit follows. -/
def lonePoint (keepPoint : Bool) (places : Nat) : String :=
  if keepPoint && places == 0 then "." else ""

/-- The digits `d.ddd`. -/
def mantissaText (keepPoint : Bool) (digits : List Char) : String :=
  match digits with
  | [] => ""
  | [d] => String.ofList [d] ++ lonePoint keepPoint 0
  | d :: rest => String.ofList (d :: '.' :: rest)

/-- A power of ten with its sign and at least two digits. -/
def exponentText (e : Int) : String :=
  "e" ++ (if e < 0 then "-" else "+") ++ padZeros 2 (natText e.natAbs)

/-! ## The three forms -/

/-- A magnitude with `places` digits after the point. -/
def fixedText (keepPoint : Bool) (places units : Nat) : String :=
  Decimal.placesText (natText (Decimal.roundDiv .toEven (units * pow10 places) one)) places
    ++ lonePoint keepPoint places

/-- A magnitude as one digit, `places` digits after the point, and a power of ten. -/
def scientificText (keepPoint : Bool) (places units : Nat) : String :=
  let (digits, e) := digitsOf (places + 1) units
  mantissaText keepPoint digits.toList ++ exponentText e

/-- Digits without the zeros at their end. -/
def dropLastZeros (digits : List Char) : List Char :=
  (digits.reverse.dropWhile (· = '0')).reverse

/-- No double has more significant digits than this, so that more digits are zeros. -/
def mostDigits : Nat := 767

/-- A magnitude with `n` significant digits, one at least: in positional form unless the leading digit
    stands below the fourth place after the point or the digits do not reach down to the point. Zeros
    at the end are left out unless the point is kept. -/
def generalText (keepPoint : Bool) (n units : Nat) : String :=
  let n := max n 1
  let (digits, e) := digitsOf (if keepPoint then n else min n mostDigits) units
  let shown := if keepPoint then digits.toList else dropLastZeros digits.toList
  if -4 ≤ e ∧ e < n then
    if e < 0 then "0." ++ Decimal.zeros (-e - 1).toNat ++ String.ofList shown
    else
      let whole := e.toNat + 1
      let padded := shown ++ List.replicate (whole - shown.length) '0'
      let fraction := padded.drop whole
      String.ofList (padded.take whole) ++
        (if fraction.isEmpty then lonePoint keepPoint 0 else "." ++ String.ofList fraction)
  else mantissaText keepPoint (if shown.isEmpty then ['0'] else shown) ++ exponentText e

end Bookkeeping.Binary64

import Bookkeeping.Powers

set_option autoImplicit false

/-! # Exact decimal amounts

An amount is a decimal number with a sign, a coefficient and an exponent, so that `1.50` and `1.5`
are equal in value and yet different amounts: exponent and trailing zeros are part of what is
shown. Besides the finite amounts there are two infinities and not-a-number values, quiet or
signalling, with a payload.

Arithmetic is exact until its result is fitted into 28 digits (`fit`), rounding half to even. This
file holds the representation, the counting of digits, division with rounding and `fit`. -/

namespace Bookkeeping

/-- A decimal amount. The value of `finite negative coefficient exponent` is
    `±coefficient · 10 ^ exponent`; there are two zeros for every exponent. -/
inductive Decimal where
  | finite (negative : Bool) (coefficient : Nat) (exponent : Int)
  | infinity (negative : Bool)
  | nan (negative : Bool) (signaling : Bool) (payload : Nat)
  deriving DecidableEq, Repr

namespace Decimal

/-- Why an operation on amounts has no result. -/
inductive Fault where
  /-- The operation is undefined on these operands, or its result does not fit. -/
  | invalidOperation
  /-- A text does not denote an amount. -/
  | conversionSyntax
  /-- The result exceeds the largest amount. -/
  | overflow
  deriving DecidableEq, Repr

/-- Zero, written without decimal places. -/
def zero : Decimal := .finite false 0 0

/-- One hundredth, the smallest currency unit. -/
def cent : Decimal := .finite false 1 (-2)

instance : Inhabited Decimal := ⟨zero⟩

/-- Is the amount a number or an infinity? -/
def isFinite : Decimal → Bool
  | .finite _ _ _ => true
  | _ => false

/-! ## Limits of arithmetic -/

/-- Digits that the coefficient of a result may have. -/
def precision : Nat := 28

/-- Largest power of ten that a leading digit of a result may stand for. -/
def maxExponent : Int := 999999

/-- Smallest exponent of a result. -/
def minExponent : Int := -1000026

/-! ## Counting digits -/

/-- Decimal digits of `n`, given `n < 10 ^ 2 ^ k`: compare with the middle power of ten and go on
    with one half of the digits. -/
def digitCountBelow : Nat → Nat → Nat
  | 0, _ => 1
  | k + 1, n =>
      if n < pow10 (pow2 k) then digitCountBelow k n
      else pow2 k + digitCountBelow k (n / pow10 (pow2 k))

/-- Number of decimal digits of `n`; zero has one digit. -/
def digitCount (n : Nat) : Nat :=
  digitCountBelow (Nat.log2 (Nat.log2 n + 1) + 1) n

/-! ## Rounding -/

/-- What becomes of a quotient half way between two integers. -/
inductive Tie where
  /-- It goes to the even neighbour. -/
  | toEven
  /-- It goes to the larger neighbour. -/
  | up
  deriving DecidableEq, Repr

/-- The integer nearest to `n / d`, ties as told. -/
def roundDiv (tie : Tie) (n d : Nat) : Nat :=
  let q := n / d
  let r := n % d
  if 2 * r < d then q
  else if d < 2 * r then q + 1
  else
    match tie with
    | .up => q + 1
    | .toEven => if q % 2 = 0 then q else q + 1

/-- Divide by `10 ^ k` with rounding. Where `k` exceeds the number of digits the quotient is below
    one tenth and rounds to zero, and the power is not computed. -/
def dropDigits (tie : Tie) (k n : Nat) : Nat :=
  if digitCount n < k then 0 else roundDiv tie n (pow10 k)

/-- Fit an exact result into the precision and the range of exponents, rounding half to even. -/
def fit (negative : Bool) (c : Nat) (e : Int) : Except Fault Decimal :=
  if c = 0 then .ok (.finite negative 0 (min (max e minExponent) maxExponent))
  else
    let lead := e + digitCount c - 1
    if maxExponent < lead then .error .overflow
    else
      let low := max (lead + 1 - precision) minExponent
      if low ≤ e then .ok (.finite negative c e)
      else
        let c' := dropDigits .toEven (low - e).toNat c
        if digitCount c' ≤ precision then .ok (.finite negative c' low)
        else if maxExponent < lead + 1 then .error .overflow
        else .ok (.finite negative (c' / 10) (low + 1))

end Decimal

end Bookkeeping

import Bookkeeping.Decimal.Basic

set_option autoImplicit false

/-! # Arithmetic on amounts

Sums, products, sign changes, comparisons and rounding to cents. A result is the exact one, fitted
into the precision. Operations on a signalling value, and ordering a value that is not a number,
have no result; equality asks nothing of a quiet one. -/

namespace Bookkeeping.Decimal

/-! ## Values that are not numbers -/

/-- The quiet form that an operation returns; its payload keeps the last digits. -/
def quietNan (negative : Bool) (payload : Nat) : Decimal :=
  .nan negative false (payload % pow10 precision)

/-- The result of an operation of two operands, when one of them is not a number. -/
def nanOfTwo? : Decimal → Decimal → Option (Except Fault Decimal)
  | .nan _ true _, _ => some (.error .invalidOperation)
  | _, .nan _ true _ => some (.error .invalidOperation)
  | .nan s false p, _ => some (.ok (quietNan s p))
  | _, .nan s false p => some (.ok (quietNan s p))
  | _, _ => none

/-! ## Addition -/

/-- A coefficient with its sign. -/
def signed (negative : Bool) (c : Nat) : Int :=
  if negative then -(c : Int) else (c : Int)

/-- Fit a sum `v · 10 ^ e`. A zero is negative only when both terms are. -/
def fitSum (bothNegative : Bool) (v : Int) (e : Int) : Except Fault Decimal :=
  fit (if v = 0 then bothNegative else decide (v < 0)) v.natAbs e

/-- Digits kept below the larger term when the smaller one lies far under it: two more than the
    precision, so that the smaller term only decides the direction of rounding. -/
def guardDigits : Nat := precision + 2

/-- Add two finite amounts, the first with the larger exponent. A second term that lies wholly below
    the guard digits of the first is replaced by a single unit there: it changes which way the sum
    is rounded and nothing else. -/
def addAligned (s₁ : Bool) (c₁ : Nat) (e₁ : Int) (s₂ : Bool) (c₂ : Nat) (e₂ : Int) :
    Except Fault Decimal :=
  let gap := (e₁ - e₂).toNat
  if c₁ = 0 then fitSum (s₁ && s₂) (signed s₂ c₂) e₂
  else if digitCount c₂ + guardDigits ≤ gap then
    fitSum (s₁ && s₂) (signed s₁ c₁ * (pow10 guardDigits : Nat) + signed s₂ (min c₂ 1)) (e₁ - guardDigits)
  else fitSum (s₁ && s₂) (signed s₁ c₁ * (pow10 gap : Nat) + signed s₂ c₂) e₂

/-- The sum of two amounts. -/
def add (x y : Decimal) : Except Fault Decimal :=
  match nanOfTwo? x y with
  | some r => r
  | none =>
    match x, y with
    | .infinity s, .infinity t => if s = t then .ok (.infinity s) else .error .invalidOperation
    | .infinity s, _ => .ok (.infinity s)
    | _, .infinity t => .ok (.infinity t)
    | .finite s₁ c₁ e₁, .finite s₂ c₂ e₂ =>
        if e₂ ≤ e₁ then addAligned s₁ c₁ e₁ s₂ c₂ e₂ else addAligned s₂ c₂ e₂ s₁ c₁ e₁
    | _, _ => .error .invalidOperation

/-- The same amount with the other sign, not fitted. -/
def flipSign : Decimal → Decimal
  | .finite s c e => .finite (!s) c e
  | .infinity s => .infinity (!s)
  | .nan s g p => .nan (!s) g p

/-- The difference of two amounts. -/
def sub (x y : Decimal) : Except Fault Decimal :=
  match nanOfTwo? x y with
  | some r => r
  | none => add x (flipSign y)

/-- The sum of a list of amounts, from zero and from left to right. -/
def sum (xs : List Decimal) : Except Fault Decimal :=
  xs.foldlM add zero

/-! ## Products and signs -/

/-- The product of two amounts. -/
def mul (x y : Decimal) : Except Fault Decimal :=
  match nanOfTwo? x y with
  | some r => r
  | none =>
    match x, y with
    | .finite s₁ c₁ e₁, .finite s₂ c₂ e₂ => fit (s₁ != s₂) (c₁ * c₂) (e₁ + e₂)
    | .infinity s, .finite t c _ => if c = 0 then .error .invalidOperation else .ok (.infinity (s != t))
    | .finite s c _, .infinity t => if c = 0 then .error .invalidOperation else .ok (.infinity (s != t))
    | .infinity s, .infinity t => .ok (.infinity (s != t))
    | _, _ => .error .invalidOperation

/-- The absolute value, fitted. -/
def abs : Decimal → Except Fault Decimal
  | .finite _ c e => fit false c e
  | .infinity _ => .ok (.infinity false)
  | .nan s false p => .ok (quietNan s p)
  | .nan _ true _ => .error .invalidOperation

/-- The negation, fitted. The negation of a zero is the positive zero. -/
def neg : Decimal → Except Fault Decimal
  | .finite s c e => fit (if c = 0 then false else !s) c e
  | .infinity s => .ok (.infinity (!s))
  | .nan s false p => .ok (quietNan s p)
  | .nan _ true _ => .error .invalidOperation

/-! ## Comparison -/

/-- Compare two positive magnitudes: by the place of the leading digit, then digit by digit. -/
def compareMagnitude (c₁ : Nat) (e₁ : Int) (c₂ : Nat) (e₂ : Int) : Ordering :=
  let lead₁ := e₁ + digitCount c₁
  let lead₂ := e₂ + digitCount c₂
  if lead₁ < lead₂ then .lt
  else if lead₂ < lead₁ then .gt
  else compare (c₁ * pow10 (e₁ - e₂).toNat) (c₂ * pow10 (e₂ - e₁).toNat)

/-- The sign of a finite amount, a zero having none. -/
def signOf (negative : Bool) (c : Nat) : Int :=
  if c = 0 then 0 else if negative then -1 else 1

/-- Compare two amounts in value; `none` when one of them is not a number. -/
def compare? : Decimal → Decimal → Option Ordering
  | .nan _ _ _, _ => none
  | _, .nan _ _ _ => none
  | .infinity s, .infinity t => some (if s = t then .eq else if s then .lt else .gt)
  | .infinity s, .finite _ _ _ => some (if s then .lt else .gt)
  | .finite _ _ _, .infinity t => some (if t then .gt else .lt)
  | .finite s₁ c₁ e₁, .finite s₂ c₂ e₂ =>
      let g₁ := signOf s₁ c₁
      let g₂ := signOf s₂ c₂
      some (if g₁ ≠ g₂ then compare g₁ g₂
        else if g₁ = 0 then .eq
        else if g₁ = 1 then compareMagnitude c₁ e₁ c₂ e₂
        else compareMagnitude c₂ e₂ c₁ e₁)

/-- The order of two amounts, a fault when one of them is not a number. -/
def order (x y : Decimal) : Except Fault Ordering :=
  match compare? x y with
  | some o => .ok o
  | none => .error .invalidOperation

/-- `x < y`. -/
def lt (x y : Decimal) : Except Fault Bool := do
  return (← order x y) == .lt

/-- `x ≤ y`. -/
def le (x y : Decimal) : Except Fault Bool := do
  return (← order x y) != .gt

/-- Is the amount a signalling value? -/
def isSignaling : Decimal → Bool
  | .nan _ g _ => g
  | _ => false

/-- Equality in value. A quiet value that is not a number equals nothing. -/
def eq (x y : Decimal) : Except Fault Bool :=
  if isSignaling x || isSignaling y then .error .invalidOperation
  else .ok (compare? x y == some .eq)

/-- Is the amount equal to zero? -/
def isZero (x : Decimal) : Except Fault Bool := eq x zero

/-! ## Rounding to a place -/

/-- The amount with exponent `e`, rounded when digits are lost. No more than 28 digits may result. -/
def quantize (tie : Tie) (e : Int) : Decimal → Except Fault Decimal
  | .finite s c e₁ =>
      if c = 0 then .ok (.finite s 0 e)
      else if (precision : Int) < digitCount c + (e₁ - e) then .error .invalidOperation
      else
        let c' := if e ≤ e₁ then c * pow10 (e₁ - e).toNat else dropDigits tie (e - e₁).toNat c
        if precision < digitCount c' then .error .invalidOperation else .ok (.finite s c' e)
  | .infinity _ => .error .invalidOperation
  | .nan s false p => .ok (quietNan s p)
  | .nan _ true _ => .error .invalidOperation

/-- Money is rounded to cents, a half cent upwards in magnitude. -/
def roundMoney (x : Decimal) : Except Fault Decimal :=
  quantize .up (-2) x

end Bookkeeping.Decimal

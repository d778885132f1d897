import Bookkeeping.Decimal.Arithmetic

set_option autoImplicit false

/-! # Double precision numbers

The store keeps amounts as binary numbers of double precision. A finite one is a sign and a whole
number of units, the unit being the smallest positive double `2 ^ -1074`: sums are then sums of
whole numbers, exact until `roundUnits` takes them to 53 significant bits, a half going to the even
neighbour. -/

namespace Bookkeeping

open Decimal (roundDiv dropDigits digitCount)

/-- A double precision number. The value of `finite negative units` is `±units · 2 ^ -1074`. -/
inductive Binary64 where
  | finite (negative : Bool) (units : Nat)
  | infinity (negative : Bool)
  | nan
  deriving DecidableEq, Repr

namespace Binary64

/-- Units in one. -/
def one : Nat := pow2 1074

/-- The positive zero. -/
def zero : Binary64 := .finite false 0

instance : Inhabited Binary64 := ⟨zero⟩

/-- Significant bits of a double. -/
def significantBits : Nat := 53

/-- Units from which on a magnitude is infinite. -/
def infiniteUnits : Nat := pow2 2098

/-- The number of bits that a magnitude of `n` units has beyond the significant ones. -/
def surplusBits (n : Nat) : Nat := Nat.log2 n + 1 - significantBits

/-- The representable number of units nearest to `n / d`, with no upper end. -/
def roundUnits (n d : Nat) : Nat :=
  let s := surplusBits (n / d)
  roundDiv .toEven n (d * pow2 s) * pow2 s

/-- A magnitude in units, infinite from `infiniteUnits` on. -/
def ofUnits (negative : Bool) (units : Nat) : Binary64 :=
  if units < infiniteUnits then .finite negative units else .infinity negative

/-! ## Conversions -/

/-- The double nearest to `±n / d`. -/
def ofRatio (negative : Bool) (n d : Nat) : Binary64 :=
  ofUnits negative (roundUnits (n * one) d)

/-- The double nearest to a whole number. -/
def ofInt (n : Int) : Binary64 := ofRatio (n < 0) n.natAbs 1

/-- Powers of ten beyond which every amount is infinite or zero as a double. -/
def decimalReach : Int := 400

/-- The double nearest to an amount. -/
def ofDecimal : Decimal → Binary64
  | .finite s c e =>
      if c = 0 then .finite s 0
      else
        let lead := e + digitCount c
        if decimalReach < lead then .infinity s
        else if lead < -decimalReach then .finite s 0
        else ofRatio s (c * pow10 e.toNat) (pow10 (-e).toNat)
  | .infinity s => .infinity s
  | .nan _ _ _ => .nan

/-- The whole number that a double is, if it is one. -/
def toInt? : Binary64 → Option Int
  | .finite s u => if u % one = 0 then some (Decimal.signed s (u / one)) else none
  | _ => none

/-! ## Arithmetic and rounding to places -/

/-- The sum of two doubles. -/
def add : Binary64 → Binary64 → Binary64
  | .finite s₁ u₁, .finite s₂ u₂ =>
      let v := Decimal.signed s₁ u₁ + Decimal.signed s₂ u₂
      if v = 0 then .finite (s₁ && s₂) 0
      else ofUnits (v < 0) (roundUnits v.natAbs 1)
  | .infinity s, .infinity t => if s = t then .infinity s else .nan
  | .infinity s, .finite _ _ => .infinity s
  | .finite _ _, .infinity t => .infinity t
  | _, _ => .nan

/-- The exact value rounded to a number of decimal places, as an amount; a half goes to the even
    neighbour and a zero keeps the sign. -/
def toDecimal (places : Nat) : Binary64 → Decimal
  | .finite s u => .finite s (roundDiv .toEven (u * pow10 places) one) (-(places : Int))
  | .infinity s => .infinity s
  | .nan => .nan false false 0

end Binary64

end Bookkeeping

set_option autoImplicit false

/-! # Powers of two and ten

The scales of binary and decimal numbers, as functions on natural numbers. -/

namespace Bookkeeping

/-- Two to the power `k`. -/
def pow2 (k : Nat) : Nat := Nat.pow 2 k

/-- Ten to the power `k`. -/
def pow10 (k : Nat) : Nat := Nat.pow 10 k

theorem pow2_zero : pow2 0 = 1 := rfl

theorem pow2_succ (k : Nat) : pow2 (k + 1) = pow2 k * 2 := rfl

theorem pow2_pos (k : Nat) : 0 < pow2 k := Nat.pow_pos (by decide)

theorem pow10_pos (k : Nat) : 0 < pow10 k := Nat.pow_pos (by decide)

end Bookkeeping

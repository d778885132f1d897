import Bookkeeping.Decimal.Basic
import Mathlib.Algebra.Order.Field.Rat
import Mathlib.Algebra.Order.Field.Power
import Mathlib.Tactic.Linarith
import Mathlib.Tactic.Positivity
import Mathlib.Tactic.FieldSimp

set_option autoImplicit false

/-! # Rounding

A rounded quotient lies within one half of the exact one, and it is the only whole number that lies
nearer than that. Dropping digits that are zeros loses nothing. -/

namespace Bookkeeping.Decimal

variable {tie : Tie} {n d m k : Nat}

/-! ## Quotients -/

/-- The two neighbours of a quotient, and when rounding goes to which. -/
theorem roundDiv_cases (tie : Tie) (n d : Nat) :
    roundDiv tie n d = n / d ∧ 2 * (n % d) ≤ d ∨
      roundDiv tie n d = n / d + 1 ∧ d ≤ 2 * (n % d) := by
  unfold roundDiv
  dsimp only
  split
  · next h => exact .inl ⟨rfl, by omega⟩
  · split
    · next h => exact .inr ⟨rfl, by omega⟩
    · cases tie with
      | up => exact .inr ⟨rfl, by omega⟩
      | toEven =>
          dsimp only
          split
          · exact .inl ⟨rfl, by omega⟩
          · exact .inr ⟨rfl, by omega⟩

/-- A rounded quotient is at most twice the exact one. -/
theorem roundDiv_mul_le (tie : Tie) (n d : Nat) : roundDiv tie n d * d ≤ 2 * n := by
  have hsplit := Nat.div_add_mod' n d
  rcases roundDiv_cases tie n d with ⟨h, -⟩ | ⟨h, hle⟩
  · rw [h]
    omega
  · rw [h, Nat.add_mul, Nat.one_mul]
    omega

theorem roundDiv_error (tie : Tie) (n : Nat) (hd : 0 < d) :
    |(roundDiv tie n d : ℚ) - n / d| ≤ 1 / 2 := by
  have hd' : (0 : ℚ) < d := by exact_mod_cast hd
  have hn : (n : ℚ) / d = (n / d : Nat) + (n % d : Nat) / d := by
    rw [div_eq_iff hd'.ne', add_mul, div_mul_cancel₀ _ hd'.ne']
    exact_mod_cast (Nat.div_add_mod' n d).symm
  have hr : ((n % d : Nat) : ℚ) / d < 1 := by
    rw [div_lt_one hd']
    exact_mod_cast Nat.mod_lt n hd
  have hr' : 0 ≤ ((n % d : Nat) : ℚ) / d := by positivity
  rw [hn, abs_le]
  rcases roundDiv_cases tie n d with ⟨h, hle⟩ | ⟨h, hle⟩
  · have hhalf : ((n % d : Nat) : ℚ) / d ≤ 1 / 2 := by
      rw [div_le_iff₀ hd']
      have : (2 * (n % d : Nat) : ℚ) ≤ d := by exact_mod_cast hle
      linarith
    rw [h]
    constructor <;> linarith
  · have hhalf : 1 / 2 ≤ ((n % d : Nat) : ℚ) / d := by
      rw [le_div_iff₀ hd']
      have : (d : ℚ) ≤ 2 * (n % d : Nat) := by exact_mod_cast hle
      linarith
    rw [h]
    push_cast
    constructor <;> linarith

/-- A whole number that is nearer than one half is the rounded quotient. -/
theorem roundDiv_eq (tie : Tie) (hd : 0 < d) (h : |(m : ℚ) - n / d| < 1 / 2) :
    roundDiv tie n d = m := by
  have herror := roundDiv_error tie n hd
  rw [abs_le] at herror
  rw [abs_lt] at h
  have hlt : (roundDiv tie n d : ℚ) < m + 1 := by linarith
  have hgt : (m : ℚ) < roundDiv tie n d + 1 := by linarith
  have hlt' : roundDiv tie n d < m + 1 := by exact_mod_cast hlt
  have hgt' : m < roundDiv tie n d + 1 := by exact_mod_cast hgt
  omega

/-- A quotient that is a whole number is not changed by rounding. -/
theorem roundDiv_mul_self (tie : Tie) (m : Nat) (hd : 0 < d) : roundDiv tie (m * d) d = m := by
  have hd' : (d : ℚ) ≠ 0 := by exact_mod_cast hd.ne'
  refine roundDiv_eq tie hd ?_
  push_cast
  rw [mul_div_cancel_right₀ _ hd', sub_self, abs_zero]
  norm_num

/-! ## Digits -/

theorem pow10_add (j k : Nat) : pow10 (j + k) = pow10 j * pow10 k := Nat.pow_add 10 j k

theorem pow10_le_pow10 (h : n ≤ m) : pow10 n ≤ pow10 m := Nat.pow_le_pow_right (by decide) h

theorem digitCountBelow_bounds (k : Nat) (hn : 0 < n) (h : n < pow10 (pow2 k)) :
    0 < digitCountBelow k n ∧ pow10 (digitCountBelow k n - 1) ≤ n ∧
      n < pow10 (digitCountBelow k n) := by
  -- the search halves the number of digits, so the bound is squared at each level
  induction k generalizing n with
  | zero => exact ⟨Nat.one_pos, hn, h⟩
  | succ k ih =>
      unfold digitCountBelow
      split
      · next hlt => exact ih hn hlt
      · next hge =>
          have hpos := pow10_pos (pow2 k)
          have hlt : n / pow10 (pow2 k) < pow10 (pow2 k) := by
            rw [Nat.div_lt_iff_lt_mul hpos, ← pow10_add, ← Nat.mul_two, ← pow2_succ]
            exact h
          obtain ⟨hcount, hlow, hhigh⟩ := ih (Nat.div_pos (Nat.not_lt.mp hge) hpos) hlt
          refine ⟨by omega, ?_, ?_⟩
          · rw [Nat.add_sub_assoc hcount, pow10_add]
            exact (Nat.mul_le_mul_left _ hlow).trans (Nat.mul_div_le n _)
          · rw [pow10_add]
            calc n < pow10 (pow2 k) * (n / pow10 (pow2 k) + 1) := Nat.lt_mul_div_succ n hpos
              _ ≤ _ := Nat.mul_le_mul_left _ hhigh

/-- The number of digits, in terms of powers of ten. -/
theorem digitCount_bounds (hn : 0 < n) :
    0 < digitCount n ∧ pow10 (digitCount n - 1) ≤ n ∧ n < pow10 (digitCount n) := by
  refine digitCountBelow_bounds _ hn ?_
  calc n < 2 ^ (Nat.log2 n + 1) := Nat.lt_log2_self
    _ ≤ 2 ^ pow2 (Nat.log2 (Nat.log2 n + 1) + 1) :=
        Nat.pow_le_pow_right (by decide) (Nat.le_of_lt Nat.lt_log2_self)
    _ ≤ 10 ^ pow2 (Nat.log2 (Nat.log2 n + 1) + 1) := Nat.pow_le_pow_left (by decide) _

theorem lt_pow10_digitCount (n : Nat) : n < pow10 (digitCount n) := by
  rcases Nat.eq_zero_or_pos n with rfl | hn
  · decide
  · exact (digitCount_bounds hn).2.2

/-- No number has more digits than a power of ten above it. -/
theorem digitCount_le (hn : 0 < n) (h : n < pow10 k) : digitCount n ≤ k := by
  obtain ⟨hpos, hlow, -⟩ := digitCount_bounds hn
  have hlt : pow10 (digitCount n - 1) < pow10 k := hlow.trans_lt h
  have := (Nat.pow_lt_pow_iff_right (by decide : 1 < 10)).mp hlt
  omega

/-- Dropping digits that are zeros loses nothing. -/
theorem dropDigits_mul_pow10 (tie : Tie) (m k : Nat) : dropDigits tie k (m * pow10 k) = m := by
  unfold dropDigits
  split
  · next h =>
      rcases Nat.eq_zero_or_pos m with rfl | hm
      · rfl
      · have hlt := lt_pow10_digitCount (m * pow10 k)
        have hle := pow10_le_pow10 (Nat.le_of_lt h)
        have hge := Nat.le_mul_of_pos_left (pow10 k) hm
        omega
  · exact roundDiv_mul_self tie m (pow10_pos k)

end Bookkeeping.Decimal

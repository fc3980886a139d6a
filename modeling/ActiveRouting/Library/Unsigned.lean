import Mathlib.Algebra.Ring.Nat

/-!
# Unsigned subtraction

Numbers of type `unsigned` have 32 bits, and a difference that is negative wraps around.
-/

/-- Subtraction of two `unsigned` numbers. -/
@[irreducible] def unsignedSub (a b : ℕ) : ℕ := (a + (2 ^ 32 - b)) % 2 ^ 32

theorem unsignedSub_eq {a b : ℕ} (le : b ≤ a) (small : a < 2 ^ 32) : unsignedSub a b = a - b := by
  rw [unsignedSub]
  omega

/-- A difference that wraps around. -/
theorem unsignedSub_of_lt {a b : ℕ} (lt : a < b) (small : b < 2 ^ 32) :
    unsignedSub a b = 2 ^ 32 - (b - a) := by
  rw [unsignedSub]
  omega

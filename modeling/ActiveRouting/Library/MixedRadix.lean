import Mathlib.Algebra.BigOperators.Group.List.Basic
import Mathlib.Data.List.Forall2
import Mathlib.Data.Set.Function

/-!
# Mixed radix

Numbers below the product of some bases are words with a digit of each base, least
significant digit first.
-/

namespace MixedRadix

/-- The digits of a number. -/
def digits : List ℕ → ℕ → List ℕ
  | [], _ => []
  | base :: bases, n => n % base :: digits bases (n / base)

/-- The number of a word. -/
def number : List ℕ → List ℕ → ℕ
  | base :: bases, digit :: word => digit + base * number bases word
  | _, _ => 0

/-- A word has one digit of each base. -/
abbrev Fits (bases word : List ℕ) : Prop := List.Forall₂ (fun base digit => digit < base) bases word

theorem number_lt {bases word : List ℕ} (fits : Fits bases word) :
    number bases word < bases.prod := by
  induction fits with
  | nil => exact Nat.one_pos
  | @cons base digit bases word small _ inductionHypothesis =>
    rw [number, List.prod_cons]
    calc digit + base * number bases word
        < base + base * number bases word := Nat.add_lt_add_right small _
      _ = base * (number bases word + 1) := by rw [Nat.mul_succ, Nat.add_comm]
      _ ≤ base * bases.prod := Nat.mul_le_mul_left base inductionHypothesis

theorem digits_number {bases word : List ℕ} (fits : Fits bases word) :
    digits bases (number bases word) = word := by
  induction fits with
  | nil => rfl
  | @cons base digit bases word small _ inductionHypothesis =>
    have positive : 0 < base := Nat.zero_lt_of_lt small
    rw [number, digits, Nat.add_mul_mod_self_left, Nat.mod_eq_of_lt small,
      Nat.add_mul_div_left _ _ positive, Nat.div_eq_of_lt small, Nat.zero_add, inductionHypothesis]

theorem fits_digits : ∀ {bases : List ℕ} {n : ℕ}, n < bases.prod → Fits bases (digits bases n)
  | [], _, _ => .nil
  | base :: bases, n, small => by
    rw [List.prod_cons] at small
    have positive : 0 < base := Nat.pos_of_mul_pos_right (Nat.zero_lt_of_lt small)
    exact .cons (Nat.mod_lt n positive) (fits_digits (Nat.div_lt_of_lt_mul small))

theorem number_digits : ∀ {bases : List ℕ} {n : ℕ}, n < bases.prod →
    number bases (digits bases n) = n
  | [], n, small => (Nat.lt_one_iff.mp small).symm
  | base :: bases, n, small => by
    rw [List.prod_cons] at small
    rw [digits, number, number_digits (Nat.div_lt_of_lt_mul small), Nat.mod_add_div]

theorem bijOn_digits (bases : List ℕ) :
    Set.BijOn (digits bases) {n | n < bases.prod} {word | Fits bases word} := by
  have inverse : Set.InvOn (number bases) (digits bases) {n | n < bases.prod}
      {word | Fits bases word} :=
    ⟨fun _ small => number_digits small, fun _ fits => digits_number fits⟩
  exact inverse.bijOn (fun _ small => fits_digits small) fun _ fits => number_lt fits

end MixedRadix

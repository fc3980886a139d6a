import Mathlib.Data.List.Basic
import Mathlib.Data.Fintype.Card
import Mathlib.Tactic.Ring
import Mathlib.Tactic.Linarith

/-!
# Positional numerals

Words over the digits of a base, most significant digit first, as numbers
below a power of the base.
-/

namespace ActiveRouting.Library.Numerals

variable {b : ℕ}

/-- The number written by a word of base-`b` digits. -/
def number : List (Fin b) → ℕ
  | [] => 0
  | c :: cs => c * b ^ cs.length + number cs

@[simp] theorem number_nil : number ([] : List (Fin b)) = 0 := rfl

theorem number_cons (c : Fin b) (cs : List (Fin b)) :
    number (c :: cs) = c * b ^ cs.length + number cs := rfl

theorem number_append (v w : List (Fin b)) :
    number (v ++ w) = number v * b ^ w.length + number w := by
  induction v with
  | nil => simp
  | cons c cs ih =>
    rw [List.cons_append, number_cons, number_cons, ih, List.length_append, pow_add]
    ring

theorem number_concat (v : List (Fin b)) (c : Fin b) : number (v ++ [c]) = number v * b + c := by
  simp [number_append, number_cons]

theorem number_lt (w : List (Fin b)) : number w < b ^ w.length := by
  induction w with
  | nil => simp
  | cons c cs ih =>
    have hc : (c + 1 : ℕ) * b ^ cs.length ≤ b * b ^ cs.length :=
      Nat.mul_le_mul_right _ c.isLt
    rw [number_cons, List.length_cons, pow_succ]
    linarith

/-- Dividing by the weight of the tail leaves the leading digit. -/
theorem number_cons_div (c : Fin b) (cs : List (Fin b)) :
    number (c :: cs) / b ^ cs.length = c := by
  have hpos : 0 < b ^ cs.length := lt_of_le_of_lt (Nat.zero_le _) (number_lt cs)
  rw [number_cons, mul_comm, Nat.mul_add_div hpos, Nat.div_eq_of_lt (number_lt cs), add_zero]

theorem number_injective : ∀ {v w : List (Fin b)}, v.length = w.length → number v = number w → v = w
  | [], [], _, _ => rfl
  | [], _ :: _, hlen, _ => by simp at hlen
  | _ :: _, [], hlen, _ => by simp at hlen
  | c :: cs, d :: ds, hlen, h => by
    have hlen' : cs.length = ds.length := by simpa using hlen
    have hcd : (c : ℕ) = d := by
      rw [← number_cons_div c cs, ← number_cons_div d ds, h, hlen']
    rw [number_cons, number_cons, hcd, hlen'] at h
    rw [Fin.ext hcd, number_injective hlen' (by omega)]

section Digits

variable [NeZero b]

/-- The numeral of length `k` of a number below `b ^ k`. -/
def digits : ℕ → ℕ → List (Fin b)
  | 0, _ => []
  | k + 1, x => Fin.ofNat b (x / b ^ k) :: digits k (x % b ^ k)

@[simp] theorem digits_length (k x : ℕ) : (digits k x : List (Fin b)).length = k := by
  induction k generalizing x with
  | zero => rfl
  | succ k ih => simp [digits, ih]

theorem number_digits {k x : ℕ} (hx : x < b ^ k) : number (digits k x : List (Fin b)) = x := by
  induction k generalizing x with
  | zero => exact (Nat.lt_one_iff.mp (by simpa using hx)).symm
  | succ k ih =>
    have hpos : 0 < b ^ k := pow_pos (Nat.pos_of_ne_zero (NeZero.ne b)) k
    have hdigit : x / b ^ k < b := Nat.div_lt_of_lt_mul (by rwa [pow_succ] at hx)
    rw [digits, number_cons, digits_length, ih (Nat.mod_lt x hpos), Fin.val_ofNat,
      Nat.mod_eq_of_lt hdigit]
    exact Nat.div_add_mod' x (b ^ k)

theorem digits_number {k : ℕ} {w : List (Fin b)} (hw : w.length = k) : digits k (number w) = w :=
  number_injective (by simp [hw]) (number_digits (hw ▸ number_lt w))

/-- Every number below `b ^ k` has a numeral of length `k`. -/
theorem exists_number_eq (k : ℕ) {x : ℕ} (hx : x < b ^ k) :
    ∃ w : List (Fin b), w.length = k ∧ number w = x :=
  ⟨digits k x, digits_length k x, number_digits hx⟩

end Digits

end ActiveRouting.Library.Numerals

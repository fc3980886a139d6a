import Mathlib.Algebra.BigOperators.Group.Finset.Basic

/-!
# Ledgers

The sum of a value over a table of which one entry is overwritten.
-/

namespace Ledger

open Finset

variable {ι α M : Type} [DecidableEq ι] [AddCommMonoid M]

/-- An entry that is overwritten takes its old value out of the sum and puts in the new
    one, also where the value depends on the place. -/
theorem sum_update_at {s : Finset ι} {i : ι} (member : i ∈ s) (value : ι → α → M) (table : ι → α)
    (entry : α) :
    ∑ j ∈ s, value j (Function.update table i entry j) + value i (table i) =
      ∑ j ∈ s, value j (table j) + value i entry := by
  have others : ∑ j ∈ s.erase i, value j (Function.update table i entry j) =
      ∑ j ∈ s.erase i, value j (table j) := by
    apply sum_congr rfl
    intro j other
    rw [Function.update_of_ne (mem_erase.mp other).1]
  rw [← add_sum_erase s _ member, ← add_sum_erase s (fun j => value j (table j)) member, others,
    Function.update_self]
  ac_rfl

theorem sum_update {s : Finset ι} {i : ι} (member : i ∈ s) (value : α → M) (table : ι → α)
    (entry : α) :
    ∑ j ∈ s, value (Function.update table i entry j) + value (table i) =
      ∑ j ∈ s, value (table j) + value entry :=
  sum_update_at member (fun _ => value) table entry

end Ledger

import Mathlib.Data.List.Range
import Mathlib.Data.List.Perm.Basic
import Mathlib.Logic.Function.Basic

/-!
# Bins

The contents of the first bins of a family, all in one list.
-/

namespace Bins

variable {α : Type}

/-- What is in the first `n` bins. -/
def contents (n : ℕ) (bins : ℕ → List α) : List α := (List.range n).flatMap bins

variable {n i : ℕ} {bins : ℕ → List α}

/-- Bin `i` apart from the others. -/
theorem contents_perm (inRange : i < n) (bins : ℕ → List α) :
    (contents n bins).Perm (bins i ++ ((List.range n).erase i).flatMap bins) := by
  have apart : (List.range n).Perm (i :: (List.range n).erase i) :=
    List.perm_cons_erase (List.mem_range.mpr inRange)
  exact apart.flatMap_right bins

/-- One bin is given other items. -/
theorem contents_update (inRange : i < n) (bins : ℕ → List α) (items : List α) :
    (bins i ++ contents n (Function.update bins i items)).Perm (items ++ contents n bins) := by
  have others : ((List.range n).erase i).flatMap (Function.update bins i items) =
      ((List.range n).erase i).flatMap bins := by
    refine List.flatMap_congr fun j member => Function.update_of_ne ?_ _ _
    rintro rfl
    exact List.nodup_range.not_mem_erase member
  have after := contents_perm inRange (Function.update bins i items)
  rw [others, Function.update_self] at after
  have before := contents_perm inRange bins
  refine (after.append_left (bins i)).trans (.trans ?_ (before.symm.append_left items))
  rw [← List.append_assoc, ← List.append_assoc]
  exact List.perm_append_comm.append_right _

end Bins

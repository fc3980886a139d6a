import Mathlib.Data.List.Perm.Basic
import Mathlib.Data.List.TakeWhile
import Mathlib.Order.Lattice

/-!
# Ordered multimaps

A multimap as the list of its entries in the order of their keys, those of one
key in the order of their insertion.
-/

namespace Multimap

variable {κ α : Type}

section Insertion

variable [LE κ] [DecidableLE κ]

/-- Insertion after the entries of the same key. -/
def insert (key : κ) (value : α) : List (κ × α) → List (κ × α)
  | [] => [(key, value)]
  | entry :: rest =>
    if entry.1 ≤ key then entry :: insert key value rest else (key, value) :: entry :: rest

theorem insert_perm (key : κ) (value : α) :
    ∀ entries : List (κ × α), (insert key value entries).Perm ((key, value) :: entries)
  | [] => .refl _
  | entry :: rest => by
    rw [insert]
    split
    · exact ((insert_perm key value rest).cons entry).trans (.swap _ _ _)
    · exact .refl _

@[simp] theorem mem_insert {key : κ} {value : α} {entries : List (κ × α)} {entry : κ × α} :
    entry ∈ insert key value entries ↔ entry = (key, value) ∨ entry ∈ entries := by
  rw [(insert_perm key value entries).mem_iff, List.mem_cons]

@[simp] theorem length_insert (key : κ) (value : α) (entries : List (κ × α)) :
    (insert key value entries).length = entries.length + 1 :=
  (insert_perm key value entries).length_eq

end Insertion

section Order

variable [LinearOrder κ]

/-- The keys do not decrease. -/
def Sorted (entries : List (κ × α)) : Prop := entries.Pairwise fun first second => first.1 ≤ second.1

theorem Sorted.insert (key : κ) (value : α) :
    ∀ {entries : List (κ × α)}, Sorted entries → Sorted (insert key value entries)
  | [], _ => List.pairwise_singleton _ _
  | entry :: rest, sorted => by
    obtain ⟨least, sortedRest⟩ := List.pairwise_cons.mp sorted
    rw [Multimap.insert]
    split
    · rename_i before
      refine List.pairwise_cons.mpr ⟨?_, Sorted.insert key value sortedRest⟩
      intro other member
      cases mem_insert.mp member with
      | inl isNew => exact isNew ▸ before
      | inr wasThere => exact least other wasThere
    · rename_i notBefore
      have after := le_of_not_ge notBefore
      refine List.pairwise_cons.mpr ⟨?_, sorted⟩
      intro other member
      cases member with
      | head => exact after
      | tail _ member => exact after.trans (least other member)

theorem Sorted.filter {entries : List (κ × α)} (sorted : Sorted entries) (p : κ × α → Bool) :
    Sorted (entries.filter p) := List.Pairwise.filter p sorted

/-- The entries of the first key, as a loop from the beginning visits them. -/
def first (key : κ) (entries : List (κ × α)) : List (κ × α) :=
  entries.takeWhile fun entry => entry.1 = key

/-- `erase(key)`. -/
def erase (key : κ) (entries : List (κ × α)) : List (κ × α) :=
  entries.filter fun entry => entry.1 ≠ key

theorem mem_erase {key : κ} {entries : List (κ × α)} {entry : κ × α} :
    entry ∈ erase key entries ↔ entry ∈ entries ∧ entry.1 ≠ key := by
  rw [erase, List.mem_filter, decide_eq_true_eq]

theorem mem_of_mem_first {key : κ} {entries : List (κ × α)} {entry : κ × α}
    (member : entry ∈ first key entries) : entry ∈ entries :=
  (List.takeWhile_sublist _).subset member

/-- Where no key is less, the loop visits what `erase` removes. -/
theorem Sorted.first_perm (key : κ) :
    ∀ {entries : List (κ × α)}, Sorted entries → (∀ entry ∈ entries, key ≤ entry.1) →
      (first key entries ++ erase key entries).Perm entries
  | [], _, _ => .refl _
  | entry :: rest, sorted, least => by
    obtain ⟨before, sortedRest⟩ := List.pairwise_cons.mp sorted
    by_cases isFirst : entry.1 = key
    · have visits : first key (entry :: rest) = entry :: first key rest :=
        List.takeWhile_cons_of_pos (decide_eq_true isFirst)
      have erases : erase key (entry :: rest) = erase key rest :=
        List.filter_cons_of_neg (by simp only [isFirst, ne_eq, not_true_eq_false, decide_false,
          Bool.false_eq_true, not_false_eq_true])
      rw [visits, erases]
      exact (Sorted.first_perm key sortedRest fun other member =>
        least other (List.mem_cons_of_mem _ member)).cons entry
    · -- the first key is greater, and so are all others
      have visits : first key (entry :: rest) = [] :=
        List.takeWhile_cons_of_neg (by simp only [isFirst, decide_false, Bool.false_eq_true,
          not_false_eq_true])
      have isGreater : key < entry.1 :=
        lt_of_le_of_ne (least entry List.mem_cons_self) (Ne.symm isFirst)
      have keeps : erase key (entry :: rest) = entry :: rest := by
        refine List.filter_eq_self.mpr fun other member => decide_eq_true ?_
        cases member with
        | head => exact isFirst
        | tail _ member => exact (isGreater.trans_le (before other member)).ne'
      rw [visits, keeps]
      exact .refl _

end Order

end Multimap

import ActiveRouting.Library.Ledger
import ActiveRouting.Library.Multimap
import Mathlib.Algebra.BigOperators.Group.List.Basic
import Mathlib.Algebra.GroupWithZero.Nat
import Mathlib.Algebra.Order.BigOperators.Group.Finset
import Mathlib.Order.Lattice.Nat

/-!
# Tables of timed queues

A table of queues whose items wait for their times, and the sum of the weights of
the items: one that is put in adds its weight, and one that is taken out of the
head of a queue takes its weight away.
-/

namespace QueueTable

open Finset

variable {κ π : Type}

/-- The sum of the weights of the items of a queue. -/
def weigh (w : κ → π → ℕ) (key : κ) (entries : List (ℕ × π)) : ℕ :=
  (entries.map fun entry => w key entry.2).sum

def load (keys : Finset κ) (w : κ → π → ℕ) (qs : κ → List (ℕ × π)) : ℕ :=
  ∑ key ∈ keys, weigh w key (qs key)

section Weights

variable (w : κ → π → ℕ) (key : κ)

@[simp] theorem weigh_nil : weigh w key [] = 0 := rfl

@[simp] theorem weigh_cons (entry : ℕ × π) (rest : List (ℕ × π)) :
    weigh w key (entry :: rest) = w key entry.2 + weigh w key rest := by
  simp [weigh]

theorem weigh_insert (time : ℕ) (item : π) (entries : List (ℕ × π)) :
    weigh w key (Multimap.insert time item entries) = w key item + weigh w key entries := by
  rw [weigh, ((Multimap.insert_perm time item entries).map _).sum_eq]
  exact weigh_cons w key (time, item) entries

end Weights

@[simp] theorem load_empty (keys : Finset κ) (w : κ → π → ℕ) : load keys w (fun _ => []) = 0 :=
  sum_eq_zero fun _ _ => rfl

section Updates

variable [DecidableEq κ]

/-- An item enters a queue at its time. -/
def insert (qs : κ → List (ℕ × π)) (key : κ) (time : ℕ) (item : π) : κ → List (ℕ × π) :=
  Function.update qs key (Multimap.insert time item (qs key))

variable {keys : Finset κ} {qs : κ → List (ℕ × π)} {key other : κ} {time : ℕ} {item : π}
  {rest : List (ℕ × π)} {entry : ℕ × π}

theorem load_insert (qs : κ → List (ℕ × π)) (isKey : key ∈ keys) (time : ℕ) (item : π) (w : κ → π → ℕ) :
    load keys w (insert qs key time item) = load keys w qs + w key item := by
  have updated := Ledger.sum_update_at isKey (weigh w) qs (Multimap.insert time item (qs key))
  rw [weigh_insert] at updated
  rw [load, load, insert]
  omega

/-- The head of a queue is taken out. -/
theorem load_rest (isKey : key ∈ keys) (queue : qs key = (time, item) :: rest) (w : κ → π → ℕ) :
    load keys w (Function.update qs key rest) + w key item = load keys w qs := by
  have updated := Ledger.sum_update_at isKey (weigh w) qs rest
  simp only [queue, weigh_cons] at updated
  rw [load, load]
  omega

theorem mem_of_mem_insert (member : entry ∈ insert qs key time item other) :
    other = key ∧ entry = (time, item) ∨ entry ∈ qs other := by
  unfold insert at member
  by_cases same : other = key
  · subst same
    rw [Function.update_self] at member
    exact (Multimap.mem_insert.mp member).imp (fun isNew => ⟨rfl, isNew⟩) id
  · rw [Function.update_of_ne same] at member
    exact .inr member

theorem mem_of_mem_rest (queue : qs key = (time, item) :: rest)
    (member : entry ∈ Function.update qs key rest other) : entry ∈ qs other := by
  by_cases same : other = key
  · subst same
    rw [Function.update_self] at member
    rw [queue]
    exact List.mem_cons_of_mem _ member
  · rwa [Function.update_of_ne same] at member

end Updates

/-! ## The heads of the queues -/

/-- The head of the queue is not there or waits for its time. -/
def Waits (curr_time : ℕ) (qs : κ → List (ℕ × π)) (key : κ) : Prop :=
  ∀ entry ∈ (qs key).head?, curr_time < entry.1

section Heads

variable {keys : Finset κ} {qs : κ → List (ℕ × π)}

/-- A table without items has no weight. -/
theorem load_eq_zero (empty : load keys (fun _ _ => 1) qs = 0) (w : κ → π → ℕ) :
    load keys w qs = 0 := by
  refine sum_eq_zero fun key isKey => ?_
  have one := sum_eq_zero_iff.mp empty key isKey
  cases queue : qs key with
  | nil => rfl
  | cons entry rest =>
    rw [queue, weigh_cons] at one
    omega

theorem exists_head (busy : 0 < load keys (fun _ _ => 1) qs) :
    ∃ key ∈ keys, ∃ entry, (qs key).head? = some entry := by
  obtain ⟨key, isKey, notZero⟩ := exists_ne_zero_of_sum_ne_zero busy.ne'
  refine ⟨key, isKey, ?_⟩
  cases queue : qs key with
  | nil =>
    rw [queue] at notZero
    exact absurd rfl notZero
  | cons entry rest => exact ⟨entry, rfl⟩

/-- The latest time at the head of a queue. -/
def latest (keys : Finset κ) (qs : κ → List (ℕ × π)) : ℕ :=
  keys.sup fun key => ((qs key).head?.map Prod.fst).getD 0

theorem le_latest {key : κ} (isKey : key ∈ keys) {entry : ℕ × π}
    (isHead : (qs key).head? = some entry) : entry.1 ≤ latest keys qs := by
  have upper := le_sup (f := fun key => ((qs key).head?.map Prod.fst).getD 0) isKey
  rw [isHead] at upper
  exact upper

end Heads

/-! ## Rounds -/

/-- What a time counts for, as far as it is before the latest item. -/
def lead (keys : Finset κ) (qs : κ → List (ℕ × π)) (interval time : ℕ) : ℕ :=
  1 + (latest keys qs + interval + 1 - time)

/-- What the times of the rounds to come count for. -/
def remaining (keys : Finset κ) (qs : κ → List (ℕ × π)) (interval : ℕ) (times : Finset ℕ) : ℕ :=
  ∑ time ∈ times, lead keys qs interval time

/-- The times of the rounds after one: a later one as long as there are items. -/
def nextTimes (again : Bool) (interval : ℕ) (times : Finset ℕ) (time : ℕ) : Finset ℕ :=
  if again then Insert.insert (time + interval) (times.erase time) else times.erase time

/-- A round in which all items wait comes nearer to their times. -/
theorem remaining_lt {keys : Finset κ} {qs : κ → List (ℕ × π)} {interval time : ℕ}
    {times : Finset ℕ} {again : Bool} (positive : 0 < interval) (isTime : time ∈ times)
    (busy : again = true → 0 < load keys (fun _ _ => 1) qs)
    (waits : ∀ key ∈ keys, Waits time qs key) :
    remaining keys qs interval (nextTimes again interval times time) <
      remaining keys qs interval times := by
  have erased := Finset.add_sum_erase times (lead keys qs interval) isTime
  have counts : 0 < lead keys qs interval time := Nat.lt_of_lt_of_le Nat.one_pos (Nat.le_add_right _ _)
  unfold remaining nextTimes
  split
  · rename_i isBusy
    -- an item is left, and its time is later than this round
    obtain ⟨key, isKey, entry, isHead⟩ := exists_head (busy isBusy)
    have early : time < latest keys qs :=
      (waits key isKey entry isHead).trans_le (le_latest isKey isHead)
    have nearer : lead keys qs interval (time + interval) < lead keys qs interval time := by
      unfold lead
      omega
    by_cases wasThere : time + interval ∈ times.erase time
    · rw [Finset.insert_eq_of_mem wasThere]
      omega
    · rw [Finset.sum_insert wasThere]
      omega
  · omega

end QueueTable

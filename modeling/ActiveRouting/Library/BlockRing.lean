import Mathlib.Data.Nat.ModEq
import Mathlib.Logic.Function.Basic
import ActiveRouting.Library.Blocks

/-!
# Rings of blocks

A circular buffer of a fixed number of slots, which holds blocks from a read
position on; its other slots are empty.
-/

namespace Blocks

variable {α : Type}

/-- Empty `n` slots from `start` on. -/
def clear (capacity : ℕ) : ℕ → (ℕ → Option α) → ℕ → ℕ → Option α
  | 0, slots, _ => slots
  | n + 1, slots, start =>
    clear capacity n (Function.update slots start none) ((start + 1) % capacity)

/-- The `n` slots from `start` on. -/
def window (capacity : ℕ) (slots : ℕ → Option α) : ℕ → ℕ → List (Option α)
  | 0, _ => []
  | n + 1, start => slots start :: window capacity slots n ((start + 1) % capacity)

variable {capacity : ℕ}

theorem slot_injective {start i j : ℕ} (inI : i < capacity) (inJ : j < capacity)
    (same : (start + i) % capacity = (start + j) % capacity) : i = j := by
  have congruent : Nat.ModEq capacity i j := Nat.ModEq.add_left_cancel' start same
  exact Nat.ModEq.eq_of_lt_of_lt congruent inI inJ

theorem slot_succ (start i : ℕ) :
    ((start + 1) % capacity + i) % capacity = (start + (i + 1)) % capacity := by
  rw [Nat.mod_add_mod, Nat.add_assoc, Nat.add_comm 1 i]

/-- Every slot is reached from a given one. -/
theorem exists_slot {start j : ℕ} (inStart : start < capacity) (inJ : j < capacity) :
    ∃ i < capacity, (start + i) % capacity = j := by
  by_cases before : j < start
  · refine ⟨j + capacity - start, by omega, ?_⟩
    have round : start + (j + capacity - start) = j + capacity := by omega
    rw [round, Nat.add_mod_right, Nat.mod_eq_of_lt inJ]
  · refine ⟨j - start, by omega, ?_⟩
    have direct : start + (j - start) = j := by omega
    rw [direct, Nat.mod_eq_of_lt inJ]

/-- What `clear` leaves in a slot. -/
theorem clear_slot : ∀ {n start i : ℕ} {slots : ℕ → Option α}, n ≤ capacity → start < capacity →
    i < capacity → clear capacity n slots start ((start + i) % capacity) =
      if i < n then none else slots ((start + i) % capacity)
  | 0, start, i, slots, _, _, _ => rfl
  | n + 1, start, 0, slots, fits, inStart, _ => by
    -- the first slot is the last one seen from the next
    have last : (start + 0) % capacity = ((start + 1) % capacity + (capacity - 1)) % capacity := by
      rw [slot_succ, Nat.sub_add_cancel (by omega), Nat.add_mod_right]
      rfl
    rw [clear, last, clear_slot (by omega) (Nat.mod_lt _ (by omega)) (by omega), ← last,
      Nat.add_zero, Nat.mod_eq_of_lt inStart, if_pos n.succ_pos, Function.update_self]
    split <;> rfl
  | n + 1, start, i + 1, slots, fits, inStart, inI => by
    rw [clear, ← slot_succ start i,
      clear_slot (by omega) (Nat.mod_lt _ (by omega)) (Nat.lt_of_succ_lt inI), slot_succ]
    have other : (start + (i + 1)) % capacity ≠ start := by
      intro same
      have zero : (start + (i + 1)) % capacity = (start + 0) % capacity := by
        rw [same, Nat.add_zero, Nat.mod_eq_of_lt inStart]
      cases slot_injective inI (by omega) zero
    rw [Function.update_of_ne other]
    by_cases inN : i < n
    · rw [if_pos inN, if_pos (Nat.succ_lt_succ inN)]
    · rw [if_neg inN, if_neg (fun lt => inN (Nat.lt_of_succ_lt_succ lt))]

variable (size : α → ℕ)

/-- The slots that a list of elements takes. -/
def total (elements : List α) : ℕ := (elements.map size).sum

/-- A ring that holds the blocks of a list of elements from `readP` up to `writeP`. -/
structure IsRing (capacity : ℕ) (slots : ℕ → Option α) (readP writeP : ℕ) (elements : List α) :
    Prop where
  positive : ∀ element ∈ elements, 0 < size element
  fits : total size elements < capacity
  read : readP < capacity
  write : writeP = (readP + total size elements) % capacity
  holds : ∀ i < capacity,
    slots ((readP + i) % capacity) = ((blocks size elements)[i]?).join

variable {size}

theorem total_append (elements more : List α) :
    total size (elements ++ more) = total size elements + total size more := by
  rw [total, List.map_append, List.sum_append]
  rfl

theorem length_blocks_total {elements : List α} (positive : ∀ element ∈ elements, 0 < size element) :
    (blocks size elements).length = total size elements := length_blocks positive

namespace IsRing

variable {slots : ℕ → Option α} {readP writeP : ℕ} {elements : List α}

/-- An empty ring. -/
theorem empty (inRead : readP < capacity) (empties : ∀ i < capacity, slots i = none) :
    IsRing size capacity slots readP readP [] where
  positive := fun _ member => (nomatch member)
  fits := Nat.lt_of_le_of_lt (Nat.zero_le _) inRead
  read := inRead
  write := (Nat.mod_eq_of_lt inRead).symm
  holds _ inI := empties _ (Nat.mod_lt _ (Nat.lt_of_le_of_lt (Nat.zero_le _) inI))

theorem slots_none (ring : IsRing size capacity slots readP writeP ([] : List α)) :
    ∀ j < capacity, slots j = none := by
  intro j inJ
  obtain ⟨i, inI, rfl⟩ := exists_slot ring.read inJ
  exact ring.holds i inI

/-- Nothing is written at the write position. -/
theorem at_write (ring : IsRing size capacity slots readP writeP elements) :
    slots writeP = none := by
  rw [ring.write, ring.holds _ ring.fits, List.getElem?_eq_none]
  · rfl
  · rw [length_blocks_total ring.positive]

/-- The pointers meet in an empty ring only. -/
theorem pointers_eq (ring : IsRing size capacity slots readP writeP elements) :
    readP = writeP ↔ elements = [] := by
  constructor
  · intro same
    rw [ring.write] at same
    have sameSlot : (readP + 0) % capacity = (readP + total size elements) % capacity := by
      rw [← same, Nat.add_zero, Nat.mod_eq_of_lt ring.read]
    have noneTaken : 0 = total size elements :=
      slot_injective (Nat.lt_of_le_of_lt (Nat.zero_le _) ring.fits) ring.fits sameSlot
    cases elements with
    | nil => rfl
    | cons first rest =>
      have positive := ring.positive first List.mem_cons_self
      have sum : total size (first :: rest) = size first + total size rest := List.sum_cons
      omega
  · rintro rfl
    rw [ring.write]
    exact (Nat.mod_eq_of_lt ring.read).symm

/-- The slot at the read position holds the first element. -/
theorem head (ring : IsRing size capacity slots readP writeP elements) :
    slots readP = elements.head? := by
  have first := ring.holds 0 (Nat.lt_of_le_of_lt (Nat.zero_le _) ring.fits)
  rw [Nat.add_zero, Nat.mod_eq_of_lt ring.read] at first
  rw [first]
  cases elements <;> rfl

/-- The slot behind the first elements holds the next one. -/
theorem at_split {acked rest : List α} (ring : IsRing size capacity slots readP writeP elements)
    (split : elements = acked ++ rest) :
    slots ((readP + total size acked) % capacity) = rest.head? := by
  subst split
  have fits := ring.fits
  rw [total_append] at fits
  have positive : ∀ element ∈ acked, 0 < size element :=
    fun element member => ring.positive element (List.mem_append_left rest member)
  rw [ring.holds _ (by omega), blocks_append, ← length_blocks_total positive,
    List.getElem?_append_right (Nat.le_refl _), Nat.sub_self]
  cases rest <;> rfl

/-- The slots from the read up to the write position are the blocks. -/
theorem window_eq (ring : IsRing size capacity slots readP writeP elements) :
    window capacity slots (total size elements) readP = blocks size elements := by
  have shifted : ∀ {n i : ℕ}, i + n = total size elements →
      window capacity slots n ((readP + i) % capacity) = (blocks size elements).drop i := by
    intro n
    induction n with
    | zero =>
      intro i sum
      rw [List.drop_eq_nil_of_le]
      · rfl
      · rw [length_blocks_total ring.positive]
        omega
    | succ n inductionHypothesis =>
      intro i sum
      have inside : i < (blocks size elements).length := by
        rw [length_blocks_total ring.positive]
        omega
      rw [window, Nat.mod_add_mod, Nat.add_assoc, inductionHypothesis (by omega),
        ring.holds i (by have := ring.fits; omega), List.getElem?_eq_getElem inside,
        List.drop_eq_getElem_cons inside]
      rfl
  have whole := shifted (i := 0) (Nat.zero_add (total size elements))
  rwa [Nat.add_zero, Nat.mod_eq_of_lt ring.read] at whole

/-- A block is written behind the others. -/
theorem push {element : α} (ring : IsRing size capacity slots readP writeP elements)
    (positive : 0 < size element) (room : total size elements + size element < capacity) :
    IsRing size capacity
      (clear capacity (size element - 1) (Function.update slots writeP (some element))
        ((writeP + 1) % capacity))
      readP ((writeP + size element) % capacity) (elements ++ [element]) where
  positive := List.forall_mem_append.mpr ⟨ring.positive, List.forall_mem_singleton.mpr positive⟩
  fits := by
    rw [total_append]
    simpa [total] using room
  read := ring.read
  write := by
    rw [total_append, ring.write, Nat.mod_add_mod, Nat.add_assoc]
    simp [total]
  holds i inI := by
    have nonempty : 0 < capacity := by omega
    have isWrite : (readP + total size elements) % capacity = writeP := ring.write.symm
    have inNext : (writeP + 1) % capacity < capacity := Nat.mod_lt _ nonempty
    -- the slot as it is seen from behind the written one
    have seen : ∃ k < capacity, ((writeP + 1) % capacity + k) % capacity = (readP + i) % capacity ∧
        (if k < size element - 1 then total size elements + 1 + k = i
          else i < total size elements + 1 ∨ total size elements + size element ≤ i) := by
      by_cases behind : total size elements + 1 ≤ i
      · refine ⟨i - (total size elements + 1), by omega, ?_, ?_⟩
        · rw [slot_succ, ← isWrite, Nat.mod_add_mod]
          congr 1
          omega
        · split <;> omega
      · refine ⟨capacity + i - (total size elements + 1), by have := ring.fits; omega, ?_, ?_⟩
        · have round : readP + total size elements + (capacity + i - (total size elements + 1) + 1) =
              readP + i + capacity := by have := ring.fits; omega
          rw [slot_succ, ← isWrite, Nat.mod_add_mod, round, Nat.add_mod_right]
        · split <;> omega
    obtain ⟨k, inK, sameSlot, position⟩ := seen
    have length := length_blocks_total ring.positive
    rw [← sameSlot, clear_slot (by omega) inNext inK, sameSlot, blocks_append, blocks_singleton]
    by_cases inTail : k < size element - 1
    · rw [if_pos inTail] at position ⊢
      rw [List.getElem?_append_right (by omega), length, ← position]
      have offset : total size elements + 1 + k - total size elements = k + 1 := by omega
      rw [offset, block, List.getElem?_cons_succ, List.getElem?_replicate, if_pos inTail]
      rfl
    · rw [if_neg inTail] at position ⊢
      by_cases written : i = total size elements
      · subst written
        rw [isWrite, Function.update_self, List.getElem?_append_right (by omega), length,
          Nat.sub_self]
        rfl
      · have notWritten : (readP + i) % capacity ≠ writeP := by
          intro same
          exact written (slot_injective inI ring.fits (same.trans isWrite.symm))
        rw [Function.update_of_ne notWritten, ring.holds i inI]
        by_cases before : i < total size elements
        · rw [List.getElem?_append_left (by omega)]
        · rw [List.getElem?_eq_none (by omega), List.getElem?_eq_none]
          rw [List.length_append, length, length_block positive]
          omega

/-- The first elements are freed. -/
theorem advance {acked rest : List α}
    (ring : IsRing size capacity slots readP writeP (acked ++ rest)) :
    IsRing size capacity (clear capacity (total size acked) slots readP)
      ((readP + total size acked) % capacity) writeP rest where
  positive element member := ring.positive element (List.mem_append_right acked member)
  fits := by
    have fits := ring.fits
    rw [total_append] at fits
    omega
  read := Nat.mod_lt _ (Nat.lt_of_le_of_lt (Nat.zero_le _) ring.fits)
  write := by
    rw [ring.write, total_append, Nat.mod_add_mod, Nat.add_assoc]
  holds i inI := by
    have fits := ring.fits
    rw [total_append] at fits
    have positive_acked : ∀ element ∈ acked, 0 < size element :=
      fun element member => ring.positive element (List.mem_append_left rest member)
    have positive_rest : ∀ element ∈ rest, 0 < size element :=
      fun element member => ring.positive element (List.mem_append_right acked member)
    have length := length_blocks_total positive_acked
    rw [Nat.mod_add_mod, Nat.add_assoc]
    by_cases inside : total size acked + i < capacity
    · rw [clear_slot (by omega) ring.read inside, if_neg (by omega), ring.holds _ inside,
        blocks_append, List.getElem?_append_right (by omega), length, Nat.add_sub_cancel_left]
    · -- beyond the last slot the freed ones follow
      have round : readP + (total size acked + i) =
          readP + (total size acked + i - capacity) + capacity := by omega
      rw [round, Nat.add_mod_right, clear_slot (by omega) ring.read (by omega)]
      have beyond : (blocks size rest)[i]? = none := by
        apply List.getElem?_eq_none
        rw [length_blocks_total positive_rest]
        omega
      rw [beyond]
      split
      · rfl
      · omega

/-- All elements are freed. -/
theorem clear_all (ring : IsRing size capacity slots readP writeP elements) :
    IsRing size capacity (clear capacity (total size elements) slots readP) writeP writeP [] := by
  have whole : IsRing size capacity slots readP writeP (elements ++ []) := by
    rwa [List.append_nil]
  have freed := whole.advance
  rwa [← ring.write] at freed

end IsRing

end Blocks

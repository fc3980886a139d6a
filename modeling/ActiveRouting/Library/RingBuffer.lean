import ActiveRouting.Library.BlockRing

/-!
# Ring buffers

An array of slots with the slot of the oldest entry and the number of entries.
An entry keeps its slot for as long as it is in the buffer.
-/

structure RingBuffer (ε : Type) where
  slots : ℕ → ε
  head : ℕ := 0
  size : ℕ := 0

namespace RingBuffer

variable {ε : Type} (capacity : ℕ) (r : RingBuffer ε)

/-- The slot of the entry before which there are `i` older ones. -/
def slot (i : ℕ) : ℕ := (r.head + i) % capacity

def get (i : ℕ) : ε := r.slots (r.slot capacity i)

def write (k : ℕ) (e : ε) : RingBuffer ε := { r with slots := Function.update r.slots k e }

def push (e : ε) : RingBuffer ε :=
  { r.write (r.slot capacity r.size) e with size := r.size + 1 }

def pop : RingBuffer ε := { r with head := (r.head + 1) % capacity, size := r.size - 1 }

/-- The number of entries older than the one in a slot. -/
def place (k : ℕ) : ℕ := (k + capacity - r.head) % capacity

/-- The head is a slot, and the entries fit. -/
structure Fits (capacity : ℕ) (r : RingBuffer ε) : Prop where
  head_lt : r.head < capacity
  size_le : r.size ≤ capacity

variable {capacity r}

@[simp] theorem write_slot (k i : ℕ) (e : ε) :
    (r.write k e).slot capacity i = r.slot capacity i := rfl

@[simp] theorem write_size (k : ℕ) (e : ε) : (r.write k e).size = r.size := rfl

@[simp] theorem push_slot (e : ε) (i : ℕ) :
    (r.push capacity e).slot capacity i = r.slot capacity i := rfl

@[simp] theorem push_size (e : ε) : (r.push capacity e).size = r.size + 1 := rfl

@[simp] theorem pop_slot (i : ℕ) : (r.pop capacity).slot capacity i = r.slot capacity (i + 1) :=
  Blocks.slot_succ r.head i

@[simp] theorem pop_size : (r.pop capacity).size = r.size - 1 := rfl

theorem slot_inj {i j : ℕ} (inI : i < capacity) (inJ : j < capacity)
    (same : r.slot capacity i = r.slot capacity j) : i = j :=
  Blocks.slot_injective inI inJ same

theorem place_slot (head_lt : r.head < capacity) {i : ℕ} (inI : i < capacity) :
    r.place capacity (r.slot capacity i) = i := by
  unfold place slot
  by_cases before : r.head + i < capacity
  · rw [Nat.mod_eq_of_lt before, Nat.add_assoc, Nat.add_sub_cancel_left, Nat.add_mod_right,
      Nat.mod_eq_of_lt inI]
  · have wrapped : (r.head + i) % capacity = r.head + i - capacity := by
      rw [Nat.mod_eq_sub_mod (by omega), Nat.mod_eq_of_lt (by omega)]
    rw [wrapped, Nat.sub_add_cancel (by omega), Nat.add_sub_cancel_left, Nat.mod_eq_of_lt inI]

theorem get_write_same {i : ℕ} (e : ε) :
    (r.write (r.slot capacity i) e).get capacity i = e := by
  simp [get, write, slot]

theorem get_write_other {i j : ℕ} (inI : i < capacity) (inJ : j < capacity) (isOther : j ≠ i)
    (e : ε) : (r.write (r.slot capacity i) e).get capacity j = r.get capacity j := by
  have otherSlot : r.slot capacity j ≠ r.slot capacity i :=
    fun same => isOther (slot_inj inJ inI same)
  exact Function.update_of_ne otherSlot e r.slots

theorem get_push_old {i : ℕ} (isOld : i < r.size) (room : r.size < capacity) (e : ε) :
    (r.push capacity e).get capacity i = r.get capacity i := by
  show (r.write (r.slot capacity r.size) e).get capacity i = _
  exact get_write_other room (isOld.trans room) isOld.ne e

theorem get_push_new (e : ε) : (r.push capacity e).get capacity r.size = e := by
  show (r.write (r.slot capacity r.size) e).get capacity r.size = e
  exact get_write_same e

theorem get_pop (i : ℕ) : (r.pop capacity).get capacity i = r.get capacity (i + 1) := by
  show r.slots ((r.pop capacity).slot capacity i) = _
  rw [pop_slot]
  rfl

namespace Fits

variable {k : ℕ} {e : ε}

theorem write (fits : Fits capacity r) : Fits capacity (r.write k e) :=
  ⟨fits.head_lt, fits.size_le⟩

theorem push (fits : Fits capacity r) (room : r.size < capacity) : Fits capacity (r.push capacity e) :=
  ⟨fits.head_lt, room⟩

theorem pop (fits : Fits capacity r) : Fits capacity (r.pop capacity) where
  head_lt := Nat.mod_lt _ (Nat.zero_lt_of_lt fits.head_lt)
  size_le := (Nat.sub_le r.size 1).trans fits.size_le

end Fits

end RingBuffer

import Mathlib.Data.Finset.Max

/-!
# Finite maps

A map from keys to values together with the finite set of its keys, with the
operations of an associative container.
-/

structure Dictionary (κ α : Type) where
  lookup : κ → Option α
  keys : Finset κ
  mem_keys : ∀ key, key ∈ keys ↔ (lookup key).isSome

namespace Dictionary

variable {κ α : Type}

attribute [simp] mem_keys

@[ext] theorem ext {d e : Dictionary κ α} (same : ∀ key, d.lookup key = e.lookup key) : d = e := by
  obtain ⟨lookup, keys, mem_keys⟩ := d
  obtain ⟨lookup', keys', mem_keys'⟩ := e
  obtain rfl : lookup = lookup' := funext same
  obtain rfl : keys = keys' := Finset.ext fun key => (mem_keys key).trans (mem_keys' key).symm
  rfl

def empty : Dictionary κ α where
  lookup _ := none
  keys := ∅
  mem_keys _ := by simp

@[simp] theorem lookup_empty (key : κ) : (empty : Dictionary κ α).lookup key = none := rfl

@[simp] theorem keys_empty : (empty : Dictionary κ α).keys = ∅ := rfl

/-- The number of entries. -/
def size (d : Dictionary κ α) : ℕ := d.keys.card

/-- Every value is changed. -/
def mapValues (d : Dictionary κ α) (f : α → α) : Dictionary κ α where
  lookup key := (d.lookup key).map f
  keys := d.keys
  mem_keys key := by simp

@[simp] theorem lookup_mapValues (d : Dictionary κ α) (f : α → α) (key : κ) :
    (d.mapValues f).lookup key = (d.lookup key).map f := rfl

@[simp] theorem keys_mapValues (d : Dictionary κ α) (f : α → α) :
    (d.mapValues f).keys = d.keys := rfl

@[simp] theorem size_mapValues (d : Dictionary κ α) (f : α → α) :
    (d.mapValues f).size = d.size := rfl

variable [DecidableEq κ]

/-- The key is added, or its value replaced. -/
def insert (d : Dictionary κ α) (key : κ) (value : α) : Dictionary κ α where
  lookup := Function.update d.lookup key (some value)
  keys := Insert.insert key d.keys
  mem_keys other := by
    by_cases same : other = key
    · subst same
      simp
    · simp [same]

def erase (d : Dictionary κ α) (key : κ) : Dictionary κ α where
  lookup := Function.update d.lookup key none
  keys := d.keys.erase key
  mem_keys other := by
    by_cases same : other = key
    · subst same
      simp
    · simp [same]

variable (d : Dictionary κ α) (key : κ) (value : α)

@[simp] theorem lookup_insert_self : (d.insert key value).lookup key = some value :=
  Function.update_self _ _ _

theorem lookup_insert_of_ne {other : κ} (isOther : other ≠ key) :
    (d.insert key value).lookup other = d.lookup other := Function.update_of_ne isOther _ _

@[simp] theorem keys_insert : (d.insert key value).keys = Insert.insert key d.keys := rfl

@[simp] theorem lookup_erase_self : (d.erase key).lookup key = none := Function.update_self _ _ _

theorem lookup_erase_of_ne {other : κ} (isOther : other ≠ key) :
    (d.erase key).lookup other = d.lookup other := Function.update_of_ne isOther _ _

@[simp] theorem keys_erase : (d.erase key).keys = d.keys.erase key := rfl

variable {d key value}

/-- An entry that is there is not changed. -/
theorem insert_eq_self (found : d.lookup key = some value) : d.insert key value = d := by
  ext1 other
  by_cases same : other = key
  · rw [same, lookup_insert_self, found]
  · exact lookup_insert_of_ne _ _ _ same

theorem size_insert_of_none (absent : d.lookup key = none) :
    (d.insert key value).size = d.size + 1 := by
  apply Finset.card_insert_of_notMem
  simp [absent]

theorem size_erase_le : (d.erase key).size ≤ d.size := Finset.card_erase_le

theorem size_erase_of_some (found : d.lookup key = some value) :
    (d.erase key).size + 1 = d.size := by
  apply Finset.card_erase_add_one
  simp [found]

omit [DecidableEq κ] in
theorem key_unique (atMost : d.size ≤ 1) (found : (d.lookup key).isSome) {other : κ}
    (found' : (d.lookup other).isSome) : key = other :=
  Finset.card_le_one.mp atMost _ ((d.mem_keys key).mpr found) _ ((d.mem_keys other).mpr found')

/-- Removing an entry first does not matter where it is written again. -/
theorem insert_erase : (d.erase key).insert key value = d.insert key value := by
  ext1 other
  by_cases same : other = key
  · rw [same, lookup_insert_self, lookup_insert_self]
  · rw [lookup_insert_of_ne _ _ _ same, lookup_erase_of_ne _ _ same, lookup_insert_of_ne _ _ _ same]

/-- An insertion that leaves an entry that is there as it is. -/
def insertNew (d : Dictionary κ α) (key : κ) (value : α) : Dictionary κ α :=
  match d.lookup key with
  | none => d.insert key value
  | some _ => d

theorem insertNew_of_none (absent : d.lookup key = none) :
    d.insertNew key value = d.insert key value := by
  rw [insertNew, absent]

theorem lookup_insertNew {other : κ} {found : α}
    (isFound : (d.insertNew key value).lookup other = some found) :
    d.lookup other = some found ∨ other = key ∧ found = value := by
  unfold insertNew at isFound
  split at isFound
  · by_cases same : other = key
    · subst same
      exact .inr ⟨rfl, by simpa using isFound.symm⟩
    · exact .inl (by rwa [lookup_insert_of_ne _ _ _ same] at isFound)
  · exact .inl isFound

/-! ## The first entry -/

section First

variable {κ : Type} [LinearOrder κ] {d : Dictionary κ α} {key other : κ}

/-- The least key, where there is one. -/
def first (d : Dictionary κ α) : Option κ :=
  if nonempty : d.keys.Nonempty then some (d.keys.min' nonempty) else none

theorem first_le (isFirst : d.first = some key) (found : (d.lookup other).isSome) :
    key ≤ other := by
  unfold first at isFirst
  split at isFirst
  · cases isFirst
    exact Finset.min'_le _ _ (by simp [found])
  · cases isFirst

theorem exists_lookup_first (isFirst : d.first = some key) : ∃ value, d.lookup key = some value := by
  unfold first at isFirst
  split at isFirst
  · rename_i nonempty
    cases isFirst
    have member := Finset.min'_mem _ nonempty
    rw [mem_keys] at member
    exact Option.isSome_iff_exists.mp member
  · cases isFirst

theorem exists_first (nonempty : 0 < d.size) : ∃ key, d.first = some key :=
  ⟨_, dif_pos (Finset.card_pos.mp nonempty)⟩

/-- Of two entries the first one is not the last. -/
theorem first_lt (isFirst : d.first = some key) (more : 1 < d.size) {last : κ}
    (isLast : ∀ other, (d.lookup other).isSome → other ≤ last) : key < last := by
  obtain ⟨value, found⟩ := exists_lookup_first isFirst
  have isKey : key ∈ d.keys := by simp [found]
  obtain ⟨other, member, isOther⟩ := Finset.exists_mem_ne more key
  rw [mem_keys] at member
  exact lt_of_lt_of_le (lt_of_le_of_ne (first_le isFirst member) isOther.symm)
    (isLast other member)

end First

/-! ## A map and its index -/

section Index

variable {β : Type} [DecidableEq β] {d : Dictionary κ β} {e : Dictionary β κ} {key : κ} {value : β}

/-- Each of two maps leads from the values of the other one to their keys. -/
def Inverse (d : Dictionary κ β) (e : Dictionary β κ) : Prop :=
  ∀ key value, d.lookup key = some value ↔ e.lookup value = some key

omit [DecidableEq κ] [DecidableEq β] in
theorem Inverse.empty : Inverse (.empty : Dictionary κ β) .empty := fun _ _ => by simp

omit [DecidableEq κ] [DecidableEq β] in
theorem Inverse.size_eq (inverse : Inverse d e) : e.size = d.size := by
  symm
  apply Finset.card_bij fun key member => (d.lookup key).get ((d.mem_keys key).mp member)
  · intro key member
    obtain ⟨value, found⟩ := Option.isSome_iff_exists.mp ((d.mem_keys key).mp member)
    have isInverse := (inverse key value).mp found
    simp [found, isInverse]
  · intro key member other member' same
    obtain ⟨value, found⟩ := Option.isSome_iff_exists.mp ((d.mem_keys key).mp member)
    obtain ⟨value', found'⟩ := Option.isSome_iff_exists.mp ((d.mem_keys other).mp member')
    simp only [found, found', Option.get_some] at same
    subst same
    exact Option.some.inj (((inverse key value).mp found).symm.trans ((inverse other value).mp found'))
  · intro value member
    obtain ⟨key, found⟩ := Option.isSome_iff_exists.mp ((e.mem_keys value).mp member)
    have isInverse := (inverse key value).mpr found
    exact ⟨key, by simp [isInverse], by simp [isInverse]⟩

theorem Inverse.erase (inverse : Inverse d e) (found : d.lookup key = some value) :
    Inverse (d.erase key) (e.erase value) := by
  intro key' value'
  have isInverse := (inverse key value).mp found
  by_cases sameKey : key' = key
  · subst sameKey
    by_cases sameValue : value' = value
    · simp [sameValue]
    · rw [lookup_erase_self, lookup_erase_of_ne _ _ sameValue, ← inverse key' value', found]
      simp [Ne.symm sameValue]
  · rw [lookup_erase_of_ne _ _ sameKey]
    by_cases sameValue : value' = value
    · subst sameValue
      rw [lookup_erase_self, inverse key' value', isInverse]
      simp [Ne.symm sameKey]
    · rw [lookup_erase_of_ne _ _ sameValue]
      exact inverse key' value'

theorem Inverse.insert (inverse : Inverse d e) (absent : d.lookup key = none)
    (free : e.lookup value = none) : Inverse (d.insert key value) (e.insert value key) := by
  intro key' value'
  by_cases sameKey : key' = key
  · subst sameKey
    by_cases sameValue : value' = value
    · simp [sameValue]
    · rw [lookup_insert_self, lookup_insert_of_ne _ _ _ sameValue, ← inverse key' value', absent]
      simp [Ne.symm sameValue]
  · rw [lookup_insert_of_ne _ _ _ sameKey]
    by_cases sameValue : value' = value
    · subst sameValue
      rw [lookup_insert_self, inverse key' value', free]
      simp [Ne.symm sameKey]
    · rw [lookup_insert_of_ne _ _ _ sameValue]
      exact inverse key' value'

end Index

end Dictionary

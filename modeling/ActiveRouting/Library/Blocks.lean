import Mathlib.Algebra.GroupWithZero.Nat
import Mathlib.Data.List.Basic

/-!
# Sequences of blocks

A vector in which every element takes as many slots as its size says: the element
itself, and placeholders behind it.  Elements are pushed, erased and inserted by
arithmetic on slots; these are operations on the list of elements as long as the
slots are those where a block starts.
-/

namespace Blocks

variable {α : Type} (size : α → ℕ)

/-- The slots of one element. -/
def block (element : α) : List (Option α) := some element :: List.replicate (size element - 1) none

/-- The slots of a list of elements. -/
def blocks (elements : List α) : List (Option α) := elements.flatMap (block size)

/-- A vector that consists of blocks. -/
def IsBlocks (slots : List (Option α)) : Prop :=
  ∃ elements : List α, (∀ element ∈ elements, 0 < size element) ∧ slots = blocks size elements

/-- `erase(begin + i, begin + i + n)`. -/
def eraseAt (slots : List (Option α)) (i n : ℕ) : List (Option α) :=
  slots.take i ++ slots.drop (i + n)

/-- `insert(begin + i, ...)`. -/
def insertAt (slots : List (Option α)) (i : ℕ) (inserted : List (Option α)) : List (Option α) :=
  slots.take i ++ inserted ++ slots.drop i

variable {size}

@[simp] theorem blocks_nil : blocks size [] = [] := rfl

@[simp] theorem blocks_cons (element : α) (elements : List α) :
    blocks size (element :: elements) = block size element ++ blocks size elements := rfl

@[simp] theorem blocks_append (elements more : List α) :
    blocks size (elements ++ more) = blocks size elements ++ blocks size more :=
  List.flatMap_append

@[simp] theorem blocks_singleton (element : α) : blocks size [element] = block size element :=
  List.append_nil _

theorem length_block {element : α} (positive : 0 < size element) :
    (block size element).length = size element := by
  rw [block, List.length_cons, List.length_replicate]
  omega

theorem length_blocks : ∀ {elements : List α}, (∀ element ∈ elements, 0 < size element) →
    (blocks size elements).length = (elements.map size).sum
  | [], _ => rfl
  | element :: elements, positive => by
    obtain ⟨first, others⟩ := List.forall_mem_cons.mp positive
    rw [blocks_cons, List.length_append, length_block first, length_blocks others]
    rfl

/-- A slot that holds an element is the first of its block. -/
theorem exists_split : ∀ {elements : List α} {i : ℕ} {element : α},
    (blocks size elements)[i]? = some (some element) →
    ∃ before after, elements = before ++ element :: after ∧ i = (blocks size before).length
  | [], i, element, found => by cases found
  | first :: rest, i, element, found => by
    rw [blocks_cons] at found
    by_cases inFirst : i < (block size first).length
    · rw [List.getElem?_append_left inFirst] at found
      cases i with
      | zero =>
        obtain rfl : first = element := Option.some.inj (Option.some.inj found)
        exact ⟨[], rest, rfl, rfl⟩
      | succ i =>
        -- the slots behind the first hold nothing
        have isTail : (List.replicate (size first - 1) (none : Option α))[i]? =
            some (some element) := found
        have absurd := List.eq_of_mem_replicate (List.mem_of_getElem? isTail)
        cases absurd
    · have behind : (block size first).length ≤ i := Nat.le_of_not_lt inFirst
      rw [List.getElem?_append_right behind] at found
      obtain ⟨before, after, rfl, position⟩ := exists_split found
      refine ⟨first :: before, after, rfl, ?_⟩
      rw [blocks_cons, List.length_append]
      omega

/-- To erase the slots of an element erases the element. -/
theorem eraseAt_blocks {before after : List α} {element : α} (positive : 0 < size element) :
    eraseAt (blocks size (before ++ element :: after)) (blocks size before).length (size element) =
      blocks size (before ++ after) := by
  rw [eraseAt, blocks_append, blocks_cons, List.take_left, ← List.append_assoc, blocks_append]
  congr 1
  rw [← length_block positive, ← List.length_append, List.drop_left]

/-! ## Vectors of blocks -/

theorem isBlocks_nil : IsBlocks size [] := ⟨[], fun _ member => (nomatch member), rfl⟩

theorem isBlocks_block {element : α} (positive : 0 < size element) :
    IsBlocks size (block size element) :=
  ⟨[element], List.forall_mem_singleton.mpr positive, (blocks_singleton element).symm⟩

theorem IsBlocks.append {slots more : List (Option α)} (first : IsBlocks size slots)
    (second : IsBlocks size more) : IsBlocks size (slots ++ more) := by
  obtain ⟨elements, positive, rfl⟩ := first
  obtain ⟨others, positive', rfl⟩ := second
  exact ⟨elements ++ others, List.forall_mem_append.mpr ⟨positive, positive'⟩,
    (blocks_append elements others).symm⟩

/-- An element that is pushed with its placeholders. -/
theorem IsBlocks.push {slots : List (Option α)} {element : α} (isBlocks : IsBlocks size slots)
    (positive : 0 < size element) : IsBlocks size (slots ++ block size element) :=
  isBlocks.append (isBlocks_block positive)

/-- The head of a vector of blocks is an element. -/
theorem IsBlocks.head_ne_none {slots : List (Option α)} (isBlocks : IsBlocks size (none :: slots)) :
    False := by
  obtain ⟨elements, -, same⟩ := isBlocks
  cases elements with
  | nil => cases same
  | cons first rest => cases (List.cons.inj same).1

theorem IsBlocks.insertFront {slots inserted : List (Option α)} (isBlocks : IsBlocks size slots)
    (isBlocks' : IsBlocks size inserted) : IsBlocks size (Blocks.insertAt slots 0 inserted) :=
  isBlocks'.append isBlocks

/-- An element that is found at a slot is erased with its placeholders, and nothing
    of another block. -/
theorem IsBlocks.eraseAt {slots : List (Option α)} {i : ℕ} {element : α}
    (isBlocks : IsBlocks size slots) (found : slots[i]? = some (some element)) :
    IsBlocks size (eraseAt slots i (size element)) := by
  obtain ⟨elements, positive, rfl⟩ := isBlocks
  obtain ⟨before, after, rfl, rfl⟩ := exists_split found
  obtain ⟨positive_before, positive_rest⟩ := List.forall_mem_append.mp positive
  obtain ⟨positive_element, positive_after⟩ := List.forall_mem_cons.mp positive_rest
  exact ⟨before ++ after, List.forall_mem_append.mpr ⟨positive_before, positive_after⟩,
    eraseAt_blocks positive_element⟩

theorem IsBlocks.positive {slots : List (Option α)} {i : ℕ} {element : α}
    (isBlocks : IsBlocks size slots) (found : slots[i]? = some (some element)) :
    0 < size element := by
  obtain ⟨elements, positive, rfl⟩ := isBlocks
  obtain ⟨before, after, rfl, -⟩ := exists_split found
  exact positive element (List.mem_append_right before List.mem_cons_self)

/-- An element that is found at a slot is replaced by blocks. -/
theorem IsBlocks.replace {slots inserted : List (Option α)} {i : ℕ} {element : α}
    (isBlocks : IsBlocks size slots) (found : slots[i]? = some (some element))
    (isBlocks' : IsBlocks size inserted) :
    IsBlocks size (Blocks.insertAt (Blocks.eraseAt slots i (size element)) i inserted) := by
  obtain ⟨elements, positive, rfl⟩ := isBlocks
  obtain ⟨before, after, rfl, rfl⟩ := exists_split found
  obtain ⟨positive_before, positive_rest⟩ := List.forall_mem_append.mp positive
  obtain ⟨positive_element, positive_after⟩ := List.forall_mem_cons.mp positive_rest
  rw [eraseAt_blocks positive_element, Blocks.insertAt, blocks_append, List.take_left,
    List.drop_left]
  have first : IsBlocks size (blocks size before) := ⟨before, positive_before, rfl⟩
  have last : IsBlocks size (blocks size after) := ⟨after, positive_after, rfl⟩
  exact (first.append isBlocks').append last

/-- An element that is replaced by one of the same size. -/
theorem IsBlocks.set {slots : List (Option α)} {i : ℕ} {element element' : α}
    (isBlocks : IsBlocks size slots) (found : slots[i]? = some (some element))
    (sameSize : size element' = size element) : IsBlocks size (slots.set i (some element')) := by
  obtain ⟨elements, positive, rfl⟩ := isBlocks
  obtain ⟨before, after, rfl, rfl⟩ := exists_split found
  obtain ⟨positive_before, positive_rest⟩ := List.forall_mem_append.mp positive
  obtain ⟨positive_element, positive_after⟩ := List.forall_mem_cons.mp positive_rest
  refine ⟨before ++ element' :: after, List.forall_mem_append.mpr ⟨positive_before,
    List.forall_mem_cons.mpr ⟨sameSize ▸ positive_element, positive_after⟩⟩, ?_⟩
  rw [blocks_append, List.set_append_right _ _ (Nat.le_refl _), Nat.sub_self, blocks_append, blocks_cons,
    blocks_cons, block, block, sameSize]
  rfl

/-! ## Slots of the same sizes -/

/-- What is said of the elements of a vector, as far as a function of them is concerned. -/
theorem forall_of_map_eq {β : Type} {f : α → β} {P : β → Prop} {slots slots' : List (Option α)}
    (same : slots'.map (Option.map f) = slots.map (Option.map f))
    (all : ∀ element, some element ∈ slots → P (f element)) :
    ∀ element, some element ∈ slots' → P (f element) := by
  intro element member
  have image : some (f element) ∈ slots'.map (Option.map f) :=
    List.mem_map.mpr ⟨some element, member, rfl⟩
  rw [same] at image
  obtain ⟨slot, isSlot, sameImage⟩ := List.mem_map.mp image
  obtain ⟨other, rfl, sameValue⟩ := Option.map_eq_some_iff.mp sameImage
  exact sameValue ▸ all other isSlot

theorem eq_replicate_of_map {slots : List (Option α)} {n : ℕ}
    (empty : slots.map (Option.map size) = List.replicate n none) :
    slots = List.replicate n none := by
  apply List.eq_replicate_iff.mpr
  constructor
  · rw [← List.length_map (Option.map size), empty, List.length_replicate]
  · intro slot member
    have image : slot.map size ∈ slots.map (Option.map size) := List.mem_map_of_mem member
    rw [empty] at image
    exact Option.map_eq_none_iff.mp (List.eq_of_mem_replicate image)

/-- Whether a vector consists of blocks is a matter of sizes. -/
theorem IsBlocks.of_map_eq {slots slots' : List (Option α)} (isBlocks : IsBlocks size slots)
    (same : slots'.map (Option.map size) = slots.map (Option.map size)) :
    IsBlocks size slots' := by
  obtain ⟨elements, positive, rfl⟩ := isBlocks
  induction elements generalizing slots' with
  | nil => exact ⟨[], fun _ member => (nomatch member), List.map_eq_nil_iff.mp same⟩
  | cons element elements inductionHypothesis =>
    obtain ⟨positive_first, positive_rest⟩ := List.forall_mem_cons.mp positive
    rw [blocks_cons, block, List.map_append, List.map_cons, List.map_replicate] at same
    obtain ⟨first, rest, rfl, sameFirst, sameRest⟩ := List.map_eq_append_iff.mp same
    obtain ⟨head, tail, rfl, sameHead, sameTail⟩ := List.map_eq_cons_iff.mp sameFirst
    obtain ⟨element', rfl, sameSize⟩ := Option.map_eq_some_iff.mp sameHead
    rw [eq_replicate_of_map sameTail, ← sameSize]
    exact (isBlocks_block (sameSize ▸ positive_first)).append
      (inductionHypothesis positive_rest sameRest)

theorem mem_block {element other : α} : some other ∈ block size element ↔ other = element := by
  simp [block, eq_comm]

theorem mem_blocks {elements : List α} {element : α} :
    some element ∈ blocks size elements ↔ element ∈ elements := by
  simp [blocks, List.mem_flatMap, mem_block]

theorem mem_of_mem_eraseAt {slots : List (Option α)} {i n : ℕ} {slot : Option α}
    (member : slot ∈ Blocks.eraseAt slots i n) : slot ∈ slots := by
  rcases List.mem_append.mp member with inFront | behind
  · exact List.mem_of_mem_take inFront
  · exact List.mem_of_mem_drop behind

theorem mem_insertAt {slots inserted : List (Option α)} {i : ℕ} {slot : Option α}
    (member : slot ∈ Blocks.insertAt slots i inserted) : slot ∈ slots ∨ slot ∈ inserted := by
  rcases List.mem_append.mp member with before | behind
  · rcases List.mem_append.mp before with inFront | isInserted
    · exact .inl (List.mem_of_mem_take inFront)
    · exact .inr isInserted
  · exact .inl (List.mem_of_mem_drop behind)

/-- To change the elements of a vector and not their sizes. -/
theorem map_blocks {f : α → α} (sameSize : ∀ element, size (f element) = size element) :
    ∀ elements : List α,
      (blocks size elements).map (Option.map f) = blocks size (elements.map f)
  | [] => rfl
  | element :: elements => by
    rw [blocks_cons, List.map_append, map_blocks sameSize elements, List.map_cons, blocks_cons,
      block, block, List.map_cons, List.map_replicate, sameSize]
    rfl

/-- An element is inserted behind the first. -/
theorem IsBlocks.insert_second {slots : List (Option α)} {element : α} {inserted : List (Option α)}
    (isBlocks : IsBlocks size (some element :: slots)) (isBlocks' : IsBlocks size inserted) :
    IsBlocks size (Blocks.insertAt (some element :: slots) (size element) inserted) := by
  obtain ⟨elements, positive, same⟩ := isBlocks
  cases elements with
  | nil => cases same
  | cons first rest =>
    obtain rfl : element = first := Option.some.inj (List.cons.inj same).1
    obtain ⟨positive_first, positive_rest⟩ := List.forall_mem_cons.mp positive
    rw [same, Blocks.insertAt, blocks_cons, ← length_block positive_first, List.take_left,
      List.drop_left]
    exact ((isBlocks_block positive_first).append isBlocks').append ⟨rest, positive_rest, rfl⟩

/-! ## Slots that are not touched -/

section Untouched

variable {slots : List (Option α)} {slot : Option α} {i j n : ℕ}

theorem getElem?_eraseAt_before (found : slots[i]? = some slot) (before : i < j) :
    (eraseAt slots j n)[i]? = some slot := by
  have inside := (List.getElem?_eq_some_iff.mp found).1
  have inFront : i < (slots.take j).length := by
    rw [List.length_take]
    omega
  rw [eraseAt, List.getElem?_append_left inFront, List.getElem?_take, if_pos before, found]

theorem getElem?_eraseAt_behind (found : slots[i]? = some slot) (behind : j + n ≤ i) :
    (eraseAt slots j n)[i - n]? = some slot := by
  have inside := (List.getElem?_eq_some_iff.mp found).1
  have length : (slots.take j).length = j := by
    rw [List.length_take]
    omega
  rw [eraseAt, List.getElem?_append_right (by omega), length, List.getElem?_drop]
  have sameIndex : j + n + (i - n - j) = i := by omega
  rw [sameIndex, found]

theorem getElem?_insertAt_before {inserted : List (Option α)} (found : slots[i]? = some slot)
    (before : i < j) : (insertAt slots j inserted)[i]? = some slot := by
  have inside := (List.getElem?_eq_some_iff.mp found).1
  have inFront : i < (slots.take j).length := by
    rw [List.length_take]
    omega
  have inBoth : i < (slots.take j ++ inserted).length := by
    rw [List.length_append]
    omega
  rw [insertAt, List.getElem?_append_left inBoth, List.getElem?_append_left inFront,
    List.getElem?_take, if_pos before, found]

theorem getElem?_insertAt_behind {inserted : List (Option α)} (found : slots[i]? = some slot)
    (behind : j ≤ i) : (insertAt slots j inserted)[i + inserted.length]? = some slot := by
  have inside := (List.getElem?_eq_some_iff.mp found).1
  have length : (slots.take j ++ inserted).length = j + inserted.length := by
    rw [List.length_append, List.length_take]
    omega
  rw [insertAt, List.getElem?_append_right (by omega), length, List.getElem?_drop]
  have sameIndex : j + (i + inserted.length - (j + inserted.length)) = i := by omega
  rw [sameIndex, found]

/-- An element does not stand in the slots of another. -/
theorem IsBlocks.disjoint {element other : α} (isBlocks : IsBlocks size slots)
    (found : slots[j]? = some (some element)) (isOther : slots[i]? = some (some other))
    (behind : j < i) : j + size element ≤ i := by
  obtain ⟨elements, positive, rfl⟩ := isBlocks
  obtain ⟨before, after, rfl, rfl⟩ := exists_split found
  have positive_element : 0 < size element :=
    positive element (List.mem_append_right before List.mem_cons_self)
  rw [blocks_append, List.getElem?_append_right (by omega), blocks_cons] at isOther
  by_contra inBlock
  have inside : i - (blocks size before).length < (block size element).length := by
    rw [length_block positive_element]
    omega
  rw [List.getElem?_append_left inside, block] at isOther
  -- only the first slot of a block holds an element
  obtain ⟨m, isSucc⟩ : ∃ m, i - (blocks size before).length = m + 1 :=
    ⟨i - (blocks size before).length - 1, by omega⟩
  rw [isSucc, List.getElem?_cons_succ] at isOther
  have isTail := List.eq_of_mem_replicate (List.mem_of_getElem? isOther)
  cases isTail

end Untouched

/-! ## Distribution -/

/-- Slots are distributed over two vectors: an element goes where it says, and a
    placeholder where the element before it went. -/
def distribute (first : α → Bool) : Bool → List (Option α) → List (Option α) × List (Option α)
  | _, [] => ([], [])
  | _, some element :: slots =>
    if first element then
      (some element :: (distribute first true slots).1, (distribute first true slots).2)
    else ((distribute first false slots).1, some element :: (distribute first false slots).2)
  | true, none :: slots =>
    (none :: (distribute first true slots).1, (distribute first true slots).2)
  | false, none :: slots =>
    ((distribute first false slots).1, none :: (distribute first false slots).2)

theorem distribute_replicate (first : α → Bool) (slots : List (Option α)) : ∀ n,
    distribute first true (List.replicate n none ++ slots) =
        (List.replicate n none ++ (distribute first true slots).1,
          (distribute first true slots).2) ∧
      distribute first false (List.replicate n none ++ slots) =
        ((distribute first false slots).1,
          List.replicate n none ++ (distribute first false slots).2)
  | 0 => ⟨rfl, rfl⟩
  | n + 1 => by
    obtain ⟨isFirst, isSecond⟩ := distribute_replicate first slots n
    rw [List.replicate_succ, List.cons_append, distribute, distribute, isFirst, isSecond]
    exact ⟨rfl, rfl⟩

/-- The blocks of a vector are distributed as a whole. -/
theorem distribute_blocks (first : α → Bool) : ∀ (elements : List α) (current : Bool),
    distribute first current (blocks size elements) =
      (blocks size (elements.filter first), blocks size (elements.filter fun e => !first e))
  | [], current => by cases current <;> rfl
  | element :: elements, current => by
    obtain ⟨isFirst, isSecond⟩ :=
      distribute_replicate first (blocks size elements) (size element - 1)
    rw [blocks_cons, block, List.cons_append]
    cases goes : first element with
    | true =>
      rw [distribute, if_pos goes, isFirst, distribute_blocks first elements true]
      simp [goes, block]
    | false =>
      rw [distribute, if_neg (by simp [goes]), isSecond, distribute_blocks first elements false]
      simp [goes, block]

/-! ## The elements of a vector -/

/-- The elements, without the placeholders. -/
def contents (slots : List (Option α)) : List α := slots.filterMap id

@[simp] theorem contents_nil : contents ([] : List (Option α)) = [] := rfl

@[simp] theorem contents_append (slots more : List (Option α)) :
    contents (slots ++ more) = contents slots ++ contents more := List.filterMap_append

@[simp] theorem contents_block (element : α) : contents (block size element) = [element] := by
  simp [contents, block]

@[simp] theorem contents_blocks (elements : List α) : contents (blocks size elements) = elements := by
  induction elements with
  | nil => rfl
  | cons element elements ih => simp [ih]

theorem mem_contents {slots : List (Option α)} {element : α} :
    element ∈ contents slots ↔ some element ∈ slots := by
  simp [contents]

/-- The elements before and behind the one that is found at a slot. -/
theorem IsBlocks.contents_split {slots : List (Option α)} {i : ℕ} {element : α}
    (isBlocks : IsBlocks size slots) (found : slots[i]? = some (some element)) :
    ∃ before after, contents slots = before ++ element :: after ∧
      contents (slots.take i) = before ∧
      contents (Blocks.eraseAt slots i (size element)) = before ++ after ∧
      (∀ element', contents (slots.set i (some element')) = before ++ element' :: after) ∧
      ∀ inserted, contents (insertAt (Blocks.eraseAt slots i (size element)) i inserted) =
        before ++ contents inserted ++ after := by
  obtain ⟨elements, positive, rfl⟩ := isBlocks
  obtain ⟨before, after, rfl, rfl⟩ := exists_split found
  have positive_element : 0 < size element :=
    positive element (List.mem_append_right before List.mem_cons_self)
  have tail : contents (List.replicate (size element - 1) (none : Option α)) = [] := by
    simp [contents]
  refine ⟨before, after, contents_blocks _, ?_, ?_, ?_, ?_⟩
  · rw [blocks_append, List.take_left, contents_blocks]
  · rw [eraseAt_blocks positive_element, contents_blocks]
  · intro element'
    have last : contents [some element'] = [element'] := rfl
    rw [blocks_append, List.set_append_right _ _ (Nat.le_refl _), Nat.sub_self, blocks_cons, block,
      contents_append, contents_blocks, List.cons_append, List.set_cons_zero,
      ← List.singleton_append (l := _ ++ _), contents_append, contents_append, contents_blocks, tail,
      last]
    rfl
  · intro inserted
    rw [eraseAt_blocks positive_element, insertAt, blocks_append, List.take_left, List.drop_left,
      contents_append, contents_append, contents_blocks, contents_blocks]

end Blocks

import Mathlib.Algebra.BigOperators.Ring.Finset
import Mathlib.Algebra.BigOperators.Group.Finset.Basic
import Mathlib.Algebra.Order.BigOperators.Group.Finset

/-!
# A round of a flow

What the host knows of one flow, from the first `ACT_GET` to the answers.  A
flow collects the `ACT_GET`s of its threads, and then awaits the responses of
the controllers of its forest.
-/

namespace ActiveRouting

/-- A flow as the controllers `0, 1, …` and the network see it. -/
structure FlowView where
  /-- Number of threads, count, and a number for each controller. -/
  barrier : Option ((ℤ × ℤ) × List ℤ)
  forest : Option (List Bool)
  /-- `ACT_GET`s of threads that wait for their answer. -/
  gathers : ℕ → ℕ
  dummies : ℕ → ℕ
  /-- `ACT_GET`s on their way to the network, in it, or served by it. -/
  tokens : ℕ → ℕ
  /-- Updates that have not been acknowledged. -/
  updates : ℕ → ℕ
  /-- Controllers that have received their response. -/
  responded : List ℕ

namespace FlowView

open Finset

/-- The `ACT_GET`s that wait at the controllers below `size`. -/
def total (size : ℕ) (v : FlowView) : ℕ := ∑ num ∈ range size, v.gathers num

/-- A forest marks a controller below `size`, and is none before. -/
def ForestOk (size : ℕ) (v : FlowView) : Prop :=
  ∀ bits, v.forest = some bits → bits.length = 4 ∧ ∃ num < size, bits[num]? = some true

/-- Fewer than `threads` threads have issued their `ACT_GET`. -/
structure Collecting (size threads : ℕ) (v : FlowView) : Prop where
  barrier : ∀ nthreads count ports, v.barrier = some ((nthreads, count), ports) →
    nthreads = threads ∧ count = v.total size ∧ ports.length = size
  empty : v.barrier = none → v.total size = 0
  below : v.total size < threads
  forest : v.ForestOk size
  dummies : ∀ num < size, v.dummies num = 0
  tokens : ∀ num < size, v.tokens num = 0
  responded : v.responded = []

/-- What the barrier knows of a controller: it is not in the forest, it is
    waited for, or it has received its response. -/
inductive PortOk (responded : List ℕ) (num : ℕ) : Option Bool → Option ℤ → Prop where
  | inactive : PortOk responded num (some false) (some 0)
  | awaited : num ∉ responded → PortOk responded num (some true) (some 1)
  | answered : num ∈ responded → PortOk responded num (some true) (some (-1))

/-- All threads have issued their `ACT_GET`, and a response is missing. -/
structure Awaiting (size threads : ℕ) (bits : List Bool) (ports : List ℤ) (v : FlowView) : Prop where
  barrier : v.barrier = some (((threads : ℤ), (ports.count 1 : ℤ)), ports)
  forest : v.forest = some bits
  total : v.total size = threads
  length : ports.length = size
  outstanding : 1 ∈ ports
  port : ∀ num < size, PortOk v.responded num bits[num]? ports[num]?
  tokens : ∀ num < size, v.tokens num = if ports[num]? = some 1 then 1 else 0
  updates : ∀ num < size, v.updates num = 0

/-- Nothing of the flow is left. -/
structure Cleared (size : ℕ) (v : FlowView) : Prop where
  barrier : v.barrier = none
  forest : v.forest = none
  gathers : ∀ num < size, v.gathers num = 0
  dummies : ∀ num < size, v.dummies num = 0
  tokens : ∀ num < size, v.tokens num = 0
  updates : ∀ num < size, v.updates num = 0
  responded : v.responded = []

/-- A flow is in one of its two phases. -/
def RoundOk (size threads : ℕ) (v : FlowView) : Prop :=
  v.Collecting size threads ∨ ∃ bits ports, v.Awaiting size threads bits ports

variable {size threads num : ℕ} {v : FlowView}

/-- A view that differs in acknowledged updates alone. -/
structure Same (v v' : FlowView) : Prop where
  barrier : v'.barrier = v.barrier
  forest : v'.forest = v.forest
  gathers : v'.gathers = v.gathers
  dummies : v'.dummies = v.dummies
  tokens : v'.tokens = v.tokens
  updates : ∀ num, v'.updates num ≤ v.updates num
  responded : v'.responded = v.responded

theorem Same.refl (v : FlowView) : v.Same v := ⟨rfl, rfl, rfl, rfl, rfl, fun _ => le_rfl, rfl⟩

theorem RoundOk.same {v' : FlowView} (ok : v.RoundOk size threads) (same : v.Same v') :
    v'.RoundOk size threads := by
  obtain ⟨barrier, forest, gathers, dummies, tokens, updates, responded⟩ := same
  have total : v'.total size = v.total size := by rw [FlowView.total, gathers]; rfl
  cases ok with
  | inl collecting =>
    refine .inl ⟨?_, ?_, ?_, ?_, ?_, ?_, ?_⟩
    · rw [barrier, total]
      exact collecting.barrier
    · rw [barrier, total]
      exact collecting.empty
    · exact total ▸ collecting.below
    · rw [ForestOk, forest]
      exact collecting.forest
    · exact dummies ▸ collecting.dummies
    · exact tokens ▸ collecting.tokens
    · exact responded ▸ collecting.responded
  | inr awaiting =>
    obtain ⟨bits, ports, awaiting⟩ := awaiting
    refine .inr ⟨bits, ports, barrier ▸ awaiting.barrier, forest ▸ awaiting.forest,
      total ▸ awaiting.total, awaiting.length, awaiting.outstanding, responded ▸ awaiting.port,
      tokens ▸ awaiting.tokens, ?_⟩
    exact fun num inside => Nat.eq_zero_of_le_zero (awaiting.updates num inside ▸ updates num)

/-! ## Collecting -/

theorem Cleared.collecting (cleared : v.Cleared size) (positive : 0 < threads) :
    v.Collecting size threads := by
  have none : v.total size = 0 := Finset.sum_eq_zero fun num inside =>
    cleared.gathers num (Finset.mem_range.mp inside)
  exact
    { barrier := fun _ _ _ found => by rw [cleared.barrier] at found; cases found
      empty := fun _ => none
      below := none ▸ positive
      forest := fun _ found => by rw [cleared.forest] at found; cases found
      dummies := cleared.dummies
      tokens := cleared.tokens
      responded := cleared.responded }

/-- While `ACT_GET`s are missing, the flow collects. -/
theorem RoundOk.collecting (ok : v.RoundOk size threads) (below : v.total size < threads) :
    v.Collecting size threads := by
  cases ok with
  | inl collecting => exact collecting
  | inr awaiting =>
    obtain ⟨bits, ports, awaiting⟩ := awaiting
    exact absurd awaiting.total (Nat.ne_of_lt below)

/-- One more `ACT_GET` at a controller. -/
def addGather (v : FlowView) (num : ℕ) (barrier : Option ((ℤ × ℤ) × List ℤ)) : FlowView :=
  { v with barrier := barrier, gathers := Function.update v.gathers num (v.gathers num + 1) }

theorem total_addGather (inside : num < size) (barrier : Option ((ℤ × ℤ) × List ℤ)) :
    (v.addGather num barrier).total size = v.total size + 1 := by
  have member := Finset.mem_range.mpr inside
  simp only [total, addGather]
  rw [Finset.sum_update_of_mem member, ← Finset.add_sum_erase _ v.gathers member,
    Finset.sdiff_singleton_eq_erase]
  omega

/-- An `ACT_GET` that is not the last. -/
theorem Collecting.addGather (collecting : v.Collecting size threads) (inside : num < size)
    (below : v.total size + 1 < threads) {ports : List ℤ} (length : ports.length = size) :
    (v.addGather num (some ((threads, v.total size + 1), ports))).Collecting size threads where
  barrier nthreads count ports' found := by
    obtain ⟨same, rfl⟩ := Prod.mk.inj (Option.some.inj found)
    obtain ⟨rfl, rfl⟩ := Prod.mk.inj same
    rw [total_addGather inside]
    exact ⟨rfl, rfl, length⟩
  empty found := nomatch found
  below := (total_addGather inside _).symm ▸ below
  forest := collecting.forest
  dummies := collecting.dummies
  tokens := collecting.tokens
  responded := collecting.responded

/-- An update marks its controller. -/
def mark (v : FlowView) (num : ℕ) : FlowView :=
  { v with
    forest := some ((v.forest.getD (List.replicate 4 false)).set num true)
    updates := Function.update v.updates num (v.updates num + 1) }

theorem Collecting.mark (collecting : v.Collecting size threads) (inside : num < size)
    (small : size ≤ 4) : (v.mark num).Collecting size threads where
  barrier := collecting.barrier
  empty := collecting.empty
  below := collecting.below
  forest bits found := by
    obtain rfl := Option.some.inj found
    have length : (v.forest.getD (List.replicate 4 false)).length = 4 := by
      cases forest : v.forest with
      | none => exact List.length_replicate
      | some bits => exact (collecting.forest bits forest).1
    refine ⟨List.length_set.trans length, num, inside, ?_⟩
    exact List.getElem?_set_self (by omega)
  dummies := collecting.dummies
  tokens := collecting.tokens
  responded := collecting.responded

/-- The last `ACT_GET` has been counted, and the controllers of the forest send. -/
structure Started (size threads num : ℕ) (v v' : FlowView) (bits : List Bool) : Prop where
  barrier : v'.barrier = some (((threads : ℤ), ((bits.take size).count true : ℤ)),
    (bits.take size).map fun bit => if bit then (1 : ℤ) else 0)
  forest : v'.forest = v.forest
  gathers : v'.gathers = Function.update v.gathers num (v.gathers num + 1)
  tokens : ∀ num < size, v'.tokens num = if bits[num]? = some true then 1 else 0
  updates : v'.updates = v.updates
  responded : v'.responded = v.responded

theorem Started.awaiting {v' : FlowView} {bits : List Bool}
    (started : Started size threads num v v' bits) (collecting : v.Collecting size threads)
    (inside : num < size) (last : v.total size + 1 = threads) (forest : v.forest = some bits)
    (small : size ≤ 4) (updates : ∀ num < size, v.updates num = 0) :
    v'.Awaiting size threads bits ((bits.take size).map fun bit => if bit then 1 else 0) := by
  obtain ⟨length, root, rootInside, rootBit⟩ := collecting.forest bits forest
  have port : ∀ num : ℕ, num < size →
      ((bits.take size).map fun bit => if bit then (1 : ℤ) else 0)[num]? =
        bits[num]?.map fun bit => if bit then (1 : ℤ) else 0 := by
    intro num inside
    rw [List.getElem?_map, List.getElem?_take, if_pos inside]
  constructor
  case barrier =>
    rw [started.barrier, List.count_eq_countP, List.count_eq_countP, List.countP_map]
    congr 3
    refine congrArg Nat.cast (List.countP_congr fun bit _ => ?_)
    cases bit <;> decide
  case forest => exact started.forest.trans forest
  case total =>
    rw [← last, ← total_addGather inside none, total, total, started.gathers]
    rfl
  case length =>
    rw [List.length_map, List.length_take, length]
    omega
  case outstanding =>
    refine List.mem_iff_getElem?.mpr ⟨root, ?_⟩
    rw [port root rootInside, rootBit]
    rfl
  case port =>
    intro num inside
    have below : num < bits.length := by omega
    rw [port num inside, List.getElem?_eq_getElem below]
    cases bits[num] with
    | false => exact .inactive
    | true =>
      refine .awaited ?_
      rw [started.responded, collecting.responded]
      exact List.not_mem_nil
  case tokens =>
    intro num inside
    rw [started.tokens num inside, port num inside]
    cases bits[num]? with
    | none => rfl
    | some bit => cases bit <;> rfl
  case updates =>
    rw [started.updates]
    exact updates

/-! ## Awaiting -/

/-- The barrier waits for one controller less. -/
theorem count_answered {ports : List ℤ} (awaited : ports[num]? = some 1) :
    (ports.set num (-1)).count 1 = ports.count 1 - 1 := by
  obtain ⟨below, value⟩ := List.getElem?_eq_some_iff.mp awaited
  rw [List.count_set below, value]
  rfl

namespace Awaiting

variable {bits : List Bool} {ports : List ℤ} (awaiting : v.Awaiting size threads bits ports)

include awaiting

theorem awaited (inside : num < size) (arrived : 0 < v.tokens num) : ports[num]? = some 1 := by
  rw [awaiting.tokens num inside] at arrived
  by_contra other
  rw [if_neg other] at arrived
  exact absurd arrived (Nat.lt_irrefl 0)

end Awaiting

/-- The response of controller `num` has arrived, and others are missing. -/
def respond (v : FlowView) (num : ℕ) (barrier : Option ((ℤ × ℤ) × List ℤ)) : FlowView :=
  { v with
    barrier := barrier
    tokens := Function.update v.tokens num (v.tokens num - 1)
    responded := num :: v.responded }

namespace Awaiting

variable {bits : List Bool} {ports : List ℤ} (awaiting : v.Awaiting size threads bits ports)

include awaiting

theorem respond (inside : num < size) (arrived : 0 < v.tokens num) (more : ports.count 1 ≠ 1) :
    (v.respond num (some ((threads, ports.count 1 - 1), ports.set num (-1)))).Awaiting size threads
      bits (ports.set num (-1)) := by
  have awaited := awaiting.awaited inside arrived
  obtain ⟨below, value⟩ := List.getElem?_eq_some_iff.mp awaited
  have positive := List.count_pos_iff.mpr awaiting.outstanding
  have count := count_answered awaited
  constructor
  case barrier =>
    rw [count]
    simp only [FlowView.respond]
    congr 3
    omega
  case forest => exact awaiting.forest
  case total => exact awaiting.total
  case length => exact List.length_set.trans awaiting.length
  case outstanding => exact List.count_pos_iff.mp (by omega)
  case port =>
    intro other inside
    by_cases same : other = num
    · subst same
      have port := awaiting.port other inside
      rw [awaited] at port
      rw [List.getElem?_set_self below]
      cases port_bit : bits[other]? with
      | none => rw [port_bit] at port; cases port
      | some bit =>
        rw [port_bit] at port
        cases port
        exact .answered List.mem_cons_self
    · rw [List.getElem?_set_ne (Ne.symm same)]
      have port := awaiting.port other inside
      generalize bits[other]? = bit at port ⊢
      generalize ports[other]? = number at port ⊢
      cases port with
      | inactive => exact .inactive
      | awaited missing =>
        exact .awaited fun member => (List.mem_cons.mp member).elim same missing
      | answered member => exact .answered (List.mem_cons_of_mem _ member)
  case tokens =>
    intro other inside
    have token := awaiting.tokens other inside
    by_cases same : other = num
    · subst same
      simp only [FlowView.respond, Function.update_self, token, awaited, if_true,
        List.getElem?_set_self below]
      rfl
    · simp only [FlowView.respond, Function.update_of_ne same, token,
        List.getElem?_set_ne (Ne.symm same)]
  case updates => exact awaiting.updates

/-- The last response: all controllers of the forest have received theirs. -/
theorem last (inside : num < size) (arrived : 0 < v.tokens num) (last : ports.count 1 = 1)
    {other : ℕ} (otherInside : other < size) :
    ((ports.set num (-1))[other]? = some (-1) ∨ (ports.set num (-1))[other]? = some 0) ∧
      (bits[other]? = some true → other = num ∨ other ∈ v.responded) ∧
      (other ≠ num → v.tokens other = 0) := by
  have awaited := awaiting.awaited inside arrived
  obtain ⟨below, value⟩ := List.getElem?_eq_some_iff.mp awaited
  by_cases same : other = num
  · subst same
    rw [List.getElem?_set_self below]
    exact ⟨.inl rfl, fun _ => .inl rfl, fun different => absurd rfl different⟩
  · have none : 1 ∉ ports.set num (-1) := by
      rw [← List.count_eq_zero, count_answered awaited, last]
    have kept := List.getElem?_set_ne (Ne.symm same) (l := ports) (a := -1)
    have missing : ports[other]? ≠ some 1 := fun found =>
      none (List.mem_iff_getElem?.mpr ⟨other, kept.trans found⟩)
    rw [kept, awaiting.tokens other otherInside, if_neg missing]
    have port := awaiting.port other otherInside
    generalize bits[other]? = bit at port ⊢
    generalize ports[other]? = number at port missing ⊢
    cases port with
    | inactive => exact ⟨.inr rfl, fun found => (nomatch found), fun _ => rfl⟩
    | awaited => exact absurd rfl missing
    | answered member => exact ⟨.inl rfl, fun _ => .inr member, fun _ => rfl⟩

end Awaiting

end FlowView

end ActiveRouting

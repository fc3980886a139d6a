import Mathlib.Algebra.BigOperators.Group.Finset.Basic
import Mathlib.Algebra.BigOperators.Group.Multiset.Basic
import Mathlib.Logic.Function.Iterate

/-!
# Reductions over a tree

Updates go down a tree from its root, each to the node that it is for, which takes
its operands one by one.  A request to gather follows them: a node passes it on to
the children it has sent updates to, and answers its parent when all of these have
answered and all its own operands are added up.  The nodes run at any speed; only
the stream from a parent to a child keeps its order, and of that only that the
request to gather does not overtake an update.
-/

namespace GatherTree

/-- A tree, as the parent of each node; the root is its own parent. -/
structure Tree (V : Type) where
  root : V
  parent : V → V
  nodes : Finset V
  parent_root : parent root = root

/-- What goes down from a parent to a child. -/
inductive Item (V A : Type) where
  | update (dest : V) (operands : List A)
  | gather

/-- The state of one reduction.  `sent` and `told` of a node are what its parent has
    noted of it: the updates sent to it that are not answered, and whether it has been
    told to gather.  For the root they are what the user of the tree has noted. -/
@[ext] structure State (V A M : Type) where
  stream : V → List (Item V A)
  present : V → Bool
  gathering : V → Bool
  sent : V → ℕ
  told : V → Bool
  held : V → Multiset A
  result : V → M
  answers : V → ℕ
  /-- What was ever sent to a node, and what it has ever put into the total. -/
  issued : V → M
  committed : V → M

variable {V A M : Type}

namespace Tree

/-- A node is the other one or one of its ancestors. -/
def Above (t : Tree V) (v d : V) : Prop := ∃ n, t.parent^[n] d = v

/-- A child of a node. -/
structure Child (t : Tree V) (v w : V) : Prop where
  inside : w ∈ t.nodes
  notRoot : w ≠ t.root
  parent : t.parent w = v
  ne : w ≠ v

variable {t : Tree V}

theorem Above.refl (t : Tree V) (v : V) : t.Above v v := ⟨0, rfl⟩

theorem iterate_root (t : Tree V) (n : ℕ) : t.parent^[n] t.root = t.root :=
  Function.iterate_fixed t.parent_root n

theorem Above.parent {v d : V} (above : t.Above v d) : t.Above (t.parent v) d := by
  obtain ⟨n, rfl⟩ := above
  exact ⟨n + 1, Function.iterate_succ_apply' t.parent n d⟩

/-- Two ancestors of a node are ancestors of each other. -/
theorem Above.total {u v d : V} (first : t.Above u d) (second : t.Above v d) :
    t.Above u v ∨ t.Above v u := by
  obtain ⟨n, rfl⟩ := first
  obtain ⟨m, rfl⟩ := second
  cases Nat.le_total n m with
  | inl le =>
    refine .inr ⟨m - n, ?_⟩
    rw [← Function.iterate_add_apply, Nat.sub_add_cancel le]
  | inr le =>
    refine .inl ⟨n - m, ?_⟩
    rw [← Function.iterate_add_apply, Nat.sub_add_cancel le]

end Tree

namespace Item

def isUpdate : Item V A → Bool
  | update _ _ => true
  | gather => false

variable [DecidableEq V] [AddCommMonoid M] (value : A → M)

/-- What the operands for a node amount to. -/
def weigh (d : V) : Item V A → M
  | update dest operands => if dest = d then (operands.map value).sum else 0
  | gather => 0

/-- What is left of an update when an operand is taken. -/
def rest (dest : V) : List A → List (Item V A)
  | [] => []
  | operands => [update dest operands]

def weighAll (d : V) (items : List (Item V A)) : M := (items.map (weigh value d)).sum

variable {value}

@[simp] theorem weighAll_nil (d : V) : weighAll value d [] = 0 := rfl

@[simp] theorem weighAll_append (d : V) (items more : List (Item V A)) :
    weighAll value d (items ++ more) = weighAll value d items + weighAll value d more := by
  simp [weighAll]

@[simp] theorem weighAll_cons (d : V) (item : Item V A) (items : List (Item V A)) :
    weighAll value d (item :: items) = weigh value d item + weighAll value d items := by
  simp [weighAll]

@[simp] theorem weigh_gather (d : V) : weigh value d (gather : Item V A) = 0 := rfl

theorem weighAll_rest (d dest : V) (operands : List A) :
    weighAll value d (rest dest operands) = weigh value d (update dest operands) := by
  cases operands with
  | nil => simp [rest, weigh]
  | cons a operands => simp [rest]

end Item

/-- No update is left in a stream. -/
def Settled (items : List (Item V A)) : Prop := ∀ item ∈ items, item.isUpdate = false

/-! ## Steps -/

namespace State

variable [DecidableEq V]

def setStream (s : State V A M) (v : V) (items : List (Item V A)) : State V A M :=
  { s with stream := Function.update s.stream v items }

def push (s : State V A M) (v : V) (item : Item V A) : State V A M :=
  s.setStream v (s.stream v ++ [item])

def setPresent (s : State V A M) (v : V) (present : Bool) : State V A M :=
  { s with present := Function.update s.present v present }

def setGathering (s : State V A M) (v : V) (gathering : Bool) : State V A M :=
  { s with gathering := Function.update s.gathering v gathering }

def setSent (s : State V A M) (v : V) (sent : ℕ) : State V A M :=
  { s with sent := Function.update s.sent v sent }

def setTold (s : State V A M) (v : V) (told : Bool) : State V A M :=
  { s with told := Function.update s.told v told }

def setHeld (s : State V A M) (v : V) (held : Multiset A) : State V A M :=
  { s with held := Function.update s.held v held }

def setAnswers (s : State V A M) (v : V) (answers : ℕ) : State V A M :=
  { s with answers := Function.update s.answers v answers }

def setResult (s : State V A M) (v : V) (result : M) : State V A M :=
  { s with result := Function.update s.result v result }

/-- A node answers its parent, and forgets its children. -/
def leave (s : State V A M) (t : Tree V) (v : V) : State V A M :=
  { s with
    present := Function.update s.present v false
    gathering := Function.update s.gathering v false
    answers := Function.update s.answers v (s.answers v + 1)
    told := fun w => if w ≠ t.root ∧ t.parent w = v then false else s.told w }

theorem leave_told_self {s : State V A M} {t : Tree V} {v w : V} (notRoot : w ≠ t.root)
    (child : t.parent w = v) : (s.leave t v).told w = false := if_pos ⟨notRoot, child⟩

theorem leave_told_of_ne {s : State V A M} {t : Tree V} {v w : V}
    (other : ¬ (w ≠ t.root ∧ t.parent w = v)) : (s.leave t v).told w = s.told w := if_neg other

variable [AddCommMonoid M]

def issue (s : State V A M) (d : V) (amount : M) : State V A M :=
  { s with issued := Function.update s.issued d (s.issued d + amount) }

/-- The result of a node goes into the total. -/
def bank (s : State V A M) (v : V) : State V A M :=
  { s with
    committed := Function.update s.committed v (s.committed v + s.result v)
    result := Function.update s.result v 0 }

end State

section

variable [DecidableEq V] [AddCommMonoid M] (t : Tree V) (value : A → M)

/-- What can happen to a reduction. -/
inductive Step : State V A M → State V A M → Prop where
  /-- The user sends an update, as long as it has not asked for the result. -/
  | issue {s : State V A M} (d : V) (operands : List A) : s.told t.root = false →
      t.root ∈ t.nodes → t.Above t.root d → operands ≠ [] →
      Step s (((s.push t.root (.update d operands)).setSent t.root (s.sent t.root + 1)).issue d
        (operands.map value).sum)
  /-- The user asks for the result of the updates. -/
  | ask {s : State V A M} : s.told t.root = false → t.root ∈ t.nodes → 0 < s.sent t.root →
      Step s ((s.push t.root .gather).setTold t.root true)
  /-- A node takes an operand of an update for it. -/
  | take {s : State V A M} (v : V) (before after : List (Item V A)) (a : A) (operands : List A) :
      s.stream v = before ++ .update v (a :: operands) :: after →
      Step s (((s.setStream v (before ++ Item.rest v operands ++ after)).setPresent v true).setHeld v
        (a ::ₘ s.held v))
  /-- An update is passed on to a child. -/
  | forward {s : State V A M} (v w d : V) (before after : List (Item V A)) (operands : List A) :
      s.stream v = before ++ .update d operands :: after → t.Child v w → t.Above w d →
      Step s ((((s.setStream v (before ++ after)).push w (.update d operands)).setPresent v
        true).setSent w (s.sent w + 1))
  /-- The request to gather is passed on to a child. -/
  | tell {s : State V A M} (v w : V) (before after : List (Item V A)) :
      s.stream v = before ++ .gather :: after → Settled before → t.Child v w → 0 < s.sent w →
      s.told w = false → Step s ((s.push w .gather).setTold w true)
  /-- A node has passed on the request to gather. -/
  | mark {s : State V A M} (v : V) (before after : List (Item V A)) :
      s.stream v = before ++ .gather :: after → Settled before → s.present v = true →
      Step s ((s.setStream v (before ++ after)).setGathering v true)
  /-- An operand is added up. -/
  | finish {s : State V A M} (v : V) (a : A) (held : Multiset A) : s.held v = a ::ₘ held →
      s.present v = true → Step s ((s.setHeld v held).setResult v (s.result v + value a))
  /-- A node answers its parent. -/
  | commit {s : State V A M} (v : V) : s.present v = true → s.gathering v = true → s.held v = 0 →
      (∀ w, w ≠ t.root → t.parent w = v → s.sent w = 0) →
      Step s ((s.leave t v).bank v)
  /-- The answer of a child arrives. -/
  | absorb {s : State V A M} (w : V) : w ≠ t.root → 0 < s.answers w →
      Step s ((s.setAnswers w (s.answers w - 1)).setSent w 0)
  /-- The answer of the root arrives. -/
  | report {s : State V A M} : 0 < s.answers t.root →
      Step s (((s.setAnswers t.root (s.answers t.root - 1)).setSent t.root 0).setTold t.root false)

end

/-! ## The phases of a node -/

/-- Every item of a stream is an update. -/
def Updates (items : List (Item V A)) : Prop := ∀ item ∈ items, item.isUpdate = true

/-- Where a node is in a reduction: from the first update that its parent sends to it, over
    the request to gather, to its answer. -/
inductive Phase (items : List (Item V A)) (present gathering : Bool) (sent : ℕ) (told : Bool)
    (answers : ℕ) : Prop where
  | idle : items = [] → present = false → gathering = false → sent = 0 → answers = 0 →
      Phase items present gathering sent told answers
  | collecting : Updates items → (present = true ∨ items ≠ []) → gathering = false → 0 < sent →
      told = false → answers = 0 → Phase items present gathering sent told answers
  | told (updates : List (Item V A)) : items = updates ++ [.gather] → Updates updates →
      (present = true ∨ updates ≠ []) → gathering = false → 0 < sent → told = true → answers = 0 →
      Phase items present gathering sent told answers
  | gathering : items = [] → present = true → gathering = true → 0 < sent → told = true →
      answers = 0 → Phase items present gathering sent told answers
  | answered : items = [] → present = false → gathering = false → 0 < sent → told = true →
      answers = 1 → Phase items present gathering sent told answers

/-- In a list of updates that one request to gather follows, nothing is behind it. -/
theorem split_gather {before after updates : List (Item V A)}
    (same : before ++ .gather :: after = updates ++ [.gather]) (isUpdates : Updates updates) :
    after = [] ∧ before = updates := by
  induction updates generalizing before with
  | nil =>
    cases before with
    | nil => simpa using same
    | cons first before => simp at same
  | cons first updates ih =>
    cases before with
    | nil =>
      simp only [List.nil_append, List.cons_append, List.cons.injEq] at same
      have isUpdate := isUpdates first List.mem_cons_self
      rw [← same.1] at isUpdate
      cases isUpdate
    | cons other before =>
      simp only [List.cons_append, List.cons.injEq] at same
      obtain ⟨rfl, rfl⟩ := ih same.2 fun item member =>
        isUpdates item (List.mem_cons_of_mem first member)
      exact ⟨rfl, by rw [same.1]⟩

/-- An update in such a list is among the updates. -/
theorem split_update {before after updates : List (Item V A)} {item : Item V A}
    (same : before ++ item :: after = updates ++ [.gather]) (isUpdate : item.isUpdate = true) :
    ∃ after', after = after' ++ [.gather] ∧ updates = before ++ item :: after' := by
  cases eq : after.reverse with
  | nil =>
    obtain rfl : after = [] := by simpa using eq
    have last := List.append_inj_right' same rfl
    simp only [List.cons.injEq, and_true] at last
    rw [last] at isUpdate
    cases isUpdate
  | cons last front =>
    obtain rfl : after = front.reverse ++ [last] := by
      rw [← List.reverse_reverse after, eq, List.reverse_cons]
    rw [← List.cons_append, ← List.append_assoc] at same
    obtain ⟨front', last'⟩ := List.append_inj' same rfl
    simp only [List.cons.injEq, and_true] at last'
    exact ⟨front.reverse, by rw [last'], front'.symm⟩

namespace Phase

variable {items before after : List (Item V A)} {present gathering told : Bool}
  {sent answers : ℕ}

/-- A node that nothing was sent to is idle. -/
theorem of_unsent (phase : Phase items present gathering 0 told answers) :
    items = [] ∧ present = false ∧ gathering = false ∧ answers = 0 := by
  cases phase with
  | idle empty absent calm _ none => exact ⟨empty, absent, calm, none⟩
  | collecting _ _ _ positive => cases positive
  | told _ _ _ _ _ positive => cases positive
  | gathering _ _ _ positive => cases positive
  | answered _ _ _ positive => cases positive

/-- An update that is taken or passed on. -/
theorem replace {item : Item V A} {instead : List (Item V A)}
    (phase : Phase (before ++ item :: after) present gathering sent told answers)
    (isUpdate : item.isUpdate = true) (isUpdates : Updates instead) :
    Phase (before ++ instead ++ after) true gathering sent told answers := by
  cases phase with
  | idle empty => simp at empty
  | collecting updates _ calm positive untold none =>
    refine .collecting ?_ (.inl rfl) calm positive untold none
    intro other member
    simp only [List.mem_append] at member
    rcases member with (inFront | isInstead) | behind
    · exact updates other (by simp [inFront])
    · exact isUpdates other isInstead
    · exact updates other (by simp [behind])
  | told updates same areUpdates _ calm positive isTold none =>
    -- the request to gather stays the last
    obtain ⟨after', rfl, rfl⟩ := split_update same isUpdate
    refine .told (before ++ instead ++ after') (by simp) ?_ (.inl rfl) calm positive isTold none
    intro other member
    simp only [List.mem_append] at member
    rcases member with (inFront | isInstead) | behind
    · exact areUpdates other (by simp [inFront])
    · exact isUpdates other isInstead
    · exact areUpdates other (by simp [behind])
  | gathering empty => simp at empty
  | answered empty => simp at empty

/-- An update enters the stream of a node that has not been told to gather. -/
theorem push {item : Item V A} (phase : Phase items present gathering sent false answers)
    (isUpdate : item.isUpdate = true) :
    Phase (items ++ [item]) present gathering (sent + 1) false answers := by
  have nonempty : items ++ [item] ≠ [] := by simp
  cases phase with
  | idle empty absent calm _ none =>
    subst empty
    refine .collecting ?_ (.inr nonempty) calm (Nat.succ_pos sent) rfl none
    intro other member
    obtain rfl : other = item := by simpa using member
    exact isUpdate
  | collecting updates _ calm _ _ none =>
    refine .collecting ?_ (.inr nonempty) calm (Nat.succ_pos sent) rfl none
    intro other member
    rcases List.mem_append.mp member with before | isItem
    · exact updates other before
    · obtain rfl : other = item := by simpa using isItem
      exact isUpdate
  | told _ _ _ _ _ _ isTold => cases isTold
  | gathering _ _ _ _ isTold => cases isTold
  | answered _ _ _ _ isTold => cases isTold

/-- The request to gather enters the stream. -/
theorem tell (phase : Phase items present gathering sent false answers) (positive : 0 < sent) :
    Phase (items ++ [.gather]) present gathering sent true answers := by
  cases phase with
  | idle _ _ _ zero => rw [zero] at positive; cases positive
  | collecting updates busy calm _ _ none =>
    exact .told items rfl updates busy calm positive rfl none
  | told _ _ _ _ _ _ isTold => cases isTold
  | gathering _ _ _ _ isTold => cases isTold
  | answered _ _ _ _ isTold => cases isTold

/-- A node in whose stream there is a request to gather. -/
theorem of_gather (phase : Phase (before ++ .gather :: after) present gathering sent told answers) :
    told = true ∧ 0 < sent ∧ gathering = false ∧ answers = 0 ∧ after = [] ∧ Updates before ∧
      (present = true ∨ before ≠ []) := by
  cases phase with
  | idle empty => simp at empty
  | collecting updates =>
    have isUpdate := updates .gather (by simp)
    cases isUpdate
  | told updates same areUpdates busy calm positive isTold none =>
    obtain ⟨last, rfl⟩ := split_gather same areUpdates
    exact ⟨isTold, positive, calm, none, last, areUpdates, busy⟩
  | gathering empty => simp at empty
  | answered empty => simp at empty

/-- Nothing but the request to gather is left where it is next. -/
theorem before_gather (phase : Phase (before ++ .gather :: after) present gathering sent told answers)
    (settled : Settled before) : before = [] := by
  obtain ⟨-, -, -, -, -, updates, -⟩ := phase.of_gather
  cases before with
  | nil => rfl
  | cons item before =>
    have isUpdate := updates item List.mem_cons_self
    rw [settled item List.mem_cons_self] at isUpdate
    cases isUpdate

theorem mark (phase : Phase (before ++ .gather :: after) true gathering sent told answers)
    (settled : Settled before) : Phase (before ++ after) true true sent told answers := by
  obtain ⟨isTold, positive, -, none, rfl, -, -⟩ := phase.of_gather
  obtain rfl := phase.before_gather settled
  exact .gathering rfl rfl rfl positive isTold none

/-- Nothing but updates is in the stream of a node that is not told to gather. -/
theorem updates (phase : Phase items present gathering sent false answers) : Updates items := by
  cases phase with
  | idle empty =>
    intro item member
    rw [empty] at member
    cases member
  | collecting updates => exact updates
  | told _ _ _ _ _ _ isTold => cases isTold
  | gathering _ _ _ _ isTold => cases isTold
  | answered _ _ _ _ isTold => cases isTold

/-- A node that gathers. -/
theorem of_gathering (phase : Phase items present true sent told answers) :
    items = [] ∧ present = true ∧ 0 < sent ∧ told = true ∧ answers = 0 := by
  cases phase with
  | idle _ _ calm => cases calm
  | collecting _ _ calm => cases calm
  | told _ _ _ _ calm => cases calm
  | gathering empty isPresent _ positive isTold none =>
    exact ⟨empty, isPresent, positive, isTold, none⟩
  | answered _ _ calm => cases calm

theorem commit (phase : Phase items present true sent told answers) :
    Phase items false false sent told (answers + 1) := by
  obtain ⟨empty, -, positive, isTold, none⟩ := phase.of_gathering
  exact .answered empty rfl rfl positive isTold (by rw [none])

/-- A node that has answered. -/
theorem of_answers (phase : Phase items present gathering sent told answers)
    (positive : 0 < answers) :
    items = [] ∧ present = false ∧ gathering = false ∧ 0 < sent ∧ told = true ∧ answers = 1 := by
  cases phase with
  | idle _ _ _ _ none => rw [none] at positive; cases positive
  | collecting _ _ _ _ _ none => rw [none] at positive; cases positive
  | told _ _ _ _ _ _ _ none => rw [none] at positive; cases positive
  | gathering _ _ _ _ _ none => rw [none] at positive; cases positive
  | answered empty absent calm sends isTold one => exact ⟨empty, absent, calm, sends, isTold, one⟩

theorem absorb (phase : Phase items present gathering sent told answers) (positive : 0 < answers)
    (told' : Bool) : Phase items present gathering 0 told' (answers - 1) := by
  obtain ⟨empty, absent, calm, -, -, one⟩ := phase.of_answers positive
  exact .idle empty absent calm rfl (by rw [one])

end Phase

/-! ## The protocol -/

/-- The order of a reduction: every node is in one of the phases, a node that is told to gather
    is below nodes that were told before and that no update can reach any more, and one that has
    not entered the reduction, or has left it, waits for no child. -/
structure Ordered (t : Tree V) (s : State V A M) : Prop where
  phase : ∀ v, Phase (s.stream v) (s.present v) (s.gathering v) (s.sent v) (s.told v) (s.answers v)
  closed : ∀ v, v ≠ t.root → s.told v = true →
    s.told (t.parent v) = true ∧ 0 < s.sent (t.parent v) ∧ Settled (s.stream (t.parent v))
  absent : ∀ v, v ≠ t.root → s.present (t.parent v) = false → s.sent v = 0 ∧ s.told v = false

theorem settled_nil : Settled ([] : List (Item V A)) := fun _ member => by cases member

theorem Settled.append {items more : List (Item V A)} (settled : Settled items)
    (settled' : Settled more) : Settled (items ++ more) := by
  intro item member
  rcases List.mem_append.mp member with first | second
  · exact settled item first
  · exact settled' item second

theorem settled_gather : Settled ([.gather] : List (Item V A)) := by
  intro item member
  obtain rfl : item = .gather := by simpa using member
  rfl

/-- A stream with an update in it is not settled. -/
theorem not_settled {before after : List (Item V A)} {d : V} {operands : List A} :
    ¬ Settled (before ++ .update d operands :: after) := by
  intro settled
  have isUpdate := settled (.update d operands) (by simp)
  cases isUpdate

namespace Ordered

variable {t : Tree V} {s s' : State V A M}

/-- What is below a node that waits for no child is idle. -/
theorem idle (ordered : Ordered t s) {v : V} (unsent : s.sent v = 0) :
    s.stream v = [] ∧ s.present v = false ∧ s.gathering v = false ∧ s.answers v = 0 := by
  have phase := ordered.phase v
  rw [unsent] at phase
  exact phase.of_unsent

theorem unsent_iterate (ordered : Ordered t s) {v : V}
    (children : ∀ w, w ≠ t.root → t.parent w = v → s.sent w = 0) (n : ℕ) :
    ∀ d, t.parent^[n] d = v → d = v ∨ s.sent d = 0 := by
  induction n with
  | zero => exact fun d isRoot => .inl isRoot
  | succ n ih =>
    intro d isAncestor
    by_cases isRoot : d = t.root
    · subst isRoot
      exact .inl (isAncestor ▸ (t.iterate_root (n + 1)).symm)
    · right
      rcases ih (t.parent d) isAncestor with isChild | unsent
      · exact children d isRoot isChild
      · exact (ordered.absent d isRoot (ordered.idle unsent).2.1).1

/-- Along the ancestors of a node that is told to gather no update is left. -/
theorem settled_iterate (ordered : Ordered t s) (n : ℕ) :
    ∀ v, s.told v = true → t.parent^[n] v = v ∨ Settled (s.stream (t.parent^[n] v)) := by
  induction n with
  | zero => exact fun v _ => .inl rfl
  | succ n ih =>
    intro v told
    by_cases isRoot : v = t.root
    · subst isRoot
      exact .inl (t.iterate_root (n + 1))
    · right
      obtain ⟨isTold, -, settled⟩ := ordered.closed v isRoot told
      rw [Function.iterate_succ_apply]
      rcases ih (t.parent v) isTold with same | above
      · rw [same]
        exact settled
      · exact above

/-- An update that is passed on was not sent to a node that is told to gather. -/
theorem untold {v w d : V} {before after : List (Item V A)} {operands : List A}
    (ordered : Ordered t s) (found : s.stream v = before ++ .update d operands :: after)
    (child : t.Child v w) : s.told w = false := by
  cases told : s.told w with
  | false => rfl
  | true =>
    obtain ⟨-, -, settled⟩ := ordered.closed w child.notRoot told
    rw [child.parent, found] at settled
    exact absurd settled not_settled

/-- What the order is about. -/
theorem congr (ordered : Ordered t s) (stream : s'.stream = s.stream)
    (present : s'.present = s.present) (gathering : s'.gathering = s.gathering)
    (sent : s'.sent = s.sent) (told : s'.told = s.told) (answers : s'.answers = s.answers) :
    Ordered t s' where
  phase v := by
    rw [stream, present, gathering, sent, told, answers]
    exact ordered.phase v
  closed v notRoot isTold := by
    rw [told, sent, stream]
    exact ordered.closed v notRoot (told ▸ isTold)
  absent v notRoot gone := by
    rw [sent, told]
    exact ordered.absent v notRoot (present ▸ gone)

variable [DecidableEq V]

/-- An update that enters the stream of a node. -/
theorem push {w : V} {item : Item V A} (ordered : Ordered t s) (isUpdate : item.isUpdate = true)
    (untold : s.told w = false) (enters : w ≠ t.root → s.present (t.parent w) = true) :
    Ordered t ((s.push w item).setSent w (s.sent w + 1)) where
  phase v := by
    by_cases same : v = w
    · subst same
      have phase := ordered.phase v
      rw [untold] at phase
      simpa [State.push, State.setStream, State.setSent, untold] using phase.push isUpdate
    · simpa [State.push, State.setStream, State.setSent, same] using ordered.phase v
  closed v notRoot told := by
    obtain ⟨isTold, positive, settled⟩ := ordered.closed v notRoot told
    -- the parent is told to gather, and the update is for a node that is not
    have other : t.parent v ≠ w := by
      rintro same
      rw [same, untold] at isTold
      cases isTold
    simpa [State.push, State.setStream, State.setSent, other] using And.intro isTold ⟨positive, settled⟩
  absent v notRoot gone := by
    obtain ⟨unsent, notTold⟩ := ordered.absent v notRoot gone
    have other : v ≠ w := by
      rintro rfl
      have isPresent := enters notRoot
      have isGone : s.present (t.parent v) = false := gone
      rw [isGone] at isPresent
      cases isPresent
    simpa [State.push, State.setStream, State.setSent, other] using And.intro unsent notTold

/-- The request to gather enters the stream of a node. -/
theorem tell {w : V} (ordered : Ordered t s) (untold : s.told w = false) (positive : 0 < s.sent w)
    (follows : w ≠ t.root → s.told (t.parent w) = true ∧ 0 < s.sent (t.parent w) ∧
      Settled (s.stream (t.parent w))) :
    Ordered t ((s.push w .gather).setTold w true) where
  phase v := by
    by_cases same : v = w
    · subst same
      have phase := ordered.phase v
      rw [untold] at phase
      simpa [State.push, State.setStream, State.setTold] using phase.tell positive
    · simpa [State.push, State.setStream, State.setTold, same] using ordered.phase v
  closed v notRoot told := by
    have isClosed : s.told (t.parent v) = true ∧ 0 < s.sent (t.parent v) ∧
        Settled (s.stream (t.parent v)) := by
      by_cases same : v = w
      · subst same
        exact follows notRoot
      · exact ordered.closed v notRoot
          (by simpa [State.push, State.setStream, State.setTold, same] using told)
    have other : t.parent v ≠ w := by
      intro same
      rw [same, untold] at isClosed
      cases isClosed.1
    simpa [State.push, State.setStream, State.setTold, other] using isClosed
  absent v notRoot gone := by
    obtain ⟨unsent, notTold⟩ := ordered.absent v notRoot gone
    have other : v ≠ w := by
      rintro rfl
      rw [unsent] at positive
      cases positive
    simpa [State.push, State.setStream, State.setTold, other] using And.intro unsent notTold

/-- An update leaves the stream of a node, or an operand of it. -/
theorem replace {v : V} {before after instead : List (Item V A)} {item : Item V A}
    (ordered : Ordered t s) (found : s.stream v = before ++ item :: after)
    (isUpdate : item.isUpdate = true) (isUpdates : Updates instead) :
    Ordered t ((s.setStream v (before ++ instead ++ after)).setPresent v true) where
  phase u := by
    by_cases same : u = v
    · subst same
      have phase := ordered.phase u
      rw [found] at phase
      simpa [State.setStream, State.setPresent] using phase.replace isUpdate isUpdates
    · simpa [State.setStream, State.setPresent, same] using ordered.phase u
  closed u notRoot told := by
    obtain ⟨isTold, positive, settled⟩ := ordered.closed u notRoot told
    have other : t.parent u ≠ v := by
      intro same
      rw [same, found] at settled
      have isNot := settled item (by simp)
      rw [isUpdate] at isNot
      cases isNot
    simpa [State.setStream, State.setPresent, other] using And.intro isTold ⟨positive, settled⟩
  absent u notRoot gone := by
    apply ordered.absent u notRoot
    by_cases same : t.parent u = v
    · simp [State.setStream, State.setPresent, same] at gone
    · simpa [State.setStream, State.setPresent, same] using gone

/-- The request to gather leaves the stream of a node that has passed it on. -/
theorem mark {v : V} {before after : List (Item V A)} (ordered : Ordered t s)
    (found : s.stream v = before ++ .gather :: after) (settled : Settled before)
    (isPresent : s.present v = true) :
    Ordered t ((s.setStream v (before ++ after)).setGathering v true) where
  phase u := by
    by_cases same : u = v
    · subst same
      have phase := ordered.phase u
      rw [found, isPresent] at phase
      simpa [State.setStream, State.setGathering, isPresent] using phase.mark settled
    · simpa [State.setStream, State.setGathering, same] using ordered.phase u
  closed u notRoot told := by
    obtain ⟨isTold, positive, isSettled⟩ := ordered.closed u notRoot told
    by_cases same : t.parent u = v
    · rw [same, found] at isSettled
      have rest : Settled (before ++ after) :=
        settled.append fun item member => isSettled item (by simp [member])
      subst same
      simpa [State.setStream, State.setGathering] using And.intro isTold ⟨positive, rest⟩
    · simpa [State.setStream, State.setGathering, same] using
        And.intro isTold ⟨positive, isSettled⟩
  absent u notRoot gone := ordered.absent u notRoot gone

/-- A node that answers its parent waits for no child. -/
theorem leave {v : V} (ordered : Ordered t s) (gathers : s.gathering v = true)
    (children : ∀ w, w ≠ t.root → t.parent w = v → s.sent w = 0) : Ordered t (s.leave t v) where
  phase u := by
    have phase := ordered.phase u
    by_cases same : u = v
    · subst same
      rw [gathers] at phase
      -- a child of itself would not be told to gather, as nothing was sent to it
      have kept : ¬ (u ≠ t.root ∧ t.parent u = u) := by
        rintro ⟨notRoot, own⟩
        have positive := phase.of_gathering.2.2.1
        rw [children u notRoot own] at positive
        cases positive
      rw [State.leave_told_of_ne kept]
      simpa [State.leave] using phase.commit
    · by_cases isChild : u ≠ t.root ∧ t.parent u = v
      · have unsent := children u isChild.1 isChild.2
        rw [unsent] at phase
        obtain ⟨empty, absent, calm, none⟩ := phase.of_unsent
        refine .idle empty ?_ ?_ unsent ?_
        · simpa [State.leave, same] using absent
        · simpa [State.leave, same] using calm
        · simpa [State.leave, same] using none
      · rw [State.leave_told_of_ne isChild]
        simpa [State.leave, same] using phase
  closed u notRoot told := by
    have old : s.told u = true := by
      by_cases isChild : u ≠ t.root ∧ t.parent u = v
      · rw [State.leave_told_self isChild.1 isChild.2] at told
        cases told
      · rwa [State.leave_told_of_ne isChild] at told
    obtain ⟨isTold, positive, settled⟩ := ordered.closed u notRoot old
    -- a parent that is itself a child of the node was sent nothing
    have kept : ¬ (t.parent u ≠ t.root ∧ t.parent (t.parent u) = v) := by
      rintro ⟨parentNotRoot, isChild⟩
      rw [children _ parentNotRoot isChild] at positive
      cases positive
    rw [State.leave_told_of_ne kept]
    exact ⟨isTold, positive, settled⟩
  absent u notRoot gone := by
    by_cases isChild : t.parent u = v
    · exact ⟨children u notRoot isChild, State.leave_told_self notRoot isChild⟩
    · have old : s.present (t.parent u) = false := by simpa [State.leave, isChild] using gone
      rw [State.leave_told_of_ne fun child => isChild child.2]
      exact ordered.absent u notRoot old

/-- The answer of a node is taken; what was noted of it as told may be dropped for the root. -/
theorem absorb {w : V} (ordered : Ordered t s) (answered : 0 < s.answers w) :
    Ordered t ((s.setAnswers w (s.answers w - 1)).setSent w 0) ∧
      (w = t.root → Ordered t (((s.setAnswers w (s.answers w - 1)).setSent w 0).setTold w
        false)) := by
  obtain ⟨-, gone, -, -, -, -⟩ := (ordered.phase w).of_answers answered
  have phase : ∀ told', Phase (s.stream w) (s.present w) (s.gathering w) 0 told' (s.answers w - 1) :=
    fun told' => (ordered.phase w).absorb answered told'
  -- no child of the node is told to gather any more
  have other : ∀ u, u ≠ t.root → s.told u = true → t.parent u ≠ w := by
    rintro u notRoot told rfl
    rw [(ordered.absent u notRoot gone).2] at told
    cases told
  constructor
  · constructor
    · intro u
      by_cases same : u = w
      · subst same
        simpa [State.setAnswers, State.setSent] using phase (s.told u)
      · simpa [State.setAnswers, State.setSent, same] using ordered.phase u
    · intro u notRoot told
      simpa [State.setAnswers, State.setSent, other u notRoot told] using
        ordered.closed u notRoot told
    · intro u notRoot isGone
      obtain ⟨unsent, untold⟩ := ordered.absent u notRoot isGone
      by_cases same : u = w
      · subst same
        simpa [State.setAnswers, State.setSent] using untold
      · simpa [State.setAnswers, State.setSent, same] using And.intro unsent untold
  · rintro rfl
    constructor
    · intro u
      by_cases same : u = t.root
      · subst same
        simpa [State.setAnswers, State.setSent, State.setTold] using phase false
      · simpa [State.setAnswers, State.setSent, State.setTold, same] using ordered.phase u
    · intro u notRoot told
      have old : s.told u = true := by
        simpa [State.setAnswers, State.setSent, State.setTold, notRoot] using told
      simpa [State.setAnswers, State.setSent, State.setTold, other u notRoot old] using
        ordered.closed u notRoot old
    · intro u notRoot isGone
      simpa [State.setAnswers, State.setSent, State.setTold, notRoot] using
        ordered.absent u notRoot isGone

variable [AddCommMonoid M] {value : A → M}

/-- Every step keeps the order. -/
theorem step (ordered : Ordered t s) (stepped : Step t value s s') : Ordered t s' := by
  cases stepped with
  | issue d operands untold =>
    exact (ordered.push rfl untold fun notRoot => absurd rfl notRoot).congr rfl rfl rfl rfl rfl rfl
  | ask untold _ positive =>
    exact ordered.tell untold positive fun notRoot => absurd rfl notRoot
  | take v before after a operands found =>
    have updates : Updates (Item.rest (A := A) v operands) := by
      cases operands with
      | nil =>
        intro item member
        cases member
      | cons b operands =>
        intro item member
        obtain rfl : item = .update v (b :: operands) := by simpa [Item.rest] using member
        rfl
    exact (ordered.replace found rfl updates).congr rfl rfl rfl rfl rfl rfl
  | forward v w d before after operands found child =>
    have taken : Ordered t ((s.setStream v (before ++ [] ++ after)).setPresent v true) :=
      ordered.replace found rfl fun item member => by cases member
    rw [List.append_nil] at taken
    have enters : w ≠ t.root →
        ((s.setStream v (before ++ after)).setPresent v true).present (t.parent w) = true := by
      intro _
      simp [State.setPresent, child.parent]
    have isUpdate : (Item.update d operands).isUpdate = true := rfl
    have untold := ordered.untold found child
    exact (taken.push isUpdate untold enters).congr rfl rfl rfl rfl rfl rfl
  | tell v w before after found settled child positive untold =>
    refine ordered.tell untold positive fun _ => ?_
    have phase := ordered.phase v
    rw [found] at phase
    obtain ⟨isTold, sent, -, -, rfl, -, -⟩ := phase.of_gather
    rw [child.parent, found]
    exact ⟨isTold, sent, settled.append settled_gather⟩
  | mark v before after found settled isPresent => exact ordered.mark found settled isPresent
  | finish v a held => exact ordered.congr rfl rfl rfl rfl rfl rfl
  | commit v _ gathers _ children =>
    exact (ordered.leave gathers children).congr rfl rfl rfl rfl rfl rfl
  | absorb w _ answered => exact (ordered.absorb answered).1
  | report answered => exact (ordered.absorb answered).2 rfl

end Ordered

end GatherTree

import Mathlib.Logic.Relation
import Mathlib.Tactic.Abel
import ActiveRouting.Library.GatherTree

/-!
# The accounts of a reduction over a tree

What was issued for a node is in the total, or in its result, or one of the operands that
it holds, or on the way to it.  A node that answers its parent has nothing left below it,
so that the total then has all that was issued for the nodes below.
-/

namespace GatherTree

variable {V A M : Type}

variable [DecidableEq V] [AddCommMonoid M] {t : Tree V} {value : A → M} {s s' : State V A M}

/-- What is on its way to a node. -/
def inFlight (t : Tree V) (value : A → M) (s : State V A M) (d : V) : M :=
  ∑ v ∈ t.nodes, Item.weighAll value d (s.stream v)

theorem inFlight_congr (same : s'.stream = s.stream) (d : V) :
    inFlight t value s' d = inFlight t value s d := by rw [inFlight, same, inFlight]

theorem inFlight_eq {v : V} (inside : v ∈ t.nodes) (d : V) :
    inFlight t value s d = Item.weighAll value d (s.stream v) +
      ∑ u ∈ t.nodes.erase v, Item.weighAll value d (s.stream u) :=
  (Finset.add_sum_erase t.nodes _ inside).symm

theorem inFlight_setStream {v : V} (inside : v ∈ t.nodes) (items : List (Item V A)) (d : V) :
    inFlight t value (s.setStream v items) d = Item.weighAll value d items +
      ∑ u ∈ t.nodes.erase v, Item.weighAll value d (s.stream u) := by
  rw [inFlight_eq inside]
  congr 1
  · simp [State.setStream]
  · apply Finset.sum_congr rfl
    intro u other
    simp [State.setStream, (Finset.mem_erase.mp other).1]

theorem inFlight_push {w : V} (inside : w ∈ t.nodes) (item : Item V A) (d : V) :
    inFlight t value (s.push w item) d = inFlight t value s d + Item.weigh value d item := by
  rw [State.push, inFlight_setStream inside, inFlight_eq inside]
  simp only [Item.weighAll_append, Item.weighAll_cons, Item.weighAll_nil, add_zero]
  abel

/-- Nothing that was issued for a node is lost or counted twice, and every update is on the
    way to its node. -/
structure Accounted (t : Tree V) (value : A → M) (s : State V A M) : Prop where
  routed : ∀ v d operands, .update d operands ∈ s.stream v → t.Above v d ∧ operands ≠ []
  inside : ∀ v, s.stream v ≠ [] → v ∈ t.nodes
  vacant : ∀ v, s.present v = false → s.held v = 0 ∧ s.result v = 0
  balance : ∀ d, s.issued d =
    s.committed d + s.result d + ((s.held d).map value).sum + inFlight t value s d

namespace Accounted

theorem mem_inside (accounted : Accounted t value s) {v : V} {before after : List (Item V A)}
    {item : Item V A} (found : s.stream v = before ++ item :: after) : v ∈ t.nodes :=
  accounted.inside v (by simp [found])

/-- The part of the accounts that is about streams, for a step that removes items from one. -/
theorem shrink (accounted : Accounted t value s) {v : V} (items : List (Item V A))
    (fewer : ∀ d operands, .update d operands ∈ items →
      (.update d operands ∈ s.stream v ∨ t.Above v d ∧ operands ≠ []))
    (nonempty : items ≠ [] → v ∈ t.nodes) :
    (∀ u d operands, .update d operands ∈ (s.setStream v items).stream u →
      t.Above u d ∧ operands ≠ []) ∧ ∀ u, (s.setStream v items).stream u ≠ [] → u ∈ t.nodes := by
  constructor
  · intro u d operands member
    by_cases same : u = v
    · subst same
      rcases fewer d operands (by simpa [State.setStream] using member) with old | new
      · exact accounted.routed u d operands old
      · exact new
    · exact accounted.routed u d operands (by simpa [State.setStream, same] using member)
  · intro u isBusy
    by_cases same : u = v
    · subst same
      exact nonempty (by simpa [State.setStream] using isBusy)
    · exact accounted.inside u (by simpa [State.setStream, same] using isBusy)

theorem vacant_update (accounted : Accounted t value s) {v u : V}
    (gone : Function.update s.present v true u = false) : u ≠ v ∧ s.held u = 0 ∧ s.result u = 0 := by
  by_cases same : u = v
  · simp [same] at gone
  · exact ⟨same, accounted.vacant u (by simpa [same] using gone)⟩

theorem issue (accounted : Accounted t value s) {d : V} {operands : List A}
    (inside : t.root ∈ t.nodes) (above : t.Above t.root d) (some : operands ≠ []) :
    Accounted t value (((s.push t.root (.update d operands)).setSent t.root
      (s.sent t.root + 1)).issue d (operands.map value).sum) := by
  obtain ⟨routed, isInside⟩ := accounted.shrink (v := t.root)
    (s.stream t.root ++ [.update d operands])
    (fun e others member => by
      rcases List.mem_append.mp member with old | new
      · exact .inl old
      · obtain ⟨rfl, rfl⟩ : e = d ∧ others = operands := by simpa using new
        exact .inr ⟨above, some⟩) fun _ => inside
  refine ⟨routed, isInside, accounted.vacant, ?_⟩
  intro e
  have flight : inFlight t value (s.push t.root (.update d operands)) e =
      inFlight t value s e + Item.weigh value e (.update d operands) :=
    inFlight_push inside (.update d operands) e
  have same : inFlight t value (((s.push t.root (.update d operands)).setSent t.root
      (s.sent t.root + 1)).issue d (operands.map value).sum) e =
        inFlight t value (s.push t.root (.update d operands)) e := inFlight_congr rfl e
  rw [same, flight, ← add_assoc]
  have balance := accounted.balance e
  by_cases isDest : e = d
  · subst isDest
    simpa [State.issue, State.setSent, State.push, State.setStream, Item.weigh] using
      congrArg (· + (operands.map value).sum) balance
  · have notDest : ¬ d = e := fun same => isDest same.symm
    simpa [State.issue, State.setSent, State.push, State.setStream, Item.weigh, isDest, notDest]
      using balance

/-- A request to gather is pushed. -/
theorem pushGather (accounted : Accounted t value s) {w : V} (inside : w ∈ t.nodes) :
    Accounted t value (s.push w .gather) := by
  obtain ⟨routed, isInside⟩ := accounted.shrink (v := w) (s.stream w ++ [.gather])
    (fun d operands member => .inl (by simpa using member)) fun _ => inside
  refine ⟨routed, isInside, accounted.vacant, ?_⟩
  intro d
  rw [inFlight_push inside, Item.weigh_gather, add_zero]
  exact accounted.balance d

theorem mark (accounted : Accounted t value s) {v : V} {before after : List (Item V A)}
    (found : s.stream v = before ++ .gather :: after) :
    Accounted t value ((s.setStream v (before ++ after)).setGathering v true) := by
  have inside := accounted.mem_inside found
  obtain ⟨routed, isInside⟩ := accounted.shrink (v := v) (before ++ after)
    (fun d operands member => .inl (by
      rw [found]
      rcases List.mem_append.mp member with first | second
      · simp [first]
      · simp [second])) fun _ => inside
  refine ⟨routed, isInside, accounted.vacant, ?_⟩
  intro d
  have same : inFlight t value ((s.setStream v (before ++ after)).setGathering v true) d =
      inFlight t value (s.setStream v (before ++ after)) d := inFlight_congr rfl d
  have balance := accounted.balance d
  rw [inFlight_eq inside, found] at balance
  rw [same, inFlight_setStream inside]
  simpa [State.setStream, State.setGathering] using balance

/-- A node takes an operand. -/
theorem take (accounted : Accounted t value s) {v : V} {before after : List (Item V A)} {a : A}
    {operands : List A} (found : s.stream v = before ++ .update v (a :: operands) :: after) :
    Accounted t value (((s.setStream v (before ++ Item.rest v operands ++ after)).setPresent v
      true).setHeld v (a ::ₘ s.held v)) := by
  have inside := accounted.mem_inside found
  have isRouted := accounted.routed v v (a :: operands) (by simp [found])
  obtain ⟨routed, isInside⟩ := accounted.shrink (v := v)
    (before ++ Item.rest v operands ++ after) (fun d others member => by
      rw [List.mem_append, List.mem_append] at member
      rcases member with (inFront | isRest) | behind
      · exact .inl (by simp [found, inFront])
      · cases operands with
        | nil => cases isRest
        | cons b operands =>
          obtain ⟨rfl, rfl⟩ : d = v ∧ others = b :: operands := by simpa [Item.rest] using isRest
          exact .inr ⟨isRouted.1, List.cons_ne_nil b operands⟩
      · exact .inl (by simp [found, behind])) fun _ => inside
  refine ⟨routed, isInside, ?_, ?_⟩
  · intro u gone
    obtain ⟨other, vacant⟩ := accounted.vacant_update gone
    simpa [State.setHeld, State.setPresent, State.setStream, other] using vacant
  · intro d
    have same : inFlight t value (((s.setStream v (before ++ Item.rest v operands ++
        after)).setPresent v true).setHeld v (a ::ₘ s.held v)) d =
          inFlight t value (s.setStream v (before ++ Item.rest v operands ++ after)) d :=
      inFlight_congr rfl d
    have balance := accounted.balance d
    rw [inFlight_eq inside, found] at balance
    rw [same, inFlight_setStream inside]
    simp only [Item.weighAll_append, Item.weighAll_cons, Item.weighAll_rest] at balance ⊢
    by_cases isDest : d = v
    · subst isDest
      simp only [State.setHeld, State.setPresent, State.setStream, Function.update_self,
        Multiset.map_cons, Multiset.sum_cons, Item.weigh, if_pos, List.map_cons,
        List.sum_cons] at balance ⊢
      rw [balance]
      abel
    · have notDest : ¬ v = d := fun same => isDest same.symm
      simpa [State.setHeld, State.setPresent, State.setStream, Item.weigh, isDest, notDest] using
        balance

/-- An update is passed on. -/
theorem forward (accounted : Accounted t value s) {v w d : V} {before after : List (Item V A)}
    {operands : List A} (found : s.stream v = before ++ .update d operands :: after)
    (child : t.Child v w) (above : t.Above w d) :
    Accounted t value ((((s.setStream v (before ++ after)).push w (.update d operands)).setPresent v
      true).setSent w (s.sent w + 1)) := by
  have inside := accounted.mem_inside found
  have isRouted := accounted.routed v d operands (by simp [found])
  refine ⟨?_, ?_, ?_, ?_⟩
  · intro u e others member
    by_cases isChild : u = w
    · subst isChild
      have split : .update e others ∈ s.stream u ∨ e = d ∧ others = operands := by
        simpa [State.setSent, State.setPresent, State.push, State.setStream, child.ne] using member
      rcases split with old | ⟨rfl, rfl⟩
      · exact accounted.routed u e others old
      · exact ⟨above, isRouted.2⟩
    · by_cases isNode : u = v
      · subst isNode
        have old : .update e others ∈ before ∨ .update e others ∈ after := by
          simpa [State.setSent, State.setPresent, State.push, State.setStream, isChild] using member
        apply accounted.routed u e others
        rw [found]
        rcases old with first | second
        · simp [first]
        · simp [second]
      · apply accounted.routed u e others
        simpa [State.setSent, State.setPresent, State.push, State.setStream, isChild, isNode] using
          member
  · intro u isBusy
    by_cases isChild : u = w
    · exact isChild ▸ child.inside
    · by_cases isNode : u = v
      · exact isNode ▸ inside
      · apply accounted.inside u
        simpa [State.setSent, State.setPresent, State.push, State.setStream, isChild, isNode] using
          isBusy
  · intro u gone
    obtain ⟨-, vacant⟩ := accounted.vacant_update gone
    exact vacant
  · intro e
    have same : inFlight t value ((((s.setStream v (before ++ after)).push w (.update d
        operands)).setPresent v true).setSent w (s.sent w + 1)) e =
          inFlight t value ((s.setStream v (before ++ after)).push w (.update d operands)) e :=
      inFlight_congr rfl e
    have balance := accounted.balance e
    rw [inFlight_eq inside, found] at balance
    rw [same, inFlight_push child.inside, inFlight_setStream inside]
    simp only [Item.weighAll_append, Item.weighAll_cons] at balance ⊢
    show s.issued e = s.committed e + s.result e + ((s.held e).map value).sum + _
    rw [balance]
    abel

theorem finish (accounted : Accounted t value s) {v : V} {a : A} {held : Multiset A}
    (isHeld : s.held v = a ::ₘ held) (isPresent : s.present v = true) :
    Accounted t value ((s.setHeld v held).setResult v (s.result v + value a)) where
  routed := accounted.routed
  inside := accounted.inside
  vacant u gone := by
    have other : u ≠ v := by
      rintro rfl
      have isGone : s.present u = false := gone
      rw [isPresent] at isGone
      cases isGone
    simpa [State.setHeld, State.setResult, other] using accounted.vacant u gone
  balance d := by
    have same : inFlight t value ((s.setHeld v held).setResult v (s.result v + value a)) d =
        inFlight t value s d := inFlight_congr rfl d
    have balance := accounted.balance d
    rw [same]
    by_cases isDest : d = v
    · subst isDest
      rw [isHeld, Multiset.map_cons, Multiset.sum_cons] at balance
      simp only [State.setHeld, State.setResult, Function.update_self]
      rw [balance]
      abel
    · simpa [State.setHeld, State.setResult, isDest] using balance

/-- The result of a node that holds no operand goes into the total. -/
theorem commit (accounted : Accounted t value s) {v : V} (nothing : s.held v = 0) :
    Accounted t value ((s.leave t v).bank v) where
  routed := accounted.routed
  inside := accounted.inside
  vacant u gone := by
    by_cases same : u = v
    · subst same
      simpa [State.leave, State.bank] using nothing
    · have vacant := accounted.vacant u (by simpa [State.leave, State.bank, same] using gone)
      simpa [State.leave, State.bank, same] using vacant
  balance d := by
    have same : inFlight t value ((s.leave t v).bank v) d = inFlight t value s d :=
      inFlight_congr rfl d
    rw [same]
    have balance := accounted.balance d
    by_cases isDest : d = v
    · subst isDest
      simpa [State.leave, State.bank] using balance
    · simpa [State.leave, State.bank, isDest] using balance

/-- What the accounts are about. -/
theorem congr (accounted : Accounted t value s) (stream : s'.stream = s.stream)
    (present : s'.present = s.present) (held : s'.held = s.held) (result : s'.result = s.result)
    (issued : s'.issued = s.issued) (committed : s'.committed = s.committed) :
    Accounted t value s' where
  routed := stream ▸ accounted.routed
  inside := stream ▸ accounted.inside
  vacant u gone := by
    rw [held, result]
    exact accounted.vacant u (present ▸ gone)
  balance d := by
    rw [issued, committed, result, held, inFlight_congr stream]
    exact accounted.balance d

/-- Every step keeps the accounts. -/
theorem step (accounted : Accounted t value s) (stepped : Step t value s s') :
    Accounted t value s' := by
  cases stepped with
  | issue d operands _ inside above some => exact accounted.issue inside above some
  | ask _ inside _ => exact (accounted.pushGather inside).congr rfl rfl rfl rfl rfl rfl
  | take v before after a operands found => exact accounted.take found
  | forward v w d before after operands found child above =>
    exact accounted.forward found child above
  | tell v w before after _ _ child =>
    exact (accounted.pushGather child.inside).congr rfl rfl rfl rfl rfl rfl
  | mark v before after found => exact accounted.mark found
  | finish v a held isHeld isPresent => exact accounted.finish isHeld isPresent
  | commit v _ _ nothing => exact accounted.commit nothing
  | absorb w => exact accounted.congr rfl rfl rfl rfl rfl rfl
  | report => exact accounted.congr rfl rfl rfl rfl rfl rfl

end Accounted

/-- Any number of steps. -/
def Steps (t : Tree V) (value : A → M) : State V A M → State V A M → Prop :=
  Relation.ReflTransGen (Step t value)

/-- Some of the operands that a node holds are added up, one after the other. -/
theorem finishes {v : V} (isPresent : s.present v = true) (freed held : Multiset A)
    (isHeld : s.held v = freed + held) : Steps t value s
      ((s.setHeld v held).setResult v (s.result v + (freed.map value).sum)) := by
  induction freed using Multiset.induction generalizing s with
  | empty =>
    have same : (s.setHeld v held).setResult v
        (s.result v + ((0 : Multiset A).map value).sum) = s := by
      rw [zero_add] at isHeld
      simp [State.setHeld, State.setResult, ← isHeld]
    rw [same]
    exact .refl
  | cons a freed ih =>
    rw [Multiset.cons_add] at isHeld
    have first : Step t value s ((s.setHeld v (freed + held)).setResult v (s.result v + value a)) :=
      .finish v a (freed + held) isHeld isPresent
    refine Relation.ReflTransGen.head first ?_
    have rest := ih (s := (s.setHeld v (freed + held)).setResult v (s.result v + value a)) isPresent
      (by simp [State.setHeld, State.setResult])
    have same : (((s.setHeld v (freed + held)).setResult v (s.result v + value a)).setHeld v
        held).setResult v (((s.setHeld v (freed + held)).setResult v
          (s.result v + value a)).result v + (freed.map value).sum) =
        (s.setHeld v held).setResult v (s.result v + ((a ::ₘ freed).map value).sum) := by
      simp [State.setHeld, State.setResult, add_assoc]
    rwa [same] at rest

/-! ## What a node answers for -/

/-- What holds in every state of a reduction. -/
structure Sound (t : Tree V) (value : A → M) (s : State V A M) : Prop where
  ordered : Ordered t s
  accounted : Accounted t value s

/-- No part of the reduction is left at a node, and all that was issued for it is in the
    total. -/
structure Finished (s : State V A M) (d : V) : Prop where
  stream : s.stream d = []
  present : s.present d = false
  held : s.held d = 0
  result : s.result d = 0
  total : s.committed d = s.issued d

namespace Sound

theorem step (sound : Sound t value s) (stepped : Step t value s s') : Sound t value s' :=
  ⟨sound.ordered.step stepped, sound.accounted.step stepped⟩

theorem steps (sound : Sound t value s) (run : Steps t value s s') : Sound t value s' := by
  induction run with
  | refl => exact sound
  | tail _ stepped ih => exact ih.step stepped

/-- A node that was sent nothing has nothing of the reduction. -/
theorem vacant (sound : Sound t value s) {d : V} (unsent : s.sent d = 0) :
    s.stream d = [] ∧ s.present d = false ∧ s.held d = 0 ∧ s.result d = 0 ∧ s.answers d = 0 := by
  obtain ⟨empty, absent, -, none⟩ := sound.ordered.idle unsent
  obtain ⟨held, result⟩ := sound.accounted.vacant d absent
  exact ⟨empty, absent, held, result, none⟩

/-- Nothing is on its way to what is below a node where all streams on the way are settled. -/
theorem inFlight_zero (sound : Sound t value s) {d : V}
    (settled : ∀ u, t.Above u d → Settled (s.stream u)) : inFlight t value s d = 0 := by
  apply Finset.sum_eq_zero
  intro u _
  apply List.sum_eq_zero
  intro weight member
  obtain ⟨item, inStream, rfl⟩ := List.mem_map.mp member
  cases item with
  | gather => rfl
  | update e operands =>
    by_cases isDest : e = d
    · subst isDest
      have isUpdate := settled u (sound.accounted.routed u e operands inStream).1 _ inStream
      cases isUpdate
    · simp [Item.weigh, isDest]

/-- Nothing is on its way to what is below a node that is told to gather, where the node has
    no request left and the nodes below were sent nothing. -/
theorem balance_below (sound : Sound t value s) {v : V} (told : s.told v = true)
    (empty : s.stream v = []) (unsent : ∀ d, t.Above v d → d = v ∨ s.sent d = 0) {d : V}
    (below : t.Above v d) :
    s.issued d = s.committed d + s.result d + ((s.held d).map value).sum := by
  have settled : ∀ u, t.Above u d → Settled (s.stream u) := by
    intro u above
    rcases above.total below with ⟨n, isAbove⟩ | isBelow
    · subst isAbove
      rcases sound.ordered.settled_iterate n v told with same | isSettled
      · rw [same, empty]
        exact settled_nil
      · exact isSettled
    · rcases unsent u isBelow with rfl | isUnsent
      · rw [empty]
        exact settled_nil
      · rw [(sound.vacant isUnsent).1]
        exact settled_nil
  rw [sound.accounted.balance d, sound.inFlight_zero settled, add_zero]

/-- When a node answers its parent, it has finished, and so have all nodes below it. -/
theorem commits (sound : Sound t value s) {v : V} (gathers : s.gathering v = true)
    (nothing : s.held v = 0) (children : ∀ w, w ≠ t.root → t.parent w = v → s.sent w = 0) {d : V}
    (below : t.Above v d) : Finished ((s.leave t v).bank v) d := by
  have phase := sound.ordered.phase v
  rw [gathers] at phase
  obtain ⟨empty, -, -, told, -⟩ := phase.of_gathering
  have unsent : ∀ d, t.Above v d → d = v ∨ s.sent d = 0 := by
    rintro d ⟨n, above⟩
    exact sound.ordered.unsent_iterate children n d above
  have balance := sound.balance_below told empty unsent below
  rcases unsent d below with rfl | isUnsent
  · rw [nothing] at balance
    refine ⟨empty, Function.update_self _ _ _, nothing, Function.update_self _ _ _, ?_⟩
    simpa [State.leave, State.bank] using balance.symm
  · have notSelf : d ≠ v := by
      -- the node itself was sent something
      rintro rfl
      obtain ⟨-, -, calm, -⟩ := sound.ordered.idle isUnsent
      rw [gathers] at calm
      cases calm
    obtain ⟨stream, absent, held, result, -⟩ := sound.vacant isUnsent
    rw [held, result] at balance
    refine ⟨stream, ?_, held, ?_, ?_⟩
    · simpa [State.leave, State.bank, notSelf] using absent
    · simpa [State.leave, State.bank, notSelf] using result
    · simpa [State.leave, State.bank, notSelf] using balance.symm

/-- When the answer of the root is there, all nodes have finished, and no other answer is on
    its way. -/
theorem reports (sound : Sound t value s) (answered : 0 < s.answers t.root) :
    s.told t.root = true ∧ s.answers t.root = 1 ∧
      ∀ d, t.Above t.root d → Finished s d ∧ (d ≠ t.root → s.answers d = 0) := by
  obtain ⟨empty, gone, -, -, told, one⟩ := (sound.ordered.phase t.root).of_answers answered
  have children : ∀ w, w ≠ t.root → t.parent w = t.root → s.sent w = 0 := by
    intro w notRoot isChild
    exact (sound.ordered.absent w notRoot (isChild ▸ gone)).1
  have unsent : ∀ d, t.Above t.root d → d = t.root ∨ s.sent d = 0 := by
    rintro d ⟨n, above⟩
    exact sound.ordered.unsent_iterate children n d above
  refine ⟨told, one, fun d below => ?_⟩
  have balance := sound.balance_below told empty unsent below
  obtain ⟨stream, absent⟩ : s.stream d = [] ∧ s.present d = false := by
    rcases unsent d below with rfl | isUnsent
    · exact ⟨empty, gone⟩
    · exact ⟨(sound.vacant isUnsent).1, (sound.vacant isUnsent).2.1⟩
  obtain ⟨held, result⟩ := sound.accounted.vacant d absent
  rw [held, result] at balance
  refine ⟨⟨stream, absent, held, result, by simpa using balance.symm⟩, fun other => ?_⟩
  exact (sound.vacant ((unsent d below).resolve_left other)).2.2.2.2

end Sound

end GatherTree

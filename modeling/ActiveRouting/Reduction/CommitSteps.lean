import ActiveRouting.Reduction.AnswerSteps

/-!
# Operands that are consumed, and flows that are committed

The operand buffers that an `Update` frees are added up, one after the other, and a flow
entry that is deallocated answers for its part of the tree.
-/

namespace ActiveRouting

open Blocks CrossbarSwitch FlowTables GatherTree Outcome

variable {M : Type}

namespace CubeNetwork

variable {c : CubeNetworkConfig M} {flow : BitVec 64} {cube : ℕ} {packet : Packet}
  {s s' : CubeNetwork M} {t t' : FlowTables}

/-! ## Operands -/

/-- The operands of the flow that were in the operand buffers which are freed. -/
def freedOf (c : CubeNetworkConfig M) (flow : BitVec 64) (t t' : FlowTables) :
    Multiset (BitVec 64 × BitVec 64) :=
  ∑ id ∈ Finset.range c.operandBufSize,
    if t'.operandBuffers id = none then heldAt flow (t.operandBuffers id) else 0

/-- What a cube holds is freed or still held. -/
theorem heldOf_frees (frees : Frees t t') : heldOf c flow t = freedOf c flow t t' + heldOf c flow t' := by
  rw [heldOf, heldOf, freedOf, ← Finset.sum_add_distrib]
  apply Finset.sum_congr rfl
  intro id _
  by_cases freed : t'.operandBuffers id = none
  · rw [if_pos freed, freed, heldAt_none, add_zero]
  · have same := (frees.operands id).resolve_left freed
    rw [if_neg freed, zero_add, heldAt_reservation same]

/-- An entry of the same standing. -/
theorem withEntry_standing (connected : c.Connected) {entry : Option FlowEntry}
    {held : Multiset (BitVec 64 × BitVec 64)}
    (same : entry.map standing = (entriesOf flow s cube).map standing) :
    withEntry c flow s cube entry held (streamOf c flow s) = (view c flow s).setHeld cube held := by
  have present : entry.isSome = (entriesOf flow s cube).isSome := by
    rw [← Option.isSome_map (f := standing), same, Option.isSome_map]
  have fields : ∀ {β : Type} (field : ℤ × (Fin numLinks → ℕ) × (Fin numLinks → Bool) × Bool → β),
      entry.map (fun e => field (standing e)) =
        (entriesOf flow s cube).map fun e => field (standing e) := by
    intro β field
    have mapped := congrArg (Option.map field) same
    rwa [Option.map_map, Option.map_map] at mapped
  refine GatherTree.State.ext rfl ?_ (gathering_same c ?_) (sentOf_same connected ?_)
    (toldOf_same connected ?_) rfl rfl rfl rfl rfl
  · funext v
    by_cases isCube : v = cube
    · subst isCube
      simp [withEntry, view, State.setHeld, present]
    · simp [withEntry, view, State.setHeld, isCube]
  · have flags : entry.map FlowEntry.g_flag = (entriesOf flow s cube).map FlowEntry.g_flag :=
      fields fun standing => standing.2.2.2
    have any : ∀ e : Option FlowEntry, e.any FlowEntry.g_flag = (e.map FlowEntry.g_flag).any id :=
      fun e => by cases e <;> rfl
    rw [any, any, flags]
  · intro link
    exact congrArg (fun count => count.getD 0) (fields fun standing => standing.2.1 link)
  · intro link
    exact congrArg (fun flag => flag.getD false) (fields fun standing => standing.2.2.1 link)

section

variable [AddCommMonoid M]

theorem sum_freedOf (t t' : FlowTables) :
    ((freedOf c flow t t').map c.amount).sum = consumed c t t' flow := by
  have additive : ((freedOf c flow t t').map c.amount).sum =
      ∑ id ∈ Finset.range c.operandBufSize, ((if t'.operandBuffers id = none then
        heldAt flow (t.operandBuffers id) else 0).map c.amount).sum :=
    map_sum (Multiset.sumAddMonoidHom.comp (Multiset.mapAddMonoidHom c.amount)) _ _
  rw [additive, consumed]
  apply Finset.sum_congr rfl
  intro id _
  cases after : t'.operandBuffers id with
  | some e => cases t.operandBuffers id <;> rfl
  | none =>
    cases before : t.operandBuffers id with
    | none => rfl
    | some e =>
      by_cases isFlow : e.flowID = flow
      · simp [heldAt, isFlow]
      · simp [heldAt, isFlow]

/-- The operands of a cube are processed. -/
theorem processed_steps (connected : c.Connected)
    (sound : Sound (c.tree flow) c.amount (view c flow s))
    (processes : processOperands (c.cube cube) (s.cubes cube).tables = .ok t')
    (cubes : s'.cubes = Function.update s.cubes cube ((s.cubes cube).setTables t'))
    (requests : s'.requests = s.requests) (responses : s'.responses = s.responses)
    (issued : s'.issued = s.issued) (asked : s'.asked = s.asked)
    (entered : s'.entered = s.entered) (committed : s'.committed = s.committed)
    (results : s'.results = Function.update s.results cube fun flow =>
      s.results cube flow + consumed c (s.cubes cube).tables t' flow) :
    Steps (c.tree flow) c.amount (view c flow s) (view c flow s') := by
  have frees := Frees.processOperands processes
  have isHeld : (view c flow s).held cube =
      freedOf c flow (s.cubes cube).tables t' + heldOf c flow t' := heldOf_frees frees
  have answers : answersOf c flow s' = answersOf c flow s := by
    apply answersOf_congr responses
    intro v
    rw [cubes]
    by_cases isCube : v = cube
    · subst isCube
      simp [CrossbarSwitch.setTables]
    · simp [isCube]
  have viewed : view c flow s' = ((view c flow s).setHeld cube (heldOf c flow t')).setResult cube
      ((view c flow s).result cube + ((freedOf c flow (s.cubes cube).tables t').map c.amount).sum) := by
    have standing : withEntry c flow s cube (t'.flowTable flow) (heldOf c flow t')
        (streamOf c flow s) = _ := withEntry_standing connected (frees.flows flow)
    have tables : ((s.cubes cube).setTables t').tables = t' := rfl
    rw [view_of_up cubes rfl requests issued asked entered, tables, standing, sum_freedOf, answers,
      committed]
    refine GatherTree.State.ext rfl rfl rfl rfl rfl rfl ?_ rfl rfl rfl
    funext v
    by_cases isCube : v = cube
    · subst isCube
      simp [State.setResult, view, results]
    · simp [State.setResult, State.setHeld, view, results, isCube]
  rw [viewed]
  cases isPresent : (view c flow s).present cube with
  | true => exact finishes isPresent _ _ isHeld
  | false =>
    -- a cube that has no entry for the flow holds nothing for it
    obtain ⟨none, -⟩ := sound.accounted.vacant cube isPresent
    rw [none] at isHeld
    have noneFreed : freedOf c flow (s.cubes cube).tables t' = 0 :=
      Multiset.le_zero.mp (isHeld ▸ Multiset.le_add_right _ _)
    have noneHeld : heldOf c flow t' = 0 :=
      Multiset.le_zero.mp (isHeld ▸ Multiset.le_add_left _ _)
    have same : ((view c flow s).setHeld cube (heldOf c flow t')).setResult cube
        ((view c flow s).result cube +
          ((freedOf c flow (s.cubes cube).tables t').map c.amount).sum) = view c flow s := by
      have held : Function.update (view c flow s).held cube 0 = (view c flow s).held :=
        Function.update_eq_self_iff.mpr none.symm
      simp [noneFreed, noneHeld, State.setHeld, State.setResult, held]
    rw [same]
    exact .refl

end

/-! ## Flows that are committed -/

/-- The operand buffers that hold something for the flow are those that are reserved for it. -/
theorem card_heldOf (c : CubeNetworkConfig M) (t : FlowTables) :
    (heldOf c flow t).card = t.held (c.cube cube) flow := by
  rw [heldOf, FlowTables.held, Multiset.card_sum]
  apply Finset.sum_congr rfl
  intro id _
  cases t.operandBuffers id with
  | none => rfl
  | some e =>
    by_cases isFlow : e.flowID = flow
    · rw [heldAt_self e isFlow, ← isFlow, reservedFor_self]
      rfl
    · rw [heldAt_other isFlow, reservedFor_other isFlow]
      rfl

/-- Where all updates of a flow are counted, nothing is held and no child is waited for. -/
theorem settled_of_counts (placed : CubePlaced c cube (s.cubes cube)) {e : FlowEntry}
    (found : (s.cubes cube).tables.flowTable flow = some e) (counts : e.req_count = e.rep_count) :
    heldOf c flow (s.cubes cube).tables = 0 ∧ ∀ link, e.children_count link = 0 := by
  have balance := placed.balanced.counted flow e found
  simp only [settled, add_zero] at balance
  have noneHeld : (s.cubes cube).tables.held (c.cube cube) flow = 0 := by omega
  have noneAwaited : ∑ link, e.children_count link = 0 := by
    have awaited : e.awaited = 0 := by omega
    exact awaited
  refine ⟨Multiset.card_eq_zero.mp ((card_heldOf c _).trans noneHeld), fun link => ?_⟩
  exact Finset.sum_eq_zero_iff.mp noneAwaited link (Finset.mem_univ link)

/-- No child of a cube that waits for none is still counted. -/
theorem unsent_of_counts (connected : c.Connected) {e : FlowEntry}
    (found : entriesOf flow s cube = some e) (none : ∀ link, e.children_count link = 0) (w : ℕ)
    (notRoot : w ≠ (c.tree flow).root) (isParent : (c.tree flow).parent w = cube) :
    (view c flow s).sent w = 0 := by
  by_cases inside : w < c.net.nodes
  · refine (sentOf_child (child_of_parent connected inside notRoot isParent)).trans ?_
    rw [found]
    exact none _
  · exact (if_neg notRoot).trans (if_neg inside)

/-- The entry of a flow is deallocated. -/
theorem withEntry_none (connected : c.Connected) {e : FlowEntry}
    (found : entriesOf flow s cube = some e) (none : ∀ link, e.children_count link = 0)
    {held : Multiset (BitVec 64 × BitVec 64)} (holds : (view c flow s).held cube = held) :
    withEntry c flow s cube Option.none held (streamOf c flow s) =
      { (view c flow s).leave (c.tree flow) cube with answers := (view c flow s).answers } := by
  subst holds
  refine GatherTree.State.ext rfl ?_ ?_ (sentOf_same connected fun link => ?_) ?_
    (Function.update_eq_self _ _) rfl rfl rfl rfl
  · funext v
    by_cases isCube : v = cube
    · subst isCube
      simp [withEntry, State.leave]
    · simp [withEntry, State.leave, view, isCube]
  · funext v
    by_cases isCube : v = cube
    · subst isCube
      simp [withEntry, State.leave]
    · simp [withEntry, State.leave, view, isCube]
  · rw [found, Option.map_none, Option.getD_none]
    exact (none link).symm
  · funext w
    show toldOf c flow (Function.update (entriesOf flow s) cube Option.none) (s.asked flow) w =
      ((view c flow s).leave (c.tree flow) cube).told w
    by_cases below : w ≠ (c.tree flow).root ∧ (c.tree flow).parent w = cube
    · rw [State.leave_told_self below.1 below.2]
      by_cases inside : w < c.net.nodes
      · rw [toldOf_child (child_of_parent connected inside below.1 below.2), Function.update_self]
        rfl
      · exact (if_neg below.1).trans (if_neg inside)
    · rw [State.leave_told_of_ne below]
      refine toldOf_other connected (fun child => below ?_) Option.none
      exact ⟨child.notRoot, child.parent⟩

section

variable [AddCommMonoid M]

variable {s₁ : CubeNetwork M} {committed : BitVec 64} {link : Fin numLinks} {parent : ℤ}

/-- The state in which the entry of a flow is deallocated. -/
def deallocated (s : CubeNetwork M) (cube : ℕ) (flow : BitVec 64) : CubeNetwork M :=
  s.setCube cube ((s.cubes cube).setTables ((s.cubes cube).tables.setFlow flow none))

omit [AddCommMonoid M] in
theorem movedUp_of_commit {sent : List (Port × Packet)}
    (sends : SendsUp (s.deallocated cube committed) s₁ cube sent) :
    MovedUp s s₁ cube 0 (contents ((s.cubes cube).upBuffers 0))
      (contents ((s.cubes cube).upBuffers 0)) (sentOn cube sent) := by
  have up : ((s.cubes cube).setTables ((s.cubes cube).tables.setFlow committed none)).upBuffers =
      Function.update (s.cubes cube).upBuffers 0 ((s.cubes cube).upBuffers 0) :=
    (Function.update_eq_self _ _).symm
  exact movedUp_of_visit up sends

theorem view_of_commit {sent : List (Port × Packet)}
    (sends : SendsUp (s.deallocated cube committed) s₁ cube sent) :
    view c flow (s₁.bank cube committed) =
      { withEntry c flow s cube (((s.cubes cube).tables.setFlow committed none).flowTable flow)
          (heldOf c flow (s.cubes cube).tables) (streamOf c flow s) with
        result := fun v => (s₁.bank cube committed).results v flow
        answers := answersOf c flow s₁
        committed := (s₁.bank cube committed).committed flow } := by
  have cubes : (s₁.bank cube committed).cubes = Function.update s.cubes cube
      ((s.cubes cube).setTables ((s.cubes cube).tables.setFlow committed none)) := sends.cubes
  exact view_of_up cubes rfl sends.requests sends.issued sends.asked sends.entered

/-- The state of a flow that has been committed. -/
theorem view_committed (connected : c.Connected) (placed : CubePlaced c cube (s.cubes cube))
    {e : FlowEntry} (found : (s.cubes cube).tables.flowTable flow = some e)
    (counts : e.req_count = e.rep_count) (isLink : (link : ℕ) = c.upLink flow cube)
    (sends : SendsUp (s.deallocated cube flow) s₁ cube [(.link link, gpkt (c.cube cube) flow parent)]) :
    view c flow (s₁.bank cube flow) = ((view c flow s).leave (c.tree flow) cube).bank cube := by
  obtain ⟨-, noneAwaited⟩ := settled_of_counts placed found counts
  have answers : answersOf c flow s₁ = _ := (movedUp_of_commit sends).answers_sent fun m u => by
    have isAnswers : isAnswer flow u (gpkt (c.cube cube) flow parent) = decide (cube = u) :=
      isAnswer_source rfl rfl rfl u
    rw [sentOn_link, isLink]
    by_cases isHere : m = .hmc cube (c.upLink flow cube)
    · by_cases isCube : u = cube
      · subst isCube
        simp [isHere, isAnswers]
      · simp [isHere, isAnswers, isCube, Ne.symm isCube]
    · simp [isHere]
  have entry : ((s.cubes cube).tables.setFlow flow none).flowTable flow = none :=
    Function.update_self _ _ _
  have gone : withEntry c flow s cube none (heldOf c flow (s.cubes cube).tables)
      (streamOf c flow s) = _ := withEntry_none connected found noneAwaited rfl
  rw [view_of_commit sends, entry, gone]
  refine GatherTree.State.ext rfl rfl rfl rfl rfl rfl ?_ answers rfl ?_
  · funext v
    by_cases isCube : v = cube
    · subst isCube
      simp [CubeNetwork.bank, State.bank]
    · have same : s₁.results v = s.results v := by rw [sends.results]; rfl
      simp [CubeNetwork.bank, State.bank, State.leave, view, isCube, same]
  · have results : s₁.results = s.results := sends.results
    have sums : s₁.committed = s.committed := sends.committed
    simp [CubeNetwork.bank, State.bank, State.leave, view, results, sums]

/-- The flow is committed. -/
theorem commit_step (connected : c.Connected) (placed : CubePlaced c cube (s.cubes cube))
    {e : FlowEntry} (found : (s.cubes cube).tables.flowTable flow = some e)
    (counts : e.req_count = e.rep_count) (gathers : e.g_flag = true)
    (isLink : (link : ℕ) = c.upLink flow cube)
    (sends : SendsUp (s.deallocated cube flow) s₁ cube [(.link link, gpkt (c.cube cube) flow parent)]) :
    Step (c.tree flow) c.amount (view c flow s) (view c flow (s₁.bank cube flow)) := by
  obtain ⟨noneHeld, noneAwaited⟩ := settled_of_counts placed found counts
  have isPresent : (view c flow s).present cube = true := by simp [view, entriesOf, found]
  have isGathering : (view c flow s).gathering cube = true := by
    simp [view, entriesOf, found, gathers]
  rw [view_committed connected placed found counts isLink sends]
  exact .commit cube isPresent isGathering noneHeld
    (unsent_of_counts connected found noneAwaited)

/-- Another flow is committed. -/
theorem commit_other_steps (other : flow ≠ committed)
    (sends : SendsUp (s.deallocated cube committed) s₁ cube
      [(.link link, gpkt (c.cube cube) committed parent)]) :
    Steps (c.tree flow) c.amount (view c flow s) (view c flow (s₁.bank cube committed)) := by
  have answers : answersOf c flow s₁ = answersOf c flow s :=
    (movedUp_of_commit sends).answers_same (fun _ => rfl) fun m u => by
      have none : isAnswer flow u (gpkt (c.cube cube) committed parent) = false :=
        isAnswer_other (Ne.symm other) u
      rw [sentOn_link]
      split
      · simp [none]
      · rfl
  have entry : ((s.cubes cube).tables.setFlow committed none).flowTable flow =
      entriesOf flow s cube := Function.update_of_ne other _ _
  have results : (fun v => (s₁.bank cube committed).results v flow) = fun v => s.results v flow := by
    funext v
    have same : s₁.results = s.results := sends.results
    by_cases isCube : v = cube
    · subst isCube
      simp [CubeNetwork.bank, other, same]
    · simp [CubeNetwork.bank, isCube, same]
  have sums : (s₁.bank cube committed).committed flow = s.committed flow := by
    have same : s₁.committed = s.committed := sends.committed
    simp [CubeNetwork.bank, other, same]
  have viewed : view c flow (s₁.bank cube committed) = _ := view_of_commit sends
  rw [results, sums] at viewed
  exact quiet_steps viewed entry.symm rfl answers

/-- A flow is committed, or nothing happens. -/
theorem commitFlow_steps (connected : c.Connected) (placed : CubePlaced c cube (s.cubes cube))
    (answers : Answers) (committed : BitVec 64) :
    Steps (c.tree flow) c.amount (view c flow s)
      (view c flow (s.commitFlow c cube committed answers)) := by
  rw [commitFlow]
  rcases commit_cases (c.cube cube) answers (s.cubes cube).tables committed with
    nothing | ⟨e, found, counts, gathers, commits⟩
  · have same : s.setCube cube ((s.cubes cube).setTables (s.cubes cube).tables) = s := by
      have tables : (s.cubes cube).setTables (s.cubes cube).tables = s.cubes cube := rfl
      rw [tables]
      simp [setCube]
    simp only [nothing, if_true, List.foldl_nil, same]
    exact .refl
  · have isLink := (placed.entered committed e found).answerLink connected
    have sends : SendsUp (s.deallocated cube committed) _ cube _ := sendsUp_foldl
      [(.link ((c.cube cube).findNextLink e.parent false), gpkt (c.cube cube) committed e.parent)]
    simp only [commits, if_neg (List.cons_ne_nil _ _)]
    by_cases isFlow : flow = committed
    · subst isFlow
      exact .single (commit_step connected placed found counts gathers isLink sends)
    · exact commit_other_steps isFlow sends

/-- A vault answers. -/
theorem reply_steps (placed : WellPlaced c s) {i : ℕ} (replies : s.reply c cube i = .ok s') :
    Steps (c.tree flow) c.amount (view c flow s) (view c flow s') := by
  rw [CubeNetwork.reply] at replies
  split at replies
  · obtain rfl := pure_eq_ok.mp replies
    exact .refl
  · rename_i request found
    have answering := (placed.vaults cube request (List.mem_of_getElem? found)).1
    obtain ⟨answer, answers, done⟩ := bind_eq_ok.mp replies
    cases answer with
    | none =>
      obtain rfl := pure_eq_ok.mp done
      exact .refl
    | some response =>
      obtain ⟨-, notGet, -⟩ := vaultReply_answering answering answers
      simp only at done
      split at done
      · rename_i room
        obtain rfl := pure_eq_ok.mp done
        have moved : MovedUp s ((s.setVault cube ((s.vaults cube).eraseIdx i)).setCube cube
            ((s.cubes cube).setUp numLinks (receive ((s.cubes cube).upBuffers numLinks) response)))
            cube numLinks _ _ (sentOn cube []) :=
          movedUp_of_visit rfl ⟨rfl, rfl, fun _ => (List.append_nil _).symm, rfl, rfl, rfl, rfl, rfl⟩
        rw [contents_received room] at moved
        refine moved.quiet_steps (view_of_up (s := s) rfl rfl rfl rfl rfl rfl) rfl rfl ?_ fun _ _ => rfl
        intro u
        have none : isAnswer flow u response = false := isAnswer_of_not_get notGet u
        simp [none]
      · obtain rfl := pure_eq_ok.mp done
        exact .refl

end

end CubeNetwork

end ActiveRouting

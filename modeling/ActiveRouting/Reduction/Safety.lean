import Mathlib.Algebra.BigOperators.Group.Finset.Piecewise
import ActiveRouting.Reduction.CommitSteps

/-!
# What a network has gathered when it answers

In every run, a cube that commits a flow has the results of all cubes below it, and the
answer of the root comes when the results of all updates are written.
-/

namespace ActiveRouting

open Blocks CrossbarSwitch FlowTables GatherTree Outcome Transition

variable {M : Type} [AddCommMonoid M]

namespace CubeNetwork

variable {c : CubeNetworkConfig M} {flow : BitVec 64} {cube node l : ℕ} {packet : Packet}
  {s s' : CubeNetwork M} {actions : List Action}

/-! ## Runs -/

/-- What holds in every state of a run. -/
structure Gathering (c : CubeNetworkConfig M) (s : CubeNetwork M) : Prop where
  placed : WellPlaced c s
  sound : ∀ flow, Sound (c.tree flow) c.amount (view c flow s)

/-- Every step of the network is some steps of each flow. -/
theorem step_steps (connected : c.Connected) (gathering : Gathering c s) {action : Action}
    (stepped : s.step c action = .ok s') (guarded : Guard c s action s') (flow : BitVec 64) :
    Steps (c.tree flow) c.amount (view c flow s) (view c flow s') := by
  have sound := gathering.sound flow
  cases action with
  | issue cont packet =>
    obtain ⟨-, updates, asks⟩ := guarded
    obtain rfl := pure_eq_ok.mp stepped
    exact issue_steps connected updates asks
  | request m =>
    obtain rfl := pure_eq_ok.mp stepped
    rw [arriveDown_view connected gathering.placed]
    exact .refl
  | response m =>
    obtain rfl := pure_eq_ok.mp stepped
    exact arriveUp_steps connected gathering.placed m
  | visitUp cube l i answers =>
    obtain ⟨⟨switch, sent⟩, visits, done⟩ := bind_eq_ok.mp stepped
    obtain rfl := pure_eq_ok.mp done
    exact visitUp_steps connected (gathering.placed.cubes cube) (ofCube_eq_ok visits)
  | visitDown cube l i answers =>
    obtain ⟨⟨switch, sent⟩, visits, done⟩ := bind_eq_ok.mp stepped
    obtain rfl := pure_eq_ok.mp done
    exact visitDown_steps connected (gathering.placed.cubes cube) sound (ofCube_eq_ok visits)
  | processOperands cube =>
    obtain ⟨tables, processes, done⟩ := bind_eq_ok.mp stepped
    obtain rfl := pure_eq_ok.mp done
    exact processed_steps connected sound (ofCube_eq_ok processes) rfl rfl rfl rfl rfl rfl rfl rfl
  | commit cube flow answers =>
    obtain rfl := pure_eq_ok.mp stepped
    exact commitFlow_steps connected (gathering.placed.cubes cube) answers flow
  | reply cube i => exact reply_steps gathering.placed stepped

theorem Gathering.step (gathering : Gathering c s) (connected : c.Connected) {action : Action}
    (stepped : s.step c action = .ok s') (guarded : Guard c s action s') : Gathering c s' where
  placed := gathering.placed.step connected stepped guarded
  sound flow := (gathering.sound flow).steps (step_steps connected gathering stepped guarded flow)

/-- No flow is in a network in which nothing has happened. -/
theorem Gathering.start (c : CubeNetworkConfig M) : Gathering c (CubeNetwork.start c) where
  placed := .start c
  sound flow := by
    have stream : ∀ v, (view c flow (CubeNetwork.start c)).stream v = [] := by
      intro v
      show streamOf c flow (CubeNetwork.start c) v = []
      rw [streamOf]
      split
      · split <;> rfl
      · rfl
    have sent : ∀ v, (view c flow (CubeNetwork.start c)).sent v = 0 := by
      intro v
      show sentOf c flow (entriesOf flow (CubeNetwork.start c)) 0 v = 0
      rw [sentOf]
      split
      · rfl
      · split <;> rfl
    have told : ∀ v, (view c flow (CubeNetwork.start c)).told v = false := by
      intro v
      show toldOf c flow (entriesOf flow (CubeNetwork.start c)) false v = false
      rw [toldOf]
      split
      · rfl
      · split <;> rfl
    have answers : ∀ v, (view c flow (CubeNetwork.start c)).answers v = 0 := by
      intro v
      show answersOf c flow (CubeNetwork.start c) v = 0
      rw [answersOf]
      split <;> rfl
    have held : ∀ v, (view c flow (CubeNetwork.start c)).held v = 0 := by
      intro v
      show heldOf c flow (CrossbarSwitch.start (c.cube v)).tables = 0
      exact Finset.sum_eq_zero fun _ _ => rfl
    constructor
    · refine ⟨fun v => .idle (stream v) rfl rfl (sent v) (answers v), ?_, fun v _ _ => ⟨sent v, told v⟩⟩
      intro v _ isTold
      rw [told] at isTold
      cases isTold
    · refine ⟨?_, fun v some => absurd (stream v) some, fun v _ => ⟨held v, rfl⟩, ?_⟩
      · intro v d operands member
        rw [stream] at member
        cases member
      · intro d
        have noFlight : inFlight (c.tree flow) c.amount (view c flow (CubeNetwork.start c)) d = 0 :=
          Finset.sum_eq_zero fun v _ => by rw [stream]; rfl
        rw [noFlight, held]
        show (0 : M) = 0 + 0 + (Multiset.map c.amount 0).sum + 0
        simp

theorem Gathering.run (connected : c.Connected)
    (run : Run (CubeNetwork.step c) (Guard c) (CubeNetwork.start c) actions s) : Gathering c s :=
  run.invariant (.start c) fun _ _ _ gathering stepped guarded =>
    gathering.step connected stepped guarded

/-! ## Commits and answers -/

/-- A request that is no part of a flow: all lines of an update have their operand buffers. -/
def Done (flow : BitVec 64) (packet : Packet) : Prop :=
  packet.DESTADRS = flow → packet.operands = [] ∧ packet.CMD ≠ .ACT_GET

variable (c flow) in
/-- Nothing but reads of operands is left of a flow at a cube and on the links to it, and what the
    cube was sent for the flow is committed. -/
structure Gathered (s : CubeNetwork M) (cube : ℕ) : Prop where
  requests : ∀ l, ∀ packet ∈ contents ((s.cubes cube).downBuffers l), Done flow packet
  links : ∀ m link, c.net.linkSlaveP m = some (.hmc cube link) →
    ∀ packet ∈ s.requests m, Done flow packet
  entry : (s.cubes cube).tables.flowTable flow = none
  buffers : ∀ id < c.operandBufSize, ∀ e, (s.cubes cube).tables.operandBuffers id = some e →
    e.flowID ≠ flow
  result : s.results cube flow = 0
  counted : s.committed flow cube = s.entered flow cube

omit [AddCommMonoid M] in
/-- The requests in a cube are those of its stream and of the streams of its children. -/
theorem done_of_stream (placed : WellPlaced c s) (empty : streamOf c flow s cube = [])
    (children : ∀ node, c.Child flow cube node → streamOf c flow s node = [])
    (member : packet ∈ contents ((s.cubes cube).downBuffers l)) : Done flow packet := by
  rintro rfl
  have arrived := (placed.cubes cube).down l packet member
  constructor
  · by_contra some
    obtain ⟨isLink, routed⟩ := arrived.update some
    rw [streamOf, if_pos routed.inside, List.append_eq_nil_iff, List.append_eq_nil_iff] at empty
    have none := List.filterMap_eq_nil_iff.mp empty.1.1 packet (isLink ▸ member)
    rw [itemOf_update rfl some] at none
    cases none
  · intro isGet
    obtain ⟨inside, isLink, isHere | ⟨node, child, isNode⟩⟩ := arrived.get isGet
    · rw [streamOf, if_pos inside, List.append_eq_nil_iff, List.append_eq_nil_iff] at empty
      have none := List.filterMap_eq_nil_iff.mp empty.1.1 packet (isLink ▸ member)
      rw [itemOf_get isGet, gatherOf, if_pos ⟨rfl, isGet, isHere⟩] at none
      cases none
    · -- the `GET` waits for the link to the child
      have empty := children node child
      obtain ⟨inside, notRoot, isParent, -⟩ := CubeNetworkConfig.Connected.child_iff.mp child
      rw [streamOf, if_pos inside, if_neg notRoot, isParent, List.append_eq_nil_iff] at empty
      have none := List.filterMap_eq_nil_iff.mp empty.2 packet (isLink ▸ member)
      rw [gatherOf, if_pos ⟨rfl, isGet, isNode⟩] at none
      cases none

omit [AddCommMonoid M] in
/-- The requests on the links to a cube are in its stream. -/
theorem done_of_link (placed : WellPlaced c s) (connected : c.Connected)
    (empty : streamOf c flow s cube = []) {m : LinkEnd} {link : ℕ}
    (wire : c.net.linkSlaveP m = some (.hmc cube link)) (member : packet ∈ s.requests m) :
    Done flow packet := by
  rintro rfl
  have travels := placed.requests m packet member
  have isFeed : ∀ node < c.net.nodes, m = c.feed packet.DESTADRS node → node = cube := by
    intro node inside isFeed
    rw [isFeed, connected.feed_slave _ inside] at wire
    exact (LinkEnd.hmc.inj (Option.some.inj wire)).1
  constructor
  · by_contra some
    obtain ⟨node, feeds, routed⟩ := travels.update some
    obtain rfl := isFeed node routed.inside feeds
    rw [streamOf, if_pos routed.inside, List.append_eq_nil_iff, List.append_eq_nil_iff] at empty
    have none := List.filterMap_eq_nil_iff.mp empty.1.2 packet (feeds ▸ member)
    rw [itemOf_update rfl some] at none
    cases none
  · intro isGet
    obtain ⟨node, inside, feeds, isHere⟩ := travels.get isGet
    obtain rfl := isFeed node inside feeds
    rw [streamOf, if_pos inside, List.append_eq_nil_iff, List.append_eq_nil_iff] at empty
    have none := List.filterMap_eq_nil_iff.mp empty.1.2 packet (feeds ▸ member)
    rw [itemOf_get isGet, gatherOf, if_pos ⟨rfl, isGet, isHere⟩] at none
    cases none

/-- The reduction has finished at a cube and at its children. -/
theorem Gathered.of_finished (placed : WellPlaced c s) (connected : c.Connected)
    (finished : Finished (view c flow s) cube)
    (children : ∀ node, c.Child flow cube node → Finished (view c flow s) node) :
    Gathered c flow s cube where
  requests l packet member :=
    done_of_stream placed finished.stream (fun node child => (children node child).stream) member
  links m link wire packet member := done_of_link placed connected finished.stream wire member
  entry := Option.isNone_iff_eq_none.mp (Option.isSome_eq_false_iff.mp finished.present)
  buffers id inBuffers e found isFlow := by
    have held : heldOf c flow (s.cubes cube).tables = 0 := finished.held
    have isHeld : (e.src_addr1, e.src_addr2) ∈ heldAt flow ((s.cubes cube).tables.operandBuffers id) := by
      rw [found, heldAt, if_pos isFlow]
      exact Multiset.mem_singleton_self _
    have member : (e.src_addr1, e.src_addr2) ∈ heldOf c flow (s.cubes cube).tables :=
      Multiset.mem_sum.mpr ⟨id, Finset.mem_range.mpr inBuffers, isHeld⟩
    rw [held] at member
    exact Multiset.notMem_zero _ member
  result := finished.result
  counted := finished.total

variable (c) in
/-- A cube commits a flow: it has something to send. -/
def Commits (s : CubeNetwork M) (cube : ℕ) (flow : BitVec 64) (answers : Answers) : Prop :=
  (commit (c.cube cube) answers (s.cubes cube).tables flow).2 ≠ []

omit [AddCommMonoid M] in
theorem above_child {d : ℕ} (below : (c.tree flow).Above cube d) (child : c.Child flow d node) :
    (c.tree flow).Above cube node := by
  obtain ⟨n, isAbove⟩ := below
  refine ⟨n + 1, ?_⟩
  rw [Function.iterate_succ_apply, child.parent, isAbove]

/-- A cube that commits a flow has gathered all that is below it. -/
theorem Gathering.commit (gathering : Gathering c s) (connected : c.Connected) {answers : Answers}
    (commits : Commits c s cube flow answers) {d : ℕ} (below : (c.tree flow).Above cube d) :
    Gathered c flow (s.commitFlow c cube flow answers) d ∧
      (d ≠ cube → answersOf c flow (s.commitFlow c cube flow answers) d = 0) := by
  have placed := gathering.placed.cubes cube
  have sound := gathering.sound flow
  rcases commit_cases (c.cube cube) answers (s.cubes cube).tables flow with
    nothing | ⟨e, found, counts, gathers, done⟩
  · rw [Commits, nothing] at commits
    exact absurd rfl commits
  · obtain ⟨noneHeld, noneAwaited⟩ := settled_of_counts placed found counts
    have children := unsent_of_counts connected found noneAwaited
    have isGathering : (view c flow s).gathering cube = true := by
      simp [view, entriesOf, found, gathers]
    have isLink := (placed.entered flow e found).answerLink connected
    have sends : SendsUp (s.deallocated cube flow) _ cube _ := sendsUp_foldl
      [(.link ((c.cube cube).findNextLink e.parent false), gpkt (c.cube cube) flow e.parent)]
    have viewed : view c flow (s.commitFlow c cube flow answers) =
        ((view c flow s).leave (c.tree flow) cube).bank cube := by
      rw [commitFlow]
      simp only [done, if_neg (List.cons_ne_nil _ _)]
      exact view_committed connected placed found counts isLink sends
    have finished : ∀ {v}, (c.tree flow).Above cube v →
        Finished (view c flow (s.commitFlow c cube flow answers)) v := by
      intro v isBelow
      rw [viewed]
      exact sound.commits isGathering noneHeld children isBelow
    have stepped : CubeNetwork.step c s (.commit cube flow answers) =
        .ok (s.commitFlow c cube flow answers) := rfl
    have after := gathering.step connected stepped trivial
    refine ⟨.of_finished after.placed connected (finished below)
      fun node child => finished (above_child below child), fun notCube => ?_⟩
    -- a cube below that was sent nothing since its last commit has no answer on its way
    obtain ⟨n, isAbove⟩ := below
    have unsent := (sound.ordered.unsent_iterate children n d isAbove).resolve_left notCube
    have same := congrFun (congrArg State.answers viewed) d
    have untouched : (((view c flow s).leave (c.tree flow) cube).bank cube).answers d =
        (view c flow s).answers d := Function.update_of_ne notCube _ _
    exact (same.trans untouched).trans (sound.vacant unsent).2.2.2.2

omit [AddCommMonoid M] in
/-- All cubes are below the root of a flow. -/
theorem above_root (connected : c.Connected) (flow : BitVec 64) {d : ℕ} (inside : d < c.net.nodes) :
    (c.tree flow).Above (c.root flow) d :=
  connected.supports.above_of_onRoute (connected.root_lt flow) inside .source

/-- The answer to a `GET`, where it reaches the controller. -/
structure Answered (c : CubeNetworkConfig M) (s : CubeNetwork M) (m : LinkEnd) (packet : Packet)
    (cont : ℕ) : Prop where
  isFirst : (s.responses m).head? = some packet
  wire : c.net.linkSlaveP m = some (.hmcCont cont)
  isGet : packet.CMD = .ACT_GET

/-- The answer that a controller receives is the only one of its flow, and it comes to the
    controller that has asked for it. -/
theorem Gathering.answer (gathering : Gathering c s) (connected : c.Connected) {m : LinkEnd}
    {cont : ℕ} (answered : Answered c s m packet cont) :
    c.home packet.DESTADRS = cont ∧ s.asked packet.DESTADRS = true ∧
      (∀ d < c.net.nodes, Gathered c packet.DESTADRS s d ∧
        answersOf c packet.DESTADRS s d = if d = c.root packet.DESTADRS then 1 else 0) := by
  have member : packet ∈ s.responses m := List.mem_of_mem_head? answered.isFirst
  have travels := gathering.placed.responses m packet member
  obtain ⟨isLink, isSource⟩ := travels.of_root connected answered.wire answered.isGet
  have attached := connected.attached packet.DESTADRS
  have isHome : c.home packet.DESTADRS = cont := by
    have wire := answered.wire
    rw [isLink] at wire
    exact LinkEnd.hmcCont.inj (Option.some.inj (attached.linkOut.symm.trans wire))
  have positive : 0 < (view c packet.DESTADRS s).answers (c.tree packet.DESTADRS).root := by
    show 0 < answersOf c packet.DESTADRS s (c.root packet.DESTADRS)
    rw [answersOf, if_pos rfl, ← isLink]
    refine List.countP_pos_iff.mpr ⟨packet, member, ?_⟩
    rw [isAnswer_source answered.isGet rfl isSource, decide_eq_true_eq]
  obtain ⟨told, one, finished⟩ := (gathering.sound packet.DESTADRS).reports positive
  refine ⟨isHome, ?_, fun d inside => ?_⟩
  · exact (if_pos rfl : toldOf _ _ _ _ _ = _).symm.trans told
  · obtain ⟨isFinished, none⟩ := finished d (above_root connected _ inside)
    refine ⟨.of_finished gathering.placed connected isFinished fun node child =>
      (finished node (above_child (above_root connected _ inside) child)).1, ?_⟩
    split
    · rename_i isRoot
      subst isRoot
      exact one
    · rename_i notRoot
      exact none notRoot

/-! ## What is written -/

variable (c) in
/-- What a flow has written is what the cubes have committed of it. -/
def Written (s : CubeNetwork M) : Prop :=
  ∀ flow, s.memory flow = ∑ d ∈ Finset.range c.net.nodes, s.committed flow d

theorem Written.congr (written : Written c s) (memory : s'.memory = s.memory)
    (committed : s'.committed = s.committed) : Written c s' := by
  intro flow
  rw [memory, committed]
  exact written flow

theorem Written.bank (written : Written c s) (inside : cube < c.net.nodes) (committed : BitVec 64) :
    Written c (s.bank cube committed) := by
  intro flow
  by_cases isFlow : flow = committed
  · subst isFlow
    simp only [CubeNetwork.bank, Function.update_self]
    rw [Finset.sum_update_of_mem (Finset.mem_range.mpr inside), written flow,
      Finset.sum_eq_add_sum_sdiff_singleton_of_mem (Finset.mem_range.mpr inside), add_right_comm]
  · simp only [CubeNetwork.bank, Function.update_of_ne isFlow]
    exact written flow

omit [AddCommMonoid M] in
theorem memory_foldl {send : CubeNetwork M → Port × Packet → CubeNetwork M}
    (keeps : ∀ s message, (send s message).memory = s.memory) (sent : List (Port × Packet)) :
    (sent.foldl send s).memory = s.memory := by
  induction sent generalizing s with
  | nil => rfl
  | cons message sent ih => rw [List.foldl_cons, ih, keeps]

omit [AddCommMonoid M] in
theorem memory_sendUp (s : CubeNetwork M) (message : Port × Packet) :
    (sendUp cube s message).memory = s.memory := by
  obtain ⟨_ | _, _⟩ := message <;> rfl

omit [AddCommMonoid M] in
theorem memory_sendDown (s : CubeNetwork M) (message : Port × Packet) :
    (sendDown cube s message).memory = s.memory := by
  obtain ⟨_ | _, _⟩ := message <;> rfl

/-- Only a commit writes. -/
theorem Written.step (written : Written c s) (gathering : Gathering c s) {action : Action}
    (stepped : s.step c action = .ok s') : Written c s' := by
  -- no action but a commit moves anything out of the results
  cases action with
  | issue cont packet =>
    obtain rfl := pure_eq_ok.mp stepped
    refine written.congr ?_ ?_ <;>
      · rw [note]
        split
        · rfl
        · split <;> rfl
  | request m =>
    obtain rfl := pure_eq_ok.mp stepped
    refine written.congr ?_ ?_ <;>
      · rw [arriveDown]
        split
        · split <;> rfl
        · rfl
  | response m =>
    obtain rfl := pure_eq_ok.mp stepped
    refine written.congr ?_ ?_ <;>
      · rw [arriveUp]
        split
        · split <;> rfl
        · rw [noteAnswer]
          split <;> rfl
        · rfl
  | visitUp cube l i answers =>
    obtain ⟨⟨switch, sent⟩, -, done⟩ := bind_eq_ok.mp stepped
    obtain rfl := pure_eq_ok.mp done
    exact written.congr (memory_foldl memory_sendUp sent) (sendsUp_foldl sent).committed
  | visitDown cube l i answers =>
    obtain ⟨⟨switch, sent⟩, -, done⟩ := bind_eq_ok.mp stepped
    obtain rfl := pure_eq_ok.mp done
    exact written.congr (memory_foldl memory_sendDown sent) (sendsDown_foldl sent).committed
  | processOperands cube =>
    obtain ⟨tables, -, done⟩ := bind_eq_ok.mp stepped
    obtain rfl := pure_eq_ok.mp done
    exact written.congr rfl rfl
  | commit cube flow answers =>
    obtain rfl := pure_eq_ok.mp stepped
    -- sending the answer writes nothing; the result is written when the entry is deallocated
    have sends : Written c ((CrossbarSwitch.commit (c.cube cube) answers (s.cubes cube).tables
        flow).2.foldl (sendUp cube) (s.setCube cube ((s.cubes cube).setTables
          (CrossbarSwitch.commit (c.cube cube) answers (s.cubes cube).tables flow).1))) :=
      written.congr (memory_foldl memory_sendUp _) (sendsUp_foldl _).committed
    rw [commitFlow]
    rcases commit_cases (c.cube cube) answers (s.cubes cube).tables flow with
      nothing | ⟨e, found, -, -, -⟩
    · simp only [nothing, if_true] at sends ⊢
      exact sends
    · have inside := ((gathering.placed.cubes cube).entered flow e found).inside
      split
      · exact sends
      · exact sends.bank inside flow
  | reply cube i =>
    change s.reply c cube i = .ok s' at stepped
    rw [CubeNetwork.reply] at stepped
    split at stepped
    · obtain rfl := pure_eq_ok.mp stepped
      exact written
    · obtain ⟨answer, -, done⟩ := bind_eq_ok.mp stepped
      cases answer with
      | none =>
        obtain rfl := pure_eq_ok.mp done
        exact written.congr rfl rfl
      | some response =>
        simp only at done
        split at done
        · obtain rfl := pure_eq_ok.mp done
          exact written.congr rfl rfl
        · obtain rfl := pure_eq_ok.mp done
          exact written

/-- What holds in every state of a run, with what is written. -/
structure Recording (c : CubeNetworkConfig M) (s : CubeNetwork M) : Prop where
  gathering : Gathering c s
  written : Written c s

theorem Recording.run (connected : c.Connected)
    (run : Run (CubeNetwork.step c) (Guard c) (CubeNetwork.start c) actions s) : Recording c s :=
  run.invariant ⟨.start c, fun _ => (Finset.sum_eq_zero fun _ _ => rfl).symm⟩
    fun _ _ _ recording stepped guarded =>
      ⟨recording.gathering.step connected stepped guarded,
        recording.written.step recording.gathering stepped⟩

end CubeNetwork

end ActiveRouting

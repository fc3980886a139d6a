import ActiveRouting.Reduction.Actions

/-!
# The answers of a flow on their way

A cube that has committed a flow sends one answer to its parent; it is on the link or in
the input buffer of the parent until the parent takes it.
-/

namespace ActiveRouting

open Blocks CrossbarSwitch FlowTables GatherTree Outcome

variable {M : Type}

namespace CubeNetwork

variable {c : CubeNetworkConfig M} {flow : BitVec 64} {cube node l : ℕ} {packet packet' : Packet}
  {s s' : CubeNetwork M} {m : LinkEnd}

/-! ## Responses that are sent -/

/-- Responses are sent; nothing else changes. -/
structure SendsUp (s s' : CubeNetwork M) (cube : ℕ) (sent : List (Port × Packet)) : Prop where
  cubes : s'.cubes = s.cubes
  requests : s'.requests = s.requests
  responses : ∀ m, s'.responses m = s.responses m ++ sentOn cube sent m
  results : s'.results = s.results
  issued : s'.issued = s.issued
  asked : s'.asked = s.asked
  entered : s'.entered = s.entered
  committed : s'.committed = s.committed

theorem sendsUp_foldl (sent : List (Port × Packet)) :
    SendsUp s (sent.foldl (sendUp cube) s) cube sent := by
  induction sent generalizing s with
  | nil => exact ⟨rfl, rfl, fun m => (List.append_nil _).symm, rfl, rfl, rfl, rfl, rfl⟩
  | cons message sent ih =>
    obtain ⟨port, packet⟩ := message
    rw [List.foldl_cons]
    have rest := ih (s := sendUp cube s (port, packet))
    cases port with
    | vault vaultMap =>
      exact ⟨rest.cubes, rest.requests, rest.responses, rest.results, rest.issued, rest.asked,
        rest.entered, rest.committed⟩
    | link link =>
      refine ⟨rest.cubes, rest.requests, ?_, rest.results, rest.issued, rest.asked, rest.entered,
        rest.committed⟩
      intro m
      rw [rest.responses m]
      by_cases isLink : m = .hmc cube link
      · subst isLink
        simp [sendUp, setResponses, sentOn]
      · simp [sendUp, setResponses, sentOn, isLink]

/-! ## Counting answers -/

theorem isAnswer_of_not_get (notGet : packet.CMD ≠ .ACT_GET) (u : ℕ) :
    isAnswer flow u packet = false := by
  simp [isAnswer, notGet]

theorem isAnswer_other (other : packet.DESTADRS ≠ flow) (u : ℕ) :
    isAnswer flow u packet = false := by
  simp [isAnswer, other]

theorem isAnswer_source (isGet : packet.CMD = .ACT_GET) (isFlow : packet.DESTADRS = flow)
    (isSource : packet.SRCCUB = node) (u : ℕ) : isAnswer flow u packet = decide (node = u) := by
  simp [isAnswer, isGet, isFlow, isSource]

/-- One input buffer for responses changes, and responses are sent from the cube. -/
structure MovedUp (s s' : CubeNetwork M) (cube l : ℕ) (packets packets' : List Packet)
    (sent : LinkEnd → List Packet) : Prop where
  before : contents ((s.cubes cube).upBuffers l) = packets
  after : contents ((s'.cubes cube).upBuffers l) = packets'
  others : ∀ v k, v ≠ cube ∨ k ≠ l →
    contents ((s'.cubes v).upBuffers k) = contents ((s.cubes v).upBuffers k)
  responses : ∀ m, s'.responses m = s.responses m ++ sent m

namespace MovedUp

variable {packets packets' before after : List Packet} {sent : LinkEnd → List Packet}

/-- The answers in the buffers are the same as before. -/
theorem buffer (moved : MovedUp s s' cube l packets packets' sent) {u : ℕ}
    (same : packets'.countP (isAnswer flow u) = packets.countP (isAnswer flow u)) (v k : ℕ) :
    (contents ((s'.cubes v).upBuffers k)).countP (isAnswer flow u) =
      (contents ((s.cubes v).upBuffers k)).countP (isAnswer flow u) := by
  by_cases other : v ≠ cube ∨ k ≠ l
  · rw [moved.others v k other]
  · rw [not_or, not_not, not_not] at other
    obtain ⟨rfl, rfl⟩ := other
    rw [moved.before, moved.after, same]

theorem answers_same (moved : MovedUp s s' cube l packets packets' sent)
    (same : ∀ u, packets'.countP (isAnswer flow u) = packets.countP (isAnswer flow u))
    (nothing : ∀ m u, (sent m).countP (isAnswer flow u) = 0) :
    answersOf c flow s' = answersOf c flow s := by
  funext u
  rw [answersOf, answersOf, moved.responses, List.countP_append, nothing, add_zero,
    moved.buffer (same u)]

/-- The answer of a child is taken. -/
theorem answers_erase (moved : MovedUp s s' cube l (before ++ packet :: after) (before ++ after) sent)
    (nothing : ∀ m, sent m = []) (isGet : packet.CMD = .ACT_GET)
    (isFlow : packet.DESTADRS = flow) (child : c.Child flow cube node)
    (isSource : packet.SRCCUB = node) (isLink : l = c.net.findNextLink cube node false) :
    0 < answersOf c flow s node ∧
      answersOf c flow s' = Function.update (answersOf c flow s) node (answersOf c flow s node - 1) := by
  have isAnswers := isAnswer_source isGet isFlow isSource
  obtain ⟨inside, notRoot, isParent, -⟩ := CubeNetworkConfig.Connected.child_iff.mp child
  have one : answersOf c flow s node = answersOf c flow s' node + 1 := by
    rw [answersOf, answersOf, moved.responses, nothing, List.append_nil, if_neg notRoot,
      if_neg notRoot, isParent, ← isLink, moved.before, moved.after]
    simp only [List.countP_append, List.countP_cons, isAnswers, decide_true, if_true]
    omega
  refine ⟨by omega, ?_⟩
  funext u
  by_cases isNode : u = node
  · subst isNode
    rw [Function.update_self]
    omega
  · have same : (before ++ after).countP (isAnswer flow u) =
        (before ++ packet :: after).countP (isAnswer flow u) := by
      simp [List.countP_append, isAnswers, Ne.symm isNode]
    rw [Function.update_of_ne isNode, answersOf, answersOf, moved.responses, nothing,
      List.append_nil, moved.buffer same]

/-- A cube answers. -/
theorem answers_sent (moved : MovedUp s s' cube l packets packets sent)
    (sends : ∀ m u, (sent m).countP (isAnswer flow u) =
      if m = .hmc cube (c.upLink flow cube) ∧ u = cube then 1 else 0) :
    answersOf c flow s' = Function.update (answersOf c flow s) cube (answersOf c flow s cube + 1) := by
  funext u
  rw [answersOf, moved.responses, List.countP_append, sends, moved.buffer rfl]
  by_cases isCube : u = cube
  · subst isCube
    rw [Function.update_self, if_pos ⟨rfl, rfl⟩, answersOf]
    omega
  · rw [Function.update_of_ne isCube, if_neg fun isSent => isCube isSent.2, answersOf, add_zero]

end MovedUp

/-- One cube changes, but not its requests. -/
theorem view_of_up {switch : CrossbarSwitch}
    (cubes : s'.cubes = Function.update s.cubes cube switch)
    (down : switch.downBuffers = (s.cubes cube).downBuffers) (requests : s'.requests = s.requests)
    (issued : s'.issued = s.issued) (asked : s'.asked = s.asked)
    (entered : s'.entered = s.entered) :
    view c flow s' =
      { withEntry c flow s cube (switch.tables.flowTable flow) (heldOf c flow switch.tables)
          (streamOf c flow s) with
        result := fun v => s'.results v flow
        answers := answersOf c flow s'
        committed := s'.committed flow } := by
  have entries : entriesOf flow s' = _ := entriesOf_update cubes
  have holds : (view c flow s').held = _ := held_update cubes
  have sameDown : ∀ v, (s'.cubes v).downBuffers = (s.cubes v).downBuffers := by
    intro v
    rw [cubes]
    by_cases same : v = cube
    · subst same
      simp [down]
    · simp [same]
  have stream : streamOf c flow s' = streamOf c flow s := by
    funext u
    rw [streamOf, streamOf, sameDown, sameDown, requests]
  refine GatherTree.State.ext stream ?_ ?_ ?_ ?_ holds rfl rfl ?_ rfl
  · simp only [view, withEntry, entries]
  · simp only [view, withEntry, entries]
  · simp only [view, withEntry, entries, issued]
  · simp only [view, withEntry, entries, asked]
  · simp only [view, withEntry, entered]

/-! ## Visits of responses -/

/-- A response that is no answer of the flow is erased. -/
theorem countP_erase (before after : List Packet) {u : ℕ}
    (nothing : isAnswer flow u packet = false) :
    (before ++ after).countP (isAnswer flow u) =
      (before ++ packet :: after).countP (isAnswer flow u) := by
  simp [List.countP_append, nothing]

theorem movedUp_of_visit {switch : CrossbarSwitch} {sent : List (Port × Packet)}
    {slots : PacketVector}
    (up : switch.upBuffers = Function.update (s.cubes cube).upBuffers l slots)
    (sends : SendsUp (s.setCube cube switch) s' cube sent) :
    MovedUp s s' cube l (contents ((s.cubes cube).upBuffers l)) (contents slots)
      (sentOn cube sent) where
  before := rfl
  after := by rw [sends.cubes]; simp [setCube, up]
  others v k other := by
    rw [sends.cubes]
    by_cases same : v = cube
    · subst same
      have notLink : k ≠ l := other.resolve_left (fun ne => ne rfl)
      simp [setCube, up, notLink]
    · simp [setCube, same]
  responses := sends.responses

section

variable [AddCommMonoid M] {packets packets' before after : List Packet}
  {sent : LinkEnd → List Packet} {entry : Option FlowEntry}
  {held : Multiset (BitVec 64 × BitVec 64)}

/-- Nothing that belongs to the flow changes. -/
theorem quiet_steps
    (viewed : view c flow s' =
      { withEntry c flow s cube entry held (streamOf c flow s) with
        answers := answersOf c flow s' })
    (stays : entriesOf flow s cube = entry) (holds : (view c flow s).held cube = held)
    (answers : answersOf c flow s' = answersOf c flow s) :
    Steps (c.tree flow) c.amount (view c flow s) (view c flow s') := by
  have same : view c flow s' = view c flow s := by
    rw [viewed, withEntry_same stays holds, answers]
    rfl
  rw [same]
  exact .refl

theorem MovedUp.quiet_steps (moved : MovedUp s s' cube l packets packets' sent)
    (viewed : view c flow s' =
      { withEntry c flow s cube entry held (streamOf c flow s) with
        answers := answersOf c flow s' })
    (stays : entriesOf flow s cube = entry) (holds : (view c flow s).held cube = held)
    (same : ∀ u, packets'.countP (isAnswer flow u) = packets.countP (isAnswer flow u))
    (nothing : ∀ m u, (sent m).countP (isAnswer flow u) = 0) :
    Steps (c.tree flow) c.amount (view c flow s) (view c flow s') :=
  CubeNetwork.quiet_steps viewed stays holds (moved.answers_same same nothing)

/-- The answer of a child is taken. -/
theorem MovedUp.absorb_step
    (moved : MovedUp s s' cube l (before ++ packet :: after) (before ++ after) sent)
    (connected : c.Connected) (nothing : ∀ m, sent m = []) (isGet : packet.CMD = .ACT_GET)
    (isFlow : packet.DESTADRS = flow) (child : c.Child flow cube node)
    (isSource : packet.SRCCUB = node) (isLink : l = c.net.findNextLink cube node false)
    {e : FlowEntry} (found : entriesOf flow s cube = some e)
    (viewed : view c flow s' =
      { withEntry c flow s cube (some (e.answerChild
          (CubeNetworkConfig.linkOf (c.net.findNextLink cube node false))))
          ((view c flow s).held cube) (streamOf c flow s) with
        answers := answersOf c flow s' }) :
    Step (c.tree flow) c.amount (view c flow s) (view c flow s') := by
  obtain ⟨answered, taken⟩ :=
    moved.answers_erase nothing isGet isFlow child isSource isLink
  have stepped : Step (c.tree flow) c.amount (view c flow s) _ :=
    .absorb node (CubeNetworkConfig.Connected.child_iff.mp child).2.1 answered
  rw [viewed, withEntry_answerChild connected child found rfl, taken]
  exact stepped

/-- A visit of a response that is no segment. -/
theorem ArrivedUp.visit_steps (arrived : ArrivedUp c cube l packet) (connected : c.Connected)
    {visit : Visit}
    (moved : MovedUp s s' cube l (before ++ packet :: after)
      (Fate.leaves before packet after visit.fate) (sentOn cube visit.sent))
    (viewed : view c flow s' =
      { withEntry c flow s cube (visit.tables.flowTable flow) (heldOf c flow visit.tables)
          (streamOf c flow s) with
        answers := answersOf c flow s' })
    (visits : ResponseVisit (c.cube cube) (s.cubes cube).tables packet visit) :
    Steps (c.tree flow) c.amount (view c flow s) (view c flow s') := by
  cases visits with
  | stays => exact moved.quiet_steps viewed rfl rfl (fun _ => rfl) fun _ _ => rfl
  | fills id e e' updates reserved same =>
    have notGet : packet.CMD ≠ .ACT_GET := by
      intro isGet
      rw [not_isUpdate_of_get isGet] at updates
      cases updates
    exact moved.quiet_steps viewed rfl (heldOf_setOperand reserved same).symm
      (fun u => countP_erase before after (isAnswer_of_not_get notGet u)) fun _ _ => rfl
  | answers flowEntry isGet found =>
    by_cases isFlow : packet.DESTADRS = flow
    · subst isFlow
      obtain ⟨-, -, node, child, isSource, isLink⟩ := arrived.get isGet
      have nextLink : (c.cube cube).findNextLink packet.SRCCUB false =
          CubeNetworkConfig.linkOf (c.net.findNextLink cube node false) := by
        show CubeNetworkConfig.linkOf (c.net.findNextLink cube packet.SRCCUB.toNat false) = _
        rw [isSource, Int.toNat_natCast]
      have entry : ((s.cubes cube).tables.setFlow packet.DESTADRS
          (some (flowEntry.answerChild ((c.cube cube).findNextLink packet.SRCCUB false)))).flowTable
            packet.DESTADRS = some (flowEntry.answerChild
              (CubeNetworkConfig.linkOf (c.net.findNextLink cube node false))) := by
        rw [← nextLink]
        exact Function.update_self _ _ _
      rw [entry] at viewed
      exact .single (moved.absorb_step connected (fun _ => rfl) isGet rfl child isSource isLink found
        viewed)
    · have entry : ((s.cubes cube).tables.setFlow packet.DESTADRS
          (some (flowEntry.answerChild ((c.cube cube).findNextLink packet.SRCCUB false)))).flowTable
            flow = entriesOf flow s cube := Function.update_of_ne (Ne.symm isFlow) _ _
      exact moved.quiet_steps viewed entry.symm rfl
        (fun u => countP_erase before after (isAnswer_other isFlow u)) fun _ _ => rfl
  | passes notForUs =>
    have notGet : packet.CMD ≠ .ACT_GET := by
      intro isGet
      obtain ⟨-, isDest, node, child, isSource, -⟩ := arrived.get isGet
      have own := notForUs isGet isDest
      rw [isSource] at own
      exact (CubeNetworkConfig.Connected.child_iff.mp child).2.2.2 (Int.ofNat.inj own)
    refine moved.quiet_steps viewed rfl rfl
      (fun u => countP_erase before after (isAnswer_of_not_get notGet u)) fun m u => ?_
    have none : isAnswer flow u packet.resetLinkFields = false := isAnswer_of_not_get notGet u
    rw [sentOn_link]
    split
    · simp [none]
    · rfl

/-- Segments belong to no flow, and what they are combined to neither. -/
theorem visitSegment_steps (placed : CubePlaced c cube (s.cubes cube)) {i : ℕ}
    {switch : CrossbarSwitch} (plain : packet.isActive = false)
    (isBlocks : IsBlocks Packet.LNG ((s.cubes cube).upBuffers l))
    (found : ((s.cubes cube).upBuffers l)[i]? = some (some packet))
    (visits : (s.cubes cube).visitSegment (c.cube cube) l i packet = .ok switch) :
    Steps (c.tree flow) c.amount (view c flow s) (view c flow (s.setCube cube switch)) := by
  obtain ⟨before, after, whole, -, -, -, erased⟩ := contents_applyFate isBlocks found
  have erases : ∀ u, (before ++ after).countP (isAnswer flow u) =
      (before ++ packet :: after).countP (isAnswer flow u) :=
    fun u => countP_erase before after (isAnswer_of_not_get (plain_iff.mp plain).2 u)
  have sends : SendsUp (s.setCube cube switch) (s.setCube cube switch) cube [] := sendsUp_foldl []
  rw [visitSegment] at visits
  split at visits
  · exact absurd visits throw_ne_ok
  · rename_i segments arrives
    obtain rfl := pure_eq_ok.mp visits
    have moved := movedUp_of_visit (s := s) (l := l) rfl sends
    rw [whole, erased] at moved
    exact moved.quiet_steps (view_of_up rfl rfl rfl rfl rfl rfl) rfl rfl erases fun _ _ => rfl
  · rename_i segments combined arrives
    obtain rfl := pure_eq_ok.mp visits
    obtain ⟨-, isPlain⟩ := SegmentTable.arrive_keeps (fun _ isPlain => isPlain)
      (fun _ isPlain => isPlain) placed.stored plain arrives
    have moved := movedUp_of_visit (s := s) (l := l) rfl sends
    rw [whole, contents_insertFront, erased] at moved
    refine moved.quiet_steps (view_of_up rfl rfl rfl rfl rfl rfl) rfl rfl ?_ fun _ _ => rfl
    intro u
    have none : isAnswer flow u combined = false :=
      isAnswer_of_not_get (plain_iff.mp (isPlain combined rfl)).2 u
    rw [List.countP_cons, none, erases]
    rfl

/-- A visit of a response. -/
theorem visitUp_steps (connected : c.Connected) (placed : CubePlaced c cube (s.cubes cube))
    {answers : Answers} {i : ℕ} {switch : CrossbarSwitch} {sent : List (Port × Packet)}
    (visits : (s.cubes cube).visitUp (c.cube cube) answers l i = .ok (switch, sent)) :
    Steps (c.tree flow) c.amount (view c flow s)
      (view c flow (sent.foldl (sendUp cube) (s.setCube cube switch))) := by
  have sends : SendsUp (s.setCube cube switch) (sent.foldl (sendUp cube) (s.setCube cube switch))
      cube sent := sendsUp_foldl sent
  rw [CrossbarSwitch.visitUp] at visits
  split at visits
  · rename_i packet found
    have arrived := placed.up l packet (mem_of_slot found)
    have isBlocks := placed.tailed.up l
    obtain ⟨before, after, whole, -, left, -, -⟩ := contents_applyFate isBlocks found
    split at visits
    · exact absurd visits throw_ne_ok
    split at visits
    · rename_i isSegment
      have plain : packet.isActive = false := by
        by_contra isActive
        have whole := arrived.answering.segment (by simpa using isActive)
        rw [isSegment] at whole
        cases whole
      obtain ⟨switch', segment, done⟩ := bind_eq_ok.mp visits
      obtain ⟨rfl, rfl⟩ := Prod.mk.inj (pure_eq_ok.mp done)
      exact visitSegment_steps placed plain isBlocks found segment
    · obtain ⟨visit, visited, done⟩ := bind_eq_ok.mp visits
      obtain ⟨isSwitch, rfl⟩ := Prod.mk.inj (pure_eq_ok.mp done)
      have up : switch.upBuffers = Function.update (s.cubes cube).upBuffers l
          (applyFate ((s.cubes cube).upBuffers l) i packet visit.fate) := by
        rw [← isSwitch]
        rfl
      have down : switch.downBuffers = (s.cubes cube).downBuffers := by rw [← isSwitch]; rfl
      have tables : switch.tables = visit.tables := by rw [← isSwitch]; rfl
      have moved := movedUp_of_visit up sends
      have viewed : view c flow (visit.sent.foldl (sendUp cube) (s.setCube cube switch)) = _ :=
        view_of_up sends.cubes down sends.requests sends.issued sends.asked sends.entered
      rw [whole, left] at moved
      rw [tables, sends.results, sends.committed] at viewed
      exact arrived.visit_steps connected moved viewed
        (visitResponse_cases arrived.answering.operand visited)
  · obtain ⟨rfl, rfl⟩ := Prod.mk.inj (pure_eq_ok.mp visits)
    have same : s.setCube cube (s.cubes cube) = s := by simp [setCube]
    rw [List.foldl_nil, same]
    exact .refl

end

/-! ## Responses that arrive -/

/-- The first response leaves a link. -/
theorem countP_rest {rest : List Packet} (isFirst : s.responses m = packet :: rest)
    (responses : s'.responses = Function.update s.responses m rest) (u : ℕ) (other : LinkEnd) :
    (s.responses other).countP (isAnswer flow u) = (s'.responses other).countP (isAnswer flow u) +
      if other = m ∧ isAnswer flow u packet = true then 1 else 0 := by
  rw [responses]
  by_cases same : other = m
  · subst same
    rw [Function.update_self, isFirst, List.countP_cons]
    simp
  · rw [Function.update_of_ne same, if_neg fun isHere => same isHere.1, add_zero]

/-- A response that is no answer of the flow leaves a link. -/
theorem answers_rest {rest : List Packet} (isFirst : s.responses m = packet :: rest)
    (responses : s'.responses = Function.update s.responses m rest) (cubes : s'.cubes = s.cubes)
    (nothing : ∀ u, isAnswer flow u packet = false) : answersOf c flow s' = answersOf c flow s := by
  funext u
  rw [answersOf, answersOf, countP_rest isFirst responses u, nothing, cubes]
  simp

/-- Where the answers of a flow are on a link. -/
theorem TravelsUp.answer (travels : TravelsUp c m packet) {u : ℕ}
    (answers : isAnswer flow u packet = true) :
    u < c.net.nodes ∧ m = .hmc u (c.upLink flow u) := by
  obtain ⟨isGet, isFlow, isSource⟩ :
      packet.CMD = .ACT_GET ∧ packet.DESTADRS = flow ∧ packet.SRCCUB = u := by
    simpa [isAnswer] using answers
  obtain ⟨v, inside, isLink, isSource', -⟩ := travels.get isGet
  obtain rfl : v = u := Int.ofNat.inj (isSource'.symm.trans isSource)
  rw [isFlow] at isLink
  exact ⟨inside, isLink⟩

/-- A response arrives at a cube. -/
theorem answers_arriveUp (connected : c.Connected) {rest : List Packet}
    (travels : TravelsUp c m packet) (isFirst : s.responses m = packet :: rest)
    (wire : c.net.linkSlaveP m = some (.hmc node l))
    (responses : s'.responses = Function.update s.responses m rest)
    (buffers : ∀ v k, contents ((s'.cubes v).upBuffers k) =
      contents ((s.cubes v).upBuffers k) ++ if v = node ∧ k = l then [packet] else []) :
    answersOf c flow s' = answersOf c flow s := by
  funext u
  rw [answersOf, answersOf, countP_rest isFirst responses u, buffers, List.countP_append]
  by_cases answers : isAnswer flow u packet = true
  · -- from the link into the buffer behind it
    obtain ⟨inside, rfl⟩ := travels.answer answers
    have notRoot : u ≠ c.root flow := by
      rintro rfl
      rw [CubeNetworkConfig.upLink, (connected.attached flow).linkOut] at wire
      cases wire
    have child := connected.child_parent inside notRoot
    rw [(connected.links child).2.2.2.2.1] at wire
    obtain ⟨rfl, rfl⟩ := LinkEnd.hmc.inj (Option.some.inj wire)
    rw [if_neg notRoot, if_neg notRoot, if_pos ⟨rfl, rfl⟩, if_pos ⟨rfl, answers⟩]
    simp only [List.countP_cons, List.countP_nil, answers, if_true]
    omega
  · have absent : ¬ (LinkEnd.hmc u (c.upLink flow u) = m ∧ isAnswer flow u packet = true) :=
      fun isHere => answers isHere.2
    have none : (if c.parent flow u = node ∧ c.net.findNextLink (c.parent flow u) u false = l then
        [packet] else []).countP (isAnswer flow u) = 0 := by
      split
      · simp [answers]
      · rfl
    rw [none, if_neg absent]
    rfl

/-- Nothing that belongs to the flow changes but perhaps the responses. -/
theorem view_congr (cubes : s'.cubes = s.cubes) (requests : s'.requests = s.requests)
    (results : s'.results = s.results) (issued : s'.issued flow = s.issued flow)
    (asked : s'.asked flow = s.asked flow) (entered : s'.entered flow = s.entered flow)
    (committed : s'.committed flow = s.committed flow)
    (answers : answersOf c flow s' = answersOf c flow s) : view c flow s' = view c flow s := by
  have stream : streamOf c flow s' = streamOf c flow s := by
    funext u
    rw [streamOf, streamOf, cubes, requests]
  rw [view_of_tables (s := s) fun v => by rw [cubes], stream, results, issued, asked, entered,
    committed, answers]
  rfl

section

variable [AddCommMonoid M]

omit [AddCommMonoid M] in
/-- The answer that arrives at a controller is the root's. -/
theorem TravelsUp.of_root (travels : TravelsUp c m packet) (connected : c.Connected) {cont : ℕ}
    (wire : c.net.linkSlaveP m = some (.hmcCont cont)) (isGet : packet.CMD = .ACT_GET) :
    m = .hmc (c.root packet.DESTADRS) (c.upLink packet.DESTADRS (c.root packet.DESTADRS)) ∧
      packet.SRCCUB = c.root packet.DESTADRS := by
  obtain ⟨v, inside, isLink, isSource, -⟩ := travels.get isGet
  have isRoot : v = c.root packet.DESTADRS := by
    by_contra notRoot
    have child := connected.child_parent inside notRoot
    rw [isLink, (connected.links child).2.2.2.2.1] at wire
    cases wire
  subst isRoot
  exact ⟨isLink, isSource⟩

/-- The answer of the root arrives at its controller. -/
theorem TravelsUp.report_step (travels : TravelsUp c m packet) (connected : c.Connected)
    {rest : List Packet} {cont : ℕ} (isFirst : s.responses m = packet :: rest)
    (wire : c.net.linkSlaveP m = some (.hmcCont cont)) (isGet : packet.CMD = .ACT_GET)
    (isFlow : packet.DESTADRS = flow) :
    Step (c.tree flow) c.amount (view c flow s)
      (view c flow ((s.setResponses m rest).noteAnswer packet)) := by
  subst isFlow
  obtain ⟨isLink, isSource⟩ := travels.of_root connected wire isGet
  have isAnswers : ∀ u, isAnswer packet.DESTADRS u packet =
      decide (c.root packet.DESTADRS = u) := isAnswer_source isGet rfl isSource
  have count : ∀ u other, (s.responses other).countP (isAnswer packet.DESTADRS u) =
      ((s.setResponses m rest).responses other).countP (isAnswer packet.DESTADRS u) +
        if other = m ∧ isAnswer packet.DESTADRS u packet = true then 1 else 0 :=
    countP_rest isFirst rfl
  have one : answersOf c packet.DESTADRS s (c.root packet.DESTADRS) =
      answersOf c packet.DESTADRS (s.setResponses m rest) (c.root packet.DESTADRS) + 1 := by
    rw [answersOf, answersOf, if_pos rfl, if_pos rfl, count,
      if_pos ⟨isLink.symm, by rw [isAnswers]; exact decide_eq_true rfl⟩]
  have answers : answersOf c packet.DESTADRS (s.setResponses m rest) =
      Function.update (answersOf c packet.DESTADRS s) (c.root packet.DESTADRS)
        (answersOf c packet.DESTADRS s (c.root packet.DESTADRS) - 1) := by
    funext u
    by_cases isRoot : u = c.root packet.DESTADRS
    · subst isRoot
      rw [Function.update_self, one, Nat.add_sub_cancel]
    · have absent : ¬ (LinkEnd.hmc u (c.upLink packet.DESTADRS u) = m ∧
          isAnswer packet.DESTADRS u packet = true) := by
        rw [isAnswers, decide_eq_true_eq]
        exact fun isHere => isRoot isHere.2.symm
      rw [Function.update_of_ne isRoot, answersOf, answersOf, count, if_neg absent]
      rfl
  have stepped : Step (c.tree packet.DESTADRS) c.amount (view c packet.DESTADRS s) _ :=
    .report (lt_of_lt_of_eq (Nat.succ_pos _) one.symm)
  have noted : (s.setResponses m rest).noteAnswer packet =
      { s.setResponses m rest with
        issued := Function.update s.issued packet.DESTADRS 0
        asked := Function.update s.asked packet.DESTADRS false } := if_pos isGet
  have viewed : view c packet.DESTADRS ((s.setResponses m rest).noteAnswer packet) = _ :=
    view_of_tables (s := s) fun _ => by rw [noted]; rfl
  have sent : sentOf c packet.DESTADRS (entriesOf packet.DESTADRS s) 0 = _ :=
    sentOf_root _ (s.issued packet.DESTADRS) 0
  have told : toldOf c packet.DESTADRS (entriesOf packet.DESTADRS s) false = _ :=
    toldOf_root _ (s.asked packet.DESTADRS) false
  have isAnswersOf : answersOf c packet.DESTADRS ((s.setResponses m rest).noteAnswer packet) =
      answersOf c packet.DESTADRS (s.setResponses m rest) := by rw [noted]; rfl
  rw [viewed, isAnswersOf, answers]
  rw [noted]
  simp only [Function.update_self]
  rw [sent, told]
  exact stepped

/-- A response arrives. -/
theorem arriveUp_steps (connected : c.Connected) (placed : WellPlaced c s) (m : LinkEnd) :
    Steps (c.tree flow) c.amount (view c flow s) (view c flow (s.arriveUp c m)) := by
  rw [arriveUp]
  split
  · rename_i packet rest node link isFirst wire
    split
    · rename_i room
      have travels := placed.responses m packet (isFirst ▸ List.mem_cons_self)
      have buffers : ∀ v k, contents ((((s.setResponses m rest).setCube node
          ((s.cubes node).setUp link (receive ((s.cubes node).upBuffers link)
            packet))).cubes v).upBuffers k) =
          contents ((s.cubes v).upBuffers k) ++ if v = node ∧ k = link then [packet] else [] := by
        intro v k
        by_cases isNode : v = node
        · subst isNode
          by_cases isLink : k = link
          · subst isLink
            simp [setCube, setResponses, setUp, contents_received room]
          · simp [setCube, setResponses, setUp, isLink]
        · simp [setCube, setResponses, isNode]
      have answers : answersOf c flow _ = answersOf c flow s :=
        answers_arriveUp connected travels isFirst wire rfl buffers
      exact quiet_steps (view_of_up (s := s) rfl rfl rfl rfl rfl rfl) rfl rfl answers
    · exact .refl
  · rename_i packet rest cont isFirst wire
    have travels := placed.responses m packet (isFirst ▸ List.mem_cons_self)
    by_cases isGet : packet.CMD = .ACT_GET
    · by_cases isFlow : packet.DESTADRS = flow
      · exact .single (travels.report_step connected isFirst wire isGet isFlow)
      · have same : view c flow ((s.setResponses m rest).noteAnswer packet) = view c flow s := by
          have answers : answersOf c flow (s.setResponses m rest) = answersOf c flow s :=
            answers_rest isFirst rfl rfl (isAnswer_other isFlow)
          rw [noteAnswer, if_pos isGet]
          exact view_congr rfl rfl rfl (Function.update_of_ne (Ne.symm isFlow) _ _)
            (Function.update_of_ne (Ne.symm isFlow) _ _) rfl rfl answers
        rw [same]
        exact .refl
    · have answers : answersOf c flow (s.setResponses m rest) = answersOf c flow s :=
        answers_rest isFirst rfl rfl (isAnswer_of_not_get isGet)
      have same : view c flow (s.setResponses m rest) = view c flow s :=
        view_congr rfl rfl rfl rfl rfl rfl rfl answers
      rw [noteAnswer, if_neg isGet, same]
      exact .refl
  · exact .refl

end

end CubeNetwork

end ActiveRouting

import ActiveRouting.Reduction.Refinement

/-!
# What each action of a network does to a flow

Requests and responses that move over a link, operands that arrive and the requests of
other flows are no step of the reduction that a flow is; all else is.
-/

namespace ActiveRouting

open Blocks CrossbarSwitch FlowTables GatherTree Outcome

variable {M : Type}

namespace CubeNetwork

variable {c : CubeNetworkConfig M} {flow : BitVec 64} {cube node l : ℕ} {packet packet' : Packet}
  {s s' : CubeNetwork M} {m : LinkEnd}

/-- The tables of the cubes stay as they are. -/
theorem view_of_tables (tables : ∀ v, (s'.cubes v).tables = (s.cubes v).tables) :
    view c flow s' =
      { view c flow s with
        stream := streamOf c flow s'
        sent := sentOf c flow (entriesOf flow s) (s'.issued flow)
        told := toldOf c flow (entriesOf flow s) (s'.asked flow)
        result := fun v => s'.results v flow
        answers := answersOf c flow s'
        issued := s'.entered flow
        committed := s'.committed flow } := by
  have entries : entriesOf flow s' = entriesOf flow s := by
    funext v
    simp only [entriesOf, tables]
  simp only [view, entries, tables]

/-! ## Requests -/

section

variable [AddCommMonoid M]

/-- No update of the flow is in front of the packet. -/
theorem isInorder_contents {slots : PacketVector} {i : ℕ}
    (inorder : isInorder slots i packet = true) :
    ∀ other ∈ contents (slots.take i), isUpdate other = true → other.DESTADRS ≠ packet.DESTADRS := by
  intro other member updates isFlow
  have alone := List.all_eq_true.mp inorder (some other) (mem_contents.mp member)
  simp [updates, isFlow] at alone

/-- A visit of a request. -/
theorem visitDown_steps (connected : c.Connected) (placed : CubePlaced c cube (s.cubes cube))
    (sound : Sound (c.tree flow) c.amount (view c flow s)) {answers : Answers} {i : ℕ}
    {switch : CrossbarSwitch} {sent : List (Port × Packet)}
    (visits : (s.cubes cube).visitDown (c.cube cube) answers l i = .ok (switch, sent)) :
    Steps (c.tree flow) c.amount (view c flow s)
      (view c flow (sent.foldl (sendDown cube) (s.setCube cube switch))) := by
  have sends : SendsDown (s.setCube cube switch) (sent.foldl (sendDown cube) (s.setCube cube switch))
      cube sent := sendsDown_foldl sent
  rw [CrossbarSwitch.visitDown] at visits
  split at visits
  · rename_i packet found
    have arrived := placed.down l packet (mem_of_slot found)
    obtain ⟨before, after, whole, inFront, left, divided, -⟩ :=
      contents_applyFate (placed.tailed.down l) found
    split at visits
    · exact absurd visits throw_ne_ok
    split at visits
    · -- a request that is divided belongs to no flow
      rename_i divides
      have plain : packet.isActive = false := by
        by_contra isActive
        have fits := (arrived.active.fits (by simpa using isActive)).size
        have long : c.dram.addressMapping < packet.reqDataSize := divides.2
        omega
      obtain ⟨isSwitch, rfl⟩ := Prod.mk.inj (pure_eq_ok.mp visits)
      have up : switch.upBuffers = (s.cubes cube).upBuffers := by rw [← isSwitch]; rfl
      have down : switch.downBuffers = Function.update (s.cubes cube).downBuffers l
          (divideSlots (c.cube cube) ((s.cubes cube).downBuffers l) i packet) := by
        rw [← isSwitch]
        rfl
      have tables : switch.tables = (s.cubes cube).tables := by rw [← isSwitch]; rfl
      have moved := moved_of_visit down sends
      have viewed : view c flow _ = _ := view_of_visit up sends
      rw [whole, divided] at moved
      rw [tables] at viewed
      have nothing : ∀ segment ∈ SegmentTable.segments (c.cube cube).dram packet,
          isUpdate segment = false ∧ segment.CMD ≠ .ACT_GET :=
        fun segment member => plain_iff.mp (segments_plain plain member)
      have noItems : ∀ u, items c flow u (SegmentTable.segments (c.cube cube).dram packet) = [] :=
        fun u => List.filterMap_eq_nil_iff.mpr fun segment member =>
          itemOf_plain (nothing segment member).1 (nothing segment member).2 u
      have noGathers : ∀ u, gathers flow u (SegmentTable.segments (c.cube cube).dram packet) = [] :=
        fun u => List.filterMap_eq_nil_iff.mpr fun segment member =>
          gatherOf_none (nothing segment member).2
      obtain ⟨isOther, notGet⟩ := plain_iff.mp plain
      rw [moved.quiet viewed rfl rfl ?_ ?_ fun _ _ => rfl]
      · exact .refl
      · intro u
        rw [← items_erase before after (itemOf_plain isOther notGet), items_append, items_append,
          noItems, List.append_nil, items_append]
      · intro u
        rw [← gathers_erase before after fun _ => gatherOf_none notGet, gathers_append,
          gathers_append, noGathers, List.append_nil, gathers_append]
    · obtain ⟨visit, visited, done⟩ := bind_eq_ok.mp visits
      obtain ⟨isSwitch, rfl⟩ := Prod.mk.inj (pure_eq_ok.mp done)
      have up : switch.upBuffers = (s.cubes cube).upBuffers := by rw [← isSwitch]; rfl
      have down : switch.downBuffers = Function.update (s.cubes cube).downBuffers l
          (applyFate ((s.cubes cube).downBuffers l) i packet visit.fate) := by
        rw [← isSwitch]
        rfl
      have tables : switch.tables = visit.tables := by rw [← isSwitch]; rfl
      have moved := moved_of_visit down sends
      have viewed : view c flow _ = _ := view_of_visit up sends
      rw [whole, left] at moved
      rw [tables] at viewed
      have order : isInorder ((s.cubes cube).downBuffers l) i packet = true →
          ∀ other ∈ before, isUpdate other = true → other.DESTADRS ≠ packet.DESTADRS :=
        fun inorder => inFront ▸ isInorder_contents inorder
      exact arrived.visit_steps connected sound placed.balanced placed.entered moved
        viewed order (visitRequest_cases visited)
  · obtain ⟨rfl, rfl⟩ := Prod.mk.inj (pure_eq_ok.mp visits)
    have same : s.setCube cube (s.cubes cube) = s := by simp [setCube]
    rw [List.foldl_nil, same]
    exact .refl

end

/-- A request on a link that means something to the flow goes to the cube for which it does. -/
theorem Travels.item_feed (travels : Travels c m packet) (connected : c.Connected)
    (wire : c.net.linkSlaveP m = some (.hmc node l)) {u : ℕ}
    (isItem : itemOf c flow u packet ≠ none) : m = c.feed flow node := by
  have isFlow : packet.DESTADRS = flow := by
    by_contra other
    exact isItem (itemOf_other other)
  subst isFlow
  have ends : ∀ cube, m = c.feed packet.DESTADRS cube → cube < c.net.nodes → cube = node := by
    rintro cube rfl inside
    rw [connected.feed_slave _ inside] at wire
    exact (LinkEnd.hmc.inj (Option.some.inj wire)).1
  by_cases some : packet.operands = []
  · have isGet : packet.CMD = .ACT_GET := by
      by_contra notGet
      exact isItem (itemOf_none some notGet)
    obtain ⟨cube, inside, isFeed, -⟩ := travels.get isGet
    rwa [← ends cube isFeed inside]
  · obtain ⟨cube, isFeed, routed⟩ := travels.update some
    rwa [← ends cube isFeed routed.inside]

/-- No `GET` on a link is for a child of the cube that it goes to. -/
theorem Travels.gather_dest (travels : Travels c m packet) (connected : c.Connected)
    (wire : c.net.linkSlaveP m = some (.hmc node l)) {u : ℕ}
    (isGather : gatherOf flow u packet ≠ none) : u = node := by
  have isFlow : packet.DESTADRS = flow := by
    by_contra other
    exact isGather (gatherOf_other other)
  have isGet : packet.CMD = .ACT_GET := by
    by_contra notGet
    exact isGather (gatherOf_none notGet)
  obtain ⟨cube, inside, rfl, isDest⟩ := travels.get isGet
  rw [connected.feed_slave _ inside] at wire
  obtain ⟨rfl, -⟩ := LinkEnd.hmc.inj (Option.some.inj wire)
  by_contra other
  apply isGather
  rw [gatherOf_dest isFlow isGet isDest, if_neg (Ne.symm other)]

/-- A request that arrives stays where it is in the stream of its cube. -/
theorem stream_arriveDown (connected : c.Connected) {rest : List Packet}
    (travels : Travels c m packet) (isFirst : s.requests m = packet :: rest)
    (wire : c.net.linkSlaveP m = some (.hmc node l))
    (requests : s'.requests = Function.update s.requests m rest)
    (buffers : ∀ v k, contents ((s'.cubes v).downBuffers k) =
      contents ((s.cubes v).downBuffers k) ++ if v = node ∧ k = l then [packet] else []) :
    streamOf c flow s' = streamOf c flow s := by
  have waiting : ∀ u, u < c.net.nodes → u ≠ c.root flow →
      gathers flow u (contents ((s'.cubes (c.parent flow u)).downBuffers
        (c.upLink flow (c.parent flow u)))) =
      gathers flow u (contents ((s.cubes (c.parent flow u)).downBuffers
        (c.upLink flow (c.parent flow u)))) := by
    intro u inside notRoot
    rw [buffers, gathers_append]
    split
    · rename_i isNode
      have child := connected.child_parent inside notRoot
      have ne := (CubeNetworkConfig.Connected.child_iff.mp child).2.2.2
      have notThere : gatherOf flow u packet = none := by
        by_contra isGather
        exact ne ((travels.gather_dest connected wire isGather).trans isNode.1.symm)
      rw [gathers_cons, notThere]
      exact List.append_nil _
    · exact List.append_nil _
  funext u
  by_cases inside : u < c.net.nodes
  · have inbox : items c flow u (contents ((s'.cubes u).downBuffers (c.upLink flow u))) ++
          items c flow u (s'.requests (c.feed flow u)) =
        items c flow u (contents ((s.cubes u).downBuffers (c.upLink flow u))) ++
          items c flow u (s.requests (c.feed flow u)) := by
      rw [buffers, requests]
      by_cases isFeed : c.feed flow u = m
      · -- from the link into the buffer behind it
        subst isFeed
        rw [connected.feed_slave _ inside] at wire
        obtain ⟨rfl, rfl⟩ := LinkEnd.hmc.inj (Option.some.inj wire)
        rw [if_pos ⟨rfl, rfl⟩, Function.update_self, isFirst, items_append, List.append_assoc,
          items_cons, items_cons, items_nil, List.append_nil]
      · rw [Function.update_of_ne isFeed, items_append]
        split
        · rename_i isNode
          have nothing : itemOf c flow u packet = none := by
            by_contra isItem
            have isHere := travels.item_feed connected wire isItem
            rw [← isNode.1] at isHere
            exact isFeed isHere.symm
          rw [items_cons, nothing, items_nil, Option.toList_none, List.append_nil, List.append_nil]
        · rw [items_nil, List.append_nil]
    rw [streamOf, streamOf, if_pos inside, if_pos inside, inbox]
    by_cases isRoot : u = c.root flow
    · rw [if_pos isRoot, if_pos isRoot]
    · rw [if_neg isRoot, if_neg isRoot, waiting u inside isRoot]
  · rw [streamOf, streamOf, if_neg inside, if_neg inside]

/-- A packet that there is room for comes last in a buffer. -/
theorem contents_received {slots : PacketVector} (room : hasRoom slots packet = true) :
    contents (receive slots packet) = contents slots ++ [packet] := by
  rw [receive, if_pos room, contents_append, ActiveRouting.tailed, contents_block]

/-- A request arrives. -/
theorem arriveDown_view [AddCommMonoid M] (connected : c.Connected) (placed : WellPlaced c s)
    (m : LinkEnd) : view c flow (s.arriveDown c m) = view c flow s := by
  rw [arriveDown]
  split
  · rename_i packet rest node link isFirst wire
    split
    · rename_i room
      have travels := placed.requests m packet (isFirst ▸ List.mem_cons_self)
      have buffers : ∀ v k, contents ((((s.setRequests m rest).setCube node
          ((s.cubes node).setDown link (receive ((s.cubes node).downBuffers link)
            packet))).cubes v).downBuffers k) =
          contents ((s.cubes v).downBuffers k) ++ if v = node ∧ k = link then [packet] else [] := by
        intro v k
        by_cases isNode : v = node
        · subst isNode
          by_cases isLink : k = link
          · subst isLink
            simp [setCube, setRequests, setDown, contents_received room]
          · simp [setCube, setRequests, setDown, isLink]
        · simp [setCube, setRequests, isNode]
      have stream : streamOf c flow _ = _ :=
        stream_arriveDown connected travels isFirst wire rfl buffers
      have same : ∀ v, (((s.setRequests m rest).setCube node ((s.cubes node).setDown link
          (receive ((s.cubes node).downBuffers link) packet))).cubes v).tables =
            (s.cubes v).tables ∧
          (((s.setRequests m rest).setCube node ((s.cubes node).setDown link
          (receive ((s.cubes node).downBuffers link) packet))).cubes v).upBuffers =
            (s.cubes v).upBuffers := by
        intro v
        by_cases isNode : v = node
        · subst isNode
          simp [setCube, setRequests, setDown]
        · simp [setCube, setRequests, isNode]
      rw [view_of_tables fun v => (same v).1, stream]
      have answers : answersOf c flow ((s.setRequests m rest).setCube node ((s.cubes node).setDown
          link (receive ((s.cubes node).downBuffers link) packet))) = answersOf c flow s :=
        answersOf_congr rfl fun v => (same v).2
      rw [answers]
      rfl
    · rfl
  · rfl

/-! ## What the controllers send -/

/-- A controller sends a request; nothing else changes but the records. -/
structure Issues (s s' : CubeNetwork M) (cont : ℕ) (packet : Packet) : Prop where
  cubes : s'.cubes = s.cubes
  requests : s'.requests = Function.update s.requests (.hmcCont cont)
    (s.requests (.hmcCont cont) ++ [packet])
  responses : s'.responses = s.responses
  results : s'.results = s.results
  committed : s'.committed = s.committed

namespace Issues

variable {cont : ℕ}

/-- The request comes last in the stream of its root. -/
theorem stream (issues : Issues s s' cont packet) (connected : c.Connected) :
    streamOf c flow s' = if cont = c.home flow then
      Function.update (streamOf c flow s) (c.root flow)
        (streamOf c flow s (c.root flow) ++ (itemOf c flow (c.root flow) packet).toList)
      else streamOf c flow s := by
  have others : ∀ u, c.feed flow u ≠ .hmcCont cont → streamOf c flow s' u = streamOf c flow s u := by
    intro u other
    rw [streamOf, streamOf, issues.cubes, issues.requests, Function.update_of_ne other]
  by_cases isHome : cont = c.home flow
  · subst isHome
    rw [if_pos rfl]
    funext u
    by_cases isRoot : u = c.root flow
    · subst isRoot
      have isFeed : c.feed flow (c.root flow) = .hmcCont (c.home flow) := if_pos rfl
      rw [Function.update_self, streamOf, streamOf, if_pos (connected.root_lt flow),
        if_pos (connected.root_lt flow), issues.cubes, issues.requests, isFeed, Function.update_self,
        if_pos rfl, items_append, items_cons, items_nil]
      simp only [List.append_nil, List.append_assoc]
    · rw [Function.update_of_ne isRoot]
      apply others
      rw [CubeNetworkConfig.feed, if_neg isRoot]
      intro same
      cases same
  · rw [if_neg isHome]
    funext u
    apply others
    rw [CubeNetworkConfig.feed]
    split
    · intro same
      exact isHome (LinkEnd.hmcCont.inj same).symm
    · intro same
      cases same

theorem viewed (issues : Issues s s' cont packet) :
    view c flow s' =
      { view c flow s with
        stream := streamOf c flow s'
        sent := sentOf c flow (entriesOf flow s) (s'.issued flow)
        told := toldOf c flow (entriesOf flow s) (s'.asked flow)
        issued := s'.entered flow } := by
  have answers : answersOf c flow s' = answersOf c flow s :=
    answersOf_congr issues.responses fun v => by rw [issues.cubes]
  rw [view_of_tables (s := s) fun v => by rw [issues.cubes], issues.results, issues.committed, answers]
  rfl

end Issues

theorem sentOf_root (entries : ℕ → Option FlowEntry) (issued issued' : ℕ) :
    sentOf c flow entries issued' =
      Function.update (sentOf c flow entries issued) (c.root flow) issued' := by
  funext u
  by_cases isRoot : u = c.root flow
  · subst isRoot
    rw [Function.update_self, sentOf, if_pos rfl]
  · rw [Function.update_of_ne isRoot, sentOf, sentOf, if_neg isRoot, if_neg isRoot]

theorem toldOf_root (entries : ℕ → Option FlowEntry) (asked asked' : Bool) :
    toldOf c flow entries asked' =
      Function.update (toldOf c flow entries asked) (c.root flow) asked' := by
  funext u
  by_cases isRoot : u = c.root flow
  · subst isRoot
    rw [Function.update_self, toldOf, if_pos rfl]
  · rw [Function.update_of_ne isRoot, toldOf, toldOf, if_neg isRoot, if_neg isRoot]

section

variable [AddCommMonoid M] {cont : ℕ}

/-- A controller sends an update. -/
theorem Updates.issue_step (updates : Updates c s cont packet) (connected : c.Connected)
    (isUpdate : CrossbarSwitch.isUpdate packet = true) (isFlow : packet.DESTADRS = flow)
    (issues : Issues s s' cont packet) (issued : s'.issued flow = s.issued flow + 1)
    (asked : s'.asked flow = s.asked flow)
    (entered : s'.entered flow = Function.update (s.entered flow) (packet.splitCube c.net)
      (s.entered flow (packet.splitCube c.net) + (packet.operands.map c.amount).sum)) :
    Step (c.tree flow) c.amount (view c flow s) (view c flow s') := by
  subst isFlow
  have inRoot := connected.root_lt packet.DESTADRS
  have some : packet.operands ≠ [] := by
    rw [operands_of_full isUpdate updates.whole]
    simpa using Nat.ne_of_gt updates.lines
  have isSplit : packet.splitCube c.net =
      c.net.splitCube packet.dest1 packet.dest2 c.net.nodes (c.root packet.DESTADRS) := by
    rw [Packet.splitCube, updates.source, Int.toNat_natCast]
  have above : (c.tree packet.DESTADRS).Above (c.root packet.DESTADRS) (packet.splitCube c.net) := by
    rw [isSplit]
    exact connected.supports.above_of_splitsAt inRoot updates.inside1 .source
      (connected.supports.splitsAt_splitCube updates.inside1 packet.dest2 inRoot)
  have untold : (view c packet.DESTADRS s).told (c.root packet.DESTADRS) = false :=
    (if_pos rfl : toldOf _ _ _ _ _ = _).trans updates.unasked
  have isSent : (view c packet.DESTADRS s).sent (c.root packet.DESTADRS) =
      s.issued packet.DESTADRS := if_pos rfl
  have stepped : Step (c.tree packet.DESTADRS) c.amount (view c packet.DESTADRS s) _ :=
    .issue (packet.splitCube c.net) packet.operands untold (Finset.mem_range.mpr inRoot) above some
  have isItem : itemOf c packet.DESTADRS (c.root packet.DESTADRS) packet = _ := itemOf_update rfl some
  have sent : sentOf c packet.DESTADRS (entriesOf packet.DESTADRS s) (s.issued packet.DESTADRS + 1) =
      Function.update (view c packet.DESTADRS s).sent (c.root packet.DESTADRS)
        ((view c packet.DESTADRS s).sent (c.root packet.DESTADRS) + 1) := by
    rw [isSent]
    exact sentOf_root _ _ _
  rw [issues.viewed, issues.stream connected, if_pos updates.home.symm, isItem, issued, asked, entered,
    sent]
  exact stepped

/-- A controller asks for the result. -/
theorem Asks.ask_step (asks : Asks c s cont packet) (connected : c.Connected)
    (isGet : packet.CMD = .ACT_GET) (isFlow : packet.DESTADRS = flow)
    (issues : Issues s s' cont packet) (issued : s'.issued flow = s.issued flow)
    (asked : s'.asked flow = true) (entered : s'.entered flow = s.entered flow) :
    Step (c.tree flow) c.amount (view c flow s) (view c flow s') := by
  subst isFlow
  have inRoot := connected.root_lt packet.DESTADRS
  have untold : (view c packet.DESTADRS s).told (c.root packet.DESTADRS) = false :=
    (if_pos rfl : toldOf _ _ _ _ _ = _).trans asks.unasked
  have isSent : (view c packet.DESTADRS s).sent (c.root packet.DESTADRS) =
      s.issued packet.DESTADRS := if_pos rfl
  have stepped : Step (c.tree packet.DESTADRS) c.amount (view c packet.DESTADRS s) _ :=
    .ask untold (Finset.mem_range.mpr inRoot) (isSent ▸ asks.some)
  have isItem : itemOf c packet.DESTADRS (c.root packet.DESTADRS) packet = Option.some Item.gather := by
    rw [itemOf_get isGet, gatherOf_dest rfl isGet asks.dest, if_pos rfl]
  have told : toldOf c packet.DESTADRS (entriesOf packet.DESTADRS s) true =
      Function.update (view c packet.DESTADRS s).told (c.root packet.DESTADRS) true :=
    toldOf_root _ _ _
  rw [issues.viewed, issues.stream connected, if_pos asks.home.symm, isItem, issued, asked, entered,
    told]
  exact stepped

/-- A request that means nothing to the flow. -/
theorem Issues.quiet_steps (issues : Issues s s' cont packet) (connected : c.Connected)
    (nothing : itemOf c flow (c.root flow) packet = none) (issued : s'.issued flow = s.issued flow)
    (asked : s'.asked flow = s.asked flow) (entered : s'.entered flow = s.entered flow) :
    Steps (c.tree flow) c.amount (view c flow s) (view c flow s') := by
  have same : view c flow s' = view c flow s := by
    rw [issues.viewed, issues.stream connected, nothing, Option.toList_none, List.append_nil,
      Function.update_eq_self, ite_self, issued, asked, entered]
    rfl
  rw [same]
  exact .refl

omit [AddCommMonoid M] in
theorem Issues.of_records {issued : BitVec 64 → ℕ} {asked : BitVec 64 → Bool}
    {entered : BitVec 64 → ℕ → M} :
    Issues s { s.setRequests (.hmcCont cont) (s.requests (.hmcCont cont) ++ [packet]) with
      issued := issued, asked := asked, entered := entered } cont packet :=
  ⟨rfl, rfl, rfl, rfl, rfl⟩

/-- A controller sends a request. -/
theorem issue_steps (connected : c.Connected)
    (updates : isUpdate packet = true → Updates c s cont packet)
    (asks : packet.CMD = .ACT_GET → Asks c s cont packet) :
    Steps (c.tree flow) c.amount (view c flow s) (view c flow
      ((s.setRequests (.hmcCont cont) (s.requests (.hmcCont cont) ++ [packet])).note c packet)) := by
  rw [note]
  split
  · rename_i isUpd
    by_cases isFlow : packet.DESTADRS = flow
    · subst isFlow
      exact .single ((updates isUpd).issue_step connected isUpd rfl .of_records
        (Function.update_self _ _ _) rfl (Function.update_self _ _ _))
    · refine Issues.quiet_steps .of_records connected (itemOf_other isFlow) ?_ rfl ?_
      · exact Function.update_of_ne (Ne.symm isFlow) _ _
      · exact Function.update_of_ne (Ne.symm isFlow) _ _
  · rename_i isOther
    split
    · rename_i isGet
      by_cases isFlow : packet.DESTADRS = flow
      · subst isFlow
        exact .single ((asks isGet).ask_step connected isGet rfl .of_records rfl
          (Function.update_self _ _ _) rfl)
      · refine Issues.quiet_steps .of_records connected (itemOf_other isFlow) rfl ?_ rfl
        exact Function.update_of_ne (Ne.symm isFlow) _ _
    · rename_i notGet
      have issues : Issues s (s.setRequests (.hmcCont cont)
          (s.requests (.hmcCont cont) ++ [packet])) cont packet := ⟨rfl, rfl, rfl, rfl, rfl⟩
      exact issues.quiet_steps connected (itemOf_plain (by simpa using isOther) notGet _) rfl rfl rfl

end

end CubeNetwork

end ActiveRouting

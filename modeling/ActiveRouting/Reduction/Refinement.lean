import ActiveRouting.Reduction.FlowView

/-!
# What a network does to a flow

Every step of a network is a number of steps of the reduction that a flow is: most of
them none, the visit of a request at most one.
-/

namespace ActiveRouting

open Blocks CrossbarSwitch FlowTables GatherTree Outcome

variable {M : Type}

namespace CubeNetwork

variable {c : CubeNetworkConfig M} {flow : BitVec 64} {cube node l : ℕ} {packet packet' : Packet}
  {s s' : CubeNetwork M}

/-! ## Requests that are sent -/

/-- The requests that a cube sends on a link. -/
def sentOn (cube : ℕ) (sent : List (Port × Packet)) (m : LinkEnd) : List Packet :=
  sent.filterMap fun message =>
    match message.1 with
    | .link link => if m = .hmc cube link then some message.2 else none
    | .vault _ => none

/-- Requests are sent; nothing else changes but the vaults. -/
structure SendsDown (s s' : CubeNetwork M) (cube : ℕ) (sent : List (Port × Packet)) : Prop where
  cubes : s'.cubes = s.cubes
  requests : ∀ m, s'.requests m = s.requests m ++ sentOn cube sent m
  responses : s'.responses = s.responses
  results : s'.results = s.results
  issued : s'.issued = s.issued
  asked : s'.asked = s.asked
  entered : s'.entered = s.entered
  committed : s'.committed = s.committed

theorem sendsDown_foldl (sent : List (Port × Packet)) :
    SendsDown s (sent.foldl (sendDown cube) s) cube sent := by
  induction sent generalizing s with
  | nil => exact ⟨rfl, fun m => (List.append_nil _).symm, rfl, rfl, rfl, rfl, rfl, rfl⟩
  | cons message sent ih =>
    obtain ⟨port, packet⟩ := message
    rw [List.foldl_cons]
    have rest := ih (s := sendDown cube s (port, packet))
    cases port with
    | vault vaultMap =>
      refine ⟨rest.cubes, ?_, rest.responses, rest.results, rest.issued, rest.asked, rest.entered,
        rest.committed⟩
      exact rest.requests
    | link link =>
      refine ⟨rest.cubes, ?_, rest.responses, rest.results, rest.issued, rest.asked, rest.entered,
        rest.committed⟩
      intro m
      rw [rest.requests m]
      by_cases isLink : m = .hmc cube link
      · subst isLink
        simp [sendDown, setRequests, sentOn]
      · simp [sendDown, setRequests, sentOn, isLink]

theorem sentOn_link (link : Fin numLinks) (packet : Packet) (m : LinkEnd) :
    sentOn cube [(.link link, packet)] m = if m = .hmc cube link then [packet] else [] := by
  by_cases isLink : m = .hmc cube link
  · simp [sentOn, isLink]
  · simp [sentOn, isLink]

theorem sentOn_ne_nil {sent : List (Port × Packet)} {m : LinkEnd} (some : sentOn cube sent m ≠ []) :
    ∃ link, m = .hmc cube link := by
  obtain ⟨packet, member⟩ := List.exists_mem_of_ne_nil _ some
  obtain ⟨⟨port, packet'⟩, -, isSent⟩ := List.mem_filterMap.mp member
  cases port with
  | vault vaultMap => cases isSent
  | link link =>
    by_cases isLink : m = .hmc cube link
    · exact ⟨link, isLink⟩
    · simp [isLink] at isSent

/-- What is sent means nothing to the flow if none of it does. -/
theorem items_sentOn {sent : List (Port × Packet)}
    (nothing : ∀ link packet, (Port.link link, packet) ∈ sent →
      ∀ u, itemOf c flow u packet = none) (m : LinkEnd) (u : ℕ) :
    items c flow u (sentOn cube sent m) = [] := by
  apply List.filterMap_eq_nil_iff.mpr
  intro packet member
  obtain ⟨⟨port, packet'⟩, isSent, same⟩ := List.mem_filterMap.mp member
  cases port with
  | vault vaultMap => cases same
  | link link =>
    by_cases isLink : m = .hmc cube link
    · simp only [isLink, if_true, Option.some.injEq] at same
      exact same ▸ nothing link packet' isSent u
    · simp [isLink] at same

/-! ## Visits that mean nothing to the flow -/

/-- Nothing that belongs to the flow changes. -/
theorem Moved.quiet {packets packets' : List Packet} {sent : LinkEnd → List Packet}
    (moved : Moved s s' cube l packets packets' sent) {entry : Option FlowEntry}
    {held : Multiset (BitVec 64 × BitVec 64)}
    (viewed : view c flow s' = withEntry c flow s cube entry held (streamOf c flow s'))
    (stays : entriesOf flow s cube = entry) (holds : (view c flow s).held cube = held)
    (sameItems : ∀ u, items c flow u packets' = items c flow u packets)
    (sameGathers : ∀ u, gathers flow u packets' = gathers flow u packets)
    (nothing : ∀ m u, items c flow u (sent m) = []) : view c flow s' = view c flow s := by
  rw [viewed, withEntry_same stays holds, moved.stream_same sameItems sameGathers nothing]
  rfl

/-- A packet is replaced by one that means the same. -/
theorem items_rewrite (before after : List Packet)
    (same : ∀ u, itemOf c flow u packet' = itemOf c flow u packet) (u : ℕ) :
    items c flow u (before ++ packet' :: after) = items c flow u (before ++ packet :: after) := by
  simp only [items_append, items_cons, same]

theorem gathers_rewrite (before after : List Packet)
    (same : ∀ u, gatherOf flow u packet' = gatherOf flow u packet) (u : ℕ) :
    gathers flow u (before ++ packet' :: after) = gathers flow u (before ++ packet :: after) := by
  simp only [gathers_append, gathers_cons, same]

/-- A packet that means nothing is erased. -/
theorem items_erase (before after : List Packet) (nothing : ∀ u, itemOf c flow u packet = none)
    (u : ℕ) : items c flow u (before ++ after) = items c flow u (before ++ packet :: after) := by
  simp only [items_append, items_cons, nothing, Option.toList_none, List.nil_append]

theorem gathers_erase (before after : List Packet) (nothing : ∀ u, gatherOf flow u packet = none)
    (u : ℕ) : gathers flow u (before ++ after) = gathers flow u (before ++ packet :: after) := by
  simp only [gathers_append, gathers_cons, nothing, Option.toList_none, List.nil_append]

/-! ## Visits of an update -/

variable [AddCommMonoid M]

/-- A cube takes the first operand of an update that is for it. -/
theorem Moved.take {packets packets' before after : List Packet} {sent : LinkEnd → List Packet}
    (moved : Moved s s' cube l packets packets' sent) (connected : c.Connected)
    (inside : cube < c.net.nodes) (isLink : l = c.upLink flow cube)
    (isFlow : packet.DESTADRS = flow) (whole : packets = before ++ packet :: after)
    {pair : BitVec 64 × BitVec 64} {operands : List (BitVec 64 × BitVec 64)}
    (isCons : packet.operands = pair :: operands) (isHere : packet.splitCube c.net = cube)
    (left : items c flow cube packets' =
      items c flow cube before ++ Item.rest cube operands ++ items c flow cube after)
    (sameGathers : ∀ u, gathers flow u packets' = gathers flow u packets)
    (nothing : ∀ m u, items c flow u (sent m) = []) {opcode : Opcode} {parent : ℤ}
    (viewed : view c flow s' = withEntry c flow s cube
      (some (countedEntry opcode parent (entriesOf flow s cube)))
      ((view c flow s).held cube + {pair}) (streamOf c flow s')) :
    Step (c.tree flow) c.amount (view c flow s) (view c flow s') := by
  obtain ⟨rest, stream, stream'⟩ := moved.stream_self connected inside isLink
  have isItem : itemOf c flow cube packet = some (.update cube (pair :: operands)) := by
    rw [itemOf_update isFlow (by simp [isCons]), isHere, isCons]
  have found : (view c flow s).stream cube = items c flow cube before ++
      .update cube (pair :: operands) :: (items c flow cube after ++ rest) := by
    show streamOf c flow s cube = _
    rw [stream, whole, items_append, items_cons, isItem]
    simp
  have streams : streamOf c flow s' = Function.update (view c flow s).stream cube
      (items c flow cube before ++ Item.rest cube operands ++ (items c flow cube after ++ rest)) := by
    funext u
    by_cases isCube : u = cube
    · subst isCube
      rw [stream', left, Function.update_self]
      simp only [List.append_assoc]
    · rw [Function.update_of_ne isCube]
      by_cases child : c.Child flow cube u
      · obtain ⟨front, before', after'⟩ := moved.stream_child isLink child
        rw [after', nothing, sameGathers, List.append_nil]
        exact before'.symm
      · exact moved.stream_other connected isCube child
  have stepped : Step (c.tree flow) c.amount (view c flow s) _ :=
    .take cube (items c flow cube before) (items c flow cube after ++ rest) pair operands found
  rw [viewed, withEntry_counted connected, streams, add_comm, Multiset.singleton_add]
  exact stepped

/-- No `GET` waits for a child that is not told to gather. -/
theorem gathers_untold (sound : Sound (c.tree flow) c.amount (view c flow s))
    (untold : (view c flow s).told node = false)
    {front : List (Item ℕ (BitVec 64 × BitVec 64))} {packets : List Packet}
    (stream : streamOf c flow s node = front ++ gathers flow node packets) :
    gathers flow node packets = [] := by
  have phase := sound.ordered.phase node
  rw [untold] at phase
  have updates := phase.updates
  by_contra some
  obtain ⟨item, member⟩ := List.exists_mem_of_ne_nil _ some
  have isGather : item = .gather := by
    rw [gathers_eq_replicate] at member
    exact List.eq_of_mem_replicate member
  have isUpdate := updates item (by
    show item ∈ streamOf c flow s node
    rw [stream]
    exact List.mem_append_right front member)
  rw [isGather] at isUpdate
  cases isUpdate

/-- An update is passed on to a child. -/
theorem Moved.forward {before after : List Packet} {sent : LinkEnd → List Packet}
    (moved : Moved s s' cube l (before ++ packet :: after) (before ++ after) sent)
    (connected : c.Connected) (sound : Sound (c.tree flow) c.amount (view c flow s))
    (inside : cube < c.net.nodes) (isLink : l = c.upLink flow cube)
    (isFlow : packet.DESTADRS = flow) (some : packet.operands ≠ [])
    (child : c.Child flow cube node) (above : (c.tree flow).Above node (packet.splitCube c.net))
    (sends : ∀ m, sent m = if m = .hmc cube (c.net.findNextLink cube node false)
      then [packet.resetLinkFields] else []) {opcode : Opcode} {parent : ℤ}
    (viewed : view c flow s' = withEntry c flow s cube
      (Option.some ((countedEntry opcode parent (entriesOf flow s cube)).addChild
        (CubeNetworkConfig.linkOf (c.net.findNextLink cube node false))))
      ((view c flow s).held cube) (streamOf c flow s')) :
    Step (c.tree flow) c.amount (view c flow s) (view c flow s') := by
  have notGet : packet.CMD ≠ .ACT_GET := by
    intro isGet
    exact some (operands_of_not_update (not_isUpdate_of_get isGet))
  have isItem : ∀ u, itemOf c flow u packet =
      Option.some (.update (packet.splitCube c.net) packet.operands) :=
    fun u => itemOf_update isFlow some
  have ne := (CubeNetworkConfig.Connected.child_iff.mp child).2.2.2
  obtain ⟨rest, stream, stream'⟩ := moved.stream_self connected inside isLink
  have found : (view c flow s).stream cube = items c flow cube before ++
      .update (packet.splitCube c.net) packet.operands :: (items c flow cube after ++ rest) := by
    show streamOf c flow s cube = _
    rw [stream, items_append, items_cons, isItem]
    simp
  have sameGathers : ∀ u, gathers flow u (before ++ after) =
      gathers flow u (before ++ packet :: after) :=
    gathers_erase before after fun u => gatherOf_none notGet
  have untold := sound.ordered.untold found child
  obtain ⟨front, toChild, toChild'⟩ := moved.stream_child isLink child
  have noGather := gathers_untold sound untold toChild
  have streams : streamOf c flow s' = Function.update (Function.update (view c flow s).stream cube
      (items c flow cube before ++ (items c flow cube after ++ rest))) node
        ((view c flow s).stream node ++ [.update (packet.splitCube c.net) packet.operands]) := by
    funext u
    by_cases isNode : u = node
    · subst isNode
      have isChild : (view c flow s).stream u = front := by
        show streamOf c flow s u = front
        rw [toChild, noGather, List.append_nil]
      have isSent : items c flow u (sent (c.feed flow u)) =
          [.update (packet.splitCube c.net) packet.operands] := by
        have same : itemOf c flow u packet.resetLinkFields = itemOf c flow u packet := rfl
        rw [sends, CubeNetworkConfig.Connected.feed_child child, if_pos rfl, items_cons, same,
          isItem]
        rfl
      rw [toChild', isSent, sameGathers, noGather, List.append_nil, Function.update_self, isChild]
    · rw [Function.update_of_ne isNode]
      by_cases isCube : u = cube
      · subst isCube
        rw [stream', Function.update_self, items_append, List.append_assoc]
      · rw [Function.update_of_ne isCube]
        by_cases isChild : c.Child flow cube u
        · obtain ⟨front', before', after'⟩ := moved.stream_child isLink isChild
          have otherLink : c.feed flow u ≠ .hmc cube (c.net.findNextLink cube node false) := by
            rw [CubeNetworkConfig.Connected.feed_child isChild]
            intro same
            exact isNode (connected.child_unique isChild child (LinkEnd.hmc.inj same).2)
          rw [after', sends, if_neg otherLink, items_nil, sameGathers, List.append_nil]
          exact before'.symm
        · exact moved.stream_other connected isCube isChild
  have stepped : Step (c.tree flow) c.amount (view c flow s) _ :=
    .forward cube node (packet.splitCube c.net) (items c flow cube before)
      (items c flow cube after ++ rest) packet.operands found child above
  have pushed : (((view c flow s).setStream cube
      (items c flow cube before ++ (items c flow cube after ++ rest))).push node
        (.update (packet.splitCube c.net) packet.operands)) =
      { view c flow s with stream := streamOf c flow s' } := by
    rw [streams]
    simp [State.push, State.setStream, Function.update_of_ne ne]
  rw [viewed, withEntry_addChild connected child opcode parent rfl, ← pushed]
  exact stepped

/-! ## Visits of a `GET` -/

omit [AddCommMonoid M] in
/-- Behind no update of its flow. -/
theorem settled_of_inorder {before : List Packet}
    (inorder : ∀ packet ∈ before, isUpdate packet = true → packet.DESTADRS ≠ flow) :
    Settled (items c flow cube before) := by
  intro item member
  obtain ⟨packet, isBefore, isItem⟩ := List.mem_filterMap.mp member
  rw [itemOf] at isItem
  split at isItem
  · rename_i isFlow
    split at isItem
    · rename_i some
      exact absurd isFlow (inorder packet isBefore (isUpdate_of_operands some))
    · split at isItem
      · obtain rfl := Option.some.inj isItem
        rfl
      · cases isItem
  · cases isItem

/-- The `GET` is replicated for a child. -/
theorem Moved.tell {before after : List Packet} {sent : LinkEnd → List Packet}
    (moved : Moved s s' cube l (before ++ packet :: after) (before ++ packet :: after ++ [packet'])
      sent)
    (connected : c.Connected) (inside : cube < c.net.nodes) (isLink : l = c.upLink flow cube)
    (isFlow : packet.DESTADRS = flow) (isGet : packet.CMD = .ACT_GET)
    (isHere : packet.DESTCUB = cube) (isFlow' : packet'.DESTADRS = flow)
    (isGet' : packet'.CMD = .ACT_GET) (isDest : packet'.DESTCUB = node)
    (inorder : ∀ packet ∈ before, isUpdate packet = true → packet.DESTADRS ≠ flow)
    (child : c.Child flow cube node) (nothing : ∀ m, sent m = []) {e : FlowEntry}
    (entry : entriesOf flow s cube = some e)
    (counts : 0 < e.children_count (CubeNetworkConfig.linkOf (c.net.findNextLink cube node false)))
    (untold : e.children_gflag (CubeNetworkConfig.linkOf (c.net.findNextLink cube node false)) =
      false)
    (viewed : view c flow s' = withEntry c flow s cube
      (some (e.markChild (CubeNetworkConfig.linkOf (c.net.findNextLink cube node false))))
      ((view c flow s).held cube) (streamOf c flow s')) :
    Step (c.tree flow) c.amount (view c flow s) (view c flow s') := by
  have ne := (CubeNetworkConfig.Connected.child_iff.mp child).2.2.2
  have isItem : itemOf c flow cube packet = some .gather := by
    rw [itemOf_get isGet, gatherOf_dest isFlow isGet isHere, if_pos rfl]
  obtain ⟨rest, stream, stream'⟩ := moved.stream_self connected inside isLink
  have found : (view c flow s).stream cube = items c flow cube before ++
      .gather :: (items c flow cube after ++ rest) := by
    show streamOf c flow s cube = _
    rw [stream, items_append, items_cons, isItem]
    simp
  have isChildItem : ∀ u, gatherOf flow u packet' = if node = u then some .gather else none :=
    fun u => gatherOf_dest isFlow' isGet' isDest
  have isSent : (view c flow s).sent node =
      e.children_count (CubeNetworkConfig.linkOf (c.net.findNextLink cube node false)) := by
    refine (sentOf_child child).trans ?_
    rw [entry]
    rfl
  have isTold : (view c flow s).told node =
      e.children_gflag (CubeNetworkConfig.linkOf (c.net.findNextLink cube node false)) := by
    refine (toldOf_child child).trans ?_
    rw [entry]
    rfl
  have streams : streamOf c flow s' = Function.update (view c flow s).stream node
      ((view c flow s).stream node ++ [.gather]) := by
    funext u
    by_cases isCube : u = cube
    · subst isCube
      rw [Function.update_of_ne (Ne.symm ne), stream', items_append, items_cons,
        itemOf_get isGet', isChildItem, if_neg ne]
      show _ ++ ([] ++ []) ++ rest = streamOf c flow s u
      rw [List.append_nil, List.append_nil]
      exact stream.symm
    · by_cases isChild : c.Child flow cube u
      · obtain ⟨front, before', after'⟩ := moved.stream_child isLink isChild
        rw [nothing, items_nil, List.append_nil, gathers_append, ← List.append_assoc,
          ← before', gathers_cons, isChildItem] at after'
        by_cases isNode : u = node
        · subst isNode
          rw [Function.update_self, after', if_pos rfl]
          rfl
        · rw [Function.update_of_ne isNode, after', if_neg fun same => isNode same.symm]
          exact List.append_nil _
      · have isOther : u ≠ node := fun same => isChild (same ▸ child)
        rw [Function.update_of_ne isOther]
        exact moved.stream_other connected isCube isChild
  have stepped : Step (c.tree flow) c.amount (view c flow s) _ :=
    .tell cube node (items c flow cube before) (items c flow cube after ++ rest) found
      (settled_of_inorder inorder) child (isSent ▸ counts) (isTold.trans untold)
  rw [viewed, withEntry_markChild connected child entry rfl, streams]
  exact stepped

/-- The `GET` was replicated for all children. -/
theorem Moved.mark {before after : List Packet} {sent : LinkEnd → List Packet}
    (moved : Moved s s' cube l (before ++ packet :: after) (before ++ after) sent)
    (connected : c.Connected) (inside : cube < c.net.nodes) (isLink : l = c.upLink flow cube)
    (isFlow : packet.DESTADRS = flow) (isGet : packet.CMD = .ACT_GET)
    (isHere : packet.DESTCUB = cube)
    (inorder : ∀ packet ∈ before, isUpdate packet = true → packet.DESTADRS ≠ flow)
    (nothing : ∀ m, sent m = []) {e : FlowEntry} (entry : entriesOf flow s cube = some e)
    (viewed : view c flow s' = withEntry c flow s cube (some e.markGather)
      ((view c flow s).held cube) (streamOf c flow s')) :
    Step (c.tree flow) c.amount (view c flow s) (view c flow s') := by
  have isItem : itemOf c flow cube packet = some .gather := by
    rw [itemOf_get isGet, gatherOf_dest isFlow isGet isHere, if_pos rfl]
  obtain ⟨rest, stream, stream'⟩ := moved.stream_self connected inside isLink
  have found : (view c flow s).stream cube = items c flow cube before ++
      .gather :: (items c flow cube after ++ rest) := by
    show streamOf c flow s cube = _
    rw [stream, items_append, items_cons, isItem]
    simp
  have streams : streamOf c flow s' = Function.update (view c flow s).stream cube
      (items c flow cube before ++ (items c flow cube after ++ rest)) := by
    funext u
    by_cases isCube : u = cube
    · subst isCube
      rw [Function.update_self, stream', items_append, List.append_assoc]
    · rw [Function.update_of_ne isCube]
      by_cases isChild : c.Child flow cube u
      · obtain ⟨front, before', after'⟩ := moved.stream_child isLink isChild
        rw [after', nothing, items_nil, List.append_nil, gathers_append]
        have notThere : gatherOf flow u packet = none := by
          rw [gatherOf_dest isFlow isGet isHere, if_neg fun same => isCube same.symm]
        rw [gathers_append, gathers_cons, notThere] at before'
        exact before'.symm
      · exact moved.stream_other connected isCube isChild
  have isPresent : (view c flow s).present cube = true := by simp [view, entry]
  have stepped : Step (c.tree flow) c.amount (view c flow s) _ :=
    .mark cube (items c flow cube before) (items c flow cube after ++ rest) found
      (settled_of_inorder inorder) isPresent
  rw [viewed, withEntry_markGather connected entry rfl, streams]
  exact stepped

omit [AddCommMonoid M] in
/-- A `GET` is passed on to the child for which it was replicated; to the child it is on its
    way before and after. -/
theorem Moved.passGet {before after : List Packet} {sent : LinkEnd → List Packet}
    (moved : Moved s s' cube l (before ++ packet :: after) (before ++ after) sent)
    (connected : c.Connected) (inside : cube < c.net.nodes) (isLink : l = c.upLink flow cube)
    (isFlow : packet.DESTADRS = flow) (isGet : packet.CMD = .ACT_GET)
    (isDest : packet.DESTCUB = node) (child : c.Child flow cube node)
    (sends : ∀ m, sent m = if m = .hmc cube (c.net.findNextLink cube node false)
      then [packet.resetLinkFields] else [])
    (viewed : view c flow s' = withEntry c flow s cube (entriesOf flow s cube)
      ((view c flow s).held cube) (streamOf c flow s')) : view c flow s' = view c flow s := by
  have ne := (CubeNetworkConfig.Connected.child_iff.mp child).2.2.2
  have isGather : ∀ u, gatherOf flow u packet = if node = u then some .gather else none :=
    fun u => gatherOf_dest isFlow isGet isDest
  have streams : streamOf c flow s' = streamOf c flow s := by
    funext u
    by_cases isCube : u = cube
    · subst isCube
      obtain ⟨rest, stream, stream'⟩ := moved.stream_self connected inside isLink
      rw [stream, stream', items_append, items_append, items_cons, itemOf_get isGet, isGather,
        if_neg ne]
      rfl
    · by_cases isChild : c.Child flow cube u
      · obtain ⟨front, before', after'⟩ := moved.stream_child isLink isChild
        rw [after', before', sends, CubeNetworkConfig.Connected.feed_child isChild, gathers_append,
          gathers_append, gathers_cons, isGather]
        by_cases isNode : u = node
        · subst isNode
          have isGet' : packet.resetLinkFields.CMD = .ACT_GET := isGet
          have isItem : itemOf c flow u packet.resetLinkFields = some .gather :=
            (itemOf_get isGet').trans ((isGather u).trans (if_pos rfl))
          rw [if_pos rfl, if_pos rfl, items_cons, isItem, items_nil, List.append_nil,
            gathers_eq_replicate before]
          -- one `GET` is like another
          have swap : ∀ (n : ℕ) (item : Item ℕ (BitVec 64 × BitVec 64)),
              [item] ++ List.replicate n item = List.replicate n item ++ [item] := by
            intro n item
            rw [← List.replicate_succ', List.replicate_succ, List.singleton_append]
          simp only [Option.toList_some, List.append_assoc]
          rw [← List.append_assoc [Item.gather], swap, List.append_assoc]
        · have otherLink : LinkEnd.hmc cube (c.net.findNextLink cube u false) ≠
              .hmc cube (c.net.findNextLink cube node false) := by
            intro same
            exact isNode (connected.child_unique isChild child (LinkEnd.hmc.inj same).2)
          rw [if_neg otherLink, if_neg fun same => isNode same.symm, items_nil, List.append_nil]
          rfl
      · exact moved.stream_other connected isCube isChild
  rw [viewed, withEntry_same rfl rfl, streams]
  rfl

/-! ## Visits of requests -/

section

variable {switch : CrossbarSwitch} {sent : List (Port × Packet)} {slots : PacketVector}

omit [AddCommMonoid M] in
/-- What a visit of a request does to the buffers and links. -/
theorem moved_of_visit (down : switch.downBuffers =
      Function.update (s.cubes cube).downBuffers l slots)
    (sends : SendsDown (s.setCube cube switch) s' cube sent) :
    Moved s s' cube l (contents ((s.cubes cube).downBuffers l)) (contents slots)
      (sentOn cube sent) where
  before := rfl
  after := by rw [sends.cubes]; simp [setCube, down]
  others v k other := by
    rw [sends.cubes]
    by_cases same : v = cube
    · subst same
      have notLink : k ≠ l := other.resolve_left (fun ne => ne rfl)
      simp [setCube, down, notLink]
    · simp [setCube, same]
  requests := sends.requests
  sends _ := sentOn_ne_nil

omit [AddCommMonoid M] in
/-- What it does to the view. -/
theorem view_of_visit (up : switch.upBuffers = (s.cubes cube).upBuffers)
    (sends : SendsDown (s.setCube cube switch) s' cube sent) :
    view c flow s' = withEntry c flow s cube (switch.tables.flowTable flow)
      (heldOf c flow switch.tables) (streamOf c flow s') := by
  apply view_eq_withEntry sends.cubes sends.results sends.issued sends.asked sends.entered
    sends.committed
  refine answersOf_congr (s := s) sends.responses fun v => ?_
  rw [sends.cubes]
  by_cases same : v = cube
  · subst same
    simp [setCube, up]
  · simp [setCube, same]

end

section

variable {before after : List Packet} {sent : List (Port × Packet)} {packets' : List Packet}

/-- An operand buffer is reserved for the first operand of an update. -/
theorem Arrived.enter_steps (arrived : Arrived c cube l packet) (connected : c.Connected)
    (balanced : Balanced (c.cube cube) settled (s.cubes cube).tables)
    (moved : Moved s s' cube l (before ++ packet :: after) packets' (sentOn cube sent))
    (isCons : packet.operands = packet.operandsOf 0 :: restOperands packet)
    (parts : CrossbarSwitch.Parts (c.cube cube) packet) {opcode : Opcode} {src2 : BitVec 64}
    (isPair : packet.operandsOf 0 = (packet.SRCADRS1, src2)) {id : ℕ} {t' : FlowTables}
    (enters : Enters (c.cube cube) (s.cubes cube).tables opcode packet src2 id t')
    (viewed : view c flow s' = withEntry c flow s cube (t'.flowTable flow) (heldOf c flow t')
      (streamOf c flow s'))
    (left : packet.DESTADRS = flow → items c flow cube packets' =
      items c flow cube before ++ Item.rest cube (restOperands packet) ++ items c flow cube after)
    (other : packet.DESTADRS ≠ flow →
      ∀ u, items c flow u packets' = items c flow u (before ++ packet :: after))
    (sameGathers : ∀ u, gathers flow u packets' = gathers flow u (before ++ packet :: after))
    (nothing : ∀ m u, items c flow u (sentOn cube sent m) = []) :
    Steps (c.tree flow) c.amount (view c flow s) (view c flow s') := by
  have holds : heldOf c flow t' = _ := heldOf_enter balanced enters
  rw [enters.flowTable] at viewed
  by_cases isFlow : packet.DESTADRS = flow
  · obtain ⟨isLink, routed⟩ := arrived.update (by simp [isCons])
    rw [isFlow, Function.update_self] at viewed
    rw [if_pos isFlow] at holds
    rw [holds, ← isPair] at viewed
    have isHere := routed.splits.of_parts ((routed.parts_iff connected).mp parts)
    exact .single (moved.take connected routed.inside (isFlow ▸ isLink) isFlow rfl isCons isHere
      (left isFlow) sameGathers nothing viewed)
  · rw [Function.update_of_ne (Ne.symm isFlow)] at viewed
    rw [if_neg isFlow, add_zero] at holds
    rw [moved.quiet viewed rfl holds.symm (other isFlow) sameGathers nothing]
    exact .refl

omit [AddCommMonoid M] in
theorem itemOf_plain (isOther : isUpdate packet = false) (notGet : packet.CMD ≠ .ACT_GET) (u : ℕ) :
    itemOf c flow u packet = none := itemOf_none (operands_of_not_update isOther) notGet

/-- A visit of a request is at most one step of a flow. -/
theorem Arrived.visit_steps (arrived : Arrived c cube l packet) (connected : c.Connected)
    (sound : Sound (c.tree flow) c.amount (view c flow s))
    (balanced : Balanced (c.cube cube) settled (s.cubes cube).tables)
    (entered : AllEntered c cube (s.cubes cube).tables) {inorder room : Bool} {answers : Answers}
    {visit : Visit}
    (moved : Moved s s' cube l (before ++ packet :: after) (Fate.leaves before packet after visit.fate)
      (sentOn cube visit.sent))
    (viewed : view c flow s' = withEntry c flow s cube (visit.tables.flowTable flow)
      (heldOf c flow visit.tables) (streamOf c flow s'))
    (order : inorder = true →
      ∀ other ∈ before, isUpdate other = true → other.DESTADRS ≠ packet.DESTADRS)
    (visits : RequestVisit (c.cube cube) answers inorder room (s.cubes cube).tables packet visit) :
    Steps (c.tree flow) c.amount (view c flow s) (view c flow s') := by
  cases visits with
  | stays =>
    rw [moved.quiet viewed rfl rfl (fun _ => rfl) (fun _ => rfl) fun _ _ => rfl]
    exact .refl
  | drops =>
    rw [moved.quiet viewed rfl rfl (items_rewrite before after fun _ => rfl)
      (gathers_rewrite before after fun _ => rfl) fun _ _ => rfl]
    exact .refl
  | adds id t' fate isAdd isHere enters next =>
    obtain ⟨updates, notMult⟩ := isUpdate_of_add isAdd
    have notGet : packet.CMD ≠ .ACT_GET := by
      intro isGet
      rw [not_isUpdate_of_get isGet] at updates
      cases updates
    obtain ⟨isCons, isNext⟩ := arrived.nextAddLine isAdd next
    have isPair : packet.operandsOf 0 = (packet.SRCADRS1, 0) := by
      rw [operandsOf_zero, if_neg notMult]
    have parts : CrossbarSwitch.Parts (c.cube cube) packet := .inl isHere
    rcases isNext with ⟨last, rfl⟩ | ⟨packet', rfl, operands, some, DESTADRS, CMD, split, -⟩
    · refine arrived.enter_steps connected balanced moved isCons parts isPair enters viewed ?_ ?_
        (gathers_erase before after fun _ => gatherOf_none notGet) fun _ _ => rfl
      · intro _
        rw [last]
        simp [Fate.leaves, Item.rest]
      · exact fun other => items_erase before after fun _ => itemOf_other other
    · refine arrived.enter_steps connected balanced moved isCons parts isPair enters viewed ?_ ?_
        (gathers_rewrite before after fun _ => ?_) fun _ _ => rfl
      · intro isFlow
        obtain ⟨-, routed⟩ := arrived.update (by simp [isCons])
        have isHere := routed.splits.of_parts ((routed.parts_iff connected).mp parts)
        have isItem : itemOf c flow cube packet' =
            Option.some (.update cube (restOperands packet)) := by
          rw [itemOf_update (DESTADRS.trans isFlow) (operands ▸ some), operands, split, isHere]
        have isRest : Item.rest cube (restOperands packet) = [.update cube (restOperands packet)] := by
          cases rest : restOperands packet with
          | nil => exact absurd rest some
          | cons pair pairs => rfl
        simp [Fate.leaves, items_cons, isItem, isRest]
      · intro other
        exact items_rewrite before after fun _ =>
          (itemOf_other (DESTADRS ▸ other)).trans (itemOf_other other).symm
      · rw [gatherOf_none notGet, gatherOf_none (CMD ▸ notGet)]
  | multiplies id t' waits half port isMult isFull parts enters isWaiting isHalf =>
    have notGet : packet.CMD ≠ .ACT_GET := by simp [isMult]
    obtain ⟨isCons, operands, DESTADRS, CMD, split, -⟩ :=
      arrived.multiply connected isMult isFull parts isWaiting
    have isPair : packet.operandsOf 0 = (packet.SRCADRS1, packet.SRCADRS2) := by
      rw [operandsOf_zero, if_pos isMult]
    refine arrived.enter_steps connected balanced moved isCons parts isPair enters viewed ?_ ?_
      (gathers_rewrite before after fun _ => ?_) (items_sentOn ?_)
    · intro isFlow
      cases rest : restOperands packet with
      | nil =>
        have nothing : itemOf c flow cube waits = none :=
          itemOf_none (operands.trans rest) (CMD ▸ notGet)
        simp [Fate.leaves, items_cons, nothing, Item.rest]
      | cons pair pairs =>
        have some : restOperands packet ≠ [] := by simp [rest]
        obtain ⟨-, routed⟩ := arrived.update (by simp [isCons])
        have isHere := routed.splits.of_parts ((routed.parts_iff connected).mp parts)
        have isItem : itemOf c flow cube waits = Option.some (.update cube (pair :: pairs)) := by
          rw [itemOf_update (DESTADRS.trans isFlow) (operands ▸ some), operands, split some, isHere,
            rest]
        simp [Fate.leaves, items_cons, isItem, Item.rest]
    · intro other
      exact items_rewrite before after fun _ =>
        (itemOf_other (DESTADRS ▸ other)).trans (itemOf_other other).symm
    · rw [gatherOf_none notGet, gatherOf_none (CMD ▸ notGet)]
    · intro link packet' member u
      obtain ⟨isPort, rfl⟩ := Prod.mk.inj (List.mem_singleton.mp member)
      exact itemOf_none (operands_isHalfOf isHalf isPort.symm) (by simp [isHalf.CMD])
  | halves half port fate isMult alone isHalf fates =>
    have notGet : packet.CMD ≠ .ACT_GET := by simp [isMult]
    have nothing : ∀ m u, items c flow u (sentOn cube [(port, half)] m) = [] := by
      apply items_sentOn
      intro link packet' member u
      obtain ⟨isPort, rfl⟩ := Prod.mk.inj (List.mem_singleton.mp member)
      exact itemOf_none (operands_isHalfOf isHalf isPort.symm) (by simp [isHalf.CMD])
    rcases fates with ⟨last, rfl⟩ | ⟨more, rfl⟩
    · have updates : isUpdate packet = true := by simp [isUpdate, isMult]
      have empty : packet.operands = [] := by
        have none : packet.LINES - 1 = 0 := by omega
        rw [operands_of_half updates alone, none]
        rfl
      rw [moved.quiet viewed rfl rfl (items_erase before after fun _ => itemOf_none empty notGet)
        (gathers_erase before after fun _ => gatherOf_none notGet) nothing]
      exact .refl
    · obtain ⟨operands, -⟩ := arrived.nextMultLine isMult alone more
      have same : ∀ u, itemOf c flow u (CrossbarSwitch.nextMultLine packet) =
          itemOf c flow u packet :=
        itemOf_congr rfl rfl operands (fun _ => rfl) fun _ => rfl
      rw [moved.quiet viewed rfl rfl (items_rewrite before after same)
        (gathers_rewrite before after fun _ => rfl) nothing]
      exact .refl
  | forwards opcode t' updates isFull goesOn counts =>
    have full : isFullPkt packet = true := by
      by_cases isMult : packet.CMD = .ACT_MULT
      · exact isFull isMult
      · exact arrived.active.whole updates isMult
    have some := operands_ne_nil arrived.active updates full
    have notGet : packet.CMD ≠ .ACT_GET := by
      intro isGet
      rw [not_isUpdate_of_get isGet] at updates
      cases updates
    obtain ⟨isLink, routed⟩ := arrived.update some
    obtain ⟨node, child, nextLink, routed', above⟩ := routed.forward connected fun parts =>
      goesOn ((routed.parts_iff connected).mpr parts)
    obtain ⟨rfl, -⟩ := countUpdate_eq_ok counts
    by_cases isFlow : packet.DESTADRS = flow
    · subst isFlow
      have sends : ∀ m, sentOn cube [(Port.link ((c.cube cube).findNextLink packet.DESTCUB false),
          packet.resetLinkFields)] m = if m = .hmc cube (c.net.findNextLink cube node false)
            then [packet.resetLinkFields] else [] := by
        intro m
        rw [sentOn_link, nextLink, linkOf_val (connected.links child).2.1]
      have entry : (((s.cubes cube).tables.setFlow packet.DESTADRS (Option.some (countedEntry opcode
          ((c.cube cube).parentCube packet.SRCCUB)
            ((s.cubes cube).tables.flowTable packet.DESTADRS)))).countChild packet.DESTADRS
              ((c.cube cube).findNextLink packet.DESTCUB false)).flowTable packet.DESTADRS =
          Option.some ((countedEntry opcode ((c.cube cube).parentCube packet.SRCCUB)
            (entriesOf packet.DESTADRS s cube)).addChild
              (CubeNetworkConfig.linkOf (c.net.findNextLink cube node false))) := by
        rw [nextLink]
        simp [FlowTables.countChild, FlowTables.setFlow, entriesOf]
      rw [entry] at viewed
      exact .single (moved.forward connected sound routed.inside isLink rfl some child above sends
        viewed)
    · have entry : (((s.cubes cube).tables.setFlow packet.DESTADRS (Option.some (countedEntry opcode
          ((c.cube cube).parentCube packet.SRCCUB)
            ((s.cubes cube).tables.flowTable packet.DESTADRS)))).countChild packet.DESTADRS
              ((c.cube cube).findNextLink packet.DESTCUB false)).flowTable flow =
          entriesOf flow s cube := by
        simp [FlowTables.countChild, FlowTables.setFlow, entriesOf, Function.update_of_ne
          (Ne.symm isFlow)]
      rw [moved.quiet viewed entry.symm rfl
        (items_erase before after fun _ => itemOf_other isFlow)
        (gathers_erase before after fun _ => gatherOf_none notGet) (items_sentOn ?_)]
      · exact .refl
      · intro link packet' member u
        obtain ⟨-, rfl⟩ := Prod.mk.inj (List.mem_singleton.mp member)
        exact itemOf_other isFlow
  | tells flowEntry link isGet isHere isInorder found waits =>
    obtain ⟨counts, untold, node, child, rfl⟩ := (entered _ _ found).childLinks waits
    obtain ⟨inside, isLink, -⟩ := arrived.get isGet
    have isDest : (childPkt (c.cube cube)
        (CubeNetworkConfig.linkOf (c.net.findNextLink cube node false)) packet).DESTCUB = node := by
      show (c.net.neighborCubeID cube (CubeNetworkConfig.linkOf _ : ℕ) : ℤ) = node
      rw [linkOf_val (connected.links child).2.1, connected.neighborCubeID child]
    by_cases isFlow : packet.DESTADRS = flow
    · subst isFlow
      have entry : (((s.cubes cube).tables.setFlow packet.DESTADRS (some (flowEntry.markChild
          (CubeNetworkConfig.linkOf (c.net.findNextLink cube node false)))))).flowTable
            packet.DESTADRS = some (flowEntry.markChild
              (CubeNetworkConfig.linkOf (c.net.findNextLink cube node false))) :=
        Function.update_self _ _ _
      rw [entry] at viewed
      exact .single (moved.tell connected inside isLink rfl isGet isHere rfl isGet isDest
        (order isInorder) child (fun _ => rfl) found counts untold viewed)
    · have entry : (((s.cubes cube).tables.setFlow packet.DESTADRS (some (flowEntry.markChild
          (CubeNetworkConfig.linkOf (c.net.findNextLink cube node false)))))).flowTable flow =
            entriesOf flow s cube := Function.update_of_ne (Ne.symm isFlow) _ _
      rw [moved.quiet viewed entry.symm rfl ?_ ?_ fun _ _ => rfl]
      · exact .refl
      · intro u
        have nothing : itemOf c flow u (childPkt (c.cube cube)
            (CubeNetworkConfig.linkOf (c.net.findNextLink cube node false)) packet) = none :=
          itemOf_other isFlow
        simp [Fate.leaves, items_cons, nothing]
      · intro u
        have nothing : gatherOf flow u (childPkt (c.cube cube)
            (CubeNetworkConfig.linkOf (c.net.findNextLink cube node false)) packet) = none :=
          gatherOf_other isFlow
        simp [Fate.leaves, gathers_cons, nothing]
  | marks flowEntry isGet isHere isInorder found =>
    obtain ⟨inside, isLink, -⟩ := arrived.get isGet
    by_cases isFlow : packet.DESTADRS = flow
    · subst isFlow
      have entry : ((s.cubes cube).tables.setFlow packet.DESTADRS
          (some flowEntry.markGather)).flowTable packet.DESTADRS = some flowEntry.markGather :=
        Function.update_self _ _ _
      rw [entry] at viewed
      exact .single (moved.mark connected inside isLink rfl isGet isHere (order isInorder)
        (fun _ => rfl) found viewed)
    · have entry : ((s.cubes cube).tables.setFlow packet.DESTADRS
          (some flowEntry.markGather)).flowTable flow = entriesOf flow s cube :=
        Function.update_of_ne (Ne.symm isFlow) _ _
      rw [moved.quiet viewed entry.symm rfl
        (items_erase before after fun _ => itemOf_other isFlow)
        (gathers_erase before after fun _ => gatherOf_other isFlow) fun _ _ => rfl]
      exact .refl
  | toVault isOther notGet =>
    rw [moved.quiet viewed rfl rfl (items_erase before after (itemOf_plain isOther notGet))
      (gathers_erase before after fun _ => gatherOf_none notGet) fun _ _ => rfl]
    exact .refl
  | passes isOther isElsewhere =>
    by_cases isGet : packet.CMD = .ACT_GET
    · obtain ⟨inside, isLink, -⟩ := arrived.get isGet
      obtain ⟨-, -, isHere | ⟨node, child, isDest⟩⟩ := arrived.get isGet
      · exact absurd isHere isElsewhere
      by_cases isFlow : packet.DESTADRS = flow
      · subst isFlow
        have nextLink : (c.cube cube).findNextLink packet.DESTCUB false =
            CubeNetworkConfig.linkOf (c.net.findNextLink cube node false) := by
          show CubeNetworkConfig.linkOf (c.net.findNextLink cube packet.DESTCUB.toNat false) = _
          rw [isDest, Int.toNat_natCast]
        have sends : ∀ m, sentOn cube [(Port.link ((c.cube cube).findNextLink packet.DESTCUB false),
            packet.resetLinkFields)] m = if m = .hmc cube (c.net.findNextLink cube node false)
              then [packet.resetLinkFields] else [] := by
          intro m
          rw [sentOn_link, nextLink, linkOf_val (connected.links child).2.1]
        rw [moved.passGet connected inside isLink rfl isGet isDest child sends viewed]
        exact .refl
      · rw [moved.quiet viewed rfl rfl (items_erase before after fun _ => itemOf_other isFlow)
          (gathers_erase before after fun _ => gatherOf_other isFlow) (items_sentOn ?_)]
        · exact .refl
        · intro link packet' member u
          obtain ⟨-, rfl⟩ := Prod.mk.inj (List.mem_singleton.mp member)
          exact itemOf_other isFlow
    · rw [moved.quiet viewed rfl rfl (items_erase before after (itemOf_plain isOther isGet))
        (gathers_erase before after fun _ => gatherOf_none isGet) (items_sentOn ?_)]
      · exact .refl
      · intro link packet' member u
        obtain ⟨-, rfl⟩ := Prod.mk.inj (List.mem_singleton.mp member)
        exact itemOf_plain isOther isGet u

end

end CubeNetwork

end ActiveRouting

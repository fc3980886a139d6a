import ActiveRouting.Library.GatherAccounts
import ActiveRouting.Reduction.WellPlaced

/-!
# A flow as a reduction over its tree

What a network is from the point of view of one flow: the requests on the way to a cube
are a stream of items, the entries of the flow table say which cubes take part, and the
operand buffers that are reserved for the flow are what a cube holds.
-/

namespace ActiveRouting

open Blocks CrossbarSwitch FlowTables GatherTree

variable {M : Type}

namespace CubeNetwork

variable (c : CubeNetworkConfig M) (flow : BitVec 64)

/-- What a request is to the cube that it is on the way to. -/
def itemOf (cube : ℕ) (packet : Packet) : Option (Item ℕ (BitVec 64 × BitVec 64)) :=
  if packet.DESTADRS = flow then
    if packet.operands ≠ [] then some (.update (packet.splitCube c.net) packet.operands)
    else if packet.CMD = .ACT_GET ∧ packet.DESTCUB = cube then some .gather
    else none
  else none

/-- What it is to a child for which it waits in the buffer of the parent. -/
def gatherOf (cube : ℕ) (packet : Packet) : Option (Item ℕ (BitVec 64 × BitVec 64)) :=
  if packet.DESTADRS = flow ∧ packet.CMD = .ACT_GET ∧ packet.DESTCUB = cube then some .gather
  else none

def items (cube : ℕ) (packets : List Packet) : List (Item ℕ (BitVec 64 × BitVec 64)) :=
  packets.filterMap (itemOf c flow cube)

def gathers (cube : ℕ) (packets : List Packet) : List (Item ℕ (BitVec 64 × BitVec 64)) :=
  packets.filterMap (gatherOf flow cube)

/-- The requests of the flow in a cube and in the buffer of its parent, and on the link between
    them. -/
def streamOf (s : CubeNetwork M) (cube : ℕ) : List (Item ℕ (BitVec 64 × BitVec 64)) :=
  if cube < c.net.nodes then
    items c flow cube (contents ((s.cubes cube).downBuffers (c.upLink flow cube))) ++
      items c flow cube (s.requests (c.feed flow cube)) ++
      if cube = c.root flow then []
      else gathers flow cube (contents
        ((s.cubes (c.parent flow cube)).downBuffers (c.upLink flow (c.parent flow cube))))
  else []

/-- The entries of the flow in all cubes. -/
def entriesOf (s : CubeNetwork M) (cube : ℕ) : Option FlowEntry :=
  (s.cubes cube).tables.flowTable flow

/-- The link of the parent that leads to a cube. -/
def childLink (cube : ℕ) : Fin numLinks :=
  CubeNetworkConfig.linkOf (c.net.findNextLink (c.parent flow cube) cube false)

/-- The updates that were sent to a cube; the controller has counted those for the root. -/
def sentOf (entries : ℕ → Option FlowEntry) (issued : ℕ) (cube : ℕ) : ℕ :=
  if cube = c.root flow then issued
  else if cube < c.net.nodes then
    ((entries (c.parent flow cube)).map fun e => e.children_count (childLink c flow cube)).getD 0
  else 0

/-- Whether the `GET` was sent to a cube. -/
def toldOf (entries : ℕ → Option FlowEntry) (asked : Bool) (cube : ℕ) : Bool :=
  if cube = c.root flow then asked
  else if cube < c.net.nodes then
    ((entries (c.parent flow cube)).map fun e => e.children_gflag (childLink c flow cube)).getD false
  else false

/-- The operands that an operand buffer holds for the flow. -/
def heldAt (entry : Option OperandEntry) : Multiset (BitVec 64 × BitVec 64) :=
  match entry with
  | some e => if e.flowID = flow then {(e.src_addr1, e.src_addr2)} else 0
  | none => 0

def heldOf (t : FlowTables) : Multiset (BitVec 64 × BitVec 64) :=
  ∑ id ∈ Finset.range c.operandBufSize, heldAt flow (t.operandBuffers id)

/-- Whether a response is the answer of a cube. -/
def isAnswer (cube : ℕ) (packet : Packet) : Bool :=
  packet.CMD = .ACT_GET ∧ packet.DESTADRS = flow ∧ packet.SRCCUB = cube

/-- The answers of a cube on the link to its parent and in the buffer there. -/
def answersOf (s : CubeNetwork M) (cube : ℕ) : ℕ :=
  (s.responses (.hmc cube (c.upLink flow cube))).countP (isAnswer flow cube) +
    if cube = c.root flow then 0
    else (contents ((s.cubes (c.parent flow cube)).upBuffers
      (c.net.findNextLink (c.parent flow cube) cube false))).countP (isAnswer flow cube)

/-- The state of the reduction that a flow is. -/
def view (s : CubeNetwork M) : State ℕ (BitVec 64 × BitVec 64) M where
  stream := streamOf c flow s
  present cube := (entriesOf flow s cube).isSome
  gathering cube := (entriesOf flow s cube).any FlowEntry.g_flag
  sent := sentOf c flow (entriesOf flow s) (s.issued flow)
  told := toldOf c flow (entriesOf flow s) (s.asked flow)
  held cube := heldOf c flow (s.cubes cube).tables
  result cube := s.results cube flow
  answers := answersOf c flow s
  issued := s.entered flow
  committed := s.committed flow

variable {c} {flow} {cube node : ℕ} {packet packet' : Packet}

theorem answersOf_congr {s s' : CubeNetwork M} (responses : s'.responses = s.responses)
    (up : ∀ v, (s'.cubes v).upBuffers = (s.cubes v).upBuffers) :
    answersOf c flow s' = answersOf c flow s := by
  funext u
  rw [answersOf, answersOf, responses, up]

/-! ## Items -/

theorem itemOf_other (other : packet.DESTADRS ≠ flow) : itemOf c flow cube packet = none :=
  if_neg other

theorem itemOf_update (isFlow : packet.DESTADRS = flow) (some : packet.operands ≠ []) :
    itemOf c flow cube packet = Option.some (.update (packet.splitCube c.net) packet.operands) := by
  rw [itemOf, if_pos isFlow, if_pos some]

/-- A packet without operands, which is not a `GET`, is nothing. -/
theorem itemOf_none (nothing : packet.operands = []) (notGet : packet.CMD ≠ .ACT_GET) :
    itemOf c flow cube packet = none := by
  simp [itemOf, nothing, notGet]

theorem itemOf_get (isGet : packet.CMD = .ACT_GET) :
    itemOf c flow cube packet = gatherOf flow cube packet := by
  have nothing : packet.operands = [] := operands_of_not_update (not_isUpdate_of_get isGet)
  by_cases isFlow : packet.DESTADRS = flow
  · simp [itemOf, gatherOf, nothing, isFlow]
  · simp [itemOf, gatherOf, isFlow]

theorem gatherOf_none (notGet : packet.CMD ≠ .ACT_GET) : gatherOf flow cube packet = none := by
  simp [gatherOf, notGet]

theorem gatherOf_other (other : packet.DESTADRS ≠ flow) : gatherOf flow cube packet = none := by
  simp [gatherOf, other]

theorem gatherOf_dest (isFlow : packet.DESTADRS = flow) (isGet : packet.CMD = .ACT_GET) {dest : ℕ}
    (isDest : packet.DESTCUB = dest) :
    gatherOf flow cube packet = if dest = cube then some .gather else none := by
  simp [gatherOf, isFlow, isGet, isDest]

/-- What a request is depends on what it is for. -/
theorem itemOf_congr (DESTADRS : packet'.DESTADRS = packet.DESTADRS)
    (CMD : packet'.CMD = packet.CMD) (operands : packet'.operands = packet.operands)
    (split : packet.operands ≠ [] → packet'.splitCube c.net = packet.splitCube c.net)
    (DESTCUB : packet.CMD = .ACT_GET → packet'.DESTCUB = packet.DESTCUB) (cube : ℕ) :
    itemOf c flow cube packet' = itemOf c flow cube packet := by
  by_cases isFlow : packet.DESTADRS = flow
  · by_cases some : packet.operands = []
    · by_cases isGet : packet.CMD = .ACT_GET
      · simp [itemOf, DESTADRS, CMD, operands, isFlow, some, isGet, DESTCUB isGet]
      · simp [itemOf, DESTADRS, CMD, operands, isFlow, some, isGet]
    · rw [itemOf_update (DESTADRS ▸ isFlow) (operands ▸ some), itemOf_update isFlow some, operands,
        split some]
  · rw [itemOf_other isFlow, itemOf_other (DESTADRS ▸ isFlow)]

@[simp] theorem items_nil : items c flow cube [] = [] := rfl

@[simp] theorem items_append (packets more : List Packet) :
    items c flow cube (packets ++ more) = items c flow cube packets ++ items c flow cube more :=
  List.filterMap_append

theorem items_cons (packet : Packet) (packets : List Packet) :
    items c flow cube (packet :: packets) =
      (itemOf c flow cube packet).toList ++ items c flow cube packets := by
  cases isItem : itemOf c flow cube packet with
  | none => simp [items, isItem]
  | some item => simp [items, isItem]

@[simp] theorem gathers_nil : gathers flow cube [] = [] := rfl

@[simp] theorem gathers_append (packets more : List Packet) :
    gathers flow cube (packets ++ more) = gathers flow cube packets ++ gathers flow cube more :=
  List.filterMap_append

theorem gathers_cons (packet : Packet) (packets : List Packet) :
    gathers flow cube (packet :: packets) =
      (gatherOf flow cube packet).toList ++ gathers flow cube packets := by
  cases isItem : gatherOf flow cube packet with
  | none => simp [gathers, isItem]
  | some item => simp [gathers, isItem]

/-- All that waits for a child is the same. -/
theorem gathers_eq_replicate (packets : List Packet) :
    gathers flow cube packets = List.replicate (gathers flow cube packets).length .gather := by
  apply List.eq_replicate_iff.mpr ⟨rfl, ?_⟩
  intro item member
  obtain ⟨packet, -, isItem⟩ := List.mem_filterMap.mp member
  rw [gatherOf] at isItem
  split at isItem
  · exact (Option.some.inj isItem).symm
  · cases isItem

/-! ## Streams -/

/-- One input buffer of a cube changes, and requests are sent from the cube. -/
structure Moved (s s' : CubeNetwork M) (cube l : ℕ) (packets packets' : List Packet)
    (sent : LinkEnd → List Packet) : Prop where
  before : contents ((s.cubes cube).downBuffers l) = packets
  after : contents ((s'.cubes cube).downBuffers l) = packets'
  others : ∀ v k, v ≠ cube ∨ k ≠ l →
    contents ((s'.cubes v).downBuffers k) = contents ((s.cubes v).downBuffers k)
  requests : ∀ m, s'.requests m = s.requests m ++ sent m
  sends : ∀ m, sent m ≠ [] → ∃ link, m = .hmc cube link

namespace Moved

variable {s s' : CubeNetwork M} {l : ℕ} {packets packets' : List Packet}
  {sent : LinkEnd → List Packet}

/-- What is in the buffers means the same as before. -/
theorem buffer (moved : Moved s s' cube l packets packets' sent) {β : Type}
    (meaning : List Packet → β) (same : meaning packets' = meaning packets) (v k : ℕ) :
    meaning (contents ((s'.cubes v).downBuffers k)) =
      meaning (contents ((s.cubes v).downBuffers k)) := by
  by_cases other : v ≠ cube ∨ k ≠ l
  · rw [moved.others v k other]
  · rw [not_or, not_not, not_not] at other
    obtain ⟨rfl, rfl⟩ := other
    rw [moved.before, moved.after, same]

/-- Nothing of the flow changes its place. -/
theorem stream_same (moved : Moved s s' cube l packets packets' sent)
    (sameItems : ∀ u, items c flow u packets' = items c flow u packets)
    (sameGathers : ∀ u, gathers flow u packets' = gathers flow u packets)
    (nothing : ∀ m u, items c flow u (sent m) = []) : streamOf c flow s' = streamOf c flow s := by
  funext u
  have inbox := moved.buffer (items c flow u) (sameItems u) u (c.upLink flow u)
  have waiting := moved.buffer (gathers flow u) (sameGathers u) (c.parent flow u)
    (c.upLink flow (c.parent flow u))
  simp only [streamOf, inbox, waiting, moved.requests, items_append, nothing, List.append_nil]

/-- A request that is sent from a cube is for a child of it. -/
theorem sent_nil (moved : Moved s s' cube l packets packets' sent) (connected : c.Connected) {u : ℕ}
    (inside : u < c.net.nodes) (notChild : ¬ c.Child flow cube u) : sent (c.feed flow u) = [] := by
  by_contra some
  obtain ⟨link, isLink⟩ := moved.sends _ some
  by_cases isRoot : u = c.root flow
  · rw [CubeNetworkConfig.feed, if_pos isRoot] at isLink
    cases isLink
  · have child := connected.child_parent inside isRoot
    rw [CubeNetworkConfig.Connected.feed_child child] at isLink
    exact notChild ((LinkEnd.hmc.inj isLink).1 ▸ child)

/-- The stream of the cube: the buffer of its parent link comes first. -/
theorem stream_self (moved : Moved s s' cube l packets packets' sent) (connected : c.Connected)
    (inside : cube < c.net.nodes) (isLink : l = c.upLink flow cube) :
    ∃ rest, streamOf c flow s cube = items c flow cube packets ++ rest ∧
      streamOf c flow s' cube = items c flow cube packets' ++ rest := by
  have notChild : ¬ c.Child flow cube cube := fun child =>
    (CubeNetworkConfig.Connected.child_iff.mp child).2.2.2 rfl
  have nothing := moved.sent_nil connected inside notChild
  have parent : cube ≠ c.root flow →
      contents ((s'.cubes (c.parent flow cube)).downBuffers (c.upLink flow (c.parent flow cube))) =
        contents ((s.cubes (c.parent flow cube)).downBuffers (c.upLink flow (c.parent flow cube))) := by
    intro notRoot
    have child := connected.child_parent inside notRoot
    have ne := (CubeNetworkConfig.Connected.child_iff.mp child).2.2.2
    exact moved.others _ _ (.inl ne.symm)
  refine ⟨items c flow cube (s.requests (c.feed flow cube)) ++
    (if cube = c.root flow then [] else gathers flow cube (contents
      ((s.cubes (c.parent flow cube)).downBuffers (c.upLink flow (c.parent flow cube))))), ?_, ?_⟩
  · rw [streamOf, if_pos inside, ← isLink, moved.before, List.append_assoc]
  · rw [streamOf, if_pos inside, ← isLink, moved.after, moved.requests, nothing, List.append_nil,
      List.append_assoc]
    by_cases isRoot : cube = c.root flow
    · rw [if_pos isRoot, if_pos isRoot]
    · rw [if_neg isRoot, if_neg isRoot, parent isRoot]

/-- The stream of a child: what is sent to it comes behind all that was sent before. -/
theorem stream_child (moved : Moved s s' cube l packets packets' sent) (isLink : l = c.upLink flow cube) (child : c.Child flow cube node) :
    ∃ front, streamOf c flow s node = front ++ gathers flow node packets ∧
      streamOf c flow s' node = front ++ items c flow node (sent (c.feed flow node)) ++
        gathers flow node packets' := by
  obtain ⟨inside, notRoot, isParent, ne⟩ := CubeNetworkConfig.Connected.child_iff.mp child
  refine ⟨items c flow node (contents ((s.cubes node).downBuffers (c.upLink flow node))) ++
    items c flow node (s.requests (c.feed flow node)), ?_, ?_⟩
  · rw [streamOf, if_pos inside, if_neg notRoot, isParent, ← isLink, moved.before]
  · rw [streamOf, if_pos inside, if_neg notRoot, isParent, ← isLink, moved.after, moved.requests,
      moved.others node _ (.inl ne), items_append]
    simp only [List.append_assoc]

theorem stream_other (moved : Moved s s' cube l packets packets' sent) (connected : c.Connected)
    {u : ℕ} (ne : u ≠ cube) (notChild : ¬ c.Child flow cube u) :
    streamOf c flow s' u = streamOf c flow s u := by
  by_cases inside : u < c.net.nodes
  · have nothing := moved.sent_nil connected inside notChild
    have parent : u ≠ c.root flow →
        contents ((s'.cubes (c.parent flow u)).downBuffers (c.upLink flow (c.parent flow u))) =
          contents ((s.cubes (c.parent flow u)).downBuffers (c.upLink flow (c.parent flow u))) := by
      intro notRoot
      have child := connected.child_parent inside notRoot
      have other : c.parent flow u ≠ cube := fun same => notChild (same ▸ child)
      exact moved.others _ _ (.inl other)
    rw [streamOf, streamOf, if_pos inside, if_pos inside, moved.requests, nothing, List.append_nil,
      moved.others u _ (.inl ne)]
    by_cases isRoot : u = c.root flow
    · rw [if_pos isRoot, if_pos isRoot]
    · rw [if_neg isRoot, if_neg isRoot, parent isRoot]
  · rw [streamOf, streamOf, if_neg inside, if_neg inside]

end Moved

/-! ## Entries -/

section Entries

variable {entries : ℕ → Option FlowEntry} {issued : ℕ} {asked : Bool} {e : FlowEntry}

/-- What the entry of the parent says of a child. -/
theorem sentOf_child (child : c.Child flow cube node) : sentOf c flow entries issued node =
    ((entries cube).map fun e => e.children_count
      (CubeNetworkConfig.linkOf (c.net.findNextLink cube node false))).getD 0 := by
  obtain ⟨inside, notRoot, isParent, -⟩ := CubeNetworkConfig.Connected.child_iff.mp child
  rw [sentOf, if_neg notRoot, if_pos inside, childLink, isParent]

theorem toldOf_child (child : c.Child flow cube node) : toldOf c flow entries asked node =
    ((entries cube).map fun e => e.children_gflag
      (CubeNetworkConfig.linkOf (c.net.findNextLink cube node false))).getD false := by
  obtain ⟨inside, notRoot, isParent, -⟩ := CubeNetworkConfig.Connected.child_iff.mp child
  rw [toldOf, if_neg notRoot, if_pos inside, childLink, isParent]

/-- The entry of a cube says nothing of what is not a child of it. -/
theorem sentOf_other (connected : c.Connected) (notChild : ¬ c.Child flow cube node)
    (entry : Option FlowEntry) :
    sentOf c flow (Function.update entries cube entry) issued node =
      sentOf c flow entries issued node := by
  rw [sentOf, sentOf]
  split
  · rfl
  · rename_i notRoot
    split
    · rename_i inside
      have other : c.parent flow node ≠ cube := by
        rintro rfl
        exact notChild (connected.child_parent inside notRoot)
      rw [Function.update_of_ne other]
    · rfl

theorem toldOf_other (connected : c.Connected) (notChild : ¬ c.Child flow cube node)
    (entry : Option FlowEntry) :
    toldOf c flow (Function.update entries cube entry) asked node =
      toldOf c flow entries asked node := by
  rw [toldOf, toldOf]
  split
  · rfl
  · rename_i notRoot
    split
    · rename_i inside
      have other : c.parent flow node ≠ cube := by
        rintro rfl
        exact notChild (connected.child_parent inside notRoot)
      rw [Function.update_of_ne other]
    · rfl

/-- An entry that counts the same for the children. -/
theorem sentOf_same (connected : c.Connected) {entry : Option FlowEntry}
    (same : ∀ link, (entry.map fun e => e.children_count link).getD 0 =
      ((entries cube).map fun e => e.children_count link).getD 0) :
    sentOf c flow (Function.update entries cube entry) issued = sentOf c flow entries issued := by
  funext u
  by_cases child : c.Child flow cube u
  · rw [sentOf_child child, sentOf_child child, Function.update_self, same]
  · exact sentOf_other connected child entry

theorem toldOf_same (connected : c.Connected) {entry : Option FlowEntry}
    (same : ∀ link, (entry.map fun e => e.children_gflag link).getD false =
      ((entries cube).map fun e => e.children_gflag link).getD false) :
    toldOf c flow (Function.update entries cube entry) asked = toldOf c flow entries asked := by
  funext u
  by_cases child : c.Child flow cube u
  · rw [toldOf_child child, toldOf_child child, Function.update_self, same]
  · exact toldOf_other connected child entry

/-- An entry that counts something else for one child. -/
theorem sentOf_child_update (connected : c.Connected) (child : c.Child flow cube node)
    {entry : Option FlowEntry} (same : ∀ link, link ≠
        CubeNetworkConfig.linkOf (c.net.findNextLink cube node false) →
      (entry.map fun e => e.children_count link).getD 0 =
        ((entries cube).map fun e => e.children_count link).getD 0) :
    sentOf c flow (Function.update entries cube entry) issued =
      Function.update (sentOf c flow entries issued) node
        ((entry.map fun e => e.children_count
          (CubeNetworkConfig.linkOf (c.net.findNextLink cube node false))).getD 0) := by
  funext u
  by_cases isNode : u = node
  · subst isNode
    rw [Function.update_self, sentOf_child child, Function.update_self]
  · rw [Function.update_of_ne isNode]
    by_cases isChild : c.Child flow cube u
    · rw [sentOf_child isChild, sentOf_child isChild, Function.update_self]
      apply same
      intro sameLink
      exact isNode (connected.child_unique isChild child
        (linkOf_injective (connected.links isChild).2.1 (connected.links child).2.1 sameLink))
    · exact sentOf_other connected isChild entry

theorem toldOf_child_update (connected : c.Connected) (child : c.Child flow cube node)
    {entry : Option FlowEntry} (same : ∀ link, link ≠
        CubeNetworkConfig.linkOf (c.net.findNextLink cube node false) →
      (entry.map fun e => e.children_gflag link).getD false =
        ((entries cube).map fun e => e.children_gflag link).getD false) :
    toldOf c flow (Function.update entries cube entry) asked =
      Function.update (toldOf c flow entries asked) node
        ((entry.map fun e => e.children_gflag
          (CubeNetworkConfig.linkOf (c.net.findNextLink cube node false))).getD false) := by
  funext u
  by_cases isNode : u = node
  · subst isNode
    rw [Function.update_self, toldOf_child child, Function.update_self]
  · rw [Function.update_of_ne isNode]
    by_cases isChild : c.Child flow cube u
    · rw [toldOf_child isChild, toldOf_child isChild, Function.update_self]
      apply same
      intro sameLink
      exact isNode (connected.child_unique isChild child
        (linkOf_injective (connected.links isChild).2.1 (connected.links child).2.1 sameLink))
    · exact toldOf_other connected isChild entry

/-- The children of a cube in the network are those in the tree. -/
theorem child_of_parent (connected : c.Connected) {u : ℕ} (inside : u < c.net.nodes)
    (notRoot : u ≠ (c.tree flow).root) (isParent : (c.tree flow).parent u = cube) :
    c.Child flow cube u := by
  have child := connected.child_parent inside notRoot
  have same : (c.tree flow).parent u = c.parent flow u := Network.flowTree_parent notRoot
  exact (same.symm.trans isParent) ▸ child

end Entries

/-! ## Operands -/

theorem heldAt_none : heldAt flow none = 0 := rfl

theorem heldAt_self (e : OperandEntry) (isFlow : e.flowID = flow) :
    heldAt flow (some e) = {(e.src_addr1, e.src_addr2)} := if_pos isFlow

theorem heldAt_other {e : OperandEntry} (other : e.flowID ≠ flow) : heldAt flow (some e) = 0 :=
  if_neg other

/-- What an operand buffer holds is what it is reserved for. -/
theorem heldAt_reservation {entry entry' : Option OperandEntry}
    (same : entry'.map reservation = entry.map reservation) :
    heldAt flow entry' = heldAt flow entry := by
  cases entry with
  | none =>
    rw [Option.map_none, Option.map_eq_none_iff] at same
    rw [same]
  | some e =>
    obtain ⟨e', rfl, reserved⟩ := Option.map_eq_some_iff.mp same
    obtain ⟨sameFlow, same1, same2⟩ : e'.flowID = e.flowID ∧ e'.src_addr1 = e.src_addr1 ∧
        e'.src_addr2 = e.src_addr2 := by simpa [reservation] using reserved
    simp only [heldAt, sameFlow, same1, same2]

theorem heldOf_setOperand {t : FlowTables} {id : ℕ} {e e' : OperandEntry}
    (reserved : t.operandBuffers id = some e) (same : reservation e' = reservation e) :
    heldOf c flow (t.setOperand id (some e')) = heldOf c flow t := by
  apply Finset.sum_congr rfl
  intro other _
  apply heldAt_reservation
  by_cases isId : other = id
  · subst isId
    simp [FlowTables.setOperand, reserved, same]
  · simp [FlowTables.setOperand, isId]

/-- A free operand buffer is reserved. -/
theorem heldOf_enter {t t' : FlowTables} {opcode : Opcode} {src2 : BitVec 64} {id : ℕ}
    (balanced : Balanced (c.cube cube) settled t)
    (enters : Enters (c.cube cube) t opcode packet src2 id t') :
    heldOf c flow t' = heldOf c flow t +
      if packet.DESTADRS = flow then {(packet.SRCADRS1, src2)} else 0 := by
  obtain ⟨inside, vacant⟩ := (balanced.free id).mp enters.isFree
  have changed := Ledger.sum_update (Finset.mem_range.mpr inside) (heldAt flow) t.operandBuffers
    (some ((t.operand (c.cube cube) id).reserve packet.DESTADRS packet.SRCADRS1 src2))
  rw [vacant, heldAt_none, add_zero] at changed
  rw [heldOf, enters.operandBuffers]
  exact changed

/-! ## What an entry of the flow table does to the view -/

variable (c flow)

/-- The view in which a cube has another entry, holds other operands, and the streams are
    others. -/
def withEntry (s : CubeNetwork M) (cube : ℕ) (entry : Option FlowEntry)
    (held : Multiset (BitVec 64 × BitVec 64))
    (stream : ℕ → List (Item ℕ (BitVec 64 × BitVec 64))) :
    State ℕ (BitVec 64 × BitVec 64) M :=
  { view c flow s with
    stream := stream
    present := fun v => (Function.update (entriesOf flow s) cube entry v).isSome
    gathering := fun v => (Function.update (entriesOf flow s) cube entry v).any FlowEntry.g_flag
    sent := sentOf c flow (Function.update (entriesOf flow s) cube entry) (s.issued flow)
    told := toldOf c flow (Function.update (entriesOf flow s) cube entry) (s.asked flow)
    held := Function.update (view c flow s).held cube held }

variable {c flow} {s s' : CubeNetwork M} {switch : CrossbarSwitch}
  {held : Multiset (BitVec 64 × BitVec 64)}
  {stream : ℕ → List (Item ℕ (BitVec 64 × BitVec 64))}

theorem entriesOf_update (cubes : s'.cubes = Function.update s.cubes cube switch) :
    entriesOf flow s' =
      Function.update (entriesOf flow s) cube (switch.tables.flowTable flow) := by
  funext v
  by_cases same : v = cube
  · subst same
    simp [entriesOf, cubes]
  · simp [entriesOf, cubes, same]

theorem held_update (cubes : s'.cubes = Function.update s.cubes cube switch) :
    (view c flow s').held =
      Function.update (view c flow s).held cube (heldOf c flow switch.tables) := by
  funext v
  by_cases same : v = cube
  · subst same
    simp [view, cubes]
  · simp [view, cubes, same]

/-- The tables of one cube, requests and buffers change. -/
theorem view_eq_withEntry (cubes : s'.cubes = Function.update s.cubes cube switch)
    (results : s'.results = s.results) (issued : s'.issued = s.issued) (asked : s'.asked = s.asked)
    (entered : s'.entered = s.entered) (committed : s'.committed = s.committed)
    (answers : answersOf c flow s' = answersOf c flow s) :
    view c flow s' = withEntry c flow s cube (switch.tables.flowTable flow)
      (heldOf c flow switch.tables) (streamOf c flow s') := by
  have entries : entriesOf flow s' = _ := entriesOf_update cubes
  have holds : (view c flow s').held = _ := held_update cubes
  refine GatherTree.State.ext rfl ?_ ?_ ?_ ?_ holds ?_ answers ?_ ?_
  · simp only [view, withEntry, entries]
  · simp only [view, withEntry, entries]
  · simp only [view, withEntry, entries, issued]
  · simp only [view, withEntry, entries, asked]
  · simp only [view, withEntry, results]
  · simp only [view, withEntry, entered]
  · simp only [view, withEntry, committed]

/-- Nothing of the flow has changed in the tables. -/
theorem withEntry_same {entry : Option FlowEntry} (stays : entriesOf flow s cube = entry)
    (holds : (view c flow s).held cube = held) :
    withEntry c flow s cube entry held stream = { view c flow s with stream := stream } := by
  subst stays holds
  simp only [withEntry, Function.update_eq_self]
  rfl

section

variable {entry entry' : Option FlowEntry}

theorem present_update (c : CubeNetworkConfig M) (isSome : entry.isSome = true) :
    (fun v => (Function.update (entriesOf flow s) cube entry v).isSome) =
      Function.update (view c flow s).present cube true := by
  funext v
  by_cases same : v = cube
  · subst same
    simp [isSome]
  · simp [view, same]

theorem gathering_same (c : CubeNetworkConfig M) (same : entry.any FlowEntry.g_flag =
      (entriesOf flow s cube).any FlowEntry.g_flag) :
    (fun v => (Function.update (entriesOf flow s) cube entry v).any FlowEntry.g_flag) =
      (view c flow s).gathering := by
  funext v
  by_cases isCube : v = cube
  · subst isCube
    simp [view, same]
  · simp [view, isCube]

@[simp] theorem addChild_self (e : FlowEntry) (link : Fin numLinks) :
    (e.addChild link).children_count link = e.children_count link + 1 := Function.update_self _ _ _

@[simp] theorem markChild_self (e : FlowEntry) (link : Fin numLinks) :
    (e.markChild link).children_gflag link = true := Function.update_self _ _ _

@[simp] theorem answerChild_self (e : FlowEntry) (link : Fin numLinks) :
    (e.answerChild link).children_count link = 0 := Function.update_self _ _ _

/-- The entry of an update that comes by has the children of the one that was there. -/
theorem countedEntry_children (opcode : Opcode) (parent : ℤ) (entry : Option FlowEntry) :
    (∀ link, (countedEntry opcode parent entry).children_count link =
      (entry.map fun e => e.children_count link).getD 0) ∧
    (∀ link, (countedEntry opcode parent entry).children_gflag link =
      (entry.map fun e => e.children_gflag link).getD false) ∧
    (countedEntry opcode parent entry).g_flag = entry.any FlowEntry.g_flag := by
  cases entry with
  | none => exact ⟨fun _ => rfl, fun _ => rfl, rfl⟩
  | some e => exact ⟨fun _ => rfl, fun _ => rfl, rfl⟩

/-- An update is counted. -/
theorem withEntry_counted (connected : c.Connected) (opcode : Opcode) (parent : ℤ) :
    withEntry c flow s cube (some (countedEntry opcode parent (entriesOf flow s cube))) held stream =
      ({ view c flow s with stream := stream }.setPresent cube true).setHeld cube held := by
  obtain ⟨counts, flags, gathers⟩ := countedEntry_children opcode parent (entriesOf flow s cube)
  refine GatherTree.State.ext rfl (present_update c rfl) (gathering_same c gathers) ?_ ?_ rfl rfl rfl rfl
    rfl
  · exact sentOf_same connected counts
  · exact toldOf_same connected flags

/-- An update is counted, and also as one that is sent to a child. -/
theorem withEntry_addChild (connected : c.Connected) (child : c.Child flow cube node)
    (opcode : Opcode) (parent : ℤ) (holds : (view c flow s).held cube = held) :
    withEntry c flow s cube (some ((countedEntry opcode parent (entriesOf flow s cube)).addChild
        (CubeNetworkConfig.linkOf (c.net.findNextLink cube node false)))) held stream =
      ({ view c flow s with stream := stream }.setPresent cube true).setSent node
        ((view c flow s).sent node + 1) := by
  obtain ⟨counts, flags, gathers⟩ := countedEntry_children opcode parent (entriesOf flow s cube)
  subst holds
  refine GatherTree.State.ext rfl (present_update c rfl) (gathering_same c gathers) ?_ ?_
    (Function.update_eq_self _ _) rfl rfl rfl rfl
  · refine (sentOf_child_update connected child ?_).trans ?_
    · intro link other
      rw [Option.map_some, Option.getD_some, ← counts]
      exact Function.update_of_ne other _ _
    · have isSent : (view c flow s).sent node =
          (countedEntry opcode parent (entriesOf flow s cube)).children_count
            (CubeNetworkConfig.linkOf (c.net.findNextLink cube node false)) :=
        (sentOf_child child).trans (counts _).symm
      rw [Option.map_some, Option.getD_some, addChild_self, isSent]
      rfl
  · exact toldOf_same connected flags

/-- The `GET` is replicated for a child. -/
theorem withEntry_markChild (connected : c.Connected) (child : c.Child flow cube node)
    {e : FlowEntry} (found : entriesOf flow s cube = some e)
    (holds : (view c flow s).held cube = held) :
    withEntry c flow s cube (some (e.markChild
        (CubeNetworkConfig.linkOf (c.net.findNextLink cube node false)))) held stream =
      { view c flow s with stream := stream }.setTold node true := by
  subst holds
  refine GatherTree.State.ext rfl ?_ (gathering_same c (by rw [found]; rfl)) ?_ ?_
    (Function.update_eq_self _ _) rfl rfl rfl rfl
  · refine (present_update c rfl).trans ?_
    have isPresent : (view c flow s).present cube = true := by simp [view, found]
    exact Function.update_eq_self_iff.mpr isPresent.symm
  · exact sentOf_same connected fun link => by rw [found]; rfl
  · refine (toldOf_child_update connected child ?_).trans ?_
    · intro link other
      rw [found]
      exact Function.update_of_ne other _ _
    · rw [Option.map_some, Option.getD_some, markChild_self]
      rfl

/-- The `GET` was replicated for all children. -/
theorem withEntry_markGather (connected : c.Connected) {e : FlowEntry}
    (found : entriesOf flow s cube = some e) (holds : (view c flow s).held cube = held) :
    withEntry c flow s cube (some e.markGather) held stream =
      { view c flow s with stream := stream }.setGathering cube true := by
  subst holds
  refine GatherTree.State.ext rfl ?_ ?_ ?_ ?_ (Function.update_eq_self _ _) rfl rfl rfl rfl
  · refine (present_update c rfl).trans ?_
    have isPresent : (view c flow s).present cube = true := by simp [view, found]
    exact Function.update_eq_self_iff.mpr isPresent.symm
  · funext v
    by_cases same : v = cube
    · subst same
      simp [withEntry, State.setGathering, FlowEntry.markGather]
    · simp [withEntry, State.setGathering, view, same]
  · exact sentOf_same connected fun link => by rw [found]; rfl
  · exact toldOf_same connected fun link => by rw [found]; rfl

/-- A child has answered. -/
theorem withEntry_answerChild (connected : c.Connected) (child : c.Child flow cube node)
    {e : FlowEntry} (found : entriesOf flow s cube = some e)
    (holds : (view c flow s).held cube = held) :
    withEntry c flow s cube (some (e.answerChild
        (CubeNetworkConfig.linkOf (c.net.findNextLink cube node false)))) held stream =
      { view c flow s with stream := stream }.setSent node 0 := by
  subst holds
  refine GatherTree.State.ext rfl ?_ (gathering_same c (by rw [found]; rfl)) ?_ ?_
    (Function.update_eq_self _ _) rfl rfl rfl rfl
  · refine (present_update c rfl).trans ?_
    have isPresent : (view c flow s).present cube = true := by simp [view, found]
    exact Function.update_eq_self_iff.mpr isPresent.symm
  · refine (sentOf_child_update connected child ?_).trans ?_
    · intro link other
      rw [found]
      exact Function.update_of_ne other _ _
    · rw [Option.map_some, Option.getD_some, answerChild_self]
      rfl
  · exact toldOf_same connected fun link => by rw [found]; rfl

end

end CubeNetwork

end ActiveRouting

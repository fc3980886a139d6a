import ActiveRouting.Cube.Visits
import ActiveRouting.Reduction.CubeNetwork

/-!
# Where the packets of a flow are

The requests of a flow move along the tree of the flow, each in the input buffer of its
parent link, and the answers come back on the same links.  A packet with operands that
are not reserved yet is on its way to the cube that reserves them.
-/

namespace ActiveRouting

open Blocks CrossbarSwitch FlowTables Outcome

variable {M : Type}

/-- The flows have their trees in the network, and every controller is attached to it. -/
structure CubeNetworkConfig.Connected (c : CubeNetworkConfig M) : Prop where
  supports : c.net.Supports
  attached : ∀ flow, c.net.Attached (c.home flow) (c.root flow)

namespace CubeNetworkConfig

variable (c : CubeNetworkConfig M)

/-- The link of a cube that leads towards the root of a flow, and its input buffer for the
    requests of the flow. -/
def upLink (flow : BitVec 64) (cube : ℕ) : ℕ := c.net.parentLink cube (c.root flow)

/-- The parent of a cube; that of the root is the root. -/
def parent (flow : BitVec 64) (cube : ℕ) : ℕ := c.net.parentCube cube (c.root flow)

/-- The link on which the requests of a flow come to a cube. -/
def feed (flow : BitVec 64) (cube : ℕ) : LinkEnd :=
  if cube = c.root flow then .hmcCont (c.home flow)
  else .hmc (c.parent flow cube) (c.net.findNextLink (c.parent flow cube) cube false)

/-- A cube is a child of another one in the tree of a flow. -/
def Child (flow : BitVec 64) (cube node : ℕ) : Prop := (c.tree flow).Child cube node

end CubeNetworkConfig

@[simp] theorem linkOf_val {link : ℕ} (isLink : link < numLinks) :
    (CubeNetworkConfig.linkOf link : ℕ) = link := Nat.mod_eq_of_lt isLink

theorem linkOf_injective {link link' : ℕ} (isLink : link < numLinks) (isLink' : link' < numLinks)
    (same : CubeNetworkConfig.linkOf link = CubeNetworkConfig.linkOf link') : link = link' := by
  have vals := congrArg Fin.val same
  rwa [linkOf_val isLink, linkOf_val isLink'] at vals

namespace CubeNetworkConfig.Connected

variable {c : CubeNetworkConfig M} {flow : BitVec 64} {cube node : ℕ}

theorem root_lt (connected : c.Connected) (flow : BitVec 64) : c.root flow < c.net.nodes :=
  (connected.attached flow).inside

theorem parent_root (connected : c.Connected) (flow : BitVec 64) :
    c.parent flow (c.root flow) = c.root flow := (connected.attached flow).parent

theorem child_iff : c.Child flow cube node ↔
    node < c.net.nodes ∧ node ≠ c.root flow ∧ c.parent flow node = cube ∧ node ≠ cube :=
  Network.child_iff

/-- A cube that is not the root is the child of its parent. -/
theorem child_parent (connected : c.Connected) (inside : node < c.net.nodes)
    (notRoot : node ≠ c.root flow) : c.Child flow (c.parent flow node) node := by
  obtain ⟨sameLink, link, hops⟩ :=
    connected.supports.tree.response_hop (connected.root_lt flow) inside notRoot
  have wire := Network.linkSlaveP_of_hop hops
  have isLink : c.net.parentLink node (c.root flow) < numLinks :=
    connected.supports.link_lt true inside (connected.root_lt flow)
  rw [sameLink] at wire
  obtain ⟨-, ne, -⟩ := connected.supports.adjacent inside isLink wire
  exact child_iff.mpr ⟨inside, notRoot, rfl, ne.symm⟩

/-- The links between a cube and a child of it. -/
theorem links (connected : c.Connected) (child : c.Child flow cube node) :
    cube < c.net.nodes ∧ c.net.findNextLink cube node false < numLinks ∧
      c.upLink flow node < numLinks ∧
      c.net.linkSlaveP (.hmc cube (c.net.findNextLink cube node false)) =
        some (.hmc node (c.upLink flow node)) ∧
      c.net.linkSlaveP (.hmc node (c.upLink flow node)) =
        some (.hmc cube (c.net.findNextLink cube node false)) ∧
      c.net.findNextLink node cube false = c.upLink flow node :=
  connected.supports.child_links (connected.root_lt flow) child

theorem upLink_lt (connected : c.Connected) (flow : BitVec 64) (inside : cube < c.net.nodes) :
    c.upLink flow cube < numLinks :=
  connected.supports.link_lt true inside (connected.root_lt flow)

theorem feed_child (child : c.Child flow cube node) :
    c.feed flow node = .hmc cube (c.net.findNextLink cube node false) := by
  obtain ⟨-, notRoot, rfl, -⟩ := child_iff.mp child
  exact if_neg notRoot

/-- The requests of a flow come to the input buffer of the link to the parent. -/
theorem feed_slave (connected : c.Connected) (flow : BitVec 64) (inside : cube < c.net.nodes) :
    c.net.linkSlaveP (c.feed flow cube) = some (.hmc cube (c.upLink flow cube)) := by
  by_cases isRoot : cube = c.root flow
  · rw [feed, if_pos isRoot, isRoot]
    exact (connected.attached flow).linkIn
  · have child := connected.child_parent inside isRoot
    rw [feed_child child]
    exact (connected.links child).2.2.2.1

/-- A link has one child behind it. -/
theorem child_unique (connected : c.Connected) {flow' : BitVec 64} {node' : ℕ}
    (child : c.Child flow cube node) (child' : c.Child flow' cube node')
    (same : c.net.findNextLink cube node false = c.net.findNextLink cube node' false) :
    node = node' := by
  have wire := (connected.links child).2.2.2.1
  have wire' := (connected.links child').2.2.2.1
  rw [same, wire'] at wire
  exact (LinkEnd.hmc.inj (Option.some.inj wire)).1.symm

theorem neighborCubeID (connected : c.Connected) (child : c.Child flow cube node) :
    c.net.neighborCubeID cube (c.net.findNextLink cube node false) = node := by
  rw [Network.neighborCubeID, (connected.links child).2.2.2.1]

/-- The parent that a cube records for the updates of a flow. -/
theorem parentCube_cube (connected : c.Connected) (inside : cube < c.net.nodes)
    (flow : BitVec 64) : (c.cube cube).parentCube (c.root flow) = c.parent flow cube := by
  show (c.net.neighborCubeID cube (linkOf (c.net.findNextLink cube (c.root flow : ℤ).toNat true)) : ℤ)
    = _
  rw [Int.toNat_natCast, linkOf_val (connected.supports.link_lt true inside (connected.root_lt flow))]
  rfl

end CubeNetworkConfig.Connected

/-- From a cube on the way, the cube where the ways part is below. -/
theorem Network.Supports.above_of_splitsAt {net : Network} (supports : net.Supports)
    {root dest1 dest2 cube split : ℕ} (inRoot : root < net.nodes) (inDest : dest1 < net.nodes)
    (onRoute : net.OnRoute root dest1 cube) (splits : net.SplitsAt dest1 dest2 cube split) :
    (net.flowTree root).Above cube split := by
  induction splits with
  | here => exact .refl _ _
  | next goesOn hops _ ih =>
    have ne := fun same => goesOn (.inl same)
    obtain ⟨child, -⟩ := supports.child_of_hop inRoot inDest onRoute ne hops
    have above := (ih (onRoute.next ne hops)).parent
    rwa [child.parent] at above

namespace CubeNetwork

variable (c : CubeNetworkConfig M)

/-! ## Requests -/

/-- What holds of every request. -/
structure Active (packet : Packet) : Prop where
  fits : packet.isActive = true → Fits c packet
  whole : isUpdate packet = true → packet.CMD ≠ .ACT_MULT → isFullPkt packet = true
  lines : isUpdate packet = true → isFullPkt packet = true → 0 < packet.LINES
  short : isUpdate packet = true → packet.LINES < 2 ^ 32
  nonzero : isUpdate packet = true → packet.CMD ≠ .ACT_MULT →
    ∀ operands ∈ packet.operands, operands.1 ≠ 0

/-- An update in a cube on its way to the one that reserves its operand buffers. -/
structure Routed (cube : ℕ) (packet : Packet) : Prop where
  inside : cube < c.net.nodes
  source : packet.SRCCUB = c.root packet.DESTADRS
  inside1 : packet.dest1 < c.net.nodes
  inside2 : packet.dest2 < c.net.nodes
  onRoute1 : c.net.OnRoute (c.root packet.DESTADRS) packet.dest1 cube
  onRoute2 : c.net.OnRoute (c.root packet.DESTADRS) packet.dest2 cube
  splits : c.net.SplitsAt packet.dest1 packet.dest2 cube (packet.splitCube c.net)
  dest : packet.CMD ≠ .ACT_MULT ∨ ¬ c.net.Parts packet.dest1 packet.dest2 cube →
    packet.DESTCUB = packet.dest1
  dests : packet.CMD = .ACT_MULT →
    packet.DESTCUB1 = packet.dest1 ∧ packet.DESTCUB2 = packet.dest2

/-- A request in input buffer `l` of a cube.  A `GET` is for the cube, or it was replicated
    there for a child. -/
structure Arrived (cube l : ℕ) (packet : Packet) : Prop where
  active : Active c packet
  update : packet.operands ≠ [] → l = c.upLink packet.DESTADRS cube ∧ Routed c cube packet
  get : packet.CMD = .ACT_GET → cube < c.net.nodes ∧ l = c.upLink packet.DESTADRS cube ∧
    (packet.DESTCUB = cube ∨ ∃ node, c.Child packet.DESTADRS cube node ∧ packet.DESTCUB = node)

/-- A request on a link. -/
structure Travels (m : LinkEnd) (packet : Packet) : Prop where
  positive : 0 < packet.LNG
  active : Active c packet
  update : packet.operands ≠ [] →
    ∃ cube, m = c.feed packet.DESTADRS cube ∧ Routed c cube packet
  get : packet.CMD = .ACT_GET →
    ∃ cube < c.net.nodes, m = c.feed packet.DESTADRS cube ∧ packet.DESTCUB = cube

variable {c} {cube l : ℕ} {packet packet' : Packet} {m : LinkEnd}

theorem isUpdate_of_operands (some : packet.operands ≠ []) : isUpdate packet = true := by
  by_contra isOther
  exact some (by simp [Packet.operands, isOther])

theorem operands_of_full (updates : isUpdate packet = true) (isFull : isFullPkt packet = true) :
    packet.operands = (List.range packet.LINES).map packet.operandsOf := by
  rw [Packet.operands, if_pos updates, if_pos isFull]

theorem operands_of_half (updates : isUpdate packet = true) (alone : isFullPkt packet = false) :
    packet.operands =
      (List.range (packet.LINES - 1)).map fun i => packet.operandsOf (i + 1) := by
  rw [Packet.operands, if_pos updates, if_neg (by simp [alone])]

theorem operands_ne_nil (active : Active c packet) (updates : isUpdate packet = true)
    (isFull : isFullPkt packet = true) : packet.operands ≠ [] := by
  have positive := active.lines updates isFull
  rw [operands_of_full updates isFull]
  simp only [ne_eq, List.map_eq_nil_iff, List.range_eq_nil]
  omega

theorem not_isUpdate_of_get (isGet : packet.CMD = .ACT_GET) : isUpdate packet = false := by
  simp [isUpdate, isGet]

theorem operands_of_not_update (isOther : isUpdate packet = false) : packet.operands = [] := by
  simp [Packet.operands, isOther]

/-- A request that belongs to no flow may be anywhere. -/
theorem Active.of_plain (plain : packet.isActive = false) : Active c packet := by
  have isOther : isUpdate packet = false := by
    by_contra updates
    simp [Packet.isActive, updates] at plain
  exact ⟨fun isActive => absurd isActive (by simp [plain]),
    fun updates => absurd updates (by simp [isOther]),
    fun updates => absurd updates (by simp [isOther]),
    fun updates => absurd updates (by simp [isOther]),
    fun updates => absurd updates (by simp [isOther])⟩

theorem plain_iff : packet.isActive = false ↔ isUpdate packet = false ∧ packet.CMD ≠ .ACT_GET := by
  simp [Packet.isActive]

theorem Arrived.of_plain (plain : packet.isActive = false) : Arrived c cube l packet := by
  obtain ⟨isOther, notGet⟩ := plain_iff.mp plain
  exact ⟨.of_plain plain, fun some => absurd (operands_of_not_update isOther) some,
    fun isGet => absurd isGet notGet⟩

theorem Travels.of_plain (positive : 0 < packet.LNG) (plain : packet.isActive = false) :
    Travels c m packet := by
  obtain ⟨isOther, notGet⟩ := plain_iff.mp plain
  exact ⟨positive, .of_plain plain, fun some => absurd (operands_of_not_update isOther) some,
    fun isGet => absurd isGet notGet⟩

/-- What the way of an update depends on; where the ways part, the packet may be destined for
    either cube. -/
theorem Routed.congr (routed : Routed c cube packet) (CMD : packet'.CMD = packet.CMD)
    (DESTADRS : packet'.DESTADRS = packet.DESTADRS) (SRCCUB : packet'.SRCCUB = packet.SRCCUB)
    (DESTCUB1 : packet'.DESTCUB1 = packet.DESTCUB1) (DESTCUB2 : packet'.DESTCUB2 = packet.DESTCUB2)
    (DESTCUB : packet'.DESTCUB = packet.DESTCUB ∨
      packet.CMD = .ACT_MULT ∧ c.net.Parts packet.dest1 packet.dest2 cube) :
    Routed c cube packet' := by
  have same1 : packet'.dest1 = packet.dest1 := by
    rcases DESTCUB with same | ⟨isMult, -⟩
    · simp only [Packet.dest1, CMD, DESTCUB1, same]
    · simp only [Packet.dest1, CMD, DESTCUB1, if_pos isMult]
  have same2 : packet'.dest2 = packet.dest2 := by
    rcases DESTCUB with same | ⟨isMult, -⟩
    · simp only [Packet.dest2, CMD, DESTCUB2, same]
    · simp only [Packet.dest2, CMD, DESTCUB2, if_pos isMult]
  have sameSplit : packet'.splitCube c.net = packet.splitCube c.net := by
    simp only [Packet.splitCube, same1, same2, SRCCUB]
  refine ⟨routed.inside, ?_, ?_, ?_, ?_, ?_, ?_, ?_, ?_⟩
  · rw [SRCCUB, DESTADRS, routed.source]
  · rw [same1]
    exact routed.inside1
  · rw [same2]
    exact routed.inside2
  · rw [same1, DESTADRS]
    exact routed.onRoute1
  · rw [same2, DESTADRS]
    exact routed.onRoute2
  · rw [same1, same2, sameSplit]
    exact routed.splits
  · rw [CMD, same1, same2]
    intro direct
    rcases DESTCUB with same | ⟨isMult, parts⟩
    · rw [same]
      exact routed.dest direct
    · exact absurd parts (direct.resolve_left (not_not_intro isMult))
  · rw [CMD, DESTCUB1, DESTCUB2, same1, same2]
    exact routed.dests

/-- The cube divides an update where its ways part in the network. -/
theorem Routed.parts_iff (routed : Routed c cube packet) (connected : c.Connected) :
    CrossbarSwitch.Parts (c.cube cube) packet ↔ c.net.Parts packet.dest1 packet.dest2 cube := by
  have isCube : ∀ {dest : ℤ} {n : ℕ}, dest = n → (dest = (c.cube cube).cubeID ↔ cube = n) := by
    rintro dest n rfl
    show (n : ℤ) = cube ↔ _
    omega
  by_cases isMult : packet.CMD = .ACT_MULT
  · obtain ⟨dest1, dest2⟩ := routed.dests isMult
    have links : (c.cube cube).findNextLink packet.DESTCUB1 false ≠
        (c.cube cube).findNextLink packet.DESTCUB2 false ↔
          c.net.findNextLink cube packet.dest1 false ≠ c.net.findNextLink cube packet.dest2 false := by
      have isLink1 := connected.supports.link_lt false routed.inside routed.inside1
      have isLink2 := connected.supports.link_lt false routed.inside routed.inside2
      show ¬ CubeNetworkConfig.linkOf (c.net.findNextLink cube packet.DESTCUB1.toNat false) =
        CubeNetworkConfig.linkOf (c.net.findNextLink cube packet.DESTCUB2.toNat false) ↔ _
      rw [dest1, dest2, Int.toNat_natCast, Int.toNat_natCast]
      exact not_congr ⟨linkOf_injective isLink1 isLink2, fun same => by rw [same]⟩
    have divides : c.net.Parts packet.dest1 packet.dest2 cube ↔ packet.CMD = .ACT_MULT ∧
        (packet.DESTCUB1 = (c.cube cube).cubeID ∨ packet.DESTCUB2 = (c.cube cube).cubeID ∨
          (c.cube cube).findNextLink packet.DESTCUB1 false ≠
            (c.cube cube).findNextLink packet.DESTCUB2 false) := by
      rw [isCube dest1, isCube dest2, links, and_iff_right isMult, Network.Parts]
    rw [CrossbarSwitch.Parts, ← divides, or_iff_right_iff_imp]
    intro isDest
    by_contra goesOn
    exact goesOn (.inl ((isCube (routed.dest (.inr goesOn))).mp isDest))
  · have same : packet.dest2 = packet.dest1 := by
      rw [Packet.dest1, Packet.dest2, if_neg isMult, if_neg isMult]
    rw [CrossbarSwitch.Parts, isCube (routed.dest (.inl isMult)), Network.Parts, same]
    simp [isMult]

/-- An update goes on to a child. -/
theorem Routed.forward (routed : Routed c cube packet) (connected : c.Connected)
    (goesOn : ¬ c.net.Parts packet.dest1 packet.dest2 cube) :
    ∃ node, c.Child packet.DESTADRS cube node ∧
      (c.cube cube).findNextLink packet.DESTCUB false =
        CubeNetworkConfig.linkOf (c.net.findNextLink cube node false) ∧
      Routed c node packet ∧ (c.tree packet.DESTADRS).Above node (packet.splitCube c.net) := by
  have inRoot := connected.root_lt packet.DESTADRS
  have ne : cube ≠ packet.dest1 := fun same => goesOn (.inl same)
  have isDest := routed.dest (.inr goesOn)
  obtain ⟨rank, ranked, -⟩ := connected.supports.ranked routed.inside1
  obtain ⟨node, moved, -, -⟩ := ranked.step_rank cube routed.inside ne
  obtain ⟨⟨node', link⟩, hops, rfl⟩ := Option.map_eq_some_iff.mp moved
  obtain ⟨child, direct⟩ :=
    connected.supports.child_of_hop inRoot routed.inside1 routed.onRoute1 ne hops
  have onRoute1 := routed.onRoute1.next ne hops
  have splits := routed.splits.of_hop goesOn hops
  refine ⟨node', child, ?_, ?_, connected.supports.above_of_splitsAt inRoot routed.inside1 onRoute1
    splits⟩
  · show CubeNetworkConfig.linkOf (c.net.findNextLink cube packet.DESTCUB.toNat false) = _
    rw [direct, isDest, Int.toNat_natCast]
  · exact ⟨(Network.child_iff.mp child).1, routed.source, routed.inside1, routed.inside2, onRoute1,
      Network.Supports.onRoute_second goesOn routed.onRoute2 hops, splits, fun _ => isDest,
      routed.dests⟩

/-! ## Requests that change -/

/-- The operands of the lines behind the first. -/
def restOperands (packet : Packet) : List (BitVec 64 × BitVec 64) :=
  (List.range (packet.LINES - 1)).map fun i => packet.operandsOf (i + 1)

theorem operands_cons (updates : isUpdate packet = true) (isFull : isFullPkt packet = true)
    (positive : 0 < packet.LINES) :
    packet.operands = packet.operandsOf 0 :: restOperands packet := by
  have lines : packet.LINES = packet.LINES - 1 + 1 := by omega
  rw [operands_of_full updates isFull, lines, List.range_succ_eq_map, List.map_cons, List.map_map]
  rfl

theorem operandsOf_zero (packet : Packet) : packet.operandsOf 0 =
    (packet.SRCADRS1, if packet.CMD = .ACT_MULT then packet.SRCADRS2 else 0) := by
  simp [Packet.operandsOf]

theorem address_succ (address : BitVec 64) (i : ℕ) :
    address + 64 + BitVec.ofNat 64 (64 * i) = address + BitVec.ofNat 64 (64 * (i + 1)) := by
  have next : BitVec.ofNat 64 (64 * (i + 1)) = 64 + BitVec.ofNat 64 (64 * i) := by
    rw [Nat.mul_succ, Nat.add_comm, BitVec.ofNat_add]
    rfl
  rw [next, BitVec.add_assoc]

/-- A packet that moves on to its next line. -/
theorem operands_next (updates : isUpdate packet' = true) (isFull : isFullPkt packet' = true)
    (CMD : packet'.CMD = packet.CMD) (LINES : packet'.LINES = packet.LINES - 1)
    (SRCADRS1 : packet'.SRCADRS1 = packet.SRCADRS1 + 64)
    (SRCADRS2 : packet.CMD = .ACT_MULT → packet'.SRCADRS2 = packet.SRCADRS2 + 64) :
    packet'.operands = restOperands packet := by
  rw [operands_of_full updates isFull, restOperands, LINES]
  apply List.map_congr_left
  intro i _
  by_cases isMult : packet.CMD = .ACT_MULT
  · simp only [Packet.operandsOf, CMD, if_pos isMult, SRCADRS1, SRCADRS2 isMult, address_succ]
  · simp only [Packet.operandsOf, CMD, if_neg isMult, SRCADRS1, address_succ]

/-- A packet of which one half waits. -/
theorem operands_alone (updates : isUpdate packet' = true) (alone : isFullPkt packet' = false)
    (CMD : packet'.CMD = packet.CMD) (LINES : packet'.LINES = packet.LINES)
    (SRCADRS1 : packet'.SRCADRS1 = packet.SRCADRS1)
    (SRCADRS2 : packet'.SRCADRS2 = packet.SRCADRS2) :
    packet'.operands = restOperands packet := by
  rw [operands_of_half updates alone, restOperands, LINES]
  simp only [Packet.operandsOf, CMD, SRCADRS1, SRCADRS2]

/-- A packet of one line that is sent as a half has no operands left. -/
theorem operands_isHalfOf {port : Port} {half : Packet} (isHalf : IsHalfOf packet half port)
    {link : Fin numLinks} (isLink : port = .link link) : half.operands = [] := by
  have updates : isUpdate half = true := by simp [isUpdate, isHalf.CMD]
  rw [operands_of_half updates isHalf.alone, isHalf.LINES link isLink]
  rfl

theorem isUpdate_congr (CMD : packet'.CMD = packet.CMD) : isUpdate packet' = isUpdate packet := by
  simp only [isUpdate, CMD]

theorem isActive_congr (CMD : packet'.CMD = packet.CMD) : packet'.isActive = packet.isActive := by
  simp only [Packet.isActive, isUpdate, CMD]

theorem Active.congr (active : Active c packet) (CMD : packet'.CMD = packet.CMD)
    (segment : packet'.segment = packet.segment) (size : packet'.reqDataSize = packet.reqDataSize)
    (whole : packet.CMD ≠ .ACT_MULT → isFullPkt packet' = isFullPkt packet)
    (lines : isUpdate packet = true → isFullPkt packet' = true → 0 < packet'.LINES)
    (fewer : packet'.LINES ≤ packet.LINES)
    (operands : ∀ pair ∈ packet'.operands, pair ∈ packet.operands) : Active c packet' where
  fits isActive := by
    have fits := active.fits (isActive_congr CMD ▸ isActive)
    exact ⟨segment.trans fits.segment, size ▸ fits.size⟩
  whole updates notMult := by
    rw [CMD] at notMult
    rw [whole notMult]
    exact active.whole (isUpdate_congr CMD ▸ updates) notMult
  lines updates := lines (isUpdate_congr CMD ▸ updates)
  short updates := Nat.lt_of_le_of_lt fewer (active.short (isUpdate_congr CMD ▸ updates))
  nonzero updates notMult pair member :=
    active.nonzero (isUpdate_congr CMD ▸ updates) (CMD ▸ notMult) pair (operands pair member)

/-- An update that is rewritten in its place. -/
theorem Arrived.rewrite (arrived : Arrived c cube l packet) (updates : isUpdate packet = true)
    (CMD : packet'.CMD = packet.CMD) (segment : packet'.segment = packet.segment)
    (size : packet'.reqDataSize = packet.reqDataSize) (DESTADRS : packet'.DESTADRS = packet.DESTADRS)
    (DESTCUB1 : packet'.DESTCUB1 = packet.DESTCUB1) (DESTCUB2 : packet'.DESTCUB2 = packet.DESTCUB2)
    (whole : packet.CMD ≠ .ACT_MULT → isFullPkt packet' = isFullPkt packet)
    (lines : isFullPkt packet' = true → 0 < packet'.LINES) (fewer : packet'.LINES ≤ packet.LINES)
    (operands : ∀ pair ∈ packet'.operands, pair ∈ packet.operands)
    (SRCCUB : packet'.operands ≠ [] → packet'.SRCCUB = packet.SRCCUB)
    (DESTCUB : packet'.DESTCUB = packet.DESTCUB ∨
      packet.CMD = .ACT_MULT ∧ c.net.Parts packet.dest1 packet.dest2 cube) :
    Arrived c cube l packet' where
  active := arrived.active.congr CMD segment size whole (fun _ => lines) fewer operands
  update some := by
    obtain ⟨pair, member⟩ := List.exists_mem_of_ne_nil _ some
    obtain ⟨isLink, routed⟩ := arrived.update (List.ne_nil_of_mem (operands pair member))
    rw [DESTADRS]
    exact ⟨isLink, routed.congr CMD DESTADRS (SRCCUB some) DESTCUB1 DESTCUB2 DESTCUB⟩
  get isGet := by
    have isOther := not_isUpdate_of_get (CMD ▸ isGet)
    rw [updates] at isOther
    cases isOther

/-- An update that is passed on to a child. -/
theorem Arrived.forward (arrived : Arrived c cube l packet) (connected : c.Connected)
    (positive : 0 < packet.LNG) (some : packet.operands ≠ []) (goesOn : ¬ CrossbarSwitch.Parts (c.cube cube) packet) :
    ∃ node, c.Child packet.DESTADRS cube node ∧
      (c.cube cube).findNextLink packet.DESTCUB false =
        CubeNetworkConfig.linkOf (c.net.findNextLink cube node false) ∧
      (c.tree packet.DESTADRS).Above node (packet.splitCube c.net) ∧
      Travels c (.hmc cube (c.net.findNextLink cube node false)) packet.resetLinkFields := by
  obtain ⟨-, routed⟩ := arrived.update some
  obtain ⟨node, child, isLink, routed', above⟩ :=
    routed.forward connected fun parts => goesOn ((routed.parts_iff connected).mpr parts)
  refine ⟨node, child, isLink, above, positive, ?_, ?_, ?_⟩
  · exact arrived.active.congr rfl rfl rfl (fun _ => rfl) arrived.active.lines (Nat.le_refl _)
      fun _ member => member
  · intro _
    exact ⟨node, (CubeNetworkConfig.Connected.feed_child child).symm, routed'.congr rfl rfl rfl rfl rfl (.inl rfl)⟩
  · intro isGet
    have isOther := not_isUpdate_of_get isGet
    have updates : isUpdate packet.resetLinkFields = true := isUpdate_of_operands some
    rw [isOther] at updates
    cases updates

/-- A `GET` that was replicated for a child is passed on to it. -/
theorem Arrived.passGet (arrived : Arrived c cube l packet) (positive : 0 < packet.LNG)
    (isGet : packet.CMD = .ACT_GET) (other : packet.DESTCUB ≠ (c.cube cube).cubeID) :
    ∃ node, c.Child packet.DESTADRS cube node ∧ packet.DESTCUB = node ∧
      (c.cube cube).findNextLink packet.DESTCUB false =
        CubeNetworkConfig.linkOf (c.net.findNextLink cube node false) ∧
      Travels c (.hmc cube (c.net.findNextLink cube node false)) packet.resetLinkFields := by
  obtain ⟨-, -, isHere | ⟨node, child, isDest⟩⟩ := arrived.get isGet
  · exact absurd isHere other
  · refine ⟨node, child, isDest, ?_, positive, ?_, ?_, ?_⟩
    · show CubeNetworkConfig.linkOf (c.net.findNextLink cube packet.DESTCUB.toNat false) = _
      rw [isDest, Int.toNat_natCast]
    · exact arrived.active.congr rfl rfl rfl (fun _ => rfl) arrived.active.lines (Nat.le_refl _)
        fun _ member => member
    · intro some
      exact absurd (operands_of_not_update (not_isUpdate_of_get isGet)) some
    · intro _
      exact ⟨node, (CubeNetworkConfig.Connected.child_iff.mp child).1,
        (CubeNetworkConfig.Connected.feed_child child).symm, isDest⟩

/-- A `GET` that is replicated for a child. -/
theorem Arrived.replicate (arrived : Arrived c cube l packet) (isGet : packet.CMD = .ACT_GET)
    (connected : c.Connected) {node : ℕ} (child : c.Child packet.DESTADRS cube node) :
    Arrived c cube l (childPkt (c.cube cube)
      (CubeNetworkConfig.linkOf (c.net.findNextLink cube node false)) packet) where
  active := arrived.active.congr rfl rfl rfl (fun _ => rfl) arrived.active.lines (Nat.le_refl _)
    fun _ member => member
  update some := absurd (operands_of_not_update (not_isUpdate_of_get isGet)) some
  get _ := by
    obtain ⟨inside, isLink, -⟩ := arrived.get isGet
    refine ⟨inside, isLink, .inr ⟨node, child, ?_⟩⟩
    show (c.net.neighborCubeID cube (CubeNetworkConfig.linkOf _ : ℕ) : ℤ) = node
    rw [linkOf_val (connected.links child).2.1, connected.neighborCubeID child]

/-! ## Entries of the flow table -/

variable (c)

/-- An entry for a flow has the parent of its cube, and the links that it counts lead to the
    children of the cube. -/
structure Entered (cube : ℕ) (flow : BitVec 64) (e : FlowEntry) : Prop where
  inside : cube < c.net.nodes
  parent : e.parent = c.parent flow cube
  children : ∀ link, 0 < e.children_count link ∨ e.children_gflag link = true →
    ∃ node, c.Child flow cube node ∧
      link = CubeNetworkConfig.linkOf (c.net.findNextLink cube node false)

/-- All entries of a cube are those of its place in the trees. -/
def AllEntered (cube : ℕ) (t : FlowTables) : Prop :=
  ∀ flow e, t.flowTable flow = some e → Entered c cube flow e

variable {c} {t t' : FlowTables} {flow : BitVec 64} {e e' : FlowEntry}

theorem AllEntered.update (entered : AllEntered c cube t)
    (same : t'.flowTable = Function.update t.flowTable flow (some e))
    (isEntered : Entered c cube flow e) : AllEntered c cube t' := by
  intro other other' found
  rw [same] at found
  by_cases isFlow : other = flow
  · subst isFlow
    rw [Function.update_self] at found
    exact Option.some.inj found ▸ isEntered
  · rw [Function.update_of_ne isFlow] at found
    exact entered other other' found

theorem AllEntered.congr (entered : AllEntered c cube t) (same : t'.flowTable = t.flowTable) :
    AllEntered c cube t' := fun other e found => entered other e (same ▸ found)

/-- What is said of an entry depends on its parent and on the links that it counts. -/
theorem Entered.congr (entered : Entered c cube flow e) (parent : e'.parent = e.parent)
    (children : ∀ link, 0 < e'.children_count link ∨ e'.children_gflag link = true →
      0 < e.children_count link ∨ e.children_gflag link = true) : Entered c cube flow e' :=
  ⟨entered.inside, parent.trans entered.parent,
    fun link counts => entered.children link (children link counts)⟩

/-- The entry of an update that comes by. -/
theorem Routed.counted (routed : Routed c cube packet) (connected : c.Connected)
    (entered : AllEntered c cube t) (opcode : Opcode) :
    Entered c cube packet.DESTADRS (countedEntry opcode ((c.cube cube).parentCube packet.SRCCUB)
      (t.flowTable packet.DESTADRS)) := by
  cases found : t.flowTable packet.DESTADRS with
  | none =>
    refine ⟨routed.inside, ?_, ?_⟩
    · show (c.cube cube).parentCube packet.SRCCUB = _
      rw [routed.source, connected.parentCube_cube routed.inside]
    · intro link counts
      rcases counts with counts | flagged
      · exact absurd counts (Nat.lt_irrefl 0)
      · cases flagged
  | some e => exact (entered _ e found).congr rfl fun _ counts => counts

/-- A link to a child may be counted. -/
theorem Entered.addChild (entered : Entered c cube flow e) {node : ℕ}
    (child : c.Child flow cube node) : Entered c cube flow
      (e.addChild (CubeNetworkConfig.linkOf (c.net.findNextLink cube node false))) where
  inside := entered.inside
  parent := entered.parent
  children link counts := by
    by_cases same : link = CubeNetworkConfig.linkOf (c.net.findNextLink cube node false)
    · exact ⟨node, child, same⟩
    · apply entered.children link
      simpa [FlowEntry.addChild, same] using counts

/-- The children that wait for a `GET` are children in the tree. -/
theorem Entered.childLinks (entered : Entered c cube flow e) {link : Fin numLinks}
    (waits : link ∈ e.childLinks) : 0 < e.children_count link ∧ e.children_gflag link = false ∧
      ∃ node, c.Child flow cube node ∧
        link = CubeNetworkConfig.linkOf (c.net.findNextLink cube node false) := by
  have counts : 0 < e.children_count link ∧ e.children_gflag link = false := by
    simpa [FlowEntry.childLinks] using waits
  exact ⟨counts.1, counts.2, entered.children link (.inl counts.1)⟩

/-! ## Visits of requests -/

variable (c)

/-- What is true of a request in a vault, and of a response. -/
structure Answering (packet : Packet) : Prop where
  segment : packet.isActive = true → packet.segment = false
  operand : hasOperand packet = true

/-- The packets that a visit leaves in the input buffer. -/
def FatePlaced (cube l : ℕ) : Fate → Prop
  | .keep => True
  | .erase => True
  | .rewrite packet => Arrived c cube l packet
  | .replicate packet => Arrived c cube l packet

/-- A packet that a visit sends downstream. -/
def SentDown (cube : ℕ) : Port × Packet → Prop
  | (.vault _, packet) => Answering packet ∧ packet.CMD ≠ .ACT_GET
  | (.link link, packet) => Travels c (.hmc cube link) packet

variable {c} {answers : Answers} {inorder room : Bool} {visit : Visit}

theorem not_isAdd_of_plain (plain : packet.isActive = false) : hasOperand packet = true := by
  obtain ⟨isOther, -⟩ := plain_iff.mp plain
  have notAdd : packet.CMD ≠ .ACT_ADD ∧ packet.CMD ≠ .ACT_DOT ∧ packet.CMD ≠ .ACT_MULT := by
    simpa [isUpdate] using isOther
  simp [hasOperand, notAdd.1, notAdd.2.1]

theorem Answering.of_plain (plain : packet.isActive = false) : Answering packet :=
  ⟨fun isActive => absurd isActive (by simp [plain]), not_isAdd_of_plain plain⟩

theorem Answering.congr (answering : Answering packet) (CMD : packet'.CMD = packet.CMD)
    (segment : packet'.segment = packet.segment) (SRCADRS1 : packet'.SRCADRS1 = packet.SRCADRS1) :
    Answering packet' := by
  constructor
  · rw [isActive_congr CMD, segment]
    exact answering.segment
  · rw [hasOperand, CMD, SRCADRS1]
    exact answering.operand

/-- A half may go anywhere, as its operand buffer is reserved. -/
theorem Active.sentHalf (active : Active c packet) (positive : 0 < packet.LNG)
    (isMult : packet.CMD = .ACT_MULT) {half : Packet} {port : Port} (isHalf : IsHalfOf packet half port) : SentDown c cube (port, half) := by
  have updates : isUpdate packet = true := by simp [isUpdate, isMult]
  have fits := active.fits (by simp [Packet.isActive, updates])
  have segment := isHalf.segment.trans fits.segment
  cases port with
  | vault vaultMap =>
    have operand : hasOperand half = true := by simp [hasOperand, isHalf.CMD]
    exact ⟨⟨fun _ => segment, operand⟩, by simp [isHalf.CMD]⟩
  | link link =>
    refine ⟨isHalf.LNG ▸ positive,
      ⟨fun _ => ⟨segment, isHalf.reqDataSize ▸ fits.size⟩, ?_, ?_, ?_, ?_⟩, ?_, ?_⟩
    · exact fun _ notMult => absurd isHalf.CMD notMult
    · intro _ isFull
      rw [isHalf.alone] at isFull
      cases isFull
    · intro _
      rw [isHalf.LINES link rfl]
      decide
    · exact fun _ notMult => absurd isHalf.CMD notMult
    · exact fun some => absurd (operands_isHalfOf isHalf rfl) some
    · intro isGet
      rw [isHalf.CMD] at isGet
      cases isGet

theorem isUpdate_of_add (isAdd : packet.CMD = .ACT_ADD ∨ packet.CMD = .ACT_DOT) :
    isUpdate packet = true ∧ packet.CMD ≠ .ACT_MULT := by
  rcases isAdd with isAdd | isDot
  · simp [isUpdate, isAdd]
  · simp [isUpdate, isDot]

theorem isActive_of_update (updates : isUpdate packet = true) : packet.isActive = true := by
  simp [Packet.isActive, updates]

/-- The next line of an addition waits in the place of the one that is asked for. -/
theorem Arrived.nextAddLine (arrived : Arrived c cube l packet)
    (isAdd : packet.CMD = .ACT_ADD ∨ packet.CMD = .ACT_DOT) {fate : Fate}
    (next : CrossbarSwitch.nextAddLine packet = .ok fate) :
    packet.operands = packet.operandsOf 0 :: restOperands packet ∧
      (restOperands packet = [] ∧ fate = .erase ∨ ∃ packet', fate = .rewrite packet' ∧
        packet'.operands = restOperands packet ∧ restOperands packet ≠ [] ∧
        packet'.DESTADRS = packet.DESTADRS ∧ packet'.CMD = packet.CMD ∧
        packet'.splitCube c.net = packet.splitCube c.net ∧ Arrived c cube l packet') := by
  obtain ⟨updates, notMult⟩ := isUpdate_of_add isAdd
  have isFull := arrived.active.whole updates notMult
  have positive := arrived.active.lines updates isFull
  have isCons := operands_cons updates isFull positive
  refine ⟨isCons, ?_⟩
  rcases nextAddLine_cases next with ⟨last, rfl⟩ | ⟨notLast, rfl⟩
  · exact .inl ⟨by simp [restOperands, last], rfl⟩
  · have lines : (nextLine packet).LINES = packet.LINES - 1 :=
      unsignedSub_eq positive (arrived.active.short updates)
    have operands : (nextLine packet).operands = restOperands packet :=
      operands_next updates isFull rfl lines rfl fun isMult => absurd isMult notMult
    have member : ∀ pair ∈ (nextLine packet).operands, pair ∈ packet.operands := by
      intro pair isMember
      rw [isCons]
      exact List.mem_cons_of_mem _ (operands ▸ isMember)
    refine .inr ⟨nextLine packet, rfl, operands, ?_, rfl, rfl, rfl, ?_⟩
    · simp only [restOperands, ne_eq, List.map_eq_nil_iff, List.range_eq_nil]
      omega
    · exact arrived.rewrite updates rfl rfl rfl rfl rfl rfl (fun _ => rfl)
        (fun _ => by omega) (by omega) member (fun _ => rfl) (.inl rfl)

/-- A multiplication of which the first half is sent waits for the other to be. -/
theorem Arrived.multiply (arrived : Arrived c cube l packet) (connected : c.Connected)
    (isMult : packet.CMD = .ACT_MULT) (isFull : isFullPkt packet = true)
    (parts : CrossbarSwitch.Parts (c.cube cube) packet) {id : ℕ} {waits : Packet}
    (isWaiting : waits = awaitSecond (c.cube cube) id packet ∨
      waits = awaitFirst (c.cube cube) id packet) :
    packet.operands = packet.operandsOf 0 :: restOperands packet ∧
      waits.operands = restOperands packet ∧ waits.DESTADRS = packet.DESTADRS ∧
      waits.CMD = packet.CMD ∧
      (restOperands packet ≠ [] → waits.splitCube c.net = packet.splitCube c.net) ∧
      Arrived c cube l waits := by
  have updates : isUpdate packet = true := by simp [isUpdate, isMult]
  have positive := arrived.active.lines updates isFull
  have isCons := operands_cons updates isFull positive
  obtain ⟨-, routed⟩ := arrived.update (operands_ne_nil arrived.active updates isFull)
  have divides := (routed.parts_iff connected).mp parts
  -- the packet is rewritten in either case in the same way
  have same : waits.CMD = packet.CMD ∧ isFullPkt waits = false ∧ waits.LINES = packet.LINES ∧
      waits.SRCADRS1 = packet.SRCADRS1 ∧ waits.SRCADRS2 = packet.SRCADRS2 ∧
      waits.segment = packet.segment ∧ waits.reqDataSize = packet.reqDataSize ∧
      waits.DESTADRS = packet.DESTADRS ∧ waits.DESTCUB1 = packet.DESTCUB1 ∧
      waits.DESTCUB2 = packet.DESTCUB2 ∧
      (packet.LINES ≠ 1 → waits.SRCCUB = packet.SRCCUB) := by
    rcases isWaiting with rfl | rfl
    · exact ⟨rfl, isFullPkt_of_half2 rfl, rfl, rfl, rfl, rfl, rfl, rfl, rfl, rfl, fun other => if_neg other⟩
    · exact ⟨rfl, isFullPkt_of_half1 rfl, rfl, rfl, rfl, rfl, rfl, rfl, rfl, rfl, fun other => if_neg other⟩
  obtain ⟨CMD, alone, LINES, SRCADRS1, SRCADRS2, segment, size, DESTADRS, DESTCUB1, DESTCUB2,
    SRCCUB⟩ := same
  have operands : waits.operands = restOperands packet :=
    operands_alone (isUpdate_congr CMD ▸ updates) alone CMD LINES SRCADRS1 SRCADRS2
  have sameSource : restOperands packet ≠ [] → waits.SRCCUB = packet.SRCCUB := by
    intro some
    apply SRCCUB
    intro last
    simp [restOperands, last] at some
  refine ⟨isCons, operands, DESTADRS, CMD, ?_, ?_⟩
  · intro some
    simp only [Packet.splitCube, Packet.dest1, Packet.dest2, CMD, if_pos isMult, DESTCUB1, DESTCUB2,
      sameSource some]
  · apply arrived.rewrite updates CMD segment size DESTADRS DESTCUB1 DESTCUB2
    · exact fun notMult => absurd isMult notMult
    · intro isFull'
      rw [alone] at isFull'
      cases isFull'
    · exact LINES.le
    · intro pair member
      rw [isCons]
      exact List.mem_cons_of_mem _ (operands ▸ member)
    · exact fun some => sameSource (operands ▸ some)
    · exact .inr ⟨isMult, divides⟩

/-- A multiplication of which both halves are sent moves on to the next line. -/
theorem Arrived.nextMultLine (arrived : Arrived c cube l packet) (isMult : packet.CMD = .ACT_MULT)
    (alone : isFullPkt packet = false) (more : 1 < packet.LINES) :
    (CrossbarSwitch.nextMultLine packet).operands = packet.operands ∧
      Arrived c cube l (CrossbarSwitch.nextMultLine packet) := by
  have updates : isUpdate packet = true := by simp [isUpdate, isMult]
  have isRest : (CrossbarSwitch.nextMultLine packet).operands = restOperands packet :=
    operands_next updates rfl rfl rfl rfl fun _ => rfl
  have operands : (CrossbarSwitch.nextMultLine packet).operands = packet.operands :=
    isRest.trans (operands_of_half updates alone).symm
  refine ⟨operands, arrived.rewrite updates rfl rfl rfl rfl rfl rfl ?_ ?_ ?_ ?_ (fun _ => rfl)
    (.inl rfl)⟩
  · exact fun notMult => absurd isMult notMult
  · intro _
    show 0 < packet.LINES - 1
    omega
  · exact Nat.sub_le packet.LINES 1
  · exact fun pair member => operands ▸ member

/-- What an update of which an operand is asked for needs of its address. -/
theorem Arrived.operandRequest (arrived : Arrived c cube l packet)
    (isAdd : packet.CMD = .ACT_ADD ∨ packet.CMD = .ACT_DOT) (k : CubeConfig) (id : ℕ) :
    Answering (CrossbarSwitch.operandRequest k id packet) := by
  obtain ⟨updates, notMult⟩ := isUpdate_of_add isAdd
  have isFull := arrived.active.whole updates notMult
  have isCons := operands_cons updates isFull (arrived.active.lines updates isFull)
  have nonzero := arrived.active.nonzero updates notMult (packet.operandsOf 0)
    (isCons ▸ List.mem_cons_self)
  rw [operandsOf_zero] at nonzero
  refine ⟨fun _ => (arrived.active.fits (isActive_of_update updates)).segment, ?_⟩
  show (!(packet.CMD = .ACT_ADD || packet.CMD = .ACT_DOT) || packet.SRCADRS1 ≠ 0) = true
  simp only [nonzero, ne_eq, not_false_eq_true, decide_true, Bool.or_true]

theorem AllEntered.enter (entered : AllEntered c cube t) {opcode : Opcode} {src2 : BitVec 64}
    {id : ℕ} (enters : Enters (c.cube cube) t opcode packet src2 id t')
    (routed : Routed c cube packet) (connected : c.Connected) : AllEntered c cube t' :=
  entered.update enters.flowTable (routed.counted connected entered opcode)

/-- A visit of a request leaves every packet in its place. -/
theorem Arrived.visited (arrived : Arrived c cube l packet) (connected : c.Connected)
    (positive : 0 < packet.LNG) (entered : AllEntered c cube t)
    (visits : RequestVisit (c.cube cube) answers inorder room t packet visit) :
    FatePlaced c cube l visit.fate ∧ (∀ sent ∈ visit.sent, SentDown c cube sent) ∧
      AllEntered c cube visit.tables := by
  cases visits with
  | stays => exact ⟨trivial, List.forall_mem_nil _, entered⟩
  | drops isMult =>
    have updates : isUpdate packet = true := by simp [isUpdate, isMult]
    refine ⟨?_, List.forall_mem_nil _, entered⟩
    exact arrived.rewrite updates rfl rfl rfl rfl rfl rfl (fun _ => rfl)
      (arrived.active.lines updates) (Nat.le_refl _) (fun _ member => member) (fun _ => rfl) (.inl rfl)
  | adds id t' fate isAdd _ enters next =>
    obtain ⟨updates, notMult⟩ := isUpdate_of_add isAdd
    have isFull := arrived.active.whole updates notMult
    obtain ⟨-, routed⟩ := arrived.update (operands_ne_nil arrived.active updates isFull)
    refine ⟨?_, ?_, entered.enter enters routed connected⟩
    · obtain ⟨-, ⟨-, rfl⟩ | ⟨packet', rfl, -, -, -, -, -, arrived'⟩⟩ := arrived.nextAddLine isAdd next
      · exact trivial
      · exact arrived'
    · intro sent member
      obtain rfl := List.mem_singleton.mp member
      refine ⟨arrived.operandRequest isAdd _ _, ?_⟩
      show packet.CMD ≠ .ACT_GET
      intro isGet
      rw [not_isUpdate_of_get isGet] at updates
      cases updates
  | multiplies id t' waits half port isMult isFull parts enters isWaiting isHalf =>
    have updates : isUpdate packet = true := by simp [isUpdate, isMult]
    obtain ⟨-, routed⟩ := arrived.update (operands_ne_nil arrived.active updates isFull)
    refine ⟨(arrived.multiply connected isMult isFull parts isWaiting).2.2.2.2.2, ?_,
      entered.enter enters routed connected⟩
    intro sent member
    obtain rfl := List.mem_singleton.mp member
    exact arrived.active.sentHalf positive isMult isHalf
  | halves half port fate isMult alone isHalf fates =>
    refine ⟨?_, ?_, entered⟩
    · rcases fates with ⟨-, rfl⟩ | ⟨more, rfl⟩
      · exact trivial
      · exact (arrived.nextMultLine isMult alone more).2
    · intro sent member
      obtain rfl := List.mem_singleton.mp member
      exact arrived.active.sentHalf positive isMult isHalf
  | forwards opcode t' updates isFull goesOn counts =>
    have full : isFullPkt packet = true := by
      by_cases isMult : packet.CMD = .ACT_MULT
      · exact isFull isMult
      · exact arrived.active.whole updates isMult
    have some := operands_ne_nil arrived.active updates full
    obtain ⟨-, routed⟩ := arrived.update some
    obtain ⟨node, child, isLink, -, travels⟩ := arrived.forward connected positive some goesOn
    have isChild := (connected.links child).2.1
    obtain ⟨rfl, -⟩ := countUpdate_eq_ok counts
    refine ⟨trivial, ?_, ?_⟩
    · intro sent member
      obtain rfl := List.mem_singleton.mp member
      show Travels c (.hmc cube ((c.cube cube).findNextLink packet.DESTCUB false : ℕ)) _
      rw [isLink, linkOf_val isChild]
      exact travels
    · have counted := routed.counted connected entered opcode
      have isEntered := counted.addChild child
      rw [isLink]
      refine entered.update ?_ isEntered
      simp [FlowTables.countChild, FlowTables.setFlow]
  | tells flowEntry link isGet isHere _ found waits =>
    obtain ⟨counts, -, node, child, rfl⟩ := (entered _ _ found).childLinks waits
    refine ⟨arrived.replicate isGet connected child, List.forall_mem_nil _, ?_⟩
    refine entered.update rfl ((entered _ _ found).congr rfl ?_)
    intro other flagged
    by_cases same : other = CubeNetworkConfig.linkOf (c.net.findNextLink cube node false)
    · exact .inl (same ▸ counts)
    · simpa [FlowEntry.markChild, same] using flagged
  | marks flowEntry isGet _ _ found =>
    refine ⟨trivial, List.forall_mem_nil _, ?_⟩
    exact entered.update rfl ((entered _ _ found).congr rfl fun _ counts => counts)
  | toVault isOther notGet =>
    refine ⟨trivial, ?_, entered⟩
    intro sent member
    obtain rfl := List.mem_singleton.mp member
    exact ⟨.of_plain (plain_iff.mpr ⟨isOther, notGet⟩), notGet⟩
  | passes isOther other =>
    refine ⟨trivial, ?_, entered⟩
    intro sent member
    obtain rfl := List.mem_singleton.mp member
    by_cases isGet : packet.CMD = .ACT_GET
    · obtain ⟨node, child, -, isLink, travels⟩ := arrived.passGet positive isGet other
      show Travels c (.hmc cube ((c.cube cube).findNextLink packet.DESTCUB false : ℕ)) _
      rw [isLink, linkOf_val (connected.links child).2.1]
      exact travels
    · exact .of_plain positive (plain_iff.mpr ⟨isOther, isGet⟩)

end CubeNetwork

end ActiveRouting

import Mathlib.Algebra.BigOperators.Group.Finset.Basic
import ActiveRouting.Cube.FlowConservation
import ActiveRouting.Network.FlowTree

/-!
# A network of cubes with its flows

The crossbar switches of all cubes, with the requests that their vaults hold and the
packets on the links between them.  Links and vaults take any time; a link keeps the
order of its requests and that of its responses, and a vault answers in any order.
The results of the flows are added up as under `COMPUTE`.
-/

namespace ActiveRouting

open CrossbarSwitch

/-- The network, the sizes of its cubes, the controller of each flow, and what a pair of
    operands contributes to the result of a flow. -/
structure CubeNetworkConfig (M : Type) where
  net : Network
  dram : DRAMConfig := {}
  operandBufSize : ℕ := 128
  numMultStages : ℕ := 5
  home : BitVec 64 → ℕ
  amount : BitVec 64 × BitVec 64 → M

namespace CubeNetworkConfig

variable {M : Type} (c : CubeNetworkConfig M)

/-- The links of a cube are numbered. -/
def linkOf (link : ℕ) : Fin numLinks := ⟨link % numLinks, Nat.mod_lt link (by decide)⟩

/-- What a cube knows of itself. -/
def cube (cubeID : ℕ) : CubeConfig where
  dram := c.dram
  cubeID := cubeID
  findNextLink dest req := linkOf (c.net.findNextLink cubeID dest.toNat req)
  neighborCubeID link := c.net.neighborCubeID cubeID link
  operandBufSize := c.operandBufSize
  numMultStages := c.numMultStages

/-- The cube where a flow enters the network. -/
def root (flow : BitVec 64) : ℕ :=
  match c.net.linkSlaveP (.hmcCont (c.home flow)) with
  | some (.hmc node _) => node
  | _ => 0

/-- The tree of a flow. -/
def tree (flow : BitVec 64) : GatherTree.Tree ℕ := c.net.flowTree (c.root flow)

end CubeNetworkConfig

namespace Packet

/-- The cubes that an update is for: one, or two for a multiplication. -/
def dest1 (packet : Packet) : ℕ :=
  if packet.CMD = .ACT_MULT then packet.DESTCUB1.toNat else packet.DESTCUB.toNat

def dest2 (packet : Packet) : ℕ :=
  if packet.CMD = .ACT_MULT then packet.DESTCUB2.toNat else packet.DESTCUB.toNat

/-- The operands of line `i` of an update. -/
def operandsOf (packet : Packet) (i : ℕ) : BitVec 64 × BitVec 64 :=
  (packet.SRCADRS1 + BitVec.ofNat 64 (64 * i),
    if packet.CMD = .ACT_MULT then packet.SRCADRS2 + BitVec.ofNat 64 (64 * i) else 0)

/-- The lines of an update for which no operand buffer is reserved yet; the first line of
    a packet that waits for its second half to be sent has one. -/
def operands (packet : Packet) : List (BitVec 64 × BitVec 64) :=
  if isUpdate packet then
    if isFullPkt packet then (List.range packet.LINES).map packet.operandsOf
    else (List.range (packet.LINES - 1)).map fun i => packet.operandsOf (i + 1)
  else []

/-- A request or a response of a flow. -/
def isActive (packet : Packet) : Bool := isUpdate packet || packet.CMD = .ACT_GET

/-- The cube that reserves the operand buffers of an update. -/
def splitCube (net : Network) (packet : Packet) : ℕ :=
  net.splitCube packet.dest1 packet.dest2 net.nodes packet.SRCCUB.toNat

end Packet

/-- The ways in which the simulation of a network stops. -/
inductive CubeNetworkError where
  | cube (error : CubeError)
  | vault (error : VaultError)
  deriving DecidableEq, Repr

/-- The state of a network.  `results` are the partial results of the flow entries and
    `memory` is what the flows have written.  The other fields are records of what the
    controllers have sent and of what was committed, which the source does not keep. -/
structure CubeNetwork (M : Type) where
  cubes : ℕ → CrossbarSwitch
  vaults : ℕ → List Packet := fun _ => []
  requests : LinkEnd → List Packet := fun _ => []
  responses : LinkEnd → List Packet := fun _ => []
  results : ℕ → BitVec 64 → M
  memory : BitVec 64 → M
  /-- The updates of a flow that are not answered, and whether the `GET` was sent. -/
  issued : BitVec 64 → ℕ := fun _ => 0
  asked : BitVec 64 → Bool := fun _ => false
  /-- What a flow was ever sent for a cube, and what the cube ever committed. -/
  entered : BitVec 64 → ℕ → M
  committed : BitVec 64 → ℕ → M

namespace CubeNetwork

variable {M : Type}

def setCube (s : CubeNetwork M) (cube : ℕ) (switch : CrossbarSwitch) : CubeNetwork M :=
  { s with cubes := Function.update s.cubes cube switch }

def setVault (s : CubeNetwork M) (cube : ℕ) (packets : List Packet) : CubeNetwork M :=
  { s with vaults := Function.update s.vaults cube packets }

def setRequests (s : CubeNetwork M) (m : LinkEnd) (packets : List Packet) : CubeNetwork M :=
  { s with requests := Function.update s.requests m packets }

def setResponses (s : CubeNetwork M) (m : LinkEnd) (packets : List Packet) : CubeNetwork M :=
  { s with responses := Function.update s.responses m packets }

/-- A packet that a crossbar switch sends downstream. -/
def sendDown (cube : ℕ) (s : CubeNetwork M) : Port × Packet → CubeNetwork M
  | (.vault _, packet) => s.setVault cube (s.vaults cube ++ [packet])
  | (.link link, packet) =>
    s.setRequests (.hmc cube link) (s.requests (.hmc cube link) ++ [packet])

/-- A packet that a crossbar switch sends upstream. -/
def sendUp (cube : ℕ) (s : CubeNetwork M) : Port × Packet → CubeNetwork M
  | (.vault _, _) => s
  | (.link link, packet) =>
    s.setResponses (.hmc cube link) (s.responses (.hmc cube link) ++ [packet])

/-- What happens in a network. -/
inductive Action where
  /-- A controller sends a request. -/
  | issue (cont : ℕ) (packet : Packet)
  /-- The first request, or response, on a link arrives. -/
  | request (m : LinkEnd)
  | response (m : LinkEnd)
  /-- Parts of an `Update` of a crossbar switch. -/
  | visitUp (cube l i : ℕ) (answers : Answers)
  | visitDown (cube l i : ℕ) (answers : Answers)
  | processOperands (cube : ℕ)
  | commit (cube : ℕ) (flow : BitVec 64) (answers : Answers)
  /-- The vault that holds request `i` of a cube answers it. -/
  | reply (cube i : ℕ)

/-- Errors of a crossbar switch. -/
def ofCube {α : Type} : Except CubeError α → Except CubeNetworkError α :=
  Except.mapError .cube

/-- The answer of a vault; a posted request has none. -/
def vaultReply (dram : DRAMConfig) (request : Packet) :
    Except CubeNetworkError (Option Packet) :=
  if ((VaultController.requestKind dram request.CMD).map VaultController.RequestKind.posted).getD
      false then pure none
  else (SegmentTable.respond dram request).mapError .vault |>.map some

variable [AddCommMonoid M] (c : CubeNetworkConfig M)

/-- What the operands of a flow contribute that an `Update` has consumed. -/
def consumed (before after : FlowTables) (flow : BitVec 64) : M :=
  ∑ id ∈ Finset.range c.operandBufSize,
    match before.operandBuffers id, after.operandBuffers id with
    | some e, none => if e.flowID = flow then c.amount (e.src_addr1, e.src_addr2) else 0
    | _, _ => 0

/-- The controllers' record of what they send. -/
def note (s : CubeNetwork M) (packet : Packet) : CubeNetwork M :=
  if isUpdate packet then
    { s with
      issued := Function.update s.issued packet.DESTADRS (s.issued packet.DESTADRS + 1)
      entered := Function.update s.entered packet.DESTADRS
        (Function.update (s.entered packet.DESTADRS) (packet.splitCube c.net)
          (s.entered packet.DESTADRS (packet.splitCube c.net) +
            (packet.operands.map c.amount).sum)) }
  else if packet.CMD = .ACT_GET then
    { s with asked := Function.update s.asked packet.DESTADRS true }
  else s

/-- The answer to a `GET` reaches its controller. -/
def noteAnswer (s : CubeNetwork M) (packet : Packet) : CubeNetwork M :=
  if packet.CMD = .ACT_GET then
    { s with
      issued := Function.update s.issued packet.DESTADRS 0
      asked := Function.update s.asked packet.DESTADRS false }
  else s

/-- The result of a flow entry that is deallocated is added to what the flow has written. -/
def bank (s : CubeNetwork M) (cube : ℕ) (flow : BitVec 64) : CubeNetwork M :=
  { s with
    memory := Function.update s.memory flow (s.memory flow + s.results cube flow)
    committed := Function.update s.committed flow
      (Function.update (s.committed flow) cube (s.committed flow cube + s.results cube flow))
    results := Function.update s.results cube (Function.update (s.results cube) flow 0) }

/-- The first request on a link arrives, if there is room for it. -/
def arriveDown (s : CubeNetwork M) (m : LinkEnd) : CubeNetwork M :=
  match s.requests m, c.net.linkSlaveP m with
  | packet :: rest, some (.hmc node link) =>
    if hasRoom ((s.cubes node).downBuffers link) packet then
      (s.setRequests m rest).setCube node
        ((s.cubes node).setDown link (receive ((s.cubes node).downBuffers link) packet))
    else s
  | _, _ => s

/-- The first response on a link arrives at a cube or at a controller. -/
def arriveUp (s : CubeNetwork M) (m : LinkEnd) : CubeNetwork M :=
  match s.responses m, c.net.linkSlaveP m with
  | packet :: rest, some (.hmc node link) =>
    if hasRoom ((s.cubes node).upBuffers link) packet then
      (s.setResponses m rest).setCube node
        ((s.cubes node).setUp link (receive ((s.cubes node).upBuffers link) packet))
    else s
  | packet :: rest, some (.hmcCont _) => (s.setResponses m rest).noteAnswer packet
  | _, _ => s

/-- The vaults answer into the input buffer behind those of the links. -/
def reply (s : CubeNetwork M) (cube i : ℕ) : Except CubeNetworkError (CubeNetwork M) :=
  match (s.vaults cube)[i]? with
  | none => pure s
  | some request => do
    match ← vaultReply c.dram request with
    | none => pure (s.setVault cube ((s.vaults cube).eraseIdx i))
    | some response =>
      if hasRoom ((s.cubes cube).upBuffers numLinks) response then
        pure ((s.setVault cube ((s.vaults cube).eraseIdx i)).setCube cube
          ((s.cubes cube).setUp numLinks (receive ((s.cubes cube).upBuffers numLinks) response)))
      else pure s

/-- A flow whose answer is sent is committed. -/
def commitFlow (s : CubeNetwork M) (cube : ℕ) (flow : BitVec 64) (answers : Answers) :
    CubeNetwork M :=
  let done := commit (c.cube cube) answers (s.cubes cube).tables flow
  let s' := done.2.foldl (sendUp cube) (s.setCube cube ((s.cubes cube).setTables done.1))
  if done.2 = [] then s' else s'.bank cube flow

def step (s : CubeNetwork M) : Action → Except CubeNetworkError (CubeNetwork M)
  | .issue cont packet =>
    pure ((s.setRequests (.hmcCont cont) (s.requests (.hmcCont cont) ++ [packet])).note c packet)
  | .request m => pure (s.arriveDown c m)
  | .response m => pure (s.arriveUp c m)
  | .visitUp cube l i answers => do
    let (switch, sent) ← ofCube ((s.cubes cube).visitUp (c.cube cube) answers l i)
    pure (sent.foldl (sendUp cube) (s.setCube cube switch))
  | .visitDown cube l i answers => do
    let (switch, sent) ← ofCube ((s.cubes cube).visitDown (c.cube cube) answers l i)
    pure (sent.foldl (sendDown cube) (s.setCube cube switch))
  | .processOperands cube => do
    let tables ← ofCube (processOperands (c.cube cube) (s.cubes cube).tables)
    pure { s.setCube cube ((s.cubes cube).setTables tables) with
      results := Function.update s.results cube fun flow =>
        s.results cube flow + consumed c (s.cubes cube).tables tables flow }
  | .commit cube flow answers => pure (s.commitFlow c cube flow answers)
  | .reply cube i => s.reply c cube i

/-- A network in which nothing has happened. -/
def start : CubeNetwork M where
  cubes cube := CrossbarSwitch.start (c.cube cube)
  results _ _ := 0
  memory _ := 0
  entered _ _ := 0
  committed _ _ := 0

/-! ## What the controllers send -/

/-- A request that is not divided into segments. -/
structure Fits (packet : Packet) : Prop where
  segment : packet.segment = false
  size : packet.reqDataSize ≤ c.dram.addressMapping

/-- An update of a flow whose result its controller has not asked for.  An address zero
    stands for no operand. -/
structure Updates (s : CubeNetwork M) (cont : ℕ) (packet : Packet) : Prop where
  home : c.home packet.DESTADRS = cont
  unasked : s.asked packet.DESTADRS = false
  fits : Fits c packet
  whole : isFullPkt packet = true
  source : packet.SRCCUB = c.root packet.DESTADRS
  lines : 0 < packet.LINES
  short : packet.LINES < 2 ^ 32
  nonzero : packet.CMD ≠ .ACT_MULT → ∀ operands ∈ packet.operands, operands.1 ≠ 0
  dest : 0 ≤ packet.DESTCUB
  inside1 : packet.dest1 < c.net.nodes
  inside2 : packet.dest2 < c.net.nodes
  first : packet.CMD = .ACT_MULT → packet.DESTCUB = packet.DESTCUB1 ∧ 0 ≤ packet.DESTCUB2

/-- A `GET` of a flow of which updates were sent. -/
structure Asks (s : CubeNetwork M) (cont : ℕ) (packet : Packet) : Prop where
  home : c.home packet.DESTADRS = cont
  unasked : s.asked packet.DESTADRS = false
  some : 0 < s.issued packet.DESTADRS
  fits : Fits c packet
  dest : packet.DESTCUB = c.root packet.DESTADRS

/-- The controllers send the updates of a flow before its `GET`; the requests that belong
    to no flow may be any. -/
def Guard (s : CubeNetwork M) (action : Action) (_ : CubeNetwork M) : Prop :=
  match action with
  | .issue cont packet =>
    0 < packet.LNG ∧ (isUpdate packet = true → Updates c s cont packet) ∧
      (packet.CMD = .ACT_GET → Asks c s cont packet)
  | _ => True

end CubeNetwork

end ActiveRouting

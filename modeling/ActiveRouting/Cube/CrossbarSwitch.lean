import Mathlib.Logic.Function.Basic
import ActiveRouting.Buffer.MasterVectors
import ActiveRouting.Cube.Segmentation

/-!
# Crossbar switch

`CrossbarSwitch.cpp` and `ArtModule.h`.  `Update` visits the packets of the input
buffers one after the other; a visit is a function of the packet that is met and
of the answers of the vaults and links that are asked to receive one.
-/

namespace ActiveRouting

open Blocks

/-- `Opcode`. -/
inductive Opcode where
  | ADD | MAC | INVALID
  deriving DecidableEq, Repr

/-- `FlowEntry`, without the partial result and the counters of vaults. -/
structure FlowEntry where
  opcode : Opcode := .INVALID
  req_count : ℕ := 0
  rep_count : ℕ := 0
  parent : ℤ := -1
  children_count : Fin numLinks → ℕ := fun _ => 0
  children_gflag : Fin numLinks → Bool := fun _ => false
  g_flag : Bool := false

/-- The values of a `char`. -/
def toChar (n : ℤ) : ℤ := Int.bmod n 256

/-- `OperandEntry`. -/
structure OperandEntry where
  flowID : BitVec 64 := 0
  src_addr1 : BitVec 64 := 0
  src_addr2 : BitVec 64 := 0
  op1_ready : Bool := false
  op2_ready : Bool := false
  ready : Bool := false
  multStageCounter : ℤ := 5
  deriving DecidableEq, Repr

namespace OperandEntry

/-- Neither address is set and no operand has arrived. -/
def isClear (e : OperandEntry) : Bool :=
  e.src_addr1 = 0 ∧ e.src_addr2 = 0 ∧ !e.op1_ready ∧ !e.op2_ready ∧ !e.ready

def reserve (e : OperandEntry) (flow src1 src2 : BitVec 64) : OperandEntry :=
  { e with flowID := flow, src_addr1 := src1, src_addr2 := src2 }

/-- The operand of an addition arrives. -/
def fillAdd (e : OperandEntry) : OperandEntry := { e with op1_ready := true, ready := true }

/-- The first operand of a multiplication arrives. -/
def fillFirst (e : OperandEntry) : OperandEntry :=
  { e with op1_ready := true, ready := e.op2_ready }

def fillSecond (e : OperandEntry) : OperandEntry :=
  { e with op2_ready := true, ready := e.op1_ready }

/-- The operands move on by a stage. -/
def nextStage (e : OperandEntry) : OperandEntry :=
  { e with multStageCounter := toChar (e.multStageCounter - 1) }

end OperandEntry

/-- What a cube knows of itself: its id, its place in the network, and the sizes of its
    tables. -/
structure CubeConfig where
  dram : DRAMConfig := {}
  cubeID : ℤ
  findNextLink : ℤ → Bool → Fin numLinks
  neighborCubeID : Fin numLinks → ℤ
  operandBufSize : ℕ := 128
  numMultStages : ℕ := 5

/-- `MAX_CROSS_BUF`: the slots of an input buffer. -/
def maxCrossBuf : ℕ := 64

/-- The ways in which a crossbar switch stops the simulation. -/
inductive CubeError where
  | assertion
  /-- `pendingSegTag` does not have the tag of a segment. -/
  | segmentTag
  /-- An operand buffer id outside the operand buffers, or none in the free list. -/
  | operandBuffer
  deriving DecidableEq, Repr

/-- What the vaults and links of a cube answer to a packet. -/
structure Answers where
  vault : ℕ → Bool
  /-- The link is not in `LINK_RETRY` and receives the packet downstream. -/
  linkDown : Fin numLinks → Bool
  linkUp : Fin numLinks → Bool

/-- Where a packet is sent. -/
inductive Port where
  | vault (vaultMap : ℕ)
  | link (link : Fin numLinks)
  deriving DecidableEq, Repr

/-! ## Flow table and operand buffers -/

/-- The tables of the active-routing engine.  An operand buffer that is not reserved
    has the fields of a new one and is `none`. -/
structure FlowTables where
  flowTable : BitVec 64 → Option FlowEntry := fun _ => none
  operandBuffers : ℕ → Option OperandEntry := fun _ => none
  freeOperandBufIDs : List ℕ
  multPipeOccupancy : ℤ := 0

namespace CubeConfig

/-- The neighbour from which the packets of a source cube come. -/
def parentCube (k : CubeConfig) (SRCCUB : ℤ) : ℤ :=
  k.neighborCubeID (k.findNextLink SRCCUB true)

/-- The vault of an address. -/
def vaultMap (k : CubeConfig) (address : BitVec 64) : ℕ :=
  (address.toNat >>> k.dram.addressMapping.log2) % numVaults

/-- A new operand buffer. -/
def newOperand (k : CubeConfig) : OperandEntry := { multStageCounter := toChar k.numMultStages }

end CubeConfig

namespace FlowEntry

def addRequest (e : FlowEntry) : FlowEntry := { e with req_count := e.req_count + 1 }

/-- An update is sent to a child. -/
def addChild (e : FlowEntry) (link : Fin numLinks) : FlowEntry :=
  { e with children_count :=
      Function.update e.children_count link (e.children_count link + 1) }

/-- A child answers the `GET`. -/
def answerChild (e : FlowEntry) (link : Fin numLinks) : FlowEntry :=
  { e with
    rep_count := e.rep_count + e.children_count link
    children_count := Function.update e.children_count link 0 }

def addReply (e : FlowEntry) : FlowEntry := { e with rep_count := e.rep_count + 1 }

/-- The `GET` is replicated to a child. -/
def markChild (e : FlowEntry) (link : Fin numLinks) : FlowEntry :=
  { e with children_gflag := Function.update e.children_gflag link true }

/-- The gather request has arrived. -/
def markGather (e : FlowEntry) : FlowEntry := { e with g_flag := true }

/-- The children that have updates of the flow and not yet the `GET`. -/
def childLinks (e : FlowEntry) : List (Fin numLinks) :=
  (List.finRange numLinks).filter fun c => 0 < e.children_count c ∧ !e.children_gflag c

end FlowEntry

namespace FlowTables

def setFlow (t : FlowTables) (flow : BitVec 64) (entry : Option FlowEntry) : FlowTables :=
  { t with flowTable := Function.update t.flowTable flow entry }

def setOperand (t : FlowTables) (id : ℕ) (entry : Option OperandEntry) : FlowTables :=
  { t with operandBuffers := Function.update t.operandBuffers id entry }

/-- `operandBuffers[id]`. -/
def operand (k : CubeConfig) (t : FlowTables) (id : ℕ) : OperandEntry :=
  (t.operandBuffers id).getD k.newOperand

/-- An update of a flow that is not in the table makes its entry. -/
def countUpdate (t : FlowTables) (opcode : Opcode) (flow : BitVec 64) (parent : ℤ) :
    Except CubeError FlowTables :=
  match t.flowTable flow with
  | none => pure (t.setFlow flow (some { opcode := opcode, parent := parent, req_count := 1 }))
  | some flowEntry =>
    if flowEntry.parent = parent then pure (t.setFlow flow (some flowEntry.addRequest))
    else throw .assertion

/-- An update of a flow that is sent to a child. -/
def countChild (t : FlowTables) (flow : BitVec 64) (link : Fin numLinks) : FlowTables :=
  t.setFlow flow ((t.flowTable flow).map fun flowEntry => flowEntry.addChild link)

/-- An operand buffer is taken from the free list. -/
def takeFree (t : FlowTables) (id : ℕ) (rest : List ℕ) (entry : OperandEntry) : FlowTables :=
  { t.setOperand id (some entry) with freeOperandBufIDs := rest }

/-- The first free operand buffer is reserved for a flow. -/
def reserveOperand (k : CubeConfig) (t : FlowTables) (flow src1 src2 : BitVec 64) :
    Except CubeError (ℕ × FlowTables) :=
  match t.freeOperandBufIDs with
  | [] => throw .operandBuffer
  | id :: rest =>
    if (t.operand k id).isClear then
      pure (id, t.takeFree id rest ((t.operand k id).reserve flow src1 src2))
    else throw .assertion

/-- An update is counted and an operand buffer is reserved for it. -/
def enter (k : CubeConfig) (t : FlowTables) (opcode : Opcode) (packet : Packet)
    (src2 : BitVec 64) : Except CubeError (ℕ × FlowTables) := do
  let t ← t.countUpdate opcode packet.DESTADRS (k.parentCube packet.SRCCUB)
  t.reserveOperand k packet.DESTADRS packet.SRCADRS1 src2

end FlowTables

/-! ## Requests for this cube -/

/-- What becomes of the packet that is visited. -/
inductive Fate where
  | keep
  | erase
  | rewrite (packet : Packet)
  /-- A packet is received in the buffer of the one that is visited. -/
  | replicate (packet : Packet)

/-- The packets that are left in the buffer are as long as the one that is visited. -/
def Fate.SameLength (packet : Packet) : Fate → Prop
  | .keep => True
  | .erase => True
  | .rewrite packet' => packet'.LNG = packet.LNG
  | .replicate packet' => packet'.LNG = packet.LNG

/-- The outcome of a visit. -/
structure Visit where
  tables : FlowTables
  fate : Fate
  sent : List (Port × Packet) := []

namespace CrossbarSwitch

open FlowTables

/-- A packet that is not sent. -/
def stay (t : FlowTables) : Visit := { tables := t, fate := .keep }

/-- A request for operands as it is sent to a vault of the cube. -/
def operandRequest (k : CubeConfig) (id : ℕ) (packet : Packet) : Packet :=
  { packet with operandBufID := id, SRCCUB := k.cubeID, DESTCUB := k.cubeID }

/-- The first line of a page is sent, the others wait in the buffer. -/
def nextAddLine (packet : Packet) : Except CubeError Fate :=
  if packet.LINES = 1 then pure .erase
  else
    let next := { packet with
      SRCADRS1 := packet.SRCADRS1 + 64
      ADRS := packet.ADRS + 64
      LINES := unsignedSub packet.LINES 1 }
    if next.ADRS = Transaction.address34 next.SRCADRS1 then pure (.rewrite next)
    else throw .assertion

/-- `ACT_ADD` and `ACT_DOT`. -/
def visitAdd (k : CubeConfig) (answers : Answers) (t : FlowTables) (packet : Packet) :
    Except CubeError Visit :=
  if t.freeOperandBufIDs ≠ [] ∧ answers.vault (k.vaultMap packet.ADRS) then do
    let entered ← t.enter k .ADD packet 0
    let fate ← nextAddLine packet
    pure ⟨entered.2, fate,
      [(.vault (k.vaultMap packet.ADRS), operandRequest k entered.1 packet)]⟩
  else pure (stay t)

/-- The half of a packet that asks for the first operand. -/
def firstHalf (packet : Packet) : Packet :=
  { packet with
    ADRS := Transaction.address34 packet.SRCADRS1, halfPkt1 := true, SRCADRS2 := 0 }

def secondHalf (packet : Packet) : Packet :=
  { packet with
    ADRS := Transaction.address34 packet.SRCADRS2, halfPkt2 := true, SRCADRS1 := 0 }

/-- The packet that waits for its second half to be sent; with the last line it comes
    from this cube. -/
def awaitSecond (k : CubeConfig) (id : ℕ) (packet : Packet) : Packet :=
  { packet with
    ADRS := Transaction.address34 packet.SRCADRS2, DESTCUB := packet.DESTCUB2, halfPkt2 := true
    operandBufID := id, SRCCUB := if packet.LINES = 1 then k.cubeID else packet.SRCCUB }

def awaitFirst (k : CubeConfig) (id : ℕ) (packet : Packet) : Packet :=
  { packet with
    ADRS := Transaction.address34 packet.SRCADRS1, DESTCUB := packet.DESTCUB1, halfPkt1 := true
    operandBufID := id, SRCCUB := if packet.LINES = 1 then k.cubeID else packet.SRCCUB }

def isFirstHere (k : CubeConfig) (packet : Packet) : Bool :=
  packet.SRCADRS1 ≠ 0 ∧ packet.DESTCUB1 = k.cubeID

def isSecondHere (k : CubeConfig) (packet : Packet) : Bool :=
  packet.SRCADRS2 ≠ 0 ∧ packet.DESTCUB2 = k.cubeID

def isFullPkt (packet : Packet) : Bool := !packet.halfPkt1 ∧ !packet.halfPkt2

/-- `assert(operandBufID = -1)`: an assignment. -/
def dropOperandBufID (packet : Packet) : Packet := { packet with operandBufID := -1 }

/-- An `ACT_MULT` with both operands, of which one is in this cube. -/
def visitFullMult (k : CubeConfig) (answers : Answers) (t : FlowTables) (packet : Packet) :
    Except CubeError Visit :=
  if packet.SRCADRS1 = 0 ∨ packet.SRCADRS2 = 0 then throw .assertion
  else if t.freeOperandBufIDs = [] then pure (stay t)
  else if isFirstHere k packet then
    if answers.vault (k.vaultMap packet.SRCADRS1) then do
      let entered ← t.enter k .MAC packet packet.SRCADRS2
      pure ⟨entered.2, .rewrite (awaitSecond k entered.1 packet),
        [(.vault (k.vaultMap packet.SRCADRS1), operandRequest k entered.1 (firstHalf packet))]⟩
    else pure ⟨t, .rewrite (dropOperandBufID packet), []⟩
  else if isSecondHere k packet then
    if answers.vault (k.vaultMap packet.SRCADRS2) then do
      let entered ← t.enter k .MAC packet packet.SRCADRS2
      pure ⟨entered.2, .rewrite (awaitFirst k entered.1 packet),
        [(.vault (k.vaultMap packet.SRCADRS2), operandRequest k entered.1 (secondHalf packet))]⟩
    else pure ⟨t, .rewrite (dropOperandBufID packet), []⟩
  else throw .assertion

/-- The second half of a packet as it is sent. -/
def sentHalf (packet : Packet) : Packet :=
  if packet.halfPkt1 then { packet with SRCADRS2 := 0, LINES := 1 }
  else { packet with SRCADRS1 := 0, LINES := 1 }

/-- One of the two halves, with the address of its operand. -/
def isHalf (packet : Packet) : Bool :=
  packet.halfPkt1 ≠ packet.halfPkt2 ∧
    packet.ADRS = Transaction.address34
      (if packet.halfPkt1 then packet.SRCADRS1 else packet.SRCADRS2)

/-- The packet moves on to the next line. -/
def nextMultLine (packet : Packet) : Packet :=
  { packet with
    halfPkt1 := false, halfPkt2 := false
    SRCADRS1 := packet.SRCADRS1 + 64, SRCADRS2 := packet.SRCADRS2 + 64
    ADRS := Transaction.address34 (packet.SRCADRS1 + 64)
    LINES := packet.LINES - 1, operandBufID := -1 }

/-- The other half of an `ACT_MULT`, for an operand in this cube. -/
def visitHalfMult (k : CubeConfig) (answers : Answers) (t : FlowTables) (packet : Packet) :
    Except CubeError Visit :=
  if answers.vault (k.vaultMap packet.ADRS) then
    if !isHalf packet then throw .assertion
    else if packet.LINES ≤ 1 then
      pure ⟨t, .erase, [(.vault (k.vaultMap packet.ADRS), sentHalf packet)]⟩
    else if packet.DESTCUB1 ≠ packet.DESTCUB2 then throw .assertion
    else pure ⟨t, .rewrite (nextMultLine packet), [(.vault (k.vaultMap packet.ADRS),
      { sentHalf packet with SRCCUB := k.cubeID, DESTCUB := k.cubeID })]⟩
  else pure (stay t)

/-- An update of a flow. -/
def isUpdate (packet : Packet) : Bool :=
  packet.CMD = .ACT_ADD ∨ packet.CMD = .ACT_DOT ∨ packet.CMD = .ACT_MULT

/-- The `GET` as it is sent to a child. -/
def childPkt (k : CubeConfig) (link : Fin numLinks) (packet : Packet) : Packet :=
  { packet.resetLinkFields with SRCCUB := k.cubeID, DESTCUB := k.neighborCubeID link }

/-- The loop over the children that wait for the `GET`; one is served. -/
def serveChildren (k : CubeConfig) (room : Bool) (t : FlowTables) (packet : Packet)
    (flowEntry : FlowEntry) : List (Fin numLinks) → Except CubeError Visit
  | [] => pure (stay t)
  | c :: links =>
    if k.findNextLink (k.neighborCubeID c) false ≠ c then throw .assertion
    else if room then
      pure ⟨t.setFlow packet.DESTADRS (some (flowEntry.markChild c)),
        .replicate (childPkt k c packet), []⟩
    else serveChildren k room t packet flowEntry links

/-- `ACT_GET`, behind no update of its flow. -/
def visitGet (k : CubeConfig) (isInorder room : Bool) (t : FlowTables) (packet : Packet) :
    Except CubeError Visit :=
  if !isInorder then pure (stay t)
  else
    match t.flowTable packet.DESTADRS with
    | none => throw .assertion
    | some flowEntry =>
      if flowEntry.childLinks = [] then
        pure ⟨t.setFlow packet.DESTADRS (some flowEntry.markGather), .erase, []⟩
      else if flowEntry.req_count = flowEntry.rep_count then throw .assertion
      else serveChildren k room t packet flowEntry flowEntry.childLinks

/-- All other requests. -/
def visitPlain (k : CubeConfig) (answers : Answers) (t : FlowTables) (packet : Packet) :
    Except CubeError Visit :=
  if answers.vault (k.vaultMap packet.ADRS) then
    pure ⟨t, .erase, [(.vault (k.vaultMap packet.ADRS), packet)]⟩
  else pure (stay t)

/-- A request for this cube that is not divided. -/
def visitHere (k : CubeConfig) (answers : Answers) (isInorder room : Bool) (t : FlowTables)
    (packet : Packet) : Except CubeError Visit :=
  if packet.CMD = .ACT_ADD ∨ packet.CMD = .ACT_DOT then visitAdd k answers t packet
  else if packet.CMD = .ACT_MULT then
    if isFullPkt packet then visitFullMult k answers t packet
    else visitHalfMult k answers t packet
  else if packet.CMD = .ACT_GET then visitGet k isInorder room t packet
  else visitPlain k answers t packet

/-! ## Requests for other cubes -/

/-- A half that is sent from this cube on a link. -/
def linkHalf (k : CubeConfig) (id : ℕ) (half : Packet) : Packet :=
  { half.resetLinkFields with operandBufID := id, SRCCUB := k.cubeID, LINES := 1 }

/-- An `ACT_MULT` whose operands are on different links is split. -/
def visitSplit (k : CubeConfig) (answers : Answers) (t : FlowTables) (packet : Packet)
    (link1 link2 : Fin numLinks) : Except CubeError Visit :=
  if t.freeOperandBufIDs = [] then pure (stay t)
  else if packet.operandBufID ≠ -1 then throw .assertion
  else if answers.linkDown link1 then do
    let entered ← t.enter k .MAC packet packet.SRCADRS2
    pure ⟨entered.2, .rewrite (awaitSecond k entered.1 packet), 
      [(.link link1, linkHalf k entered.1 (firstHalf packet))]⟩
  else if answers.linkDown link2 then do
    let entered ← t.enter k .MAC packet packet.SRCADRS2
    pure ⟨entered.2, .rewrite (awaitFirst k entered.1 packet),
      [(.link link2, linkHalf k entered.1 { secondHalf packet with DESTCUB := packet.DESTCUB2 })]⟩
  else pure (stay t)

/-- An update that is passed on to a child as a whole. -/
def forwardUpdate (k : CubeConfig) (answers : Answers) (t : FlowTables) (packet : Packet)
    (opcode : Opcode) (link : Fin numLinks) : Except CubeError Visit :=
  if answers.linkDown link then do
    let t ← t.countUpdate opcode packet.DESTADRS (k.parentCube packet.SRCCUB)
    pure ⟨t.countChild packet.DESTADRS link, .erase, [(.link link, packet.resetLinkFields)]⟩
  else pure (stay t)

/-- The other half of an `ACT_MULT`. -/
def forwardHalf (k : CubeConfig) (answers : Answers) (t : FlowTables) (packet : Packet)
    (link : Fin numLinks) : Except CubeError Visit :=
  if answers.linkDown link then
    if !isHalf packet then throw .assertion
    else if packet.LINES ≤ 1 then
      pure ⟨t, .erase, [(.link link, (sentHalf packet).resetLinkFields)]⟩
    else pure ⟨t, .rewrite (nextMultLine packet), [(.link link,
      { (sentHalf packet).resetLinkFields with
        SRCCUB := k.cubeID
        DESTCUB := if packet.halfPkt1 then packet.DESTCUB1 else packet.DESTCUB2 })]⟩
  else pure (stay t)

def forwardPlain (answers : Answers) (t : FlowTables) (packet : Packet) (link : Fin numLinks) :
    Except CubeError Visit :=
  if answers.linkDown link then pure ⟨t, .erase, [(.link link, packet.resetLinkFields)]⟩
  else pure (stay t)

/-- A request that is not destined for this cube. -/
def visitElsewhere (k : CubeConfig) (answers : Answers) (t : FlowTables) (packet : Packet) :
    Except CubeError Visit :=
  if packet.CMD = .ACT_MULT then
    if isFullPkt packet then
      if packet.SRCADRS1 = 0 ∨ packet.SRCADRS2 = 0 then throw .assertion
      else if k.findNextLink packet.DESTCUB1 false ≠ k.findNextLink packet.DESTCUB2 false then
        visitSplit k answers t packet (k.findNextLink packet.DESTCUB1 false)
          (k.findNextLink packet.DESTCUB2 false)
      else forwardUpdate k answers t packet .MAC (k.findNextLink packet.DESTCUB false)
    else forwardHalf k answers t packet (k.findNextLink packet.DESTCUB false)
  else if packet.CMD = .ACT_ADD ∨ packet.CMD = .ACT_DOT then
    forwardUpdate k answers t packet .ADD (k.findNextLink packet.DESTCUB false)
  else forwardPlain answers t packet (k.findNextLink packet.DESTCUB false)

/-- Whether a request is for this cube. -/
def isHere (k : CubeConfig) (packet : Packet) : Bool :=
  packet.DESTCUB = k.cubeID ∨
    packet.CMD = .ACT_MULT ∧ packet.halfPkt1 ∧ isFirstHere k packet ∨
    packet.CMD = .ACT_MULT ∧ packet.halfPkt2 ∧ isSecondHere k packet ∨
    packet.CMD = .ACT_MULT ∧ (isFirstHere k packet ∨ isSecondHere k packet) ∧ isFullPkt packet

/-- A request that is not divided. -/
def visitRequest (k : CubeConfig) (answers : Answers) (isInorder room : Bool) (t : FlowTables)
    (packet : Packet) : Except CubeError Visit :=
  if isHere k packet then visitHere k answers isInorder room t packet
  else visitElsewhere k answers t packet

/-! ## Responses -/

/-- `operandBuffers[operandBufID]`, with a check of the id. -/
def operandID (k : CubeConfig) (packet : Packet) : Except CubeError ℕ :=
  if 0 ≤ packet.operandBufID ∧ packet.operandBufID < k.operandBufSize then
    pure packet.operandBufID.toNat
  else throw .operandBuffer

/-- Whether the operand of an `ACT_ADD` or `ACT_DOT` is the one that a buffer waits for. -/
def awaitsAdd (e : OperandEntry) (packet : Packet) : Bool :=
  e.flowID = packet.DESTADRS ∧ e.src_addr1 = packet.SRCADRS1 ∧
    !e.op1_ready ∧ !e.op2_ready ∧ !e.ready

/-- The operand of an `ACT_ADD` or `ACT_DOT` arrives. -/
def fillAdd (k : CubeConfig) (t : FlowTables) (packet : Packet) (id : ℕ) :
    Except CubeError FlowTables :=
  if packet.DESTCUB = k.cubeID ∧ (t.flowTable packet.DESTADRS).isSome ∧
      awaitsAdd (t.operand k id) packet then
    pure (t.setOperand id (some (t.operand k id).fillAdd))
  else throw .assertion

def awaitsFirst (e : OperandEntry) (packet : Packet) : Bool :=
  e.src_addr1 = packet.SRCADRS1 ∧ !e.op1_ready ∧ !e.ready

def awaitsSecond (e : OperandEntry) (packet : Packet) : Bool :=
  e.src_addr2 = packet.SRCADRS2 ∧ !e.op2_ready ∧ !e.ready

/-- One of the operands of an `ACT_MULT` arrives. -/
def fillMult (k : CubeConfig) (t : FlowTables) (packet : Packet) (id : ℕ) :
    Except CubeError FlowTables :=
  if (t.flowTable packet.DESTADRS).isNone then throw .assertion
  else if packet.SRCADRS1 ≠ 0 ∧ packet.SRCADRS2 = 0 ∧ awaitsFirst (t.operand k id) packet then
    pure (t.setOperand id (some (t.operand k id).fillFirst))
  else if packet.SRCADRS1 = 0 ∧ packet.SRCADRS2 ≠ 0 ∧ awaitsSecond (t.operand k id) packet then
    pure (t.setOperand id (some (t.operand k id).fillSecond))
  else throw .assertion

/-- A child answers the `GET`. -/
def answerGet (k : CubeConfig) (t : FlowTables) (packet : Packet) :
    Except CubeError FlowTables :=
  match t.flowTable packet.DESTADRS with
  | none => throw .assertion
  | some flowEntry =>
    pure (t.setFlow packet.DESTADRS
      (some (flowEntry.answerChild (k.findNextLink packet.SRCCUB false))))

/-- A response that is not a segment. -/
def visitResponse (k : CubeConfig) (answers : Answers) (t : FlowTables) (packet : Packet) :
    Except CubeError Visit :=
  if packet.CMD = .ACT_ADD ∨ packet.CMD = .ACT_DOT then do
    let t ← fillAdd k t packet (← operandID k packet)
    pure ⟨t, .erase, []⟩
  else if packet.CMD = .ACT_MULT ∧ packet.DESTCUB = k.cubeID then do
    let t ← fillMult k t packet (← operandID k packet)
    pure ⟨t, .erase, []⟩
  else if packet.CMD = .ACT_GET ∧ packet.DESTCUB = k.cubeID ∧ packet.SRCCUB ≠ k.cubeID then do
    let t ← answerGet k t packet
    pure ⟨t, .erase, []⟩
  else if answers.linkUp (k.findNextLink packet.DESTCUB false) then
    pure ⟨t, .erase, [(.link (k.findNextLink packet.DESTCUB false), packet.resetLinkFields)]⟩
  else pure (stay t)

/-! ## Operands that are ready -/

/-- What an `Update` has done with ready operands so far. -/
structure Pipeline where
  tables : FlowTables
  startedMult : Bool := false
  finishedAdd : Bool := false

/-- The operands of a buffer are consumed, and the buffer is freed. -/
def releaseOperand (t : FlowTables) (id : ℕ) (flow : BitVec 64) (flowEntry : FlowEntry) :
    FlowTables :=
  { (t.setFlow flow (some flowEntry.addReply)).setOperand id none with
    freeOperandBufIDs := t.freeOperandBufIDs ++ [id] }

def setPipeline (p : Pipeline) (tables : FlowTables) : Pipeline := { p with tables := tables }

def setOccupancy (t : FlowTables) (multPipeOccupancy : ℤ) : FlowTables :=
  { t with multPipeOccupancy := multPipeOccupancy }

/-- A multiplication starts. -/
def startMult (p : Pipeline) (id : ℕ) (e : OperandEntry) : Pipeline :=
  { p with
    tables := setOccupancy (p.tables.setOperand id (some e.nextStage))
      (p.tables.multPipeOccupancy + 1)
    startedMult := true }

/-- A multiplication moves through the stages of the pipeline. -/
def moveStage (k : CubeConfig) (p : Pipeline) (id : ℕ) (e : OperandEntry)
    (flowEntry : FlowEntry) : Pipeline :=
  if e.multStageCounter = k.numMultStages then
    if !p.startedMult ∧ p.tables.multPipeOccupancy < k.numMultStages then startMult p id e
    else p
  else if 0 < e.nextStage.multStageCounter then
    setPipeline p (p.tables.setOperand id (some e.nextStage))
  else
    setPipeline p (releaseOperand (setOccupancy p.tables (p.tables.multPipeOccupancy - 1)) id
      e.flowID flowEntry)

/-- One addition is processed in a cycle. -/
def processAdd (p : Pipeline) (id : ℕ) (e : OperandEntry) (flowEntry : FlowEntry) : Pipeline :=
  if flowEntry.opcode = .ADD ∧ p.finishedAdd then p
  else
    { p with
      tables := releaseOperand p.tables id e.flowID flowEntry
      finishedAdd := flowEntry.opcode = .ADD || p.finishedAdd }

/-- One operand buffer in the loop over all. -/
def processOperand (k : CubeConfig) (p : Pipeline) (id : ℕ) : Except CubeError Pipeline :=
  if !(p.tables.operand k id).ready then pure p
  else
    match p.tables.flowTable (p.tables.operand k id).flowID with
    | none => throw .assertion
    | some flowEntry =>
      if flowEntry.opcode = .MAC then
        pure (moveStage k p id (p.tables.operand k id) flowEntry)
      else pure (processAdd p id (p.tables.operand k id) flowEntry)

/-- The loop over the operand buffers. -/
def processOperands (k : CubeConfig) (t : FlowTables) : Except CubeError FlowTables := do
  let p ← (List.range k.operandBufSize).foldlM (processOperand k) { tables := t }
  pure p.tables

/-- The response to the `GET` of a flow. -/
def gpkt (k : CubeConfig) (flow : BitVec 64) (parent : ℤ) : Packet :=
  { packetType := .RESPONSE, CMD := .ACT_GET, DESTADRS := flow, LNG := 2, LINES := 1
    SRCCUB := k.cubeID, DESTCUB := parent }

/-- A flow whose updates are all counted is committed: its result is sent to its parent and
    its entry is deallocated. -/
def commit (k : CubeConfig) (answers : Answers) (t : FlowTables) (flow : BitVec 64) :
    FlowTables × List (Port × Packet) :=
  match t.flowTable flow with
  | none => (t, [])
  | some flowEntry =>
    if flowEntry.req_count = flowEntry.rep_count ∧ flowEntry.g_flag ∧
        answers.linkUp (k.findNextLink flowEntry.parent false) then
      (t.setFlow flow none,
        [(.link (k.findNextLink flowEntry.parent false), gpkt k flow flowEntry.parent)])
    else (t, [])

end CrossbarSwitch

/-! ## Input buffers -/

/-- `CrossbarSwitch`.  There is an input buffer for each link, and one for the vaults. -/
structure CrossbarSwitch where
  upBuffers : ℕ → PacketVector := fun _ => []
  downBuffers : ℕ → PacketVector := fun _ => []
  segments : SegmentTable := {}
  tables : FlowTables

namespace CrossbarSwitch

/-- A new crossbar switch: all operand buffers are free. -/
def start (k : CubeConfig) : CrossbarSwitch :=
  { tables := { freeOperandBufIDs := List.range k.operandBufSize } }

def setUp (s : CrossbarSwitch) (l : ℕ) (slots : PacketVector) : CrossbarSwitch :=
  { s with upBuffers := Function.update s.upBuffers l slots }

def setDown (s : CrossbarSwitch) (l : ℕ) (slots : PacketVector) : CrossbarSwitch :=
  { s with downBuffers := Function.update s.downBuffers l slots }

def setTables (s : CrossbarSwitch) (tables : FlowTables) : CrossbarSwitch :=
  { s with tables := tables }

def setSegments (s : CrossbarSwitch) (segments : SegmentTable) : CrossbarSwitch :=
  { s with segments := segments }

/-- A packet that a buffer has room for. -/
def hasRoom (slots : PacketVector) (packet : Packet) : Bool :=
  slots.length + packet.LNG ≤ maxCrossBuf

/-- `ReceiveDown` and `ReceiveUp` of an input buffer. -/
def receive (slots : PacketVector) (packet : Packet) : PacketVector :=
  if hasRoom slots packet then slots ++ tailed packet else slots

/-- The buffer after a visit of a packet at index `i`. -/
def applyFate (slots : PacketVector) (i : ℕ) (packet : Packet) : Fate → PacketVector
  | .keep => slots
  | .erase => eraseAt slots i packet.LNG
  | .rewrite packet' => slots.set i (some packet')
  | .replicate packet' => slots ++ tailed packet'

/-- No update of the flow is before index `i`. -/
def isInorder (slots : PacketVector) (i : ℕ) (packet : Packet) : Bool :=
  (slots.take i).all fun slot =>
    slot.all fun other => !(isUpdate other ∧ other.DESTADRS = packet.DESTADRS)

/-- The packet is replaced by its segments. -/
def divideSlots (k : CubeConfig) (slots : PacketVector) (i : ℕ) (packet : Packet) : PacketVector :=
  insertAt (eraseAt slots i packet.LNG) i
    (Blocks.blocks Packet.LNG (SegmentTable.segments k.dram packet))

/-- The visit of index `i` of a downstream input buffer. -/
def visitDown (k : CubeConfig) (answers : Answers) (s : CrossbarSwitch) (l i : ℕ) :
    Except CubeError (CrossbarSwitch × List (Port × Packet)) :=
  match (s.downBuffers l)[i]? with
  | some (some packet) =>
    if packet.packetType ≠ .REQUEST then throw .assertion
    else if isHere k packet ∧ k.dram.addressMapping < packet.reqDataSize then
      pure ((s.setDown l (divideSlots k (s.downBuffers l) i packet)).setSegments
        (s.segments.divide k.dram packet), [])
    else do
      let visit ← visitRequest k answers (isInorder (s.downBuffers l) i packet)
        (hasRoom (s.downBuffers l) packet) s.tables packet
      pure ((s.setDown l (applyFate (s.downBuffers l) i packet visit.fate)).setTables visit.tables,
        visit.sent)
  | _ => pure (s, [])

/-- A segment goes to the others of its request, and the last one completes it. -/
def visitSegment (k : CubeConfig) (s : CrossbarSwitch) (l i : ℕ) (packet : Packet) :
    Except CubeError CrossbarSwitch :=
  match s.segments.arrive k.dram packet with
  | none => throw .segmentTag
  | some (segments, none) =>
    pure ((s.setSegments segments).setUp l (eraseAt (s.upBuffers l) i packet.LNG))
  | some (segments, some combined) =>
    pure ((s.setSegments segments).setUp l
      (insertAt (eraseAt (s.upBuffers l) i packet.LNG) 0 (tailed combined)))

/-- The visit of index `i` of an upstream input buffer. -/
def visitUp (k : CubeConfig) (answers : Answers) (s : CrossbarSwitch) (l i : ℕ) :
    Except CubeError (CrossbarSwitch × List (Port × Packet)) :=
  match (s.upBuffers l)[i]? with
  | some (some packet) =>
    if packet.packetType ≠ .RESPONSE then throw .assertion
    else if packet.segment then do
      let s ← visitSegment k s l i packet
      pure (s, [])
    else do
      let visit ← visitResponse k answers s.tables packet
      pure ((s.setUp l (applyFate (s.upBuffers l) i packet visit.fate)).setTables visit.tables,
        visit.sent)
  | _ => pure (s, [])

/-- What happens at a crossbar switch: its neighbours send it packets, and `Update` visits
    the packets of its buffers, then its operand buffers, then the flows. -/
inductive Action where
  | receiveUp (l : ℕ) (packet : Packet)
  | receiveDown (l : ℕ) (packet : Packet)
  | visitUp (l i : ℕ) (answers : Answers)
  | visitDown (l i : ℕ) (answers : Answers)
  | processOperands
  | commit (flow : BitVec 64) (answers : Answers)

/-- The effect of an action, with the packets that are sent. -/
def act (k : CubeConfig) (s : CrossbarSwitch) :
    Action → Except CubeError (CrossbarSwitch × List (Port × Packet))
  | .receiveUp l packet => pure (s.setUp l (receive (s.upBuffers l) packet), [])
  | .receiveDown l packet => pure (s.setDown l (receive (s.downBuffers l) packet), [])
  | .visitUp l i answers => s.visitUp k answers l i
  | .visitDown l i answers => s.visitDown k answers l i
  | .processOperands => do
    let tables ← processOperands k s.tables
    pure (s.setTables tables, [])
  | .commit flow answers =>
    pure (s.setTables (commit k answers s.tables flow).1, (commit k answers s.tables flow).2)

def step (k : CubeConfig) (s : CrossbarSwitch) (action : Action) :
    Except CubeError CrossbarSwitch := do
  let (s, _) ← s.act k action
  pure s

end CrossbarSwitch

end ActiveRouting

import ActiveRouting.Library.BlockRing
import ActiveRouting.Library.Outcome
import ActiveRouting.Link.LinkMaster

/-!
# The packet vectors of a link master

`LinkMaster.cpp` once more, with its packet buffers as the vectors that the
source computes on: behind a packet stand as many `NULL`s as its `LNG` says, and
packets are found, erased and inserted by their index.
-/

namespace ActiveRouting

open Blocks

/-- A `vector<Packet *>`. -/
abbrev PacketVector := List (Option Packet)

/-- The ways in which a component with packet vectors stops the simulation. -/
inductive VectorError where
  /-- The packet at the head of a buffer is `NULL`. -/
  | headIsNull
  | link (error : LinkError)
  deriving DecidableEq, Repr

/-- A packet with its virtual tail packets. -/
def tailed (packet : Packet) : PacketVector := block Packet.LNG packet

/-- `LinkMaster`.  The three packet buffers are vectors; `registers` is all the rest,
    and the lists of the buffers in it are not used. -/
structure MasterVectors where
  registers : LinkMaster
  upBuffers : PacketVector := []
  downBuffers : PacketVector := []
  backupBuffers : PacketVector := []

namespace MasterVectors

def setRegisters (v : MasterVectors) (registers : LinkMaster) : MasterVectors :=
  { v with registers := registers }

def setUp (v : MasterVectors) (upBuffers : PacketVector) : MasterVectors :=
  { v with upBuffers := upBuffers }

def setDown (v : MasterVectors) (downBuffers : PacketVector) : MasterVectors :=
  { v with downBuffers := downBuffers }

def setBackup (v : MasterVectors) (backupBuffers : PacketVector) : MasterVectors :=
  { v with backupBuffers := backupBuffers }

/-! ## Receiving packets -/

/-- `ReceiveDown`. -/
def receiveDown (v : MasterVectors) (downEle : Packet) : MasterVectors :=
  if v.downBuffers.length + downEle.LNG ≤ maxLinkBuf then
    v.setDown (v.downBuffers ++ tailed downEle)
  else v

/-- `ReceiveUp`. -/
def receiveUp (v : MasterVectors) (upEle : Packet) : MasterVectors :=
  if v.upBuffers.length + upEle.LNG ≤ maxLinkBuf then v.setUp (v.upBuffers ++ tailed upEle)
  else v

/-! ## Retry pointers and tokens -/

/-- `UpdateRetryPointer`. -/
def updateRetryPointer (v : MasterVectors) (packet : Packet) : MasterVectors :=
  v.setRegisters (v.registers.updateRetryPointer packet)

def withRRP (packet : Packet) (rrp : ℕ) : Packet := { packet with RRP := rrp }

def noteRRP (v : MasterVectors) (rrp : ℕ) : MasterVectors :=
  v.setRegisters { v.registers with lastestRRP := rrp }

/-- Put a packet at the end of the standby buffer of the link. -/
def pushLink (v : MasterVectors) (packets : List Packet) : MasterVectors :=
  v.setRegisters { v.registers with linkRxTx := v.registers.linkRxTx ++ packets }

/-- `ReturnRetryPointer`. -/
def returnRetryPointer (v : MasterVectors) (packet : Packet) : Except VectorError MasterVectors :=
  match v.upBuffers, v.downBuffers with
  | some head :: rest, _ =>
    pure ((v.noteRRP packet.FRP).setUp (some (withRRP head packet.FRP) :: rest))
  | none :: _, _ => throw .headIsNull
  | [], some head :: rest =>
    pure ((v.noteRRP packet.FRP).setDown (some (withRRP head packet.FRP) :: rest))
  | [], none :: _ => throw .headIsNull
  | [], [] => pure ((v.noteRRP packet.FRP).pushLink [v.registers.pret packet.TAG packet.FRP])

/-- An operation on the registers. -/
def onRegisters (v : MasterVectors) (operation : LinkMaster → Except LinkError LinkMaster) :
    Except VectorError MasterVectors :=
  match operation v.registers with
  | .ok registers => pure (v.setRegisters registers)
  | .error error => throw (.link error)

/-- `UpdateToken`. -/
def updateToken (v : MasterVectors) (packet : Packet) : Except VectorError MasterVectors :=
  v.onRegisters fun registers => registers.updateToken packet

def withTokens (packet : Packet) (extURTC extDRTC : ℕ) : Packet :=
  { packet with URTC := packet.URTC + extURTC, DRTC := packet.DRTC + extDRTC }

/-- Add return tokens to the first packet that may carry them. -/
def embedTokens (extURTC extDRTC : ℕ) : PacketVector → PacketVector
  | [] => []
  | none :: slots => none :: embedTokens extURTC extDRTC slots
  | some packet :: slots =>
    if LinkMaster.carriesTokens packet then some (withTokens packet extURTC extDRTC) :: slots
    else some packet :: embedTokens extURTC extDRTC slots

/-- Whether the first packet that may carry tokens has the tokens to be sent; the
    loop passes over the `NULL`s. -/
def canEmbed (tokenCount : ℕ) (slots : PacketVector) : Bool :=
  LinkMaster.canEmbed tokenCount (slots.filterMap id)

/-- A `TRET` packet is inserted at the head of the up buffer, or behind its first packet
    while the CRC of that is calculated. -/
def insertTret (v : MasterVectors) (packet : Packet) : Except VectorError MasterVectors :=
  if v.registers.startCRC then
    match v.upBuffers with
    | [] => throw (.link .emptyBuffer)
    | none :: _ => throw .headIsNull
    | some head :: _ => pure (v.setUp (insertAt v.upBuffers head.LNG [some packet]))
  else pure (v.setUp (insertAt v.upBuffers 0 [some packet]))

/-- The tokens that a packet returns. -/
def downTokens (packet : Packet) : ℕ := if packet.packetType = .REQUEST then packet.LNG else 0

def upTokens (packet : Packet) : ℕ := if packet.packetType = .REQUEST then 0 else packet.LNG

/-- `ReturnToken`. -/
def returnToken (v : MasterVectors) (packet : Packet) : Except VectorError MasterVectors :=
  if packet.packetType = .FLOW ∨ packet.LNG = 0 then throw (.link .assertion)
  else if canEmbed v.registers.upTokenCount v.upBuffers then
    pure (v.setUp (embedTokens (upTokens packet) (downTokens packet) v.upBuffers))
  else if canEmbed v.registers.downTokenCount v.downBuffers then
    pure (v.setDown (embedTokens (upTokens packet) (downTokens packet) v.downBuffers))
  else if v.registers.currentState = .LINK_RETRY then
    pure (v.setBackup (v.backupBuffers ++
      [some (v.registers.tret packet.TAG (upTokens packet) (downTokens packet))]))
  else v.insertTret (v.registers.tret packet.TAG (upTokens packet) (downTokens packet))

/-! ## Retry sequences -/

/-- `StartRetry`. -/
def startRetry (v : MasterVectors) (packet : Packet) : MasterVectors :=
  v.setRegisters (v.registers.startRetry packet)

/-- `FinishRetry`. -/
def finishRetry (v : MasterVectors) : MasterVectors := v.setRegisters v.registers.finishRetry

/-- Requests go to the down buffer, all other packets to the up buffer. -/
def isUpPkt (packet : Packet) : Bool := packet.packetType ≠ .REQUEST

/-- The slots of the retry buffer from `readP` up to `writeP`, as the do-while loop of
    `LinkRetry` meets them. -/
def retrySlots (buffers : ℕ → Option Packet) (writeP : ℕ) : ℕ → ℕ → PacketVector
  | 0, _ => []
  | fuel + 1, readP =>
    buffers readP ::
      if LinkMaster.nextSlot readP = writeP then []
      else retrySlots buffers writeP fuel (LinkMaster.nextSlot readP)

/-- The packets that are transmitted once more. -/
def replayed (m : LinkMaster) : PacketVector :=
  (retrySlots m.retryBuffers m.retBufWriteP maxRetryBuf m.retBufReadP).map fun slot =>
    slot.map fun packet => packet.withDelay (if m.downstream then 0 else 1)

/-- The tokens that packets of a type have paid. -/
def paidTokens (packetType : PacketType) (slots : PacketVector) : ℕ :=
  occupancy ((slots.filterMap id).filter fun packet => packet.packetType = packetType)

/-- The registers after `LinkRetry`. -/
def retryRegisters (m : LinkMaster) (packet : Packet) : LinkMaster :=
  { m with
    startCRC := false
    linkRxTx := m.linkRxTx ++ List.replicate numOfIrtry (m.irtry packet.TAG 2)
    masterSEQ := 0
    upTokenCount := m.upTokenCount + paidTokens .RESPONSE (replayed m)
    downTokenCount := m.downTokenCount + paidTokens .REQUEST (replayed m)
    retryBuffers :=
      LinkMaster.clearSlots m.retBufWriteP maxRetryBuf m.retryBuffers m.retBufReadP
    retBufWriteP := m.retBufReadP
    currentState := .LINK_RETRY }

/-- `LinkRetry`. -/
def linkRetry (v : MasterVectors) (packet : Packet) : Except VectorError MasterVectors :=
  if v.registers.retryBuffers v.registers.retBufReadP = none then throw .headIsNull
  else if v.registers.retBufReadP = v.registers.retBufWriteP then throw (.link .retryNull)
  else pure
    { registers := retryRegisters v.registers packet
      upBuffers := (distribute isUpPkt false (replayed v.registers)).1
      downBuffers := (distribute isUpPkt false (replayed v.registers)).2
      backupBuffers := v.backupBuffers ++ v.upBuffers ++ v.downBuffers }

/-! ## Sending -/

/-- Erase the packet that is sent from the head of its buffer. -/
def eraseHead (v : MasterVectors) (packet : Packet) : MasterVectors :=
  if packet.packetType = .REQUEST then v.setDown (eraseAt v.downBuffers 0 packet.LNG)
  else v.setUp (eraseAt v.upBuffers 0 packet.LNG)

/-- `UpdateField`. -/
def updateField (crcCheck : Bool) (v : MasterVectors) (nextWriteP : ℕ) (packet : Packet) :
    Except VectorError MasterVectors :=
  let packet := v.registers.fillTail crcCheck nextWriteP packet
  if crcCheck ∧ v.registers.retryBuffers v.registers.retBufWriteP ≠ none then
    throw (.link .retryOccupied)
  else pure ((((v.setRegisters
    ((v.registers.countPacket packet).saveRetry crcCheck packet)).pushLink
      [packet.withDelay 1])).eraseHead packet)

def countCRC (v : MasterVectors) : MasterVectors :=
  v.setRegisters { v.registers with countdownCRC := v.registers.countdownCRC - 1 }

/-- `CRCCountdown`. -/
def crcCountdown (crcCheck : Bool) (v : MasterVectors) (writeP : ℕ) (packet : Packet) :
    Except VectorError MasterVectors :=
  let v := v.setRegisters (v.registers.startCountdown crcCheck packet)
  if crcCheck ∧ 0 < v.registers.countdownCRC then pure v.countCRC
  else do
    let v ← updateField crcCheck v writeP packet
    pure v.countCRC

/-- Whether the retry buffer has room for a packet. -/
def hasRoom (crcCheck : Bool) (m : LinkMaster) (packet : Packet) : Bool :=
  !crcCheck ||
    if m.retBufReadP ≤ m.retBufWriteP then
      m.retBufWriteP + packet.LNG < m.retBufReadP + maxRetryBuf
    else m.retBufWriteP + packet.LNG < m.retBufReadP

/-- One of the two blocks of `Update` that send the head of a buffer. -/
def sendHead (crcCheck : Bool) (v : MasterVectors) (tokenCount : ℕ) :
    PacketVector → Except VectorError MasterVectors
  | [] => pure v
  | none :: _ => throw .headIsNull
  | some head :: _ =>
    if head.bufPopDelay = 0 ∧ v.registers.linkRxTx = [] ∧
        (head.packetType = .FLOW ∨ head.LNG ≤ tokenCount) ∧ hasRoom crcCheck v.registers head then
      v.crcCountdown crcCheck (v.registers.retBufWriteP + head.LNG) head
    else pure v

/-- The backup packets return to the buffers. -/
def restore (v : MasterVectors) : MasterVectors :=
  { v with
    upBuffers := v.upBuffers ++ (distribute isUpPkt false v.backupBuffers).1
    downBuffers := v.downBuffers ++ (distribute isUpPkt false v.backupBuffers).2
    backupBuffers := [] }

/-- The end of `LINK_RETRY`. -/
def finishLinkRetry (v : MasterVectors) : Except VectorError MasterVectors :=
  if v.registers.currentState = .LINK_RETRY ∧ v.upBuffers = [] ∧ v.downBuffers = [] ∧
      v.registers.linkRxTx = [] then do
    let v ← v.onRegisters LinkMaster.leaveLinkRetry
    pure v.restore
  else pure v

/-- `Step`. -/
def tick (v : MasterVectors) : MasterVectors :=
  { v with
    upBuffers := v.upBuffers.map (Option.map Packet.tick)
    downBuffers := v.downBuffers.map (Option.map Packet.tick) }

/-- `Update`. -/
def update (crcCheck : Bool) (v : MasterVectors) : Except VectorError MasterVectors := do
  let v ← v.sendHead crcCheck v.registers.upTokenCount v.upBuffers
  let v ← v.sendHead crcCheck v.registers.downTokenCount v.downBuffers
  let v ← v.finishLinkRetry
  let v ← v.onRegisters LinkMaster.retryTimeOut
  pure v.tick

/-! ## Calls -/

/-- The calls of a link master, by the components around it, its link slave and its
    link. -/
inductive Call where
  | receiveUp (packet : Packet)
  | receiveDown (packet : Packet)
  | updateRetryPointer (packet : Packet)
  | returnRetryPointer (packet : Packet)
  | updateToken (packet : Packet)
  | returnToken (packet : Packet)
  | startRetry (packet : Packet)
  | linkRetry (packet : Packet)
  | finishRetry
  | update
  /-- The link takes packets from the standby buffer, and counts their delay. -/
  | link (linkRxTx : List Packet)
  /-- The slave notes the packet with an error. -/
  | noteError (packet : Packet)

def call (crcCheck : Bool) (v : MasterVectors) : Call → Except VectorError MasterVectors
  | .receiveUp packet => pure (v.receiveUp packet)
  | .receiveDown packet => pure (v.receiveDown packet)
  | .updateRetryPointer packet => pure (v.updateRetryPointer packet)
  | .returnRetryPointer packet => v.returnRetryPointer packet
  | .updateToken packet => v.updateToken packet
  | .returnToken packet => v.returnToken packet
  | .startRetry packet => pure (v.startRetry packet)
  | .linkRetry packet => v.linkRetry packet
  | .finishRetry => pure v.finishRetry
  | .update => v.update crcCheck
  | .link linkRxTx => pure (v.setRegisters { v.registers with linkRxTx := linkRxTx })
  | .noteError packet =>
    pure (v.setRegisters { v.registers with retryStartPacket := some packet })

end MasterVectors

end ActiveRouting

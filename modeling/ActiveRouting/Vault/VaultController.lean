import ActiveRouting.Library.Outcome
import ActiveRouting.Link.LinkMaster
import ActiveRouting.Vault.CommandQueue

/-!
# Vault controller

`VaultController.cpp`, with the parts of `DRAM.cpp` that return data to it.  One
clock stands for those of the vault, its command queue and its DRAM, which
`HMC::Update` steps together.
-/

namespace ActiveRouting

/-- `MAX_VLT_BUF`. -/
def maxVltBuf : ℕ := 32

/-- `PCU_DELAY`. -/
def pcuDelay : ℕ := 4

/-- `NUM_VAULTS`. -/
def numVaults : ℕ := 32

/-- `_log2`: the logarithm, rounded up. -/
def log2 (value : ℕ) : ℕ :=
  if 1 <<< Nat.log2 value < value then Nat.log2 value + 1 else Nat.log2 value

/-- `VaultController`.  `writeData` pairs `writeDataToSend` with its countdown.
    `refused` holds the responses that found no space in the upstream buffer. -/
structure VaultController where
  downBuffers : List Packet := []
  upBuffers : List Packet := []
  bufPopDelay : ℕ := 0
  refreshCountdown : ℕ
  powerDown : Bool := false
  atomicCMD : Option DRAMCommand := none
  atomicOperLeft : ℕ := 0
  pendingDataSize : ℕ := 0
  pendingReadData : List ℕ := []
  pcuPacket : List Packet := []
  cmdBus : Option DRAMCommand := none
  cmdCyclesLeft : ℕ := 0
  dataBus : Option DRAMCommand := none
  dataCyclesLeft : ℕ := 0
  writeData : List (DRAMCommand × ℕ) := []
  commandQueue : CommandQueue := {}
  dram : DRAM := {}
  refused : List Packet := []

namespace VaultController

variable (c : DRAMConfig)

def view (v : VaultController) : VaultView where
  bankStates := v.dram.bankStates
  currentClockCycle := v.dram.currentClockCycle
  pendingDataSize := v.pendingDataSize
  upBufferMax := maxVltBuf
  upBuffersSize := occupancy v.upBuffers

def setDram (v : VaultController) (dram : DRAM) : VaultController := { v with dram := dram }

def setQueue (v : VaultController) (commandQueue : CommandQueue) : VaultController :=
  { v with commandQueue := commandQueue }

/-! ## Buffers -/

/-- `ReceiveDown`. -/
def receiveDown (v : VaultController) (downEle : Packet) : Option VaultController :=
  if occupancy v.downBuffers + downEle.LNG ≤ maxVltBuf then
    some { v with
      bufPopDelay := if v.downBuffers = [] then max v.bufPopDelay 1 else v.bufPopDelay
      downBuffers := v.downBuffers ++ [downEle] }
  else none

/-- `ReceiveUp`. -/
def receiveUp (v : VaultController) (upEle : Packet) : Option VaultController :=
  if occupancy v.upBuffers + upEle.LNG ≤ maxVltBuf then
    some { v with upBuffers := v.upBuffers ++ [upEle] }
  else none

/-! ## Responses -/

/-- The atomics that are answered by a write response. -/
def answersWrite : PacketCommandType → Bool
  | ._2ADD8 | .ADD16 | .INC8 | .EQ8 | .EQ16 | .BWR => true
  | _ => false

/-- A response packet with what all responses take from their command. -/
def response (retCMD : DRAMCommand) (cmd : PacketCommandType) (lng : ℕ) : Packet :=
  { packetType := .RESPONSE, CMD := cmd, TAG := retCMD.packetTAG, LNG := lng
    SRCCUB := retCMD.dest_cube, DESTCUB := retCMD.src_cube
    ADRS := (retCMD.addr <<< 30) >>> 30, orig_addr := retCMD.addr, tran_tag := retCMD.tran_tag
    segment := retCMD.segment }

/-- The response to a read of an operand. -/
def operandResponse (retCMD : DRAMCommand) (lng : ℕ) (src2 : BitVec 64) : Packet :=
  { response retCMD retCMD.packetCMD lng with
    DESTADRS := retCMD.destAddr
    SRCADRS1 := retCMD.srcAddr1
    SRCADRS2 := src2
    operandBufID := retCMD.operandBufID }

/-- The response packet of `MakeRespondPacket`, and the space that it gives back. -/
def respondPacket (retCMD : DRAMCommand) : Except VaultError (Packet × ℕ) :=
  if retCMD.atomic then
    if answersWrite retCMD.packetCMD then .ok (response retCMD .WR_RS 1, 1)
    else if retCMD.packetCMD = .PEI_ATOMIC then .ok (response retCMD .PEI_ATOMIC 1, 1)
    else .ok (response retCMD .RD_RS 2, 2)
  else
    match retCMD.commandType with
    | .WRITE_DATA => .ok (response retCMD .WR_RS 1, 1)
    | .READ_DATA =>
      match retCMD.packetCMD with
      | .ACT_ADD | .ACT_DOT =>
        .ok (operandResponse retCMD (retCMD.dataSize / 16 + 1) 0, retCMD.dataSize / 16 + 1)
      | .PEI_DOT => .ok (response retCMD .PEI_DOT 2, retCMD.dataSize / 16 + 1)
      | .ACT_MULT =>
        if (retCMD.srcAddr1 = 0) ≠ (retCMD.srcAddr2 = 0) then
          .ok (operandResponse retCMD 2 retCMD.srcAddr2, retCMD.dataSize / 16 + 1)
        else .error .assertion
      | _ => .ok (response retCMD .RD_RS (retCMD.dataSize / 16 + 1), retCMD.dataSize / 16 + 1)
    | _ => .error .unknownResponse

def giveBack (v : VaultController) (size : ℕ) : VaultController :=
  { v with pendingDataSize := unsignedSub v.pendingDataSize size }

def refuse (v : VaultController) (packet : Packet) : VaultController :=
  { v with refused := v.refused ++ [packet] }

/-- The delay of an operand in the processing unit. -/
def pcuPopDelay (v : VaultController) : ℕ :=
  match v.pcuPacket.getLast? with
  | none => pcuDelay
  | some last => max pcuDelay (last.bufPopDelay + 1)

def pushPcu (v : VaultController) (packet : Packet) : VaultController :=
  { v with pcuPacket := v.pcuPacket ++ [packet.withDelay v.pcuPopDelay] }

/-- `MakeRespondPacket`, and whether the command is consumed. -/
def makeRespondPacket (v : VaultController) (retCMD : DRAMCommand) :
    Except VaultError (VaultController × Bool) := do
  let (newPacket, size) ← respondPacket retCMD
  if newPacket.CMD = .PEI_DOT then pure ((v.pushPcu newPacket).giveBack size, true)
  else
    match v.receiveUp newPacket with
    | some v' => pure (v'.giveBack size, true)
    | none => pure (v.refuse newPacket, false)

/-- A response whose acceptance the caller does not look at. -/
def respond (v : VaultController) (cmd : DRAMCommand) : Except VaultError VaultController := do
  let (v', _) ← v.makeRespondPacket cmd
  if cmd.packetCMD = .PEI_DOT then throw .assertion else pure v'

/-! ## Returning data -/

def startAtomic (v : VaultController) (retCMD : DRAMCommand) : VaultController :=
  { v with atomicCMD := some retCMD, atomicOperLeft := 1 }

def dropPending (v : VaultController) (tag : ℕ) : VaultController :=
  { v with pendingReadData := v.pendingReadData.erase tag }

/-- `ReturnCommand`, and whether the command is consumed. -/
def returnCommand (v : VaultController) (retCMD : DRAMCommand) :
    Except VaultError (VaultController × Bool) :=
  if v.dataBus ≠ none then throw .busCollision
  else if retCMD.packetTAG ∈ v.pendingReadData then
    if retCMD.lastCMD then
      if retCMD.atomic then pure ((v.startAtomic retCMD).dropPending retCMD.packetTAG, true)
      else do
        match ← v.makeRespondPacket retCMD with
        | (v', true) => pure (v'.dropPending retCMD.packetTAG, true)
        | (v', false) => pure (v', false)
    else pure (v.dropPending retCMD.packetTAG, true)
  else throw .noMatch

def countData (d : DRAM) : DRAM := { d with dataCyclesLeft := d.dataCyclesLeft - 1 }

def dropData (d : DRAM) : DRAM := { d with readData := none }

/-- The first part of `DRAM::UpdateState`: the data on its bus. -/
def returnData (v : VaultController) : Except VaultError VaultController :=
  match v.dram.readData with
  | none => pure v
  | some readData =>
    if v.dram.dataCyclesLeft - 1 = 0 then do
      match ← (v.setDram (countData v.dram)).returnCommand readData with
      | (v', true) => pure (v'.setDram (dropData v'.dram))
      | (v', false) => pure v'
    else pure (v.setDram (countData v.dram))

def putOnBus (d : DRAM) (readData : DRAMCommand) (rest : List (DRAMCommand × ℕ)) : DRAM :=
  { d with readData := some readData, dataCyclesLeft := c.BL, readReturn := rest }

/-- The second part: data that is due takes the bus. -/
def takeBus (d : DRAM) : DRAM :=
  match d.readData, d.readReturn with
  | none, (readData, 0) :: rest => putOnBus c d readData rest
  | _, _ => d

/-- The last part: the countdowns. -/
def countReturns (d : DRAM) : DRAM :=
  { d with readReturn := d.readReturn.map fun entry => (entry.1, entry.2 - 1) }

/-- `DRAM::Update`. -/
def updateDram (v : VaultController) : Except VaultError VaultController := do
  let v ← (v.setDram (v.dram.updateBanks c)).returnData
  pure (v.setDram (countReturns (takeBus c v.dram)).step)

/-! ## `UpdateCountdown` -/

def freeCmdBus (v : VaultController) : VaultController := { v with cmdBus := none, cmdCyclesLeft := 0 }

def freeDataBus (v : VaultController) : VaultController :=
  { v with dataBus := none, dataCyclesLeft := 0 }

def waitCommand (v : VaultController) : VaultController :=
  { v with cmdCyclesLeft := v.cmdCyclesLeft - 1 }

def waitData (v : VaultController) : VaultController :=
  { v with dataCyclesLeft := v.dataCyclesLeft - 1 }

/-- A command on the bus is transmitted. -/
def transmitCommand (v : VaultController) : Except VaultError VaultController :=
  match v.cmdBus with
  | none => pure v
  | some cmd =>
    if v.cmdCyclesLeft - 1 = 0 then do
      let dram ← v.dram.receiveCMD c cmd
      pure (v.freeCmdBus.setDram dram)
    else pure v.waitCommand

/-- The last write of a request is answered. -/
def answerWrite (v : VaultController) (cmd : DRAMCommand) : Except VaultError VaultController :=
  if cmd.lastCMD && !cmd.atomic && !cmd.posted then v.respond cmd else pure v

/-- Write data on the bus is transmitted. -/
def transmitData (v : VaultController) : Except VaultError VaultController :=
  match v.dataBus with
  | none => pure v
  | some cmd =>
    if v.dataCyclesLeft - 1 = 0 then do
      let v' ← v.answerWrite cmd
      let dram ← v'.dram.receiveCMD c cmd
      pure (v'.freeDataBus.setDram dram)
    else pure v.waitData

def countWrites (writeData : List (DRAMCommand × ℕ)) : List (DRAMCommand × ℕ) :=
  writeData.map fun entry => (entry.1, entry.2 - 1)

def setWriteData (v : VaultController) (writeData : List (DRAMCommand × ℕ)) : VaultController :=
  { v with writeData := writeData }

def sendData (v : VaultController) (cmd : DRAMCommand) (rest : List (DRAMCommand × ℕ)) :
    VaultController :=
  { v with dataBus := some cmd, dataCyclesLeft := c.BL, writeData := countWrites rest }

/-- Write data that is due takes the bus. -/
def sendWriteData (v : VaultController) : Except VaultError VaultController :=
  match v.writeData with
  | (cmd, 0) :: rest =>
    if v.dataBus = none then pure (v.sendData c cmd rest) else throw .busCollision
  | waiting => pure (v.setWriteData (countWrites waiting))

def waitRefresh (q : CommandQueue) : CommandQueue := { q with refreshWaiting := true }

def countRefresh (v : VaultController) : VaultController :=
  if v.refreshCountdown - 1 = 0 then
    { v with
      commandQueue := waitRefresh v.commandQueue
      refreshCountdown := c.refreshPeriod }
  else { v with refreshCountdown := v.refreshCountdown - 1 }

/-- `UpdateCountdown`. -/
def updateCountdown (v : VaultController) : Except VaultError VaultController := do
  let v ← v.transmitCommand c
  let v ← v.transmitData c
  let v ← v.sendWriteData c
  pure (v.countRefresh c)

/-! ## Conversion of packets -/

/-- What a request asks of the DRAM: the type of its last command, and whether it
    is posted and atomic. -/
structure RequestKind where
  tempCMD : DRAMCommandType
  posted : Bool := false
  atomic : Bool := false

def writeKind (posted : Bool) : RequestKind :=
  { tempCMD := if c.openPage then .WRITE else .WRITE_P, posted := posted }

def readKind : RequestKind := { tempCMD := if c.openPage then .READ else .READ_P }

def atomicKind (posted : Bool) : RequestKind :=
  { tempCMD := .READ, posted := posted, atomic := true }

/-- The `switch` of `ConvPacketIntoCMDs`. -/
def requestKind : PacketCommandType → Option RequestKind
  | .WR16 | .WR32 | .WR48 | .WR64 | .WR80 | .WR96 | .WR112 | .WR128 | .WR256 | .MD_WR =>
    some (writeKind c false)
  | .P_WR16 | .P_WR32 | .P_WR48 | .P_WR64 | .P_WR80 | .P_WR96 | .P_WR112 | .P_WR128 | .P_WR256 =>
    some (writeKind c true)
  | .RD16 | .RD32 | .RD48 | .RD64 | .RD80 | .RD96 | .RD112 | .RD128 | .RD256 | .MD_RD =>
    some (readKind c)
  | ._2ADD8 | .ADD16 | ._2ADDS8R | .ADDS16R | .INC8
  | .XOR16 | .OR16 | .NOR16 | .AND16 | .NAND16
  | .CASGT8 | .CASLT8 | .CASGT16 | .CASLT16 | .CASEQ8 | .CASZERO16 | .EQ16 | .EQ8
  | .BWR | .BWR8R | .SWAP16 => some (atomicKind false)
  | .P_2ADD8 | .P_ADD16 | .P_INC8 | .P_BWR => some (atomicKind true)
  | .ACT_ADD | .ACT_MULT | .ACT_DOT | .PEI_DOT => some (readKind c)
  | .PEI_ATOMIC => some (atomicKind false)
  | _ => none

variable {c} in
/-- There are three kinds of requests. -/
theorem requestKind_cases {cmd : PacketCommandType} {kind : RequestKind}
    (isKind : requestKind c cmd = some kind) :
    (∃ posted, kind = writeKind c posted) ∨ kind = readKind c ∨
      ∃ posted, kind = atomicKind posted := by
  unfold requestKind at isKind
  split at isKind <;> first
    | exact .inl ⟨_, (Option.some.inj isKind).symm⟩
    | exact .inr (.inl (Option.some.inj isKind).symm)
    | exact .inr (.inr ⟨_, (Option.some.inj isKind).symm⟩)
    | cases isKind

/-- `AddressMapping`: the bank, column and row of an address. -/
def addressMapping (physicalAddress : BitVec 64) : ℕ × ℕ × ℕ :=
  let maxBlockBit := log2 c.addressMapping
  let address := physicalAddress.toNat >>> (maxBlockBit + log2 numVaults)
  let bankAdd := address &&& (c.numBanks - 1)
  let address := address >>> log2 c.numBanks
  let colAdd := (address &&& ((c.numCols - 1) >>> maxBlockBit)) <<< maxBlockBit
  let address := address >>> (log2 c.numCols - maxBlockBit)
  (bankAdd, colAdd, address &&& (c.numRows - 1))

/-- The commands of 32 bytes each that a request takes. -/
def blocks (packet : Packet) : ℕ := (packet.reqDataSize + 31) / 32

/-- `READ` and `WRITE` before the last command of a request. -/
def earlierType : DRAMCommandType → DRAMCommandType
  | .WRITE_P => .WRITE
  | .READ_P => .READ
  | type => type

def actCMD (packet : Packet) (kind : RequestKind) : DRAMCommand :=
  let (bankAdd, colAdd, rowAdd) := addressMapping c packet.ADRS
  { commandType := .ACTIVATE, packetTAG := packet.TAG, bank := bankAdd, column := colAdd
    row := rowAdd, packetCMD := packet.CMD, atomic := kind.atomic, segment := packet.segment
    src_cube := packet.SRCCUB, dest_cube := packet.DESTCUB }

/-- Command `i` of a request for data. -/
def rwCMD (packet : Packet) (kind : RequestKind) (i : ℕ) : DRAMCommand :=
  let (bankAdd, colAdd, rowAdd) := addressMapping c packet.ADRS
  let isLast := !(i < blocks packet - 1)
  let isOperand := kind.tempCMD.isRead &&
    (packet.CMD = .ACT_ADD || packet.CMD = .ACT_DOT || packet.CMD = .ACT_MULT)
  { commandType := if isLast then kind.tempCMD else earlierType kind.tempCMD
    packetTAG := packet.TAG, bank := bankAdd, column := colAdd, row := rowAdd
    dataSize := packet.reqDataSize, posted := kind.posted, lastCMD := isLast
    packetCMD := packet.CMD, atomic := kind.atomic, segment := packet.segment
    src_cube := packet.SRCCUB, dest_cube := packet.DESTCUB
    addr := packet.orig_addr, tran_tag := packet.tran_tag
    srcAddr1 := if isOperand then packet.SRCADRS1 else 0
    srcAddr2 := if isOperand && packet.SRCADRS1 = 0 then packet.SRCADRS2 else 0
    destAddr := if isOperand then packet.DESTADRS else 0
    operandBufID := if isOperand then packet.operandBufID else -1 }

/-- The assertions on the operands of a packet. -/
def operandsOk (packet : Packet) : Bool :=
  match packet.CMD with
  | .ACT_ADD | .ACT_DOT => packet.SRCADRS1 ≠ 0 && (blocks packet = 0 || packet.SRCADRS2 = 0)
  | .ACT_MULT => blocks packet = 0 || ((packet.SRCADRS1 = 0) ≠ (packet.SRCADRS2 = 0))
  | _ => true

/-- The commands of a request, in the order in which they are enqueued. -/
def commands (packet : Packet) (kind : RequestKind) : List DRAMCommand :=
  actCMD c packet kind :: (List.range (blocks packet)).map (rwCMD c packet kind)

def enqueueAll (v : VaultController) (packet : Packet) (kind : RequestKind) : VaultController :=
  { v with
    commandQueue := (commands c packet kind).foldl
      (fun q cmd => q.enqueue c (addressMapping c packet.ADRS).1 cmd) v.commandQueue
    pendingReadData :=
      if kind.tempCMD.isRead then
        v.pendingReadData ++ List.replicate (blocks packet) packet.TAG
      else v.pendingReadData }

/-- `ConvPacketIntoCMDs`: `none` if there is no space in the command queue. -/
def convPacketIntoCMDs (v : VaultController) (packet : Packet) :
    Except VaultError (Option VaultController) :=
  match requestKind c packet.CMD with
  | none => throw .wrongPacket
  | some kind =>
    if v.commandQueue.availableSpace c (addressMapping c packet.ADRS).1 (blocks packet + 1) then
      if operandsOk packet then pure (some (v.enqueueAll c packet kind)) else throw .assertion
    else pure none

/-- The loop of `Update` over the downstream buffer, with the packets that stay.
    The index moves on after an erasure too, which passes over the next packet. -/
def convertPackets (v : VaultController) :
    List Packet → Except VaultError (VaultController × List Packet)
  | [] => pure (v, [])
  | [packet] => do
    match ← v.convPacketIntoCMDs c packet with
    | none => pure (v, [packet])
    | some v' => pure (v', [])
  | packet :: next :: rest => do
    match ← v.convPacketIntoCMDs c packet with
    | none => do
      let (v', kept) ← convertPackets v (next :: rest)
      pure (v', packet :: kept)
    | some v' => do
      let (v'', kept) ← convertPackets v' rest
      pure (v'', next :: kept)

def keepPackets (v : VaultController) (packets : List Packet) : VaultController :=
  { v with downBuffers := packets }

def convert (v : VaultController) : Except VaultError VaultController :=
  if v.bufPopDelay = 0 then do
    let (v', kept) ← v.convertPackets c v.downBuffers
    pure (v'.keepPackets kept)
  else pure v

/-! ## `Update` -/

def setPcu (v : VaultController) (packets : List Packet) : VaultController :=
  { v with pcuPacket := packets }

/-- An operand leaves the processing unit when its delay has passed. -/
def flushPcu (v : VaultController) : VaultController :=
  match v.pcuPacket with
  | [] => v
  | packet :: rest =>
    if packet.bufPopDelay = 0 then
      match v.receiveUp packet with
      | some v' => v'.setPcu rest
      | none => v
    else v

def dropUp (v : VaultController) : VaultController := { v with upBuffers := v.upBuffers.tail }

/-- The first response goes to the crossbar switch, if it accepts. -/
def sendUp (v : VaultController) (accepts : Bool) : VaultController :=
  if accepts then v.dropUp else v

/-- The space that is promised to the response of a command when it is issued. -/
def reserved (cmd : DRAMCommand) : ℕ :=
  if cmd.lastCMD && !cmd.posted then
    if cmd.commandType.isWrite then
      if cmd.atomic then 0 else 1
    else if cmd.commandType.isRead then
      if !cmd.atomic then cmd.dataSize / 16 + 1
      else if answersWrite cmd.packetCMD || cmd.packetCMD = .PEI_ATOMIC then 1
      else 2
    else 0
  else 0

/-- A popped command takes the bus; its data, if it is a write, follows later. -/
def issue (v : VaultController) (cmd : DRAMCommand) : VaultController :=
  { v with
    writeData :=
      if cmd.commandType.isWrite then v.writeData ++ [(cmd.withType .WRITE_DATA, c.WL)]
      else v.writeData
    pendingDataSize := v.pendingDataSize + reserved cmd
    cmdBus := some cmd
    cmdCyclesLeft := DRAMConfig.tCMD }

def popCommand (v : VaultController) : Except VaultError VaultController := do
  match ← v.commandQueue.cmdPop c v.view with
  | (q, none) => pure (v.setQueue q)
  | (q, some cmd) =>
    if v.cmdBus = none then pure ((v.setQueue q).issue c cmd) else throw .busCollision

/-- The write back of an atomic. -/
def atmRstCMD (cmd : DRAMCommand) : DRAMCommand :=
  { cmd with
    commandType := if c.openPage then .WRITE else .WRITE_P
    dataSize := 16
    lastCMD := true }

def writeBack (v : VaultController) (cmd : DRAMCommand) : VaultController :=
  if cmd.packetCMD = .EQ16 ∨ cmd.packetCMD = .EQ8 then v
  else v.setQueue (v.commandQueue.pushFront c cmd.bank (atmRstCMD c cmd))

def endAtomic (v : VaultController) : VaultController := { v with atomicCMD := none }

/-- The answer to an atomic. -/
def answerAtomic (v : VaultController) (cmd : DRAMCommand) : Except VaultError VaultController :=
  if cmd.posted then pure v else v.respond cmd

def operate (v : VaultController) : VaultController :=
  { v with atomicOperLeft := v.atomicOperLeft - 1 }

def atomicOperation (v : VaultController) : Except VaultError VaultController :=
  match v.atomicCMD with
  | none => pure v
  | some cmd =>
    if v.atomicOperLeft = 0 then do
      let v' ← (v.writeBack c cmd).answerAtomic cmd
      pure v'.endAtomic
    else pure v.operate

def setPower (v : VaultController) (dram : DRAM) (powerDown : Bool) : VaultController :=
  { v with dram := dram, powerDown := powerDown }

/-- `EnablePowerdown`. -/
def enablePowerdown (v : VaultController) : VaultController :=
  if c.useLowPower then
    if v.commandQueue.isEmpty c && !v.commandQueue.refreshWaiting then
      match v.dram.powerDown c with
      | (dram, true) => v.setPower dram true
      | (_, false) => v
    else if v.powerDown && (v.dram.bankStates 0).nextPowerUp ≤ v.dram.currentClockCycle then
      v.setPower (v.dram.powerUp c) false
    else v
  else v

/-- The delays, and `Step`. -/
def countDelays (v : VaultController) : VaultController :=
  { v with
    commandQueue := v.commandQueue.update
    pcuPacket := v.pcuPacket.map Packet.tick
    bufPopDelay := v.bufPopDelay - 1 }

/-- `Update`.  `accepts` says whether the crossbar switch has space. -/
def update (v : VaultController) (accepts : Bool) : Except VaultError VaultController := do
  let v ← v.flushPcu.updateCountdown c
  let v ← v.convert c
  let v ← (v.sendUp accepts).popCommand c
  let v ← v.atomicOperation c
  pure (v.enablePowerdown c).countDelays

/-- What `HMC::Update` does with a vault and its DRAM in one cycle. -/
def cycle (v : VaultController) (accepts : Bool) : Except VaultError VaultController := do
  let v ← v.update c accepts
  v.updateDram c

/-! ## Runs -/

/-- Vault `id`, as `HMC` makes it. -/
def start (id : ℕ) : VaultController :=
  { refreshCountdown := c.refreshPeriod * (id + 1) / numVaults }

/-- A vault is offered a packet by the crossbar switch, or passes through a cycle
    in which the switch takes a response or not. -/
inductive Action where
  | offer (packet : Packet)
  | cycle (accepts : Bool)

def step (v : VaultController) : Action → Except VaultError VaultController
  | .offer packet => pure ((v.receiveDown packet).getD v)
  | .cycle accepts => v.cycle c accepts

end VaultController

end ActiveRouting

import Mathlib.Logic.Function.Basic
import ActiveRouting.Library.Unsigned
import ActiveRouting.Packet
import ActiveRouting.SimConfig

/-!
# Link master

`LinkMaster.cpp`.  A packet buffer is the list of its packets: the virtual tail
`NULL`s behind a packet count as its `LNG`.  `exit(0)`, a failed assertion and
a read through a null pointer end the simulation with a `LinkError`.

`crcCheck` is the configuration flag `CRC_CHECK`.
-/

namespace ActiveRouting

/-- The ways in which a link component stops the simulation. -/
inductive LinkError where
  /-- A token count register is over the maximum. -/
  | tokenOverflow
  /-- A packet is missed because the link slave's buffer is full. -/
  | bufferFull
  /-- A flow packet was handed to a packet buffer. -/
  | flowInBuffer
  /-- An assertion failed: a returned packet is neither a request nor a response
      or has no length, or a request reached the slave of a controller. -/
  | assertion
  /-- The first retry packet is `NULL`, or there is none to be transmitted. -/
  | retryNull
  /-- The slot of the retry buffer is not `NULL`. -/
  | retryOccupied
  /-- `retryStartPacket` is not `NULL` in an error abort, or `NULL` where it is read. -/
  | retryStart
  /-- A buffer is read at its head while empty. -/
  | emptyBuffer
  deriving DecidableEq, Repr

/-- The occupancy of a packet buffer, in slots. -/
def occupancy (buffer : List Packet) : ℕ := (buffer.map Packet.LNG).sum

structure LinkMaster where
  downstream : Bool
  upBuffers : List Packet := []
  downBuffers : List Packet := []
  linkRxTx : List Packet := []
  backupBuffers : List Packet := []
  retryBuffers : ℕ → Option Packet := fun _ => none
  upTokenCount : ℕ := maxLinkBuf
  downTokenCount : ℕ := maxLinkBuf
  lastestRRP : ℕ := 0
  masterSEQ : ℕ := 0
  countdownCRC : ℕ := 0
  startCRC : Bool := false
  retryStartPacket : Option Packet := none
  readyStartRetry : Bool := false
  startRetryTimer : Bool := false
  retryTimer : ℕ := 0
  retryAttempts : ℕ := 1
  retBufReadP : ℕ := 0
  retBufWriteP : ℕ := 0
  currentState : LinkState := .NORMAL

namespace LinkMaster

/-! ## Receiving packets -/

/-- `ReceiveDown`. -/
def receiveDown (m : LinkMaster) (downEle : Packet) : Option LinkMaster :=
  if occupancy m.downBuffers + downEle.LNG ≤ maxLinkBuf then
    some { m with downBuffers := m.downBuffers ++ [downEle] }
  else none

/-- `ReceiveUp`. -/
def receiveUp (m : LinkMaster) (upEle : Packet) : Option LinkMaster :=
  if occupancy m.upBuffers + upEle.LNG ≤ maxLinkBuf then
    some { m with upBuffers := m.upBuffers ++ [upEle] }
  else none

/-! ## Retry pointers -/

/-- The slot after slot `i` of the retry buffer. -/
def nextSlot (i : ℕ) : ℕ := if i + 1 < maxRetryBuf then i + 1 else i + 1 - maxRetryBuf

/-- The do-while loop of `UpdateRetryPointer`: free slots from `readP` on until
    the read pointer is `rrp`.  A pointer inside the buffer is met within one
    round, which is the fuel. -/
def freeSlots (rrp : ℕ) : ℕ → (ℕ → Option Packet) → ℕ → (ℕ → Option Packet) × ℕ
  | 0, buffers, readP => (buffers, readP)
  | fuel + 1, buffers, readP =>
    let buffers := Function.update buffers readP none
    if nextSlot readP = rrp then (buffers, nextSlot readP)
    else freeSlots rrp fuel buffers (nextSlot readP)

def updateRetryPointer (m : LinkMaster) (packet : Packet) : LinkMaster :=
  if m.retBufReadP ≠ packet.RRP then
    let (buffers, readP) := freeSlots packet.RRP maxRetryBuf m.retryBuffers m.retBufReadP
    { m with retryBuffers := buffers, retBufReadP := readP }
  else m

/-- Overwrite the `RRP` of the first packet of a buffer. -/
def setHeadRRP (rrp : ℕ) : List Packet → List Packet
  | [] => []
  | p :: ps => { p with RRP := rrp } :: ps

/-- A packet that returns the retry pointer. -/
def pret (m : LinkMaster) (tag rrp : ℕ) : Packet :=
  Packet.withDelay { Packet.flow .PRET tag with RRP := rrp } (if m.downstream then 0 else 1)

def returnRetryPointer (m : LinkMaster) (packet : Packet) : LinkMaster :=
  if m.upBuffers ≠ [] then
    { m with
      lastestRRP := packet.FRP
      upBuffers := setHeadRRP packet.FRP m.upBuffers }
  else if m.downBuffers ≠ [] then
    { m with
      lastestRRP := packet.FRP
      downBuffers := setHeadRRP packet.FRP m.downBuffers }
  else
    { m with
      lastestRRP := packet.FRP
      linkRxTx := m.linkRxTx ++ [m.pret packet.TAG packet.FRP] }

/-! ## Tokens -/

/-- The two blocks of `UpdateToken`. -/
def addDownTokens (m : LinkMaster) (DRTC : ℕ) : Except LinkError LinkMaster :=
  if DRTC ≠ 0 then
    let m := { m with downTokenCount := m.downTokenCount + DRTC }
    if maxLinkBuf < m.downTokenCount then throw .tokenOverflow else pure m
  else pure m

def addUpTokens (m : LinkMaster) (URTC : ℕ) : Except LinkError LinkMaster :=
  if URTC ≠ 0 then
    let m := { m with upTokenCount := m.upTokenCount + URTC }
    if maxLinkBuf < m.upTokenCount then throw .tokenOverflow else pure m
  else pure m

def updateToken (m : LinkMaster) (packet : Packet) : Except LinkError LinkMaster := do
  let m ← m.addDownTokens packet.DRTC
  m.addUpTokens packet.URTC

/-- A packet that may carry return tokens. -/
def carriesTokens (p : Packet) : Bool := p.CMD ≠ .PRET ∧ p.CMD ≠ .IRTRY

/-- Add return tokens to the first packet of a buffer that may carry them. -/
def embedTokens (extURTC extDRTC : ℕ) : List Packet → List Packet
  | [] => []
  | p :: ps =>
    if carriesTokens p then { p with URTC := p.URTC + extURTC, DRTC := p.DRTC + extDRTC } :: ps
    else p :: embedTokens extURTC extDRTC ps

/-- Whether the first packet that may carry tokens has the tokens to be sent. -/
def canEmbed (tokenCount : ℕ) (buffer : List Packet) : Bool :=
  match buffer.find? carriesTokens with
  | some p => p.LNG ≤ tokenCount
  | none => false

/-- `upBuffers.insert(upBuffers.begin() + upBuffers[0]->LNG, packet)`. -/
def insertSecond (packet : Packet) : List Packet → Except LinkError (List Packet)
  | [] => throw .emptyBuffer
  | p :: ps => pure (p :: packet :: ps)

/-- A packet that returns tokens. -/
def tret (m : LinkMaster) (tag extURTC extDRTC : ℕ) : Packet :=
  Packet.withDelay { Packet.flow .TRET tag with URTC := extURTC, DRTC := extDRTC }
    (if m.downstream then 0 else 1)

def returnToken (m : LinkMaster) (packet : Packet) : Except LinkError LinkMaster :=
  let extDRTC := if packet.packetType = .REQUEST then packet.LNG else 0
  let extURTC := if packet.packetType = .REQUEST then 0 else packet.LNG
  if packet.packetType = .FLOW ∨ packet.LNG = 0 then throw .assertion
  else if canEmbed m.upTokenCount m.upBuffers then
    pure { m with upBuffers := embedTokens extURTC extDRTC m.upBuffers }
  else if canEmbed m.downTokenCount m.downBuffers then
    pure { m with downBuffers := embedTokens extURTC extDRTC m.downBuffers }
  else if m.currentState = .LINK_RETRY then
    pure { m with backupBuffers := m.backupBuffers ++ [m.tret packet.TAG extURTC extDRTC] }
  else if m.startCRC then do
    let upBuffers ← insertSecond (m.tret packet.TAG extURTC extDRTC) m.upBuffers
    pure { m with upBuffers := upBuffers }
  else pure { m with upBuffers := m.tret packet.TAG extURTC extDRTC :: m.upBuffers }

/-! ## Retry sequences -/

/-- An init-retry packet; `FRP` 1 is the StartRetry flag, 2 ClearErrorAbort. -/
def irtry (m : LinkMaster) (tag frp : ℕ) : Packet :=
  Packet.withDelay { Packet.flow .IRTRY tag with RRP := m.lastestRRP, FRP := frp }
    (if m.downstream then 0 else 1)

def startRetry (m : LinkMaster) (packet : Packet) : LinkMaster :=
  let m := { m with startRetryTimer := true, retryTimer := 0 }
  if m.currentState = .LINK_RETRY then { m with readyStartRetry := true }
  else
    { m with
      linkRxTx := List.replicate numOfIrtry (m.irtry packet.TAG 1) ++ m.linkRxTx
      currentState := .START_RETRY }

/-- The packets of the retry buffer from slot `readP` up to `writeP`, as the
    do-while loop of `LinkRetry` meets them. -/
def retryPackets (buffers : ℕ → Option Packet) (writeP : ℕ) : ℕ → ℕ → List Packet
  | 0, _ => []
  | fuel + 1, readP =>
    (buffers readP).toList ++
      if nextSlot readP = writeP then [] else retryPackets buffers writeP fuel (nextSlot readP)

/-- The slots that this loop sets to `NULL`. -/
def clearSlots (writeP : ℕ) : ℕ → (ℕ → Option Packet) → ℕ → (ℕ → Option Packet)
  | 0, buffers, _ => buffers
  | fuel + 1, buffers, readP =>
    let buffers := Function.update buffers readP none
    if nextSlot readP = writeP then buffers else clearSlots writeP fuel buffers (nextSlot readP)

def linkRetry (m : LinkMaster) (packet : Packet) : Except LinkError LinkMaster :=
  let m := { m with
    startCRC := false
    linkRxTx := m.linkRxTx ++ List.replicate numOfIrtry (m.irtry packet.TAG 2)
    masterSEQ := 0
    backupBuffers := m.backupBuffers ++ m.upBuffers ++ m.downBuffers
    upBuffers := []
    downBuffers := [] }
  if m.retryBuffers m.retBufReadP = none then throw .retryNull
  else if m.retBufReadP = m.retBufWriteP then throw .retryNull
  else
    let packets := (retryPackets m.retryBuffers m.retBufWriteP maxRetryBuf m.retBufReadP).map
      fun p => p.withDelay (if m.downstream then 0 else 1)
    let requests := packets.filter fun p => p.packetType = .REQUEST
    let others := packets.filter fun p => p.packetType ≠ .REQUEST
    pure { m with
      upBuffers := others
      downBuffers := requests
      upTokenCount := m.upTokenCount + occupancy (others.filter fun p => p.packetType ≠ .FLOW)
      downTokenCount := m.downTokenCount + occupancy requests
      retryBuffers := clearSlots m.retBufWriteP maxRetryBuf m.retryBuffers m.retBufReadP
      retBufWriteP := m.retBufReadP
      currentState := .LINK_RETRY }

def finishRetry (m : LinkMaster) : LinkMaster :=
  { m with
    currentState := .NORMAL
    retryStartPacket := none
    retryAttempts := 1
    startRetryTimer := false
    retryTimer := 0 }

/-! ## Sending -/

/-- Empty the `n` slots of the retry buffer behind slot `i`. -/
def clearTail : ℕ → (ℕ → Option Packet) → ℕ → (ℕ → Option Packet)
  | 0, buffers, _ => buffers
  | n + 1, buffers, i => clearTail n (Function.update buffers (nextSlot i) none) (nextSlot i)

/-- The number and the retry pointers that `UpdateField` writes. -/
def numberPacket (m : LinkMaster) (nextWriteP : ℕ) (packet : Packet) : Packet :=
  { packet with
    SEQ := if m.masterSEQ < 7 then m.masterSEQ else 0
    RRP := m.lastestRRP
    FRP := if nextWriteP < maxRetryBuf then nextWriteP else nextWriteP - maxRetryBuf }

/-- The tail fields that `UpdateField` writes. -/
def fillTail (crcCheck : Bool) (m : LinkMaster) (nextWriteP : ℕ) (packet : Packet) : Packet :=
  if crcCheck then (m.numberPacket nextWriteP packet).setCRC else m.numberPacket nextWriteP packet

@[simp] theorem fillTail_packetType (crcCheck : Bool) (m : LinkMaster) (nextWriteP : ℕ) (packet : Packet) :
    (m.fillTail crcCheck nextWriteP packet).packetType = packet.packetType := by cases crcCheck <;> rfl

@[simp] theorem fillTail_CMD (crcCheck : Bool) (m : LinkMaster) (nextWriteP : ℕ) (packet : Packet) :
    (m.fillTail crcCheck nextWriteP packet).CMD = packet.CMD := by cases crcCheck <;> rfl

@[simp] theorem fillTail_LNG (crcCheck : Bool) (m : LinkMaster) (nextWriteP : ℕ) (packet : Packet) :
    (m.fillTail crcCheck nextWriteP packet).LNG = packet.LNG := by cases crcCheck <;> rfl

@[simp] theorem fillTail_URTC (crcCheck : Bool) (m : LinkMaster) (nextWriteP : ℕ) (packet : Packet) :
    (m.fillTail crcCheck nextWriteP packet).URTC = packet.URTC := by cases crcCheck <;> rfl

@[simp] theorem fillTail_DRTC (crcCheck : Bool) (m : LinkMaster) (nextWriteP : ℕ) (packet : Packet) :
    (m.fillTail crcCheck nextWriteP packet).DRTC = packet.DRTC := by cases crcCheck <;> rfl

/-- Count the packet, end the CRC calculation and pay with tokens. -/
def countPacket (m : LinkMaster) (packet : Packet) : LinkMaster :=
  { m with
    masterSEQ := if m.masterSEQ < 7 then m.masterSEQ + 1 else m.masterSEQ
    startCRC := false
    downTokenCount :=
      if packet.packetType = .REQUEST then unsignedSub m.downTokenCount packet.LNG
      else m.downTokenCount
    upTokenCount :=
      if packet.packetType = .RESPONSE then unsignedSub m.upTokenCount packet.LNG
      else m.upTokenCount }

/-- Save the packet in the retry buffer. -/
def saveRetry (crcCheck : Bool) (m : LinkMaster) (packet : Packet) : LinkMaster :=
  if crcCheck then
    { m with
      retryBuffers := clearTail (packet.LNG - 1)
        (Function.update m.retryBuffers m.retBufWriteP (some packet)) m.retBufWriteP
      retBufWriteP := packet.FRP }
  else m

/-- Move the packet from the head of its buffer to the standby buffer of the link. -/
def pushLink (m : LinkMaster) (packet : Packet) : LinkMaster :=
  if packet.packetType = .REQUEST then
    { m with
      linkRxTx := m.linkRxTx ++ [packet.withDelay 1]
      downBuffers := m.downBuffers.tail }
  else
    { m with
      linkRxTx := m.linkRxTx ++ [packet.withDelay 1]
      upBuffers := m.upBuffers.tail }

@[simp] theorem countPacket_upBuffers (m : LinkMaster) (packet : Packet) :
    (m.countPacket packet).upBuffers = m.upBuffers := rfl

@[simp] theorem countPacket_downBuffers (m : LinkMaster) (packet : Packet) :
    (m.countPacket packet).downBuffers = m.downBuffers := rfl

@[simp] theorem countPacket_linkRxTx (m : LinkMaster) (packet : Packet) :
    (m.countPacket packet).linkRxTx = m.linkRxTx := rfl

@[simp] theorem countPacket_backupBuffers (m : LinkMaster) (packet : Packet) :
    (m.countPacket packet).backupBuffers = m.backupBuffers := rfl

@[simp] theorem countPacket_currentState (m : LinkMaster) (packet : Packet) :
    (m.countPacket packet).currentState = m.currentState := rfl

@[simp] theorem countPacket_retBufWriteP (m : LinkMaster) (packet : Packet) :
    (m.countPacket packet).retBufWriteP = m.retBufWriteP := rfl

@[simp] theorem countPacket_retryBuffers (m : LinkMaster) (packet : Packet) :
    (m.countPacket packet).retryBuffers = m.retryBuffers := rfl

@[simp] theorem countPacket_lastestRRP (m : LinkMaster) (packet : Packet) :
    (m.countPacket packet).lastestRRP = m.lastestRRP := rfl

@[simp] theorem saveRetry_upBuffers (crcCheck : Bool) (m : LinkMaster) (packet : Packet) :
    (m.saveRetry crcCheck packet).upBuffers = m.upBuffers := by cases crcCheck <;> rfl

@[simp] theorem saveRetry_downBuffers (crcCheck : Bool) (m : LinkMaster) (packet : Packet) :
    (m.saveRetry crcCheck packet).downBuffers = m.downBuffers := by cases crcCheck <;> rfl

@[simp] theorem saveRetry_linkRxTx (crcCheck : Bool) (m : LinkMaster) (packet : Packet) :
    (m.saveRetry crcCheck packet).linkRxTx = m.linkRxTx := by cases crcCheck <;> rfl

@[simp] theorem saveRetry_backupBuffers (crcCheck : Bool) (m : LinkMaster) (packet : Packet) :
    (m.saveRetry crcCheck packet).backupBuffers = m.backupBuffers := by cases crcCheck <;> rfl

@[simp] theorem saveRetry_upTokenCount (crcCheck : Bool) (m : LinkMaster) (packet : Packet) :
    (m.saveRetry crcCheck packet).upTokenCount = m.upTokenCount := by cases crcCheck <;> rfl

@[simp] theorem saveRetry_downTokenCount (crcCheck : Bool) (m : LinkMaster) (packet : Packet) :
    (m.saveRetry crcCheck packet).downTokenCount = m.downTokenCount := by cases crcCheck <;> rfl

@[simp] theorem saveRetry_lastestRRP (crcCheck : Bool) (m : LinkMaster) (packet : Packet) :
    (m.saveRetry crcCheck packet).lastestRRP = m.lastestRRP := by cases crcCheck <;> rfl

@[simp] theorem saveRetry_masterSEQ (crcCheck : Bool) (m : LinkMaster) (packet : Packet) :
    (m.saveRetry crcCheck packet).masterSEQ = m.masterSEQ := by cases crcCheck <;> rfl

@[simp] theorem saveRetry_currentState (crcCheck : Bool) (m : LinkMaster) (packet : Packet) :
    (m.saveRetry crcCheck packet).currentState = m.currentState := by cases crcCheck <;> rfl

@[simp] theorem pushLink_upTokenCount (m : LinkMaster) (packet : Packet) :
    (m.pushLink packet).upTokenCount = m.upTokenCount := by
  rw [pushLink]
  split <;> rfl

@[simp] theorem pushLink_downTokenCount (m : LinkMaster) (packet : Packet) :
    (m.pushLink packet).downTokenCount = m.downTokenCount := by
  rw [pushLink]
  split <;> rfl

@[simp] theorem pushLink_backupBuffers (m : LinkMaster) (packet : Packet) :
    (m.pushLink packet).backupBuffers = m.backupBuffers := by
  rw [pushLink]
  split <;> rfl

@[simp] theorem pushLink_lastestRRP (m : LinkMaster) (packet : Packet) :
    (m.pushLink packet).lastestRRP = m.lastestRRP := by
  rw [pushLink]
  split <;> rfl

@[simp] theorem pushLink_masterSEQ (m : LinkMaster) (packet : Packet) :
    (m.pushLink packet).masterSEQ = m.masterSEQ := by
  rw [pushLink]
  split <;> rfl

@[simp] theorem pushLink_retryBuffers (m : LinkMaster) (packet : Packet) :
    (m.pushLink packet).retryBuffers = m.retryBuffers := by
  rw [pushLink]
  split <;> rfl

@[simp] theorem pushLink_retBufReadP (m : LinkMaster) (packet : Packet) :
    (m.pushLink packet).retBufReadP = m.retBufReadP := by
  rw [pushLink]
  split <;> rfl

@[simp] theorem pushLink_retBufWriteP (m : LinkMaster) (packet : Packet) :
    (m.pushLink packet).retBufWriteP = m.retBufWriteP := by
  rw [pushLink]
  split <;> rfl

@[simp] theorem pushLink_currentState (m : LinkMaster) (packet : Packet) :
    (m.pushLink packet).currentState = m.currentState := by
  rw [pushLink]
  split <;> rfl

@[simp] theorem pushLink_linkRxTx (m : LinkMaster) (packet : Packet) :
    (m.pushLink packet).linkRxTx = m.linkRxTx ++ [packet.withDelay 1] := by
  rw [pushLink]
  split <;> rfl

@[simp] theorem pushLink_upBuffers (m : LinkMaster) (packet : Packet) :
    (m.pushLink packet).upBuffers =
      if packet.packetType = .REQUEST then m.upBuffers else m.upBuffers.tail := by
  rw [pushLink]
  split <;> rfl

@[simp] theorem pushLink_downBuffers (m : LinkMaster) (packet : Packet) :
    (m.pushLink packet).downBuffers =
      if packet.packetType = .REQUEST then m.downBuffers.tail else m.downBuffers := by
  rw [pushLink]
  split <;> rfl

/-- `UpdateField`. -/
def updateField (crcCheck : Bool) (m : LinkMaster) (nextWriteP : ℕ) (packet : Packet) :
    Except LinkError LinkMaster :=
  let packet := m.fillTail crcCheck nextWriteP packet
  if crcCheck ∧ m.retryBuffers m.retBufWriteP ≠ none then throw .retryOccupied
  else pure (((m.countPacket packet).saveRetry crcCheck packet).pushLink packet)

/-- The first block of `CRCCountdown`. -/
def startCountdown (crcCheck : Bool) (m : LinkMaster) (packet : Packet) : LinkMaster :=
  if crcCheck ∧ ¬ m.startCRC then
    { m with startCRC := true, countdownCRC := crcCalCycles packet.LNG }
  else m

/-- `CRCCountdown`. -/
def crcCountdown (crcCheck : Bool) (m : LinkMaster) (writeP : ℕ) (packet : Packet) :
    Except LinkError LinkMaster :=
  if crcCheck ∧ 0 < (m.startCountdown crcCheck packet).countdownCRC then
    pure { m.startCountdown crcCheck packet with
      countdownCRC := (m.startCountdown crcCheck packet).countdownCRC - 1 }
  else do
    let m ← updateField crcCheck (m.startCountdown crcCheck packet) writeP packet
    pure { m with countdownCRC := m.countdownCRC - 1 }

/-- One of the two blocks of `Update` that send the head of a buffer. -/
def sendHead (crcCheck : Bool) (m : LinkMaster) (tokenCount : ℕ) :
    List Packet → Except LinkError LinkMaster
  | [] => pure m
  | head :: _ =>
    if head.bufPopDelay = 0 then
      if m.linkRxTx = [] ∧ (head.packetType = .FLOW ∨ head.LNG ≤ tokenCount) then
        let tempWriteP := m.retBufWriteP + head.LNG
        if crcCheck then
          if m.retBufReadP ≤ m.retBufWriteP then
            if tempWriteP < m.retBufReadP + maxRetryBuf then crcCountdown crcCheck m tempWriteP head
            else pure m
          else if tempWriteP < m.retBufReadP then crcCountdown crcCheck m tempWriteP head
          else pure m
        else crcCountdown crcCheck m tempWriteP head
      else pure m
    else pure m

/-- The state after `LINK_RETRY`: `NORMAL`, or the error abort that waited for
    its end. -/
def leaveLinkRetry (m : LinkMaster) : Except LinkError LinkMaster :=
  if m.readyStartRetry then
    match m.retryStartPacket with
    | none => throw .retryStart
    | some packet =>
      pure { m with
        readyStartRetry := false
        linkRxTx := m.linkRxTx ++ List.replicate numOfIrtry (m.irtry packet.TAG 1)
        currentState := .START_RETRY }
  else pure { m with currentState := .NORMAL }

/-- The end of `LINK_RETRY`: the backup packets return to the buffers. -/
def finishLinkRetry (m : LinkMaster) : Except LinkError LinkMaster :=
  if m.currentState = .LINK_RETRY ∧ m.upBuffers = [] ∧ m.downBuffers = [] ∧ m.linkRxTx = [] then do
    let m ← m.leaveLinkRetry
    pure { m with
      upBuffers := m.upBuffers ++ m.backupBuffers.filter fun p => p.packetType ≠ .REQUEST
      downBuffers := m.downBuffers ++ m.backupBuffers.filter fun p => p.packetType = .REQUEST
      backupBuffers := [] }
  else pure m

/-- `if(startRetryTimer) retryTimer++`. -/
def countRetryTime (m : LinkMaster) : LinkMaster :=
  if m.startRetryTimer then { m with retryTimer := m.retryTimer + 1 } else m

/-- The retry timer. -/
def retryTimeOut (m : LinkMaster) : Except LinkError LinkMaster :=
  let m := m.countRetryTime
  if maxRetryBuf * 4 < m.retryTimer then
    if m.retryAttempts = retryAttemptLimit then pure m.finishRetry
    else
      match m.retryStartPacket with
      | none => throw .retryStart
      | some packet => pure ({ m with retryAttempts := m.retryAttempts + 1 }.startRetry packet)
  else pure m

/-- `Step`. -/
def tick (m : LinkMaster) : LinkMaster :=
  { m with upBuffers := m.upBuffers.map Packet.tick, downBuffers := m.downBuffers.map Packet.tick }

/-- `Update`. -/
def update (crcCheck : Bool) (m : LinkMaster) : Except LinkError LinkMaster := do
  let m ← m.sendHead crcCheck m.upTokenCount m.upBuffers
  let m ← m.sendHead crcCheck m.downTokenCount m.downBuffers
  let m ← m.finishLinkRetry
  let m ← m.retryTimeOut
  pure m.tick

end LinkMaster

end ActiveRouting

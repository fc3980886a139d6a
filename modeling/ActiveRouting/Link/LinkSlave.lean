import ActiveRouting.Library.Outcome
import ActiveRouting.Link.LinkMaster

/-!
# Link slave

`LinkSlave.cpp`.  A slave works together with the link master at its own end of
the link, which sends what the slave returns: retry pointers, tokens and the
retry sequences.
-/

namespace ActiveRouting

open Outcome

structure LinkSlave where
  downstream : Bool
  upBuffers : List Packet := []
  downBuffers : List Packet := []
  linkRxTx : List Packet := []
  slaveSEQ : ℕ := 0
  countdownCRC : ℕ := 0
  startCRC : Bool := false
  currentState : LinkState := .NORMAL

namespace LinkSlave

/-- `CheckNoError`, with the counter it leaves behind. -/
def checkNoError (crcCheck : Bool) (s : LinkSlave) (chkPacket : Packet) : Bool × LinkSlave :=
  let tempSEQ := if s.slaveSEQ < 7 then s.slaveSEQ else 0
  let s := { s with slaveSEQ := if s.slaveSEQ < 7 then s.slaveSEQ + 1 else s.slaveSEQ }
  if crcCheck then
    if chkPacket.CRC = chkPacket.getCRC then (decide (chkPacket.SEQ = tempSEQ), s) else (false, s)
  else (decide (chkPacket.SEQ = tempSEQ), s)

/-- `ReceiveDown` or `ReceiveUp`, with the errors of the callbacks. -/
def receive (s : LinkSlave) (packet : Packet) : Except LinkError LinkSlave :=
  if packet.packetType = .FLOW then throw .flowInBuffer
  else if packet.packetType = .REQUEST then
    if occupancy s.downBuffers + packet.LNG ≤ maxLinkBuf then
      pure { s with downBuffers := s.downBuffers ++ [packet] }
    else throw .bufferFull
  else
    if occupancy s.upBuffers + packet.LNG ≤ maxLinkBuf then
      pure { s with upBuffers := s.upBuffers ++ [packet] }
    else throw .bufferFull

/-- What an init-retry packet does at the receiving end. -/
def handleIrtry (m : LinkMaster) (s : LinkSlave) (packet : Packet) :
    Except LinkError (LinkMaster × LinkSlave) :=
  let m := m.updateRetryPointer packet
  if packet.FRP = 1 then
    if m.currentState ≠ .LINK_RETRY then do
      let m ← m.linkRetry packet
      pure (m, s)
    else pure (m, s)
  else if packet.FRP = 2 then
    if m.currentState ≠ .NORMAL then
      pure (m.finishRetry, { s with currentState := .NORMAL, slaveSEQ := 0 })
    else pure (m, s)
  else pure (m, s)

/-- A packet without error: its retry pointer and tokens are extracted, and it
    goes to its buffer unless it is a `TRET`. -/
def acceptPacket (m : LinkMaster) (s : LinkSlave) (packet : Packet) :
    Except LinkError (LinkMaster × LinkSlave) := do
  let m := m.returnRetryPointer packet
  let m ← m.updateToken packet
  if packet.CMD ≠ .TRET then do
    let s ← s.receive packet
    pure (m, s)
  else pure (m, s)

/-- Error abort: all received packets are dropped. -/
def errorAbort (m : LinkMaster) (s : LinkSlave) (packet : Packet) :
    Except LinkError (LinkMaster × LinkSlave) :=
  if m.retryStartPacket ≠ none then throw .retryStart
  else
    pure ({ m with retryStartPacket := some packet }.startRetry packet,
      { s with
        linkRxTx := []
        currentState := .START_RETRY
        startCRC := false
        countdownCRC := s.countdownCRC - 1 })

theorem errorAbort_currentState {m m' : LinkMaster} {s s' : LinkSlave} {packet : Packet}
    (h : errorAbort m s packet = .ok (m', s')) : s'.currentState = .START_RETRY := by
  rw [errorAbort] at h
  split at h
  · exact absurd h throw_ne_ok
  · exact (congrArg (·.2.currentState) (pure_eq_ok.mp h)).symm

/-- What the loop of `Update` does with a packet: it stays and the loop goes on,
    it leaves `linkRxTx` and the loop ends (with the packet that was passed to a
    buffer, if any), or all packets are dropped. -/
inductive RxOutcome where
  | stay (m : LinkMaster) (s : LinkSlave) (packet : Packet)
  | leave (m : LinkMaster) (s : LinkSlave) (received : Option Packet)
  | abort (m : LinkMaster) (s : LinkSlave)

/-- Start to count the CRC calculation time. -/
def startCountdown (crcCheck : Bool) (s : LinkSlave) (packet : Packet) : LinkSlave :=
  if crcCheck ∧ ¬ s.startCRC then
    { s with startCRC := true, countdownCRC := crcCalCycles packet.LNG }
  else s

/-- A packet whose CRC calculation is over. -/
def errorCheck (crcCheck : Bool) (m : LinkMaster) (s : LinkSlave) (packet : Packet) :
    Except LinkError RxOutcome :=
  match s.checkNoError crcCheck packet with
  | (true, s) => do
    let (m, s) ← acceptPacket m s packet
    pure (.leave m s (if packet.CMD ≠ .TRET then some packet else none))
  | (false, s) => do
    let (m, s) ← errorAbort m s packet
    pure (.abort m s)

/-- The CRC calculation time and the error check. -/
def checkPacket (crcCheck : Bool) (m : LinkMaster) (s : LinkSlave) (packet : Packet) :
    Except LinkError RxOutcome :=
  if crcCheck ∧ 0 < s.countdownCRC then
    pure (.stay m { s with countdownCRC := s.countdownCRC - 1 } packet)
  else errorCheck crcCheck m s { packet with chkCRC := true }

/-- The body of the loop over `linkRxTx`. -/
def rxPacket (crcCheck : Bool) (m : LinkMaster) (s : LinkSlave) (packet : Packet) :
    Except LinkError RxOutcome :=
  if packet.bufPopDelay ≠ 0 then pure (.stay m s packet)
  -- retry control
  else if packet.CMD = .IRTRY then do
    let (m, s) ← handleIrtry m s packet
    pure (.leave m s none)
  else if s.currentState = .START_RETRY then pure (.leave m s none)
  else
    -- flow control
    let m := if packet.chkRRP then m else m.updateRetryPointer packet
    if packet.chkRRP = false ∧ packet.CMD = .PRET then pure (.leave m s none)
    else if packet.chkCRC then pure (.stay m s { packet with chkRRP := true })
    else checkPacket crcCheck m (s.startCountdown crcCheck packet) { packet with chkRRP := true }

/-- The loop of `Update` over `linkRxTx`, entered at the packets `rest` behind
    the packets `passed`. -/
def rxLoop (crcCheck : Bool) (m : LinkMaster) (s : LinkSlave) (passed : List Packet) :
    List Packet → Except LinkError (LinkMaster × LinkSlave × Option Packet)
  | [] => pure (m, { s with linkRxTx := passed }, none)
  | packet :: rest => do
    match ← rxPacket crcCheck m s packet with
    | .stay m s packet => rxLoop crcCheck m s (passed ++ [packet]) rest
    | .leave m s received => pure (m, { s with linkRxTx := passed ++ rest }, received)
    | .abort m s => pure (m, { s with linkRxTx := [] }, none)

/-- The block of `Update` that sends the head of the down buffer to the
    component behind the link; `acceptDown` says whether that has room. -/
def sendDown (m : LinkMaster) (s : LinkSlave) (acceptDown : Bool) :
    Except LinkError (LinkMaster × LinkSlave) :=
  if s.downBuffers ≠ [] ∧ s.downstream = false then throw .assertion
  else
    match s.downBuffers, acceptDown with
    | packet :: rest, true => do
      let m ← m.returnToken packet
      pure (m, { s with downBuffers := rest })
    | _, _ => pure (m, s)

/-- The two blocks that send on a received packet, the up buffer first.
    Whatever leaves a buffer returns its tokens. -/
def sendOn (m : LinkMaster) (s : LinkSlave) (acceptUp acceptDown : Bool) :
    Except LinkError (LinkMaster × LinkSlave) :=
  match s.upBuffers, acceptUp with
  | packet :: rest, true => do
    let m ← m.returnToken packet
    pure (m, { s with upBuffers := rest })
  | _, _ => sendDown m s acceptDown

/-- `Step`, and the buffer delay of the received packets. -/
def tick (s : LinkSlave) : LinkSlave :=
  { s with
    upBuffers := s.upBuffers.map Packet.tick
    downBuffers := s.downBuffers.map Packet.tick
    linkRxTx := s.linkRxTx.map Packet.tick }

/-- `Update`. -/
def update (crcCheck : Bool) (m : LinkMaster) (s : LinkSlave) (acceptUp acceptDown : Bool) :
    Except LinkError (LinkMaster × LinkSlave × Option Packet) := do
  let (m, s, received) ← rxLoop crcCheck m s [] s.linkRxTx
  let (m, s) ← sendOn m s acceptUp acceptDown
  pure (m, s.tick, received)

end LinkSlave

end ActiveRouting

import ActiveRouting.Host.Transaction
import ActiveRouting.Library.Outcome
import ActiveRouting.Link.LinkMaster

/-!
# HMC controller

`HMCController.cpp`: transactions of the host become request packets on one of
the links, and a flow's `ACT_GET` is held back until every thread has issued it.
-/

namespace ActiveRouting

/-- `FindAvailableLink`: the link, and the last link that was used.  In the
    source the second is an `int &` that starts at -1. -/
def findAvailableLink (scheme : LinkPriorityScheme) (link : ℤ) (LM : List LinkMaster) : ℤ × ℤ :=
  match scheme with
  | .ROUND_ROBIN =>
    let link := if link + 1 ≥ LM.length then 0 else link + 1
    (link, link)
  | .BUFFER_AWARE =>
    let size (m : LinkMaster) := occupancy m.upBuffers + occupancy m.downBuffers + occupancy m.linkRxTx
    let best := LM.zipIdx.foldl
      (fun best entry => if size entry.1 < best.1 then (size entry.1, entry.2) else best)
      (maxLinkBuf, 0)
    (best.2, link)

/-- The ways in which an HMC controller stops the simulation. -/
inductive ControllerError where
  /-- The transaction has a wrong type or data size. -/
  | wrongTransaction
  /-- An assertion failed. -/
  | assertion
  /-- A link that does not exist is read. -/
  | noLink
  deriving DecidableEq, Repr

structure HMCController where
  downBuffers : List Transaction := []
  upBuffers : List Packet := []
  bufPopDelay : ℕ := 0
  downLinkMasters : List LinkMaster
  inServiceLink : ℤ := -1
  responseQ : List (BitVec 64) := []
  /-- From the destination address of a flow to its number of threads and the
      number of threads that have issued their `ACT_GET`. -/
  gatherBarrier : BitVec 64 → Option (ℤ × ℤ) := fun _ => none
  serv_trans : List (BitVec 64 × PacketCommandType) := []

namespace HMCController

/-- `ReceiveDown`. -/
def receiveDown (h : HMCController) (downEle : Transaction) : Option HMCController :=
  if h.downBuffers.length + downEle.LNG ≤ maxReqBuf then
    some { h with
      bufPopDelay := if h.downBuffers = [] ∧ h.bufPopDelay = 0 then 1 else h.bufPopDelay
      downBuffers := h.downBuffers ++ [downEle] }
  else none

/-- `ReceiveUp`. -/
def receiveUp (h : HMCController) (upEle : Packet) : Option HMCController :=
  if occupancy h.upBuffers + upEle.LNG ≤ maxLinkBuf then
    some { h with upBuffers := h.upBuffers ++ [upEle] }
  else none

/-! ## The gather barrier -/

abbrev Barrier := BitVec 64 → Option (ℤ × ℤ)

/-- `gatherBarrier[flow].second++`, or a new entry. -/
def countGather (barrier : Barrier) (flow : BitVec 64) (nthreads : ℤ) :
    Except ControllerError Barrier :=
  match barrier flow with
  | some (threads, count) =>
    if nthreads = threads ∧ count < nthreads then
      pure (Function.update barrier flow (some (threads, count + 1)))
    else throw .assertion
  | none => pure (Function.update barrier flow (some (nthreads, 1)))

/-- `gatherBarrier[flow].second`; a missing entry reads as zero. -/
def gatherCount (barrier : Barrier) (flow : BitVec 64) : ℤ :=
  match barrier flow with
  | some (_, count) => count
  | none => 0

/-- `gatherBarrier[flow].second--`; a missing entry is created. -/
def uncountGather (barrier : Barrier) (flow : BitVec 64) : Barrier :=
  match barrier flow with
  | some (threads, count) => Function.update barrier flow (some (threads, count - 1))
  | none => Function.update barrier flow (some (0, -1))

/-- `gatherBarrier.erase(it)`. -/
def eraseGather (barrier : Barrier) (flow : BitVec 64) : Barrier :=
  Function.update barrier flow none

/-- The barrier after the packet has been counted, if it is an `ACT_GET`. -/
def gather (barrier : Barrier) (packet : Packet) (nthreads : ℤ) : Except ControllerError Barrier :=
  if packet.CMD = .ACT_GET then countGather barrier packet.DESTADRS nthreads else pure barrier

/-- Whether the packet is an `ACT_GET` that other threads have not issued yet. -/
def waitsForThreads (barrier : Barrier) (packet : Packet) (nthreads : ℤ) : Bool :=
  packet.CMD = .ACT_GET ∧ gatherCount barrier packet.DESTADRS ≠ nthreads

/-- What becomes of the transaction at the head of the down buffer: whether it
    has left the buffer, and the packet that a link has received. -/
structure Sending where
  controller : HMCController
  taken : Bool
  sent : Option Packet

/-- Hand the packet to a link.  A received `ACT_GET` clears the barrier of its
    flow, a refused one is taken back. -/
def handDown (h : HMCController) (link : ℕ) (master : LinkMaster) (packet : Packet) : Sending :=
  match master.receiveDown packet with
  | some master =>
    { controller := { h with
        downLinkMasters := h.downLinkMasters.set link master
        gatherBarrier :=
          if packet.CMD = .ACT_GET then eraseGather h.gatherBarrier packet.DESTADRS
          else h.gatherBarrier
        downBuffers := h.downBuffers.tail }
      taken := true
      sent := some packet }
  | none =>
    { controller := { h with
        gatherBarrier :=
          if packet.CMD = .ACT_GET then uncountGather h.gatherBarrier packet.DESTADRS
          else h.gatherBarrier }
      taken := false
      sent := none }

/-- An `ACT_GET` that has been counted leaves the buffer. -/
def dropCounted (h : HMCController) (barrier : Barrier) : Sending where
  controller := { h with gatherBarrier := barrier, downBuffers := h.downBuffers.tail }
  taken := true
  sent := none

/-! ## The two paths of `Update` -/

/-- The link with a packet of the same block waiting: the last such link. -/
def dependentLink (h : HMCController) (tran : Transaction) : Option ℕ :=
  (h.downLinkMasters.zipIdx.filter fun entry =>
    entry.1.downBuffers.any fun packet =>
      packet.ADRS >>> maxBlockBit = tran.address >>> maxBlockBit).getLast?.map Prod.snd

/-- The body of the loop over the links when nothing depends: the transaction
    is sent on `link`, counted and dropped, or refused. -/
def sendOnLink (h : HMCController) (tran : Transaction) (link : ℤ) :
    Except ControllerError Sending :=
  match h.downLinkMasters[link.toNat]? with
  | none => throw .noLink
  | some master =>
    if master.currentState = .LINK_RETRY then pure ⟨h, false, none⟩
    else
      match tran.convTranIntoPacket with
      | none => throw .wrongTransaction
      | some packet => do
        let barrier ← gather h.gatherBarrier packet tran.nthreads
        if waitsForThreads barrier packet tran.nthreads then pure (h.dropCounted barrier)
        else pure (handDown { h with gatherBarrier := barrier } link.toNat master packet)

/-- The loop over the links, which ends when the transaction has left the buffer. -/
def sendOnAnyLink (scheme : LinkPriorityScheme) (h : HMCController) (tran : Transaction) :
    ℕ → Except ControllerError Sending
  | 0 => pure ⟨h, false, none⟩
  | links + 1 => do
    let found := findAvailableLink scheme h.inServiceLink h.downLinkMasters
    let sending ← sendOnLink { h with inServiceLink := found.2 } tran found.1
    if sending.taken then pure sending else sendOnAnyLink scheme sending.controller tran links

/-- The path of a transaction that depends on a packet waiting at `link`. -/
def sendOnDependent (h : HMCController) (tran : Transaction) (link : ℕ) :
    Except ControllerError Sending :=
  match h.downLinkMasters[link]? with
  | none => throw .noLink
  | some master =>
    match tran.convTranIntoPacket with
    | none => throw .wrongTransaction
    | some packet => do
      let barrier ← gather h.gatherBarrier packet tran.nthreads
      if waitsForThreads barrier packet tran.nthreads then
        -- `can_send` is false, so the branch of a refused packet is taken as well
        pure (h.dropCounted (uncountGather barrier packet.DESTADRS))
      else pure (handDown { h with gatherBarrier := barrier } link master packet)

/-- The downstream half of `Update`. -/
def updateDown (scheme : LinkPriorityScheme) (h : HMCController) :
    Except ControllerError Sending :=
  match h.bufPopDelay, h.downBuffers with
  | 0, tran :: _ =>
    match h.dependentLink tran with
    | none => sendOnAnyLink scheme h tran h.downLinkMasters.length
    | some link => sendOnDependent h tran link
  | _, _ => pure ⟨h, false, none⟩

/-- The upstream half of `Update`: a response returns to the system bus. -/
def updateUp (h : HMCController) : Except ControllerError HMCController :=
  match h.upBuffers with
  | [] => pure h
  | packet :: rest =>
    if packet.packetType = .RESPONSE then
      pure { h with
        upBuffers := rest
        responseQ :=
          if packet.CMD = .ACT_GET then h.responseQ ++ [packet.DESTADRS] else h.responseQ
        serv_trans := h.serv_trans ++ [if packet.CMD = .ACT_GET then (packet.DESTADRS, .ACT_GET)
          else (BitVec.ofNat 64 packet.tran_tag, packet.CMD)] }
    else throw .assertion

/-- `Update`. -/
def update (scheme : LinkPriorityScheme) (h : HMCController) :
    Except ControllerError Sending := do
  let sending ← h.updateDown scheme
  let h ← sending.controller.updateUp
  pure { sending with controller := { h with bufPopDelay := h.bufPopDelay - 1 } }

end HMCController

end ActiveRouting

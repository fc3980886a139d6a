import ActiveRouting.Host.FlowRound
import ActiveRouting.Host.PTSHMCController

/-!
# The host and the network

The HMC controllers of the host with what they exchange with the network, and
what the threads have been promised.
-/

namespace ActiveRouting

/-- The controllers, the flows of the `ACT_GET`s that the network works on, and
    the transactions that it has served, at each controller.  `responded` holds
    the controllers that have received the response of a flow since its last
    answer, `issued` and `answered` the `ACT_GET`s of the threads. -/
structure HostSystem where
  host : Host := {}
  inNetwork : ℕ → List (BitVec 64) := fun _ => []
  served : ℕ → List (BitVec 64 × PacketCommandType) := fun _ => []
  responded : BitVec 64 → List ℕ := fun _ => []
  issued : ℕ → List LocalQueueElement := fun _ => []
  answered : ℕ → List LocalQueueElement := fun _ => []

inductive HostAction where
  | add_req_event (num event_time : ℕ) (lqele : LocalQueueElement)
  /-- The network serves a transaction. -/
  | serve (num : ℕ) (served : BitVec 64) (cmd : PacketCommandType)
  | process_event (num curr_time : ℕ) (accepts : Bool)

namespace HostSystem

variable (c : HostConfig)

/-- A request of a thread. -/
def add_req_event (s : HostSystem) (num event_time : ℕ) (lqele : LocalQueueElement) :
    Except HostError HostSystem := do
  let host ← s.host.add_req_event c num event_time lqele
  pure { s with
    host := host
    issued :=
      if lqele.type = .et_art_get then Function.update s.issued num (s.issued num ++ [lqele])
      else s.issued }

def serve (s : HostSystem) (num : ℕ) (served : BitVec 64) (cmd : PacketCommandType) : HostSystem :=
  { s with
    inNetwork :=
      if cmd = .ACT_GET then Function.update s.inNetwork num ((s.inNetwork num).erase served)
      else s.inNetwork
    served := Function.update s.served num (s.served num ++ [(served, cmd)]) }

/-- The first part of `process_event`: a transaction goes to the network. -/
def sendTran (s : HostSystem) (num curr_time : ℕ) (accepts : Bool) :
    Except HostError HostSystem := do
  let (h, sent) ← (s.host.hmcs num).sendTran curr_time accepts
  pure { s with
    host := s.host.setHmc num h
    inNetwork :=
      match sent with
      | some tran =>
        if tran.transactionType = .ACTIVE_GET then
          Function.update s.inNetwork num (s.inNetwork num ++ [tran.dest_address])
        else s.inNetwork
      | none => s.inNetwork }

/-- The second part: a served transaction is taken from the network. -/
def takeServed (s : HostSystem) (num : ℕ) : Except HostError HostSystem := do
  let host ← s.host.takeServed c num (s.served num)
  pure { s with
    host := host
    served := Function.update s.served num (s.served num).tail
    responded :=
      match s.served num with
      | (served, .ACT_GET) :: _ =>
        Function.update s.responded (c.flow_dest served)
          (if host.gather_barrier (c.flow_dest served) = none then []
            else num :: s.responded (c.flow_dest served))
      | _ => s.responded }

/-- The last part: an element of the response queue is answered. -/
def respond (s : HostSystem) (num : ℕ) : Except HostError HostSystem := do
  let (h, answer) ← (s.host.hmcs num).respond
  pure { s with
    host := s.host.setHmc num h
    answered :=
      match answer with
      | some lqele => Function.update s.answered num (s.answered num ++ [lqele])
      | none => s.answered }

/-- `process_event`. -/
def process_event (s : HostSystem) (num curr_time : ℕ) (accepts : Bool) :
    Except HostError HostSystem := do
  let s ← s.sendTran num curr_time accepts
  let s ← s.takeServed c num
  s.respond num

def step (s : HostSystem) : HostAction → Except HostError HostSystem
  | .add_req_event num event_time lqele => s.add_req_event c num event_time lqele
  | .serve num served cmd => pure (s.serve num served cmd)
  | .process_event num curr_time accepts => s.process_event c num curr_time accepts

end HostSystem

/-! ## The view of a flow -/

namespace PTSHMCController

/-- The `ACT_GET`s of threads. -/
def gathers (flow : BitVec 64) (h : PTSHMCController) : ℕ :=
  h.active_gather_event.countP fun entry => entry.1 = flow ∧ entry.2.dummy = false

def dummies (flow : BitVec 64) (h : PTSHMCController) : ℕ :=
  h.active_gather_event.countP fun entry => entry.1 = flow ∧ entry.2.dummy = true

/-- The `ACT_GET`s that have not been sent. -/
def unsent (c : HostConfig) (flow : BitVec 64) (h : PTSHMCController) : ℕ :=
  h.tran_buf.countP fun entry =>
    entry.2.transactionType = .ACTIVE_GET ∧ c.flow_dest entry.2.dest_address = flow

/-- The updates that have not been acknowledged. -/
def updates (flow : BitVec 64) (h : PTSHMCController) : ℕ :=
  h.active_update_event.countP fun entry => entry.2.dest_addr = flow

/-- The updates that have been acknowledged. -/
def pendingUpdates (flow : BitVec 64) (h : PTSHMCController) : ℕ :=
  h.pending_active_updates.countP fun entry => entry.2.dest_addr = flow

/-- The `ACT_GET`s whose answers are on their way. -/
def answers (flow : BitVec 64) (h : PTSHMCController) : ℕ :=
  h.resp_queue.countP fun lqele => lqele.type = .et_art_get ∧ lqele.dest_addr = flow

end PTSHMCController

namespace HostSystem

variable (c : HostConfig)

open PTSHMCController

/-- The `ACT_GET`s of a flow that controller `num` has sent, or that the network
    has served. -/
def onNetwork (s : HostSystem) (flow : BitVec 64) (num : ℕ) : ℕ :=
  (s.inNetwork num).countP (fun sent => c.flow_dest sent = flow) +
    (s.served num).countP fun entry => entry.2 = .ACT_GET ∧ c.flow_dest entry.1 = flow

def view (s : HostSystem) (flow : BitVec 64) : FlowView where
  barrier := s.host.gather_barrier flow
  forest := s.host.active_forests flow
  gathers := gathers flow ∘ s.host.hmcs
  dummies := dummies flow ∘ s.host.hmcs
  tokens num := unsent c flow (s.host.hmcs num) + s.onNetwork c flow num
  updates := updates flow ∘ s.host.hmcs
  responded := s.responded flow

/-- The `ACT_GET`s of a flow that have not been answered. -/
def unanswered (s : HostSystem) (flow : BitVec 64) : ℕ :=
  ∑ num ∈ Finset.range c.hmcs_size, ((s.host.hmcs num).gathers flow + (s.host.hmcs num).answers flow)

end HostSystem

end ActiveRouting

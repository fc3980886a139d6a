import ActiveRouting.Library.Trail
import ActiveRouting.Noc.Component

/-!
# The ring

`Ring` of `PTSXbar.cc`: the second-level caches and the directories are at the
nodes of a ring, and an event goes round it the shorter way.
-/

namespace ActiveRouting

/-- The ring with the positions of its components.  `num_nodes` is a `uint32_t`. -/
structure RingConfig where
  host : HostConfig
  num_nodes : ℕ
  num_l2s : ℕ
  process_interval : ℕ
  sw_to_sw_t : ℕ
  mc_pos : ℕ → ℕ
  l2_pos : ℕ → ℕ
  num_nodes_lt : num_nodes < 2 ^ 32
  process_interval_pos : 0 < process_interval
  mcs_pos : 0 < host.num_mcs
  /-- The constructor asserts these. -/
  mc_pos_lt : ∀ num < host.num_mcs, mc_pos num < num_nodes
  l2_pos_lt : ∀ num < num_l2s, l2_pos num < num_nodes

/-- The ports of a node towards its neighbours, before those of its components. -/
inductive ring_dir where
  | ring_cw | ring_ccw
  deriving DecidableEq, Repr

def ring_dir.port : ring_dir → ℕ
  | ring_cw => 0
  | ring_ccw => 1

/-- A queue: its node, and the port its events come from. -/
structure RingKey where
  priority : NocPriority
  node : ℕ
  port : ℕ
  deriving DecidableEq

/-- `req_qs`, `crq_qs` and `rep_qs` as one table, `num_req_in_ring` and `token`. -/
structure Ring where
  qs : RingKey → List (ℕ × NocEvent) := fun _ => []
  num_req_in_ring : ℕ := 0
  token : ℕ := 0

/-- Where an event leaves the ring. -/
structure RingTarget where
  component : Component
  target_pos : ℕ
  target_port_num : ℕ
  deriving DecidableEq

namespace Ring

variable (c : RingConfig)

/-! ## Ports -/

/-- The ports of a node are counted up, first for its controllers and then for its caches. -/
def mc_port_num (num : ℕ) : ℕ :=
  2 + (List.range num).countP fun other => c.mc_pos other = c.mc_pos num

def l2_port_num (num : ℕ) : ℕ :=
  2 + ((List.range c.host.num_mcs).countP fun other => c.mc_pos other = c.l2_pos num) +
    (List.range num).countP fun other => c.l2_pos other = c.l2_pos num

def router_radix (node : ℕ) : ℕ :=
  2 + ((List.range c.host.num_mcs).countP fun num => c.mc_pos num = node) +
    (List.range c.num_l2s).countP fun num => c.l2_pos num = node

/-- `already_sent.size()`. -/
def max_radix : ℕ := ((List.range c.num_nodes).map (router_radix c)).foldl max 0

/-! ## Routing -/

def directoryOf (address : BitVec 64) : RingTarget where
  component := ⟨.ct_directory, c.host.which_mc address⟩
  target_pos := c.mc_pos (c.host.which_mc address)
  target_port_num := mc_port_num c (c.host.which_mc address)

def cacheL2 (num : ℕ) : RingTarget := ⟨⟨.ct_cachel2, num⟩, c.l2_pos num, l2_port_num c num⟩

/-- The target of an event of any priority. -/
def target (priority : NocPriority) (event : NocEvent) : Except NocError RingTarget :=
  match priority with
  | .noc_rep =>
    if toDirectory event.element.type event.sender then
      pure (directoryOf c event.element.address)
    else do
      let top ← event.element.top
      pure (cacheL2 c top.num)
  | .noc_crq => do
    let top ← event.element.top
    pure (cacheL2 c top.num)
  | .noc_req => pure (directoryOf c event.element.address)

/-- Sums and differences of `uint32_t`. -/
def wrap (value : ℕ) : ℕ := value % 2 ^ 32

/-- The way from a node: the port, and the next node with the port at which the event
    comes in there. -/
def nextHop (num_nodes i target_pos : ℕ) : Option (ring_dir × ℕ × ring_dir) :=
  if i < target_pos ∧ target_pos - i ≤ num_nodes / 2 ∨
      target_pos < i ∧ wrap (num_nodes + target_pos - i) ≤ num_nodes / 2 then
    some (.ring_cw, wrap (i + 1) % num_nodes, .ring_ccw)
  else if target_pos ≠ i then
    some (.ring_ccw, wrap (num_nodes + i - 1) % num_nodes, .ring_cw)
  else none

/-! ## Arrival -/

/-- The source pops the stack of a request of a directory when its target has it. -/
def popCrq (priority : NocPriority) (e : NocElement) : Except NocError NocElement :=
  if priority = .noc_crq then e.pop else pure e

/-- The event leaves the ring.  A dummy is deleted. -/
def arrive (priority : NocPriority) (event : NocEvent) (target : Component) :
    Except NocError (List Delivery) := do
  let e ← popCrq priority event.element
  let entry : NocEntry :=
    if target.type = .ct_directory ∧ priority = .noc_req then .add_req_event else .add_rep_event
  pure (if e.dummy then [] else [⟨target, entry, e⟩])

/-! ## Events -/

/-- The queue in which an event starts. -/
def startKey (priority : NocPriority) (event : NocEvent) : RingKey :=
  let atCache : RingKey :=
    ⟨priority, c.l2_pos event.sender.num, l2_port_num c event.sender.num⟩
  let atDirectory : RingKey :=
    ⟨priority, c.mc_pos event.sender.num, mc_port_num c event.sender.num⟩
  match priority with
  | .noc_req => atCache
  | .noc_crq => atDirectory
  | .noc_rep => if toDirectory event.element.type event.sender then atCache else atDirectory

def alignTime (event_time : ℕ) : ℕ :=
  if event_time % c.process_interval ≠ 0 then
    event_time + c.process_interval - event_time % c.process_interval
  else event_time

def insert (s : Ring) (key : RingKey) (time : ℕ) (event : NocEvent) : Ring :=
  { s with qs := Function.update s.qs key (Multimap.insert time event (s.qs key)) }

/-- `add_rep_event`, `add_crq_event` and `add_req_event` of a single flit. -/
def addEvent (s : Ring) (priority : NocPriority) (event_time : ℕ) (event : NocEvent) : Ring :=
  { s.insert (startKey c priority event) (alignTime c event_time) event with
    num_req_in_ring := s.num_req_in_ring + 1 }

/-! ## Switching -/

/-- What a node sends: the queue, the port, the next queue and the event with its priority. -/
abbrev RingSend := Send RingKey ℕ (NocPriority × NocEvent)

/-- A round, with the log of what the nodes have sent.  `already_sent` holds the ports
    of the node in turn that have been used. -/
structure Switching where
  ring : Ring
  already_sent : ℕ → Bool := fun _ => false
  delivered : List Delivery := []
  sends : List RingSend := []

/-- The head of a queue goes to the next node. -/
def Switching.hop (s : Switching) (key : RingKey) (rest : List (ℕ × NocEvent)) (out : ring_dir)
    (next : RingKey) (time : ℕ) (event : NocEvent) : Switching :=
  { s with
    ring := { s.ring with qs := Function.update s.ring.qs key rest }.insert next time event
    already_sent := Function.update s.already_sent out.port true
    sends := s.sends ++ [⟨key, out.port, some next, (key.priority, event)⟩] }

/-- The head of a queue leaves the ring. -/
def Switching.leave (s : Switching) (key : RingKey) (rest : List (ℕ × NocEvent)) (port : ℕ)
    (deliveries : List Delivery) (event : NocEvent) : Switching where
  ring := { s.ring with
    qs := Function.update s.ring.qs key rest
    num_req_in_ring := s.ring.num_req_in_ring - 1 }
  already_sent := Function.update s.already_sent port true
  delivered := s.delivered ++ deliveries
  sends := s.sends ++ [⟨key, port, none, (key.priority, event)⟩]

/-- `process_qs`: the head of a queue moves if its time has come and its port is free. -/
def process_qs (curr_time : ℕ) (s : Switching) (key : RingKey) : Except NocError Switching :=
  match s.ring.qs key with
  | [] => pure s
  | (time, event) :: rest =>
    if curr_time < time then pure s
    else do
      let target ← target c key.priority event
      match nextHop c.num_nodes key.node target.target_pos with
      | some (out, router_pos, port) =>
        if s.already_sent out.port then pure s
        else pure (s.hop key rest out ⟨key.priority, router_pos, port.port⟩
          (curr_time + c.sw_to_sw_t) event)
      | none =>
        if s.already_sent target.target_port_num then pure s
        else do
          let deliveries ← arrive key.priority event target.component
          pure (s.leave key rest target.target_port_num deliveries event)

/-- The queues of a node in the order in which it tries them. -/
def nodeKeys (token node : ℕ) : List RingKey :=
  [NocPriority.noc_rep, .noc_crq, .noc_req].flatMap fun priority =>
    ((List.range (max_radix c)).rotate token).map fun port => ⟨priority, node, port⟩

/-- The round of one node. -/
def processNode (curr_time : ℕ) (s : Switching) (node : ℕ) : Except NocError Switching :=
  (nodeKeys c s.ring.token node).foldlM (process_qs c curr_time)
    { s with already_sent := fun _ => false }

/-- `process_event`, with what the targets get and what the nodes have sent. -/
def process_event (s : Ring) (curr_time : ℕ) :
    Except NocError (Ring × List Delivery × List RingSend) := do
  let s ← (List.range c.num_nodes).foldlM (processNode c curr_time) { ring := s }
  pure ({ s.ring with token := (s.ring.token + 1) % max_radix c }, s.delivered, s.sends)

/-- Whether `process_event` asks the global event queue for another round. -/
def again (s : Ring) : Bool := 0 < s.num_req_in_ring

end Ring

end ActiveRouting

import ActiveRouting.Host.EventQueue
import ActiveRouting.Host.PTSHMCController
import ActiveRouting.Library.Multimap

/-!
# What the network on chip carries

The components of the host that exchange events over the network on chip, and
the parameters of the two networks, `Crossbar` and `Mesh2D` of `PTSXbar.cc`.
-/

namespace ActiveRouting

/-- A component is known by its type and its number. -/
structure Component where
  type : component_type
  num : ℕ
  deriving DecidableEq

deriving instance Repr for component_type
deriving instance Repr for Component

/-- `LocalQueueElement` with the fields that the network on chip reads.  The top
    of the stack `from` is the head of `from_stack`. -/
structure NocElement extends LocalQueueElement where
  from_stack : List Component
  th_id : ℕ := 0
  rob_entry : ℕ := 0
  deriving DecidableEq, Repr

/-- `EventPair`: an element and the component that has handed it over. -/
structure NocEvent where
  element : NocElement
  sender : Component
  deriving DecidableEq, Repr

inductive NocPriority where
  | noc_rep | noc_crq | noc_req
  deriving DecidableEq, Repr

/-- The order of the enumeration. -/
def NocPriority.rank : NocPriority → ℕ
  | noc_rep => 0
  | noc_crq => 1
  | noc_req => 2

/-- The function of the target that takes an element. -/
inductive NocEntry where
  | add_req_event | add_rep_event
  deriving DecidableEq, Repr

/-- An element as its target gets it. -/
structure Delivery where
  target : Component
  entry : NocEntry
  element : NocElement
  deriving DecidableEq, Repr

/-- The ways in which a network stops the simulation. -/
inductive NocError where
  | assertion
  /-- `top()` or `pop()` of an empty stack. -/
  | emptyStack
  deriving DecidableEq, Repr

/-- A machine with its networks.  Each hardware thread has a core, two first-level
    caches and a bank of the second level; each memory controller a directory. -/
structure NocConfig where
  host : HostConfig
  num_hthreads : ℕ
  l2_set_lsb : ℕ
  l2_num_sets : ℕ
  process_interval : ℕ
  /-- The ports of the crossbar. -/
  num_ports : ℕ
  num_rows : ℕ
  num_cols : ℕ
  sw_to_sw_t : ℕ
  /-- The places of the memory controllers in the mesh. -/
  mc_pos : ℕ → ℕ
  process_interval_pos : 0 < process_interval
  hthreads_pos : 0 < num_hthreads
  /-- `hmccontroller[th_id % 4]` exists. -/
  four_le_mcs : 4 ≤ host.num_mcs
  hthreads_le_ports : num_hthreads ≤ num_ports
  mcs_le_ports : host.num_mcs ≤ num_ports
  hthreads_le_mesh : num_hthreads ≤ num_rows * num_cols
  mcs_le_mesh : host.num_mcs ≤ num_rows * num_cols
  /-- The constructor of `Mesh2D` asserts this. -/
  mc_pos_lt : ∀ num < host.num_mcs, mc_pos num < num_rows * num_cols

namespace NocElement

/-- `from.top()`. -/
def top (e : NocElement) : Except NocError Component :=
  match e.from_stack with
  | [] => throw .emptyStack
  | top :: _ => pure top

/-- `from.pop()`. -/
def pop (e : NocElement) : Except NocError NocElement :=
  match e.from_stack with
  | [] => throw .emptyStack
  | _ :: rest => pure { e with from_stack := rest }

/-- The flits before the last of a packet with data. -/
def dummyFlit (e : NocElement) : NocElement where
  id := e.id
  type := e.type
  address := e.address
  dummy := true
  from_stack := e.from_stack
  th_id := e.th_id

end NocElement

namespace NocConfig

variable (c : NocConfig)

/-- The number of the components of a type. -/
def size : component_type → ℕ
  | .ct_o3core | .ct_cachel1i | .ct_cachel1d | .ct_cachel2 => c.num_hthreads
  | .ct_directory | .ct_hmc_controller => c.host.num_mcs
  | _ => 0

/-- `GlobalEventQueue::which_l2`. -/
def which_l2 (address : BitVec 64) : ℕ :=
  (address >>> c.l2_set_lsb).toNat / c.l2_num_sets % c.num_hthreads

/-- The controller of an `ACT_GET`. -/
def gatherController (th_id : ℕ) : ℕ :=
  match c.host.art_scheme with
  | .art_naive => 0
  | .art_tid | .art_addr => th_id % 4

/-- The time of an event in the clock of the network. -/
def alignTime (event_time : ℕ) : ℕ :=
  if event_time % c.process_interval ≠ 0 then
    event_time + (c.process_interval - event_time % c.process_interval)
  else event_time

theorem mcs_pos : 0 < c.host.num_mcs := Nat.lt_of_lt_of_le (by decide) c.four_le_mcs

theorem which_mc_lt (address : BitVec 64) : c.host.which_mc address < c.host.num_mcs :=
  Nat.mod_lt _ c.mcs_pos

theorem which_l2_lt (address : BitVec 64) : c.which_l2 address < c.num_hthreads :=
  Nat.mod_lt _ c.hthreads_pos

theorem thread_controller_lt (th_id : ℕ) : th_id % 4 < c.host.num_mcs :=
  Nat.lt_of_lt_of_le (Nat.mod_lt _ (by decide)) c.four_le_mcs

theorem gatherController_lt (th_id : ℕ) : c.gatherController th_id < c.host.num_mcs := by
  unfold gatherController
  split
  · exact c.mcs_pos
  · exact c.thread_controller_lt th_id
  · exact c.thread_controller_lt th_id

/-- There are no more components of a type than ports. -/
theorem size_le_ports (type : component_type) : c.size type ≤ c.num_ports := by
  unfold size
  split <;> first | exact c.hthreads_le_ports | exact c.mcs_le_ports | exact Nat.zero_le _

end NocConfig

/-! ## Conditions that both networks test -/

/-- A reply goes to a first-level cache of type `l1`.  The second-level cache is
    its sender, or the top of its stack where the sender stands for the target. -/
def replyToL1 (l1 : component_type) (top sender : Component) : Prop :=
  top.type = l1 ∧ sender.type = .ct_cachel2 ∨ top.type = .ct_cachel2 ∧ sender.type = l1

/-- A first-level cache sends to the second level. -/
def fromL1 (top sender : Component) : Prop :=
  top.type = .ct_cachel1i ∧ sender.type = .ct_cachel1i ∨
    top.type = .ct_cachel1d ∧ sender.type = .ct_cachel1d

def isCacheL2 (sender : Component) : Prop :=
  sender.type = .ct_cachel2 ∨ sender.type = .ct_cachel2_t1 ∨ sender.type = .ct_cachel2_t2

/-- The types of the replies to a directory. -/
def directoryReplies : List EventType :=
  [.et_evict, .et_invalidate, .et_invalidate_nd, .et_nop, .et_e_to_i, .et_e_to_m]

/-- The requests of the cores. -/
def activeRequests : List EventType :=
  [.et_art_get, .et_art_add, .et_art_mult, .et_art_dot, .et_pei_dot, .et_pei_atomic]

/-- The replies that go to a directory. -/
def toDirectory (type : EventType) (sender : Component) : Prop :=
  type ∈ directoryReplies ∨ isCacheL2 sender

instance (l1 : component_type) (top sender : Component) : Decidable (replyToL1 l1 top sender) :=
  inferInstanceAs (Decidable (_ ∨ _))

instance (top sender : Component) : Decidable (fromL1 top sender) :=
  inferInstanceAs (Decidable (_ ∨ _))

instance (sender : Component) : Decidable (isCacheL2 sender) :=
  inferInstanceAs (Decidable (_ ∨ _))

instance (type : EventType) (sender : Component) : Decidable (toDirectory type sender) :=
  inferInstanceAs (Decidable (_ ∨ _))

end ActiveRouting

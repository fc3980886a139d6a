import ActiveRouting.Library.Trail
import ActiveRouting.Noc.Component

/-!
# The mesh

`Mesh2D` of `PTSXbar.cc`: events go from switch to switch, first along the row
and then along the column, and leave at the switch of their target.
-/

namespace ActiveRouting

/-- The neighbours of a switch and its components, before `mesh_invalid`. -/
inductive mesh_dir where
  | mesh_north | mesh_south | mesh_east | mesh_west | mesh_cluster | mesh_directory
  deriving DecidableEq, Repr

/-- A queue: its switch, and where its events come from. -/
structure MeshKey where
  priority : NocPriority
  row : ℕ
  col : ℕ
  dir : mesh_dir
  deriving DecidableEq

/-- `req_qs`, `crq_qs` and `rep_qs` as one table, `num_req_in_mesh` and `token`. -/
structure Mesh2D where
  qs : MeshKey → List (ℕ × NocEvent) := fun _ => []
  num_req_in_mesh : ℕ := 0
  token : ℕ := 0

/-- The target of an event and the place of its switch. -/
structure MeshTarget where
  component : Component
  place : ℕ
  deriving DecidableEq

namespace Mesh2D

variable (c : NocConfig)

/-! ## Routing -/

def cluster (type : component_type) (num : ℕ) : MeshTarget := ⟨⟨type, num⟩, num⟩

/-- A directory or a controller is at the place of its memory controller. -/
def atController (type : component_type) (num : ℕ) : MeshTarget := ⟨⟨type, num⟩, c.mc_pos num⟩

def directoryOf (address : BitVec 64) : MeshTarget :=
  atController c .ct_directory (c.host.which_mc address)

/-- A reply to the first-level caches of type `l1`. -/
def targetL1 (l1 : component_type) (top sender : Component) : MeshTarget :=
  cluster l1 (if sender.type = l1 then sender.num else top.num)

/-- The tests of `process_qs` for a reply, in their order. -/
def repTarget (e : NocElement) (top sender : Component) : MeshTarget :=
  if replyToL1 .ct_cachel1i top sender then targetL1 .ct_cachel1i top sender
  else if replyToL1 .ct_cachel1d top sender then targetL1 .ct_cachel1d top sender
  else if fromL1 top sender then cluster .ct_cachel2 (c.which_l2 e.address)
  else if toDirectory e.type sender then directoryOf c e.address
  else if e.type ∈ activeRequests then cluster .ct_o3core top.num
  else cluster .ct_cachel2 top.num

/-- The controller to which a directory sends an update. -/
def updateController (e : NocElement) : Except NocError ℕ :=
  match c.host.art_scheme with
  | .art_naive => pure 0
  | .art_tid => pure (e.th_id % 4)
  | .art_addr => if e.type = .et_art_mult then pure (c.host.which_mc e.src_addr1) else throw .assertion

/-- The request of a core. -/
def coreTarget (e : NocElement) : Except NocError MeshTarget :=
  match e.type with
  | .et_art_add => pure (directoryOf c e.src_addr1)
  | .et_art_mult => pure (directoryOf c (if e.twin_lqe1 = none then e.src_addr1 else e.src_addr2))
  | .et_art_get => pure (atController c .ct_hmc_controller (c.gatherController e.th_id))
  | .et_art_dot | .et_pei_dot => pure (directoryOf c e.src_addr2)
  | .et_pei_atomic => pure (directoryOf c e.dest_addr)
  | _ => throw .assertion

/-- The tests for a request. -/
def reqTarget (e : NocElement) (top sender : Component) : Except NocError MeshTarget :=
  if fromL1 top sender then pure (cluster .ct_cachel2 (c.which_l2 e.address))
  else if top.type = .ct_o3core then coreTarget c e
  else if top.type = .ct_directory ∧ e.type ∈ [.et_art_add, .et_art_mult, .et_art_dot] then do
    let which_hmc ← updateController c e
    pure (atController c .ct_hmc_controller which_hmc)
  else if top.type = .ct_directory ∧ e.type ∈ [.et_pei_dot, .et_pei_atomic] then throw .assertion
  else pure (directoryOf c e.address)

/-- The target of an event of any priority. -/
def target (priority : NocPriority) (event : NocEvent) : Except NocError MeshTarget := do
  let e := event.element
  let top ← e.top
  match priority with
  | .noc_rep => pure (repTarget c e top event.sender)
  | .noc_crq => pure (cluster .ct_cachel2 top.num)
  | .noc_req => reqTarget c e top event.sender

/-! ## Arrival -/

/-- The slot of a switch through which its events leave for a component. -/
def slot : component_type → mesh_dir
  | .ct_hmc_controller | .ct_directory => .mesh_directory
  | _ => .mesh_cluster

/-- Whether an arrival takes its slot for the rest of the round. -/
def takesSlot : component_type → Bool
  | .ct_hmc_controller | .ct_o3core => false
  | _ => true

/-- A request of a directory has its target on the stack. -/
def popCrq (priority : NocPriority) (e : NocElement) : Except NocError NocElement :=
  if priority = .noc_crq then e.pop else pure e

/-- What a component gets, unless it is a dummy. -/
def deliver (target : Component) (entry : NocEntry) (e : NocElement) : List Delivery :=
  if e.dummy then [] else [⟨target, entry, e⟩]

/-- Arrival at a controller, which an update reaches with the directory on its stack. -/
def arriveHmc (priority : NocPriority) (target : Component) (e : NocElement) :
    Except NocError (List Delivery) := do
  if priority = .noc_req then
    let top ← e.top
    if top.type = .ct_directory then
      if e.type ∈ [.et_art_add, .et_art_mult, .et_art_dot] then do
        let popped ← e.pop
        pure [⟨target, .add_req_event, popped⟩]
      else throw .assertion
    else pure [⟨target, .add_req_event, e⟩]
  else pure []

/-- The second-level cache takes the requests of the first level. -/
def entryL2 (top sender : Component) (type : EventType) : NocEntry :=
  if fromL1 top sender ∧ (type = .et_read ∨ type = .et_write) then .add_req_event
  else .add_rep_event

/-- The event leaves the mesh. -/
def arrive (priority : NocPriority) (event : NocEvent) (target : Component) :
    Except NocError (List Delivery) :=
  match target.type with
  | .ct_hmc_controller => arriveHmc priority target event.element
  | .ct_o3core =>
    if priority = .noc_rep then pure [⟨target, .add_rep_event, event.element⟩] else throw .assertion
  | .ct_directory => do
    let e ← popCrq priority event.element
    pure (deliver target (if priority = .noc_req then .add_req_event else .add_rep_event) e)
  | .ct_cachel1i | .ct_cachel1d => do
    let e ← popCrq priority event.element
    if e.dummy then pure []
    else do
      let top ← e.top
      if replyToL1 .ct_cachel1i top event.sender ∨ replyToL1 .ct_cachel1d top event.sender then
        pure (deliver target .add_rep_event e)
      else throw .assertion
  | _ => do
    let e ← popCrq priority event.element
    if e.dummy then pure []
    else do
      let top ← e.top
      pure (deliver target (entryL2 top event.sender e.type) e)

/-! ## Events -/

/-- Whether `add_rep_event` puts a reply into the queue of a cluster. -/
def fromCluster (type : EventType) (sender : Component) : Prop :=
  toDirectory type sender ∨ sender.type ∈ [.ct_cachel1i, .ct_cachel1i_t1, .ct_cachel1i_t2,
    .ct_cachel1d, .ct_cachel1d_t1, .ct_cachel1d_t2]

instance (type : EventType) (sender : Component) : Decidable (fromCluster type sender) :=
  inferInstanceAs (Decidable (_ ∨ _))

def keyAt (priority : NocPriority) (place : ℕ) (dir : mesh_dir) : MeshKey :=
  ⟨priority, place / c.num_cols, place % c.num_cols, dir⟩

/-- The queue in which an event starts. -/
def startKey (priority : NocPriority) (event : NocEvent) : MeshKey :=
  match priority with
  | .noc_req => keyAt c priority event.sender.num .mesh_cluster
  | .noc_crq => keyAt c priority (c.mc_pos event.sender.num) .mesh_directory
  | .noc_rep =>
    if fromCluster event.element.type event.sender then
      keyAt c priority event.sender.num .mesh_cluster
    else keyAt c priority (c.mc_pos event.sender.num) .mesh_directory

def insert (s : Mesh2D) (key : MeshKey) (time : ℕ) (event : NocEvent) : Mesh2D :=
  { s with qs := Function.update s.qs key (Multimap.insert time event (s.qs key)) }

/-- `add_rep_event`, `add_crq_event` and `add_req_event` of a single flit. -/
def addEvent (s : Mesh2D) (priority : NocPriority) (event_time : ℕ) (event : NocEvent) : Mesh2D :=
  { s.insert (startKey c priority event) (c.alignTime event_time) event with
    num_req_in_mesh := s.num_req_in_mesh + 1 }

/-- The same of `num_flits`, of which the last is the event. -/
def addFlits (s : Mesh2D) (priority : NocPriority) (event_time num_flits : ℕ) (event : NocEvent) :
    Mesh2D :=
  let s := (List.replicate (num_flits - 1) { event with element := event.element.dummyFlit }).foldl
    (fun s dummy => s.addEvent c priority event_time dummy) s
  s.addEvent c priority event_time event

/-! ## Switching -/

/-- What a switch sends: the queue, the slot, the next queue and the event with its priority. -/
abbrev MeshSend := Send MeshKey mesh_dir (NocPriority × NocEvent)

/-- A round, with the log of what the switches have sent.  `already_sent` holds the slots
    of the switch in turn that have been used. -/
structure Switching where
  mesh : Mesh2D
  already_sent : mesh_dir → Bool := fun _ => false
  delivered : List Delivery := []
  sends : List MeshSend := []

/-- The way of an event that is not at the switch of its target: the slot it
    leaves by, and its next queue. -/
def nextHop (key : MeshKey) (place : ℕ) : Option (mesh_dir × MeshKey) :=
  let col := place % c.num_cols
  let row := place / c.num_cols
  if col < key.col then
    some (.mesh_west, { key with col := key.col - 1, dir := .mesh_east })
  else if key.col < col then
    some (.mesh_east, { key with col := key.col + 1, dir := .mesh_west })
  else if row < key.row then
    some (.mesh_north, { key with row := key.row - 1, dir := .mesh_south })
  else if key.row < row then
    some (.mesh_south, { key with row := key.row + 1, dir := .mesh_north })
  else none

/-- The head of a queue goes to the next switch. -/
def Switching.hop (s : Switching) (key : MeshKey) (rest : List (ℕ × NocEvent)) (out : mesh_dir)
    (next : MeshKey) (time : ℕ) (event : NocEvent) : Switching :=
  { s with
    mesh := { s.mesh with qs := Function.update s.mesh.qs key rest }.insert next time event
    already_sent := Function.update s.already_sent out true
    sends := s.sends ++ [⟨key, out, some next, (key.priority, event)⟩] }

/-- The head of a queue leaves the mesh. -/
def Switching.leave (s : Switching) (key : MeshKey) (rest : List (ℕ × NocEvent))
    (type : component_type) (deliveries : List Delivery) (event : NocEvent) : Switching where
  mesh := { s.mesh with
    qs := Function.update s.mesh.qs key rest
    num_req_in_mesh := s.mesh.num_req_in_mesh - 1 }
  already_sent :=
    if takesSlot type then Function.update s.already_sent (slot type) true else s.already_sent
  delivered := s.delivered ++ deliveries
  sends := s.sends ++ [⟨key, slot type, none, (key.priority, event)⟩]

/-- `process_qs`: the head of a queue moves if its time has come and its slot is free. -/
def process_qs (curr_time : ℕ) (s : Switching) (key : MeshKey) : Except NocError Switching :=
  match s.mesh.qs key with
  | [] => pure s
  | (time, event) :: rest =>
    if curr_time < time then pure s
    else do
      let target ← target c key.priority event
      match nextHop c key target.place with
      | some (out, next) =>
        if s.already_sent out then pure s
        else pure (s.hop key rest out next (curr_time + c.sw_to_sw_t) event)
      | none =>
        if s.already_sent (slot target.component.type) then pure s
        else do
          let deliveries ← arrive key.priority event target.component
          pure (s.leave key rest target.component.type deliveries event)

/-- The order of the enumeration. -/
def dirs : List mesh_dir :=
  [.mesh_north, .mesh_south, .mesh_east, .mesh_west, .mesh_cluster, .mesh_directory]

/-- The queues of a switch in the order in which it tries them. -/
def switchKeys (token row col : ℕ) : List MeshKey :=
  [NocPriority.noc_rep, .noc_crq, .noc_req].flatMap fun priority =>
    (dirs.rotate token).map fun dir => ⟨priority, row, col, dir⟩

/-- The round of one switch. -/
def processSwitch (curr_time : ℕ) (s : Switching) (place : ℕ × ℕ) : Except NocError Switching :=
  (switchKeys s.mesh.token place.1 place.2).foldlM (process_qs c curr_time)
    { s with already_sent := fun _ => false }

/-- The switches, row by row. -/
def places : List (ℕ × ℕ) :=
  (List.range c.num_rows).flatMap fun row => (List.range c.num_cols).map fun col => (row, col)

/-- The rounds of all switches. -/
def process_round (s : Mesh2D) (curr_time : ℕ) : Except NocError Switching :=
  (places c).foldlM (processSwitch c curr_time) { mesh := s }

def Switching.finish (s : Switching) : Mesh2D :=
  { s.mesh with token := (s.mesh.token + 1) % dirs.length }

/-- `process_event`, with what the targets get. -/
def process_event (s : Mesh2D) (curr_time : ℕ) : Except NocError (Mesh2D × List Delivery) := do
  let s ← process_round c s curr_time
  pure (s.finish, s.delivered)

/-- Whether `process_event` asks the global event queue for another round. -/
def again (s : Mesh2D) : Bool := 0 < s.num_req_in_mesh

end Mesh2D

end ActiveRouting

import ActiveRouting.Library.Outcome
import ActiveRouting.Library.RingBuffer
import ActiveRouting.Noc.Component
import ActiveRouting.Thread.PTS

/-!
# The out-of-order core

`O3Core` of `PTSO3Core.cc`: the queue of fetched instructions, the reorder buffer
and the four phases of `process_event`.  The wake-ups of the event queue are
not modelled: the core may be asked to process at any time.
-/

namespace ActiveRouting

inductive O3QueueState where
  | o3iqs_not_in_queue | o3iqs_being_loaded | o3iqs_ready | o3iqs_invalid
  deriving DecidableEq, Repr

inductive O3ROBState where
  | o3irs_issued | o3irs_executing | o3irs_completed | o3irs_invalid
  deriving DecidableEq, Repr

/-- `O3Queue` with its state. -/
structure O3QueueEntry where
  instr : O3Queue
  state : O3QueueState
  ready_time : ℕ

/-- A dependency is the slot of the entry that is waited for, and `none` for -1. -/
structure O3ROB where
  state : O3ROBState := .o3irs_invalid
  ready_time : ℕ := 0
  /-- 0 means no memory access. -/
  memaddr : ℕ := 0
  isread : Bool := false
  branch_miss : Bool := false
  mem_dep : Option ℕ := none
  instr_dep : Option ℕ := none
  branch_dep : Option ℕ := none
  type : InsType := .no_mem
  rr0 : Option ℕ := none
  rr1 : Option ℕ := none
  rr2 : Option ℕ := none
  rr3 : Option ℕ := none
  rw : ℕ × ℕ × ℕ × ℕ := (0, 0, 0, 0)
  updtsrc1 : ℕ := 0
  updtsrc2 : ℕ := 0
  updtdest : ℕ := 0
  rlen : ℕ := 0
  nthreads : ℤ := -1
  lines : ℕ := 0

structure O3CoreConfig where
  host : HostConfig
  num : ℕ := 0
  o3queue_max_size : ℕ := 68
  o3rob_max_size : ℕ := 16
  max_issue_width : ℕ := 4
  max_commit_width : ℕ := 4
  max_alu : ℕ := 4
  max_ldst : ℕ := 4
  max_ld : ℕ := 4
  max_st : ℕ := 4
  max_sse : ℕ := 4
  process_interval : ℕ := 80
  branch_miss_penalty : ℕ := 160
  lock_t : ℕ := 160
  unlock_t : ℕ := 160
  barrier_t : ℕ := 160
  sse_t : ℕ := 40
  consecutive_nack_threshold : ℕ := 1000
  num_bp_entries : ℕ := 256
  gp_size : ℕ := 0
  l1i_set_lsb : ℕ := 6
  bypass_tlb : Bool := false
  mimick_inorder : Bool := false
  skip_all_instrs : Bool := false
  kernel_offloading : Bool := false
  queue_pos : 0 < o3queue_max_size := by decide
  /-- The constructor stops the simulator otherwise. -/
  rob_gt : 4 < o3rob_max_size := by decide
  interval_pos : 0 < process_interval := by decide

/-- `BranchPredictor`: a two-bit counter for each entry. -/
structure BranchPredictor where
  bimodal_entry : ℕ → ℕ := fun _ => 1
  global_history : BitVec 64 := 0

/-- What the core hands over: to its first-level caches and their TLBs, to the network, or to an
    HMC controller. -/
inductive CoreSend where
  | cachel1i (element : NocElement)
  | tlbl1i (element : NocElement)
  | cachel1d (element : NocElement)
  | tlbl1d (element : NocElement)
  | noc (element : NocElement)
  | hmc (which_hmc : ℕ) (element : NocElement)

/-- What happens to the instructions of a core.  The `n`-th entry of the reorder buffer is the one
    that has been filled after `n` others, and `deps` are the entries that it depends on. -/
inductive RobEvent where
  | dispatched (serial : ℕ) (instr : O3Queue)
  | filled (entry : O3ROB) (deps : List ℕ)
  | started (n : ℕ) (curr_time : ℕ) (sends : List CoreSend)
  | finished (n : ℕ) (ready_time : ℕ)
  | acknowledged (n : ℕ) (ready_time : ℕ)
  | committed (n : ℕ)

/-- What the core has done so far, which no function of the core reads: the instructions that it
    has been given, the number of entries that have left the reorder buffer, the time of the last
    call of `process_event`, the slots of the requests without a reply, and the events. -/
structure O3History where
  fed : List O3Queue := []
  retired : ℕ := 0
  last_time : ℕ := 0
  outstanding : List ℕ := []
  trace : List RobEvent := []

/-- `is_migrate_ready` is the simulator's, and `next_id` the address of the next element. -/
structure O3Core where
  o3queue : RingBuffer O3QueueEntry
  o3rob : RingBuffer O3ROB
  active : Bool := false
  num_consecutive_nacks : ℕ := 0
  bp : BranchPredictor := {}
  is_migrate_ready : ℕ → Bool := fun _ => false
  next_id : ℕ := 0
  sent : List CoreSend := []
  history : O3History := {}

inductive O3Error where
  | assertion
  deriving DecidableEq, Repr

namespace BranchPredictor

variable (bp : BranchPredictor) (num_entries gp_size : ℕ)

/-- `BranchPredictor::miss`. -/
def miss (addr : ℕ) (taken : Bool) : Bool × BranchPredictor :=
  let global_history : BitVec 64 :=
    if gp_size = 0 then 0 else (bp.global_history <<< 1) + (if taken then 1 else 0)
  let entry := (BitVec.ofNat 64 addr ^^^ (global_history <<< (64 - gp_size))).toNat % num_entries
  let curr_entry := bp.bimodal_entry entry
  let next_entry := if curr_entry = 0 ∧ taken = false then 0
    else if curr_entry = 3 ∧ taken then 3
    else if taken then curr_entry + 1
    else curr_entry - 1
  (1 < curr_entry ∧ taken = false ∨ curr_entry < 2 ∧ taken,
    { bimodal_entry := Function.update bp.bimodal_entry entry next_entry
      global_history := global_history })

end BranchPredictor

namespace InsType

variable (type : InsType)

/-- The instructions for the memory network. -/
def isActive : Bool :=
  type = .ins_art_get ∨ type = .ins_art_add ∨ type = .ins_art_mult ∨ type = .ins_art_dot ∨
    type = .ins_pei_dot ∨ type = .ins_pei_atomic

/-- Those whose dependencies are looked at before they are sent. -/
def isDot : Bool := type = .ins_art_dot ∨ type = .ins_pei_dot ∨ type = .ins_pei_atomic

def eventType : EventType :=
  match type with
  | .ins_art_get => .et_art_get
  | .ins_art_add => .et_art_add
  | .ins_art_mult => .et_art_mult
  | .ins_art_dot => .et_art_dot
  | .ins_pei_dot => .et_pei_dot
  | _ => .et_pei_atomic

end InsType

namespace CoreSend

def element : CoreSend → NocElement
  | cachel1i element | tlbl1i element | cachel1d element | tlbl1d element | noc element
  | hmc _ element => element

end CoreSend

namespace O3ROB

variable (e : O3ROB)

/-- The entry has not completed by a certain time. -/
def unfinished (curr_time : ℕ) : Bool :=
  ¬ (e.state = .o3irs_completed ∧ e.ready_time ≤ curr_time)

/-- A register is written by the entry; register 0 is none. -/
def writes (rr : ℕ) : Bool :=
  rr ≠ 0 ∧ (rr = e.rw.1 ∨ rr = e.rw.2.1 ∨ rr = e.rw.2.2.1 ∨ rr = e.rw.2.2.2)

/-- The seven dependencies. -/
def fields : List (Option ℕ) :=
  [e.mem_dep, e.instr_dep, e.branch_dep, e.rr0, e.rr1, e.rr2, e.rr3]

/-- An entry that has not started waits no longer for the one in a slot. -/
def wake (k : ℕ) : O3ROB :=
  let clear (dep : Option ℕ) : Option ℕ := if dep = some k then none else dep
  if e.state ≠ .o3irs_issued then e
  else { e with
    mem_dep := clear e.mem_dep
    instr_dep := clear e.instr_dep
    branch_dep := clear e.branch_dep
    rr0 := clear e.rr0
    rr1 := clear e.rr1
    rr2 := clear e.rr2
    rr3 := clear e.rr3 }

/-- The test of the dependencies of an entry that is no active instruction. -/
def isFree : Bool :=
  e.mem_dep = none ∧ e.instr_dep = none ∧ e.branch_dep = none ∧ e.rr0 = none ∧ e.rr1 = none ∧
    e.rr2 = none ∧ e.rr3 = none

/-- The test of an active instruction, which holds it back. -/
def isHeld : Bool :=
  e.type.isDot ∧ e.mem_dep ≠ none ∧ e.rr0 ≠ none ∧ e.rr1 ≠ none ∧ e.rr2 ≠ none ∧ e.rr3 ≠ none

end O3ROB

/-- `static const int32_t word_log`. -/
def word_log : ℕ := 3

namespace O3Core

variable (c : O3CoreConfig) (s : O3Core)

def self : Component := ⟨.ct_o3core, c.num⟩

/-- A core as it is built. -/
def start : O3Core where
  o3queue := {
    slots _ := {
      instr := ⟨0, 0, 0, 0, 0, 0, 0, .no_mem, (0, 0, 0, 0), (0, 0, 0, 0)⟩
      state := .o3iqs_invalid
      ready_time := 0 } }
  o3rob := { slots _ := {} }

def record (event : RobEvent) : O3Core :=
  { s with history := { s.history with trace := s.history.trace ++ [event] } }

def send (sends : List CoreSend) : O3Core := { s with sent := s.sent ++ sends }

/-- `McSim::add_instruction`; an instruction that comes to a full queue is dropped. -/
def add_instruction (instr : O3Queue) : O3Core :=
  if c.o3queue_max_size ≤ s.o3queue.size then s
  else { s with
    o3queue := s.o3queue.push c.o3queue_max_size
      { instr, state := .o3iqs_not_in_queue, ready_time := instr.ready_time }
    history := { s.history with fed := s.history.fed ++ [instr] } }

/-! ## The instruction cache -/

/-- The address of the line of an instruction. -/
def lineOf (ip : ℕ) : ℕ := ip / 2 ^ c.l1i_set_lsb * 2 ^ c.l1i_set_lsb

/-- The element for a read of an instruction or of data. -/
def accessElement (type : EventType) (address rob_entry : ℕ) : NocElement where
  id := s.next_id
  type := type
  address := BitVec.ofNat 64 address
  from_stack := [self c]
  th_id := c.num
  rob_entry := rob_entry

/-- The loop over the queue: `addr_to_read` is the line that is asked for, or 0. -/
def loadAt (x : O3Core × ℕ) (i : ℕ) : O3Core × ℕ :=
  let (s, addr_to_read) := x
  let q := s.o3queue.get c.o3queue_max_size i
  let loaded : RingBuffer O3QueueEntry :=
    s.o3queue.write (s.o3queue.slot c.o3queue_max_size i) { q with state := .o3iqs_being_loaded }
  if q.state = .o3iqs_not_in_queue then
    if addr_to_read = 0 then
      let line := lineOf c q.instr.ip
      let lqe := s.accessElement c (if c.bypass_tlb then .et_read else .et_tlb_rd) line 0
      (({ s with o3queue := loaded, next_id := s.next_id + 1 } : O3Core).send
        [if c.bypass_tlb then .cachel1i lqe else .tlbl1i lqe], line)
    else if addr_to_read = lineOf c q.instr.ip then ({ s with o3queue := loaded }, addr_to_read)
    else x
  else x

def load : O3Core := ((List.range s.o3queue.size).foldl (loadAt c) (s, 0)).1

/-! ## From the queue to the reorder buffer -/

/-- The newest entry that has not completed and satisfies a condition. -/
def findOlder (curr_time : ℕ) (p : O3ROB → Bool) : Option ℕ :=
  ((List.range s.o3rob.size).map fun j =>
    s.o3rob.slot c.o3rob_max_size (s.o3rob.size - 1 - j)).find? fun rob_idx =>
      (s.o3rob.slots rob_idx).unfinished curr_time && p (s.o3rob.slots rob_idx)

/-- `(o3rob_head + o3rob_size - n) % o3rob_max_size` in 32 bits. -/
def backSlot (n : ℕ) : ℕ :=
  (BitVec.ofNat 32 (s.o3rob.head + s.o3rob.size) - BitVec.ofNat 32 n).toNat % c.o3rob_max_size

/-- The dependencies on registers, where false ones are taken to be renamed away. -/
def registers (curr_time : ℕ) (instr : O3Queue) :
    Option ℕ × Option ℕ × Option ℕ × Option ℕ :=
  match instr.type with
  | .ins_art_get | .ins_art_add | .ins_art_mult => (none, none, none, none)
  | .ins_pei_dot | .ins_art_dot =>
    -- the last four load instructions
    (some (s.backSlot c 4), some (s.backSlot c 3), some (s.backSlot c 2), some (s.backSlot c 1))
  | .ins_pei_atomic => (some (s.backSlot c 1), none, none, none)
  | _ =>
    let writer (rr : ℕ) : Option ℕ := s.findOlder c curr_time (·.writes rr)
    (writer instr.rr.1, writer instr.rr.2.1, writer instr.rr.2.2.1, writer instr.rr.2.2.2)

/-- The entries of the buffer that the dependencies of a new entry name. -/
def depsOf (e : O3ROB) : List ℕ :=
  ((List.range s.o3rob.size).filter fun j =>
    some (s.o3rob.slot c.o3rob_max_size j) ∈ e.fields).map (s.history.retired + ·)

/-- The slot after the newest entry is overwritten. -/
def fill (e : O3ROB) : O3Core :=
  { s with o3rob := s.o3rob.push c.o3rob_max_size e }.record (.filled e (s.depsOf c e))

/-- The slot that the next entry takes, with what its last entry has left there. -/
def nextSlot : ℕ := s.o3rob.slot c.o3rob_max_size s.o3rob.size

/-- What the entries of an instruction have in common. -/
structure Common where
  instr : O3Queue
  branch_miss : Bool
  branch_dep : Option ℕ
  rr : Option ℕ × Option ℕ × Option ℕ × Option ℕ

def common (curr_time : ℕ) (x : Common) : O3ROB :=
  { s.o3rob.slots (s.nextSlot c) with
    state := .o3irs_issued
    ready_time := curr_time + c.process_interval
    branch_miss := x.branch_miss
    branch_dep := x.branch_dep
    type := x.instr.type
    rr0 := x.rr.1
    rr1 := x.rr.2.1
    rr2 := x.rr.2.2.1
    rr3 := x.rr.2.2.2 }

/-- The entry of an active instruction. -/
def activeEntry (curr_time : ℕ) (x : Common) : O3ROB :=
  let e := s.common c curr_time x
  let type := x.instr.type
  let last := s.backSlot c 1
  let waits : Bool := (s.o3rob.slots last).state = .o3irs_issued ∨
    (s.o3rob.slots last).state = .o3irs_executing
  let stored : Bool := type = .ins_art_add ∨ type = .ins_art_mult ∨ type = .ins_art_get ∨
    type = .ins_pei_atomic
  { e with
    isread := false
    mem_dep := if stored then none else if waits then some last else none
    memaddr := if stored then x.instr.waddr else x.instr.raddr2
    instr_dep := none
    rw := (2 ^ 32 - 1, 2 ^ 32 - 1, 2 ^ 32 - 1, 2 ^ 32 - 1)
    updtsrc1 := x.instr.raddr
    updtsrc2 := x.instr.raddr2
    updtdest := x.instr.waddr
    rlen := x.instr.rlen
    nthreads := if type = .ins_art_get then (BitVec.ofNat 32 x.instr.wlen).toInt else -1
    lines := if type = .ins_art_add ∨ type = .ins_art_mult then x.instr.wlen else 0 }

/-- The entry of an access, or of an instruction without one. -/
def accessEntry (curr_time : ℕ) (x : Common) (memaddr : ℕ) (isread : Bool)
    (instr_dep : Option ℕ) : O3ROB :=
  { s.common c curr_time x with
    memaddr := memaddr
    isread := isread
    mem_dep := if memaddr = 0 then none else s.findOlder c curr_time fun older =>
      older.memaddr / 2 ^ word_log = memaddr / 2 ^ word_log
    instr_dep := instr_dep
    rw := x.instr.rw }

/-- An access of the instruction takes an entry, on which its next access depends. -/
def fillAccess (curr_time : ℕ) (x : Common) (memaddr : ℕ) (isread : Bool)
    (y : O3Core × Option ℕ) : O3Core × Option ℕ :=
  let (s, instr_dep) := y
  if memaddr = 0 then y
  else (s.fill c (s.accessEntry c curr_time x memaddr isread instr_dep), some (s.nextSlot c))

def fillEntries (curr_time : ℕ) (x : Common) : O3Core :=
  if x.instr.type.isActive then s.fill c (s.activeEntry c curr_time x)
  else if x.instr.raddr = 0 ∧ x.instr.raddr2 = 0 ∧ x.instr.waddr = 0 then
    s.fill c (s.accessEntry c curr_time x x.instr.waddr false none)
  else
    (fillAccess c curr_time x x.instr.waddr false
      (fillAccess c curr_time x x.instr.raddr2 true
        (fillAccess c curr_time x x.instr.raddr true (s, none)))).1

/-- Whether a branch is mispredicted. -/
def predict (instr : O3Queue) : Bool × BranchPredictor :=
  if instr.type = .ins_branch_taken ∨ instr.type = .ins_branch_not_taken then
    s.bp.miss c.num_bp_entries c.gp_size instr.ip (instr.type = .ins_branch_taken)
  else (false, s.bp)

/-- One round of the loop that sends instructions to the reorder buffer. -/
def dispatch (curr_time : ℕ) : O3Core :=
  let q := s.o3queue.get c.o3queue_max_size 0
  if 0 < s.o3queue.size ∧ s.o3rob.size < c.o3rob_max_size - 3 ∧ q.state = .o3iqs_ready ∧
      q.ready_time ≤ curr_time then
    let x : Common := {
      instr := q.instr
      branch_miss := (s.predict c q.instr).1
      branch_dep := s.findOlder c curr_time (·.branch_miss)
      rr := s.registers c curr_time q.instr }
    let s := { s with bp := (s.predict c q.instr).2 }.record
      (.dispatched (s.history.fed.length - s.o3queue.size) q.instr)
    let s := s.fillEntries c curr_time x
    { s with
      o3queue := (s.o3queue.write (s.o3queue.slot c.o3queue_max_size 0)
        { q with state := .o3iqs_invalid }).pop c.o3queue_max_size }
  else s

/-! ## Issue -/

/-- The loop over the reorder buffer that issues its entries. -/
structure Scan where
  core : O3Core
  num_alu : ℕ := 0
  num_ldst : ℕ := 0
  num_ld : ℕ := 0
  num_st : ℕ := 0
  num_sse : ℕ := 0
  stop : Bool := false

/-- An entry executes, and its requests are sent. -/
def execute (curr_time i : ℕ) (e : O3ROB) (sends : List CoreSend) : O3Core :=
  let rob_idx := s.o3rob.slot c.o3rob_max_size i
  let s := { s with
    o3rob := s.o3rob.write rob_idx { e with state := .o3irs_executing }
    next_id := s.next_id + sends.length }.send sends
  { s with history := { s.history with outstanding := s.history.outstanding ++ [rob_idx] } }.record
    (.started (s.history.retired + i) curr_time sends)

/-- An entry completes by itself at a later time. -/
def finish (curr_time i : ℕ) (e : O3ROB) (ready_time : ℕ) : O3Core :=
  { s with
    o3rob := s.o3rob.write (s.o3rob.slot c.o3rob_max_size i)
      { e with state := .o3irs_completed, ready_time := ready_time } }
    |>.record (.started (s.history.retired + i) curr_time [])
    |>.record (.finished (s.history.retired + i) ready_time)

/-- The element of an active instruction. -/
def activeElement (e : O3ROB) (rob_entry : ℕ) : NocElement where
  id := s.next_id
  type := e.type.eventType
  address := BitVec.ofNat 64 e.memaddr
  dest_addr := BitVec.ofNat 64 e.updtdest
  src_addr1 := BitVec.ofNat 64 e.updtsrc1
  src_addr2 := BitVec.ofNat 64 e.updtsrc2
  lines := e.lines
  rlen := e.rlen
  nthreads := e.nthreads
  from_stack := [self c]
  th_id := c.num
  rob_entry := rob_entry

/-- The controller that an active instruction is sent to, or the network. -/
def toNetwork (e : O3ROB) (element : NocElement) : CoreSend :=
  if c.kernel_offloading then
    match c.host.art_scheme with
    | .art_naive => .hmc 0 element
    | .art_tid => .hmc (c.num % 4) element
    | .art_addr =>
      if e.type = .ins_art_get then .hmc (c.num % 4) element
      else .hmc (c.host.which_mc (BitVec.ofNat 64 e.updtsrc1)) element
  else .noc element

/-- What is sent for an active instruction: a multiplication has an element for each operand. -/
def activeSends (e : O3ROB) (rob_entry : ℕ) : List CoreSend :=
  let lqe := s.activeElement c e rob_entry
  if e.type = .ins_art_mult then
    [toNetwork c e { lqe with twin_lqe2 := some (s.next_id + 1) },
      toNetwork c e { lqe with id := s.next_id + 1, twin_lqe1 := some s.next_id }]
  else [toNetwork c e lqe]

/-- The latency of an instruction that does not access memory. -/
def latency (e : O3ROB) : ℕ :=
  match e.type with
  | .ins_lock => c.lock_t
  | .ins_unlock => c.unlock_t
  | .ins_barrier => c.barrier_t
  | .ins_x87 => c.sse_t
  | _ => if e.branch_miss then c.branch_miss_penalty + c.process_interval else c.process_interval

namespace Scan

variable (x : Scan)

def stopped : Scan := { x with stop := true }

def migrate (curr_time i : ℕ) (e : O3ROB) (ready_time : ℕ) (is_ready : Bool) : Scan :=
  let core := x.core.finish c curr_time i e ready_time
  { x with
    core := { core with
      is_migrate_ready := Function.update core.is_migrate_ready e.rw.1 is_ready } }

/-- An entry that has waited for its dependencies executes if there is a unit for it. -/
def ordinary (curr_time i : ℕ) (e : O3ROB) : Scan :=
  if e.memaddr = 0 ∧ x.num_alu < c.max_alu ∧ (e.type ≠ .ins_x87 ∨ x.num_sse < c.max_sse) then
    { x with
      core := x.core.finish c curr_time i e (curr_time + latency c e)
      num_alu := x.num_alu + 1
      num_sse := x.num_sse + if e.type = .ins_x87 then 1 else 0 }
  else if e.memaddr ≠ 0 ∧ x.num_ldst < c.max_ldst ∧
      (e.isread ∧ x.num_ld < c.max_ld ∨ e.isread = false ∧ x.num_st < c.max_st) then
    let type : EventType :=
      if c.bypass_tlb then (if e.isread then .et_read else .et_write) else .et_tlb_rd
    let lqe := x.core.accessElement c type e.memaddr (x.core.o3rob.slot c.o3rob_max_size i)
    { x with
      core := x.core.execute c curr_time i e [if c.bypass_tlb then .cachel1d lqe else .tlbl1d lqe]
      num_ldst := x.num_ldst + 1
      num_ld := x.num_ld + if e.isread then 1 else 0
      num_st := x.num_st + if e.isread then 0 else 1 }
  else x

/-- One round of the loop. -/
def issueAt (curr_time i : ℕ) : Except O3Error Scan :=
  let e := x.core.o3rob.get c.o3rob_max_size i
  if x.stop then pure x
  else if e.state = .o3irs_issued ∧ e.ready_time ≤ curr_time then
    if e.type = .ins_notify then
      if i = 0 then pure (x.migrate c curr_time i e (curr_time + c.barrier_t) true)
      else pure x.stopped
    else if e.type = .ins_waitfor then
      if i = 0 ∧ x.core.is_migrate_ready e.rw.1 then
        pure (x.migrate c curr_time i e (curr_time + c.process_interval) false)
      else pure x.stopped
    else if e.type.isActive then
      -- a gather comes after all updates
      if e.type = .ins_art_get ∧ i ≠ 0 then pure x
      else if e.type.isDot ∧ i = 0 ∧ e.mem_dep ≠ none then throw .assertion
      else if e.isHeld then pure x
      else
        let sends := x.core.activeSends c e (x.core.o3rob.slot c.o3rob_max_size i)
        let e := { e with ready_time := curr_time + c.process_interval }
        pure { x with core := x.core.execute c curr_time i e sends }
    else if e.isFree then pure (x.ordinary c curr_time i e)
    else if c.mimick_inorder then pure x.stopped
    else pure x
  else if c.mimick_inorder then pure x.stopped
  else pure x

end Scan

/-- The loop over the first `n` entries. -/
def issue (curr_time : ℕ) : ℕ → Except O3Error Scan
  | 0 => pure { core := s }
  | n + 1 => issue curr_time n >>= fun x => x.issueAt c curr_time n

/-! ## Wake-up and commit -/

/-- An entry waits no longer for the one in a slot. -/
def wakeEntry (rob_idx j : ℕ) : O3Core :=
  let woken := (s.o3rob.get c.o3rob_max_size j).wake rob_idx
  { s with o3rob := s.o3rob.write (s.o3rob.slot c.o3rob_max_size j) woken }

/-- The entries after one that completes now wait for it no longer. -/
def wakeAt (curr_time : ℕ) (s : O3Core) (i : ℕ) : O3Core :=
  let e := s.o3rob.get c.o3rob_max_size i
  if e.state = .o3irs_completed ∧ e.ready_time = curr_time then
    (List.range' (i + 1) (s.o3rob.size - (i + 1))).foldl
      (fun s j => s.wakeEntry c (s.o3rob.slot c.o3rob_max_size i) j) s
  else s

def wakeUp (curr_time : ℕ) : O3Core :=
  (List.range s.o3rob.size).foldl (wakeAt c curr_time) s

/-- One round of the loop that commits the oldest entry. -/
def commit (curr_time : ℕ) : O3Core :=
  let e := s.o3rob.get c.o3rob_max_size 0
  if 0 < s.o3rob.size ∧ e.state = .o3irs_completed ∧ e.ready_time ≤ curr_time then
    let s := { s with
      o3rob := (s.o3rob.write (s.o3rob.slot c.o3rob_max_size 0)
        { e with state := .o3irs_invalid }).pop c.o3rob_max_size }.record
      (.committed s.history.retired)
    { s with history := { s.history with retired := s.history.retired + 1 } }
  else s

/-! ## Events -/

/-- `process_event` goes back to the thread for more instructions. -/
def asksForMore : Bool := s.o3queue.size ≤ c.o3queue_max_size / 2 ∧ s.active

/-- The state in which the loop over the reorder buffer starts. -/
def beforeIssue (curr_time : ℕ) : O3Core :=
  (fun s => dispatch c s curr_time)^[c.max_issue_width] (s.load c)

/-- The time is recorded, and the queue is emptied if all instructions are skipped. -/
def arrive (curr_time : ℕ) : O3Core :=
  { s with
    o3queue := if c.skip_all_instrs then { s.o3queue with size := 0 } else s.o3queue
    history := { s.history with last_time := curr_time } }

/-- `process_event`; true asks the thread for more instructions. -/
def process_event (curr_time : ℕ) : Except O3Error (Bool × O3Core) :=
  let s := s.arrive c curr_time
  if s.asksForMore c then pure (true, s)
  else
    let s := s.beforeIssue c curr_time
    s.issue c curr_time s.o3rob.size >>= fun x =>
      pure (false, (fun s => commit c s curr_time)^[c.max_commit_width] (x.core.wakeUp c curr_time))

def aligned (event_time : ℕ) : ℕ :=
  if event_time % c.process_interval ≠ 0 then
    event_time + (c.process_interval - event_time % c.process_interval)
  else event_time

/-- One nack more. -/
def nacked : Except O3Error O3Core :=
  if c.consecutive_nack_threshold < s.num_consecutive_nacks + 1 then throw .assertion
  else pure { s with num_consecutive_nacks := s.num_consecutive_nacks + 1 }

/-- An entry of the queue whose line has come. -/
def fetchAt (event_time : ℕ) (address : BitVec 64) (s : O3Core) (i : ℕ) : O3Core :=
  let q := s.o3queue.get c.o3queue_max_size i
  if q.state = .o3iqs_being_loaded ∧ address = BitVec.ofNat 64 (lineOf c q.instr.ip) then
    let ready := { q with state := .o3iqs_ready, ready_time := aligned c event_time }
    { s with o3queue := s.o3queue.write (s.o3queue.slot c.o3queue_max_size i) ready }
  else s

/-- `add_req_event`: the answers to reads of instructions. -/
def add_req_event (event_time : ℕ) (local_event : NocElement) : Except O3Error O3Core :=
  let again := { local_event with from_stack := [self c], type := .et_read }
  match local_event.type with
  | .et_tlb_rd => pure (s.send [.cachel1i again])
  | .et_nack => (s.send [.cachel1i again]).nacked c
  | _ => pure ((List.range s.o3queue.size).foldl (fetchAt c event_time local_event.address)
      { s with num_consecutive_nacks := 0 })

/-- The entry of a reply completes. -/
def acknowledge (event_time : ℕ) (rob_entry : ℕ) : O3Core :=
  let e := s.o3rob.slots rob_entry
  let ready_time := aligned c event_time + if e.branch_miss then c.branch_miss_penalty else 0
  let s := { s with
    num_consecutive_nacks := 0
    o3rob := s.o3rob.write rob_entry
      { e with state := .o3irs_completed, ready_time := ready_time } }.record
    (.acknowledged (s.history.retired + s.o3rob.place c.o3rob_max_size rob_entry) ready_time)
  { s with history := { s.history with outstanding := s.history.outstanding.erase rob_entry } }

/-- `add_rep_event`: the answers to reads and writes of data and to active instructions. -/
def add_rep_event (event_time : ℕ) (local_event : NocElement) : Except O3Error O3Core :=
  let rob_entry := local_event.rob_entry
  let again := {
    local_event with
    from_stack := [self c]
    type := if (s.o3rob.slots rob_entry).isread then .et_read else .et_write }
  match local_event.type with
  | .et_tlb_rd => pure (s.send [.cachel1d again])
  | .et_nack => (s.send [.cachel1d again]).nacked c
  | .et_art_get | .et_art_add | .et_art_mult | .et_art_dot =>
    if rob_entry < c.o3rob_max_size ∧ (s.o3rob.slots rob_entry).state = .o3irs_executing then
      pure (s.acknowledge c event_time rob_entry)
    else throw .assertion
  | _ =>
    if rob_entry < c.o3rob_max_size then pure (s.acknowledge c event_time rob_entry)
    else throw .assertion

/-- What happens to a core: its thread gives it an instruction, is scheduled or is not, another
    core migrates a thread, the event queue calls it, or an answer comes. -/
inductive Event where
  | add_instruction (instr : O3Queue)
  | set_active (is_active : Bool)
  | migrate (is_migrate_ready : ℕ → Bool)
  | process_event (curr_time : ℕ)
  | add_req_event (event_time : ℕ) (local_event : NocElement)
  | add_rep_event (event_time : ℕ) (local_event : NocElement)

def step (s : O3Core) : Event → Except O3Error O3Core
  | .add_instruction instr => pure (s.add_instruction c instr)
  | .set_active is_active => pure { s with active := is_active }
  | .migrate is_migrate_ready => pure { s with is_migrate_ready := is_migrate_ready }
  | .process_event curr_time => (s.process_event c curr_time).map Prod.snd
  | .add_req_event event_time local_event => s.add_req_event c event_time local_event
  | .add_rep_event event_time local_event => s.add_rep_event c event_time local_event

end O3Core

end ActiveRouting

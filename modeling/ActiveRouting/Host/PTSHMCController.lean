import ActiveRouting.Host.LocalQueue
import ActiveRouting.Host.Transaction
import ActiveRouting.Library.Outcome
import Mathlib.Logic.Function.Basic

/-!
# The HMC controllers of the host

`PTSHMCController.cc`: the requests of the threads become transactions, and the
`ACT_GET` of a flow is answered when all controllers that have sent updates of
the flow have received their responses.
-/

namespace ActiveRouting

/-- `art_scheme_t`. -/
inductive ArtScheme where
  | art_naive | art_tid | art_addr
  deriving DecidableEq, Repr

/-- Whether the cubes are a mesh or a dragonfly. -/
inductive NetTopology where
  | MESH | DFLY
  deriving DecidableEq, Repr

/-- The parameters that the controllers read. -/
structure HostConfig where
  art_scheme : ArtScheme
  hmc_top : NetTopology
  /-- `mcsim->hmcs.size()`. -/
  hmcs_size : ℕ
  num_mcs : ℕ
  num_mcs_log2 : ℕ
  process_interval : ℕ
  cubes_per_mc : ℕ
  cube_interleave_base_bit : ℕ
  interleave_xor_base_bit : ℕ
  /-- The bits of the global event queue. -/
  geq_interleave_base_bit : ℕ
  geq_interleave_xor_base_bit : ℕ
  deriving DecidableEq, Repr

/-- The ways in which a controller stops the simulation. -/
inductive HostError where
  /-- The type of an event is not sent to the network. -/
  | unknownType
  /-- An assertion failed. -/
  | assertion
  /-- A vector is read outside its range, or an iterator at its end. -/
  | outOfRange
  deriving DecidableEq, Repr

/-- `PTSHMCController`.  A multimap is the list of its entries, which for one
    key are in the order of their insertion. -/
structure PTSHMCController where
  req_event : List (ℕ × LocalQueueElement) := []
  resp_queue : List LocalQueueElement := []
  active_update_event : List (ℕ × LocalQueueElement) := []
  active_gather_event : List (BitVec 64 × LocalQueueElement) := []
  pending_active_updates : List (BitVec 64 × LocalQueueElement) := []
  active_mult_twins : List (ℕ × Option ℕ) := []
  outstanding_req : List (ℕ × ℕ) := []
  tran_buf : List (ℕ × Transaction) := []

/-- The controllers with what they share.  From its destination address a flow
    has its number of threads, a count and a number for each controller, and
    its forest: the controllers that have received an update. -/
structure Host where
  hmcs : ℕ → PTSHMCController := fun _ => {}
  gather_barrier : BitVec 64 → Option ((ℤ × ℤ) × List ℤ) := fun _ => none
  active_forests : BitVec 64 → Option (List Bool) := fun _ => none
  tranGlobalID : ℕ := 0

namespace HostConfig

variable (c : HostConfig)

/-- `get_cube_num` of controller `num`. -/
def get_cube_num (num : ℕ) (addr : BitVec 64) : ℕ :=
  num * c.cubes_per_mc +
    ((addr >>> c.cube_interleave_base_bit) ^^^ (addr >>> c.interleave_xor_base_bit)).toNat %
      c.cubes_per_mc

/-- `GlobalEventQueue::which_mc`. -/
def which_mc (addr : BitVec 64) : ℕ :=
  ((addr >>> c.geq_interleave_base_bit) ^^^ (addr >>> c.geq_interleave_xor_base_bit)).toNat %
    c.num_mcs

/-- `get_active_cube_num`. -/
def get_active_cube_num (addr : BitVec 64) : ℕ := c.get_cube_num (c.which_mc addr) addr

/-- `get_src_cubeID`. -/
def get_src_cubeID (num : ℕ) : ℤ :=
  let src_cube : ℤ :=
    match c.cubes_per_mc with
    | 4 => num * 5
    | 16 => num * 21
    | _ => -1
  match c.hmc_top with
  | .DFLY => src_cube
  | .MESH =>
    match num with
    | 0 => 0
    | 1 => 3
    | 2 => 15
    | 3 => 12
    | _ => src_cube

/-- The flow of the updates of `dest_addr` that controller `num` sends. -/
def flow_id (num : ℕ) (dest_addr : BitVec 64) : BitVec 64 :=
  match c.art_scheme with
  | .art_naive => dest_addr
  | .art_tid | .art_addr => (dest_addr <<< c.num_mcs_log2) ||| BitVec.ofNat 64 num

/-- The destination address that is read from a flow. -/
def flow_dest (flow_id : BitVec 64) : BitVec 64 :=
  match c.art_scheme with
  | .art_naive => flow_id
  | .art_tid | .art_addr => flow_id >>> c.num_mcs_log2

/-- The next multiple of the process interval. -/
def alignTime (event_time : ℕ) : ℕ :=
  if event_time % c.process_interval ≠ 0 then
    event_time + (c.process_interval - event_time % c.process_interval)
  else event_time

end HostConfig

/-- Insertion into the multimap of transactions, after those of the same time. -/
def insertTran (time : ℕ) (tran : Transaction) : List (ℕ × Transaction) → List (ℕ × Transaction)
  | [] => [(time, tran)]
  | entry :: rest =>
    if entry.1 ≤ time then entry :: insertTran time tran rest else (time, tran) :: entry :: rest

namespace PTSHMCController

/-- The halves of a multiplication: whether `lqele` is to be sent.  The first
    half waits for the second. -/
def pairTwins (h : PTSHMCController) (lqele : LocalQueueElement) :
    Except HostError (PTSHMCController × Bool) :=
  let waiting (twin : Option ℕ) := h.active_mult_twins.find? fun entry => some entry.1 = twin
  if lqele.type ≠ .et_art_mult then pure (h, true)
  else if lqele.twin_lqe1 = none ∧ waiting lqele.twin_lqe2 = none then
    pure ({ h with active_mult_twins := h.active_mult_twins ++ [(lqele.id, lqele.twin_lqe2)] }, false)
  else if lqele.twin_lqe2 = none ∧ waiting lqele.twin_lqe1 = none then
    pure ({ h with active_mult_twins := h.active_mult_twins ++ [(lqele.id, lqele.twin_lqe1)] }, false)
  else
    let twin := if lqele.twin_lqe1 = none then lqele.twin_lqe2 else lqele.twin_lqe1
    match waiting twin with
    | some entry =>
      if entry.2 = some lqele.id then
        pure ({ h with
          active_mult_twins := h.active_mult_twins.filter fun entry => some entry.1 ≠ twin }, true)
      else throw .assertion
    | none => throw .assertion

/-- The transaction of an `ACT_GET` of `flow` that controller `num` sends. -/
def gatherTran (c : HostConfig) (num : ℕ) (dest_addr src_addr1 : BitVec 64) (tag : ℕ) :
    Transaction where
  transactionType := .ACTIVE_GET
  dest_address := c.flow_id num dest_addr
  src_address1 := src_addr1
  dataSize := 8
  src_cube := c.get_src_cubeID num
  dest_cube1 := c.get_src_cubeID num
  address := dest_addr
  nthreads := 1
  transactionID := tag

/-- The element that stands for an `ACT_GET` where no thread has issued one. -/
def dummyGet (lqele : LocalQueueElement) : LocalQueueElement where
  id := lqele.id
  type := .et_art_get
  address := lqele.address
  dest_addr := lqele.dest_addr
  nthreads := 1
  dummy := true

/-- Send the `ACT_GET` of the flow of `lqele` to the network, on behalf of the
    first thread that has issued it here, or of none. -/
def sendGather (c : HostConfig) (num event_time tag : ℕ) (lqele : LocalQueueElement)
    (h : PTSHMCController) : PTSHMCController :=
  match h.active_gather_event.find? fun entry => entry.1 = lqele.dest_addr with
  | some (_, first) =>
    { h with
      tran_buf := insertTran event_time (gatherTran c num lqele.dest_addr first.src_addr1 tag)
        h.tran_buf }
  | none =>
    { h with
      active_gather_event := h.active_gather_event ++ [(lqele.dest_addr, dummyGet lqele)]
      tran_buf := insertTran event_time (gatherTran c num lqele.dest_addr lqele.src_addr1 tag)
        h.tran_buf }

/-- The assertions of `sendGather`. -/
def gatherAsserts (c : HostConfig) (lqele : LocalQueueElement) (h : PTSHMCController) : Bool :=
  match h.active_gather_event.find? fun entry => entry.1 = lqele.dest_addr with
  | some (_, first) => !first.dummy
  | none => c.art_scheme ≠ .art_naive

/-- An `ACT_GET` waits for its answer. -/
def holdGet (h : PTSHMCController) (lqele : LocalQueueElement) : PTSHMCController :=
  { h with active_gather_event := h.active_gather_event ++ [(lqele.dest_addr, lqele)] }

/-- A transaction waits to be sent, and its request to be answered. -/
def addTran (h : PTSHMCController) (event_time : ℕ) (tran : Transaction) (lqele : LocalQueueElement)
    (isUpdate : Bool) : PTSHMCController :=
  { h with
    tran_buf := insertTran event_time tran h.tran_buf
    active_update_event :=
      if isUpdate then h.active_update_event ++ [(tran.transactionID, lqele)]
      else h.active_update_event
    req_event :=
      if isUpdate then h.req_event else h.req_event ++ [(tran.transactionID, lqele)] }

/-- The `ACT_GET`s of a flow are answered, and nothing of the flow remains. -/
def replyGather (c : HostConfig) (num : ℕ) (dest_addr : BitVec 64) (h : PTSHMCController) :
    PTSHMCController :=
  { h with
    resp_queue := h.resp_queue ++ (h.active_gather_event.filter fun entry =>
      entry.1 = dest_addr ∧ entry.2.dummy = false).map Prod.snd
    pending_active_updates :=
      h.pending_active_updates.filter fun entry => entry.1 ≠ c.flow_id num dest_addr
    active_gather_event := h.active_gather_event.filter fun entry => entry.1 ≠ dest_addr }

end PTSHMCController

namespace Host

variable (c : HostConfig)

def setHmc (m : Host) (num : ℕ) (h : PTSHMCController) : Host :=
  { m with hmcs := Function.update m.hmcs num h }

@[simp] theorem setHmc_self (m : Host) (num : ℕ) (h : PTSHMCController) :
    (m.setHmc num h).hmcs num = h := Function.update_self _ _ _

@[simp] theorem setHmc_of_ne {num num' : ℕ} (ne : num' ≠ num) (m : Host) (h : PTSHMCController) :
    (m.setHmc num h).hmcs num' = m.hmcs num' := Function.update_of_ne ne _ _

/-- `gather_barrier[flow] = barrier`. -/
def setBarrier (m : Host) (flow : BitVec 64) (barrier : (ℤ × ℤ) × List ℤ) : Host :=
  { m with gather_barrier := Function.update m.gather_barrier flow (some barrier) }

theorem setBarrier_self (m : Host) (flow : BitVec 64) (barrier : (ℤ × ℤ) × List ℤ) :
    (m.setBarrier flow barrier).gather_barrier flow = some barrier := Function.update_self _ _ _

theorem setBarrier_of_ne {flow flow' : BitVec 64} (ne : flow' ≠ flow) (m : Host)
    (barrier : (ℤ × ℤ) × List ℤ) :
    (m.setBarrier flow barrier).gather_barrier flow' = m.gather_barrier flow' :=
  Function.update_of_ne ne _ _

/-! ## Requests -/

/-- An `ACT_GET` is counted: the number of threads, the count and the numbers of
    the controllers. -/
def countGather (m : Host) (num : ℕ) (lqele : LocalQueueElement) :
    Except HostError ((ℤ × ℤ) × List ℤ) :=
  match m.gather_barrier lqele.dest_addr with
  | some ((nthreads, count), ports) =>
    if lqele.nthreads = nthreads ∧ count < lqele.nthreads then
      match ports[num]? with
      | some port => pure ((nthreads, count + 1), ports.set num (port + 1))
      | none => throw .outOfRange
    else throw .assertion
  | none =>
    if num < c.hmcs_size then
      pure ((lqele.nthreads, 1), (List.replicate c.hmcs_size 0).set num 1)
    else throw .outOfRange

/-- The bits of the forest of a flow.  A missing forest is created without any. -/
def readForest (m : Host) (dest_addr : BitVec 64) : Except HostError (List Bool) :=
  let forest := (m.active_forests dest_addr).getD []
  if c.hmcs_size ≤ forest.length then pure (forest.take c.hmcs_size) else throw .outOfRange

/-- The host after the controllers marked in `bits` have sent the `ACT_GET` of a flow. -/
def sendGathers (m : Host) (event_time : ℕ) (lqele : LocalQueueElement) (bits : List Bool) : Host :=
  { m with
    hmcs := fun num =>
      if bits[num]? = some true then
        (m.hmcs num).sendGather c num event_time (m.tranGlobalID + (bits.take num).count true) lqele
      else m.hmcs num
    gather_barrier := Function.update m.gather_barrier lqele.dest_addr
      (some ((lqele.nthreads, bits.count true), bits.map fun bit => if bit then 1 else 0))
    tranGlobalID := m.tranGlobalID + bits.count true }

/-- All threads have issued their `ACT_GET`: the controllers of the forest send it. -/
def startGather (m : Host) (event_time : ℕ) (lqele : LocalQueueElement) :
    Except HostError Host := do
  let bits ← m.readForest c lqele.dest_addr
  if (List.range c.hmcs_size).all fun num =>
      bits[num]? ≠ some true || PTSHMCController.gatherAsserts c lqele (m.hmcs num) then
    pure (m.sendGathers c event_time lqele bits)
  else throw .assertion

/-- An `ACT_GET` waits for its answer at controller `num`. -/
def holdGet (m : Host) (num : ℕ) (lqele : LocalQueueElement) : Host :=
  m.setHmc num ((m.hmcs num).holdGet lqele)

/-- `add_req_event` of an `ACT_GET`. -/
def addGather (m : Host) (num event_time : ℕ) (lqele : LocalQueueElement) :
    Except HostError Host := do
  let barrier ← m.countGather c num lqele
  let m := (m.holdGet num lqele).setBarrier lqele.dest_addr barrier
  if barrier.1.2 = lqele.nthreads then m.startGather c event_time lqele else pure m

/-- An update marks its controller in the forest of its flow. -/
def markForest (m : Host) (num : ℕ) (dest_addr : BitVec 64) : Except HostError Host :=
  let forest := (m.active_forests dest_addr).getD (List.replicate 4 false)
  if num < forest.length then
    pure { m with
      active_forests := Function.update m.active_forests dest_addr (some (forest.set num true)) }
  else throw .outOfRange

/-- The transaction of a request other than an `ACT_GET`, with its tag. -/
def newTran (num tag : ℕ) (lqele : LocalQueueElement) : TranType → Transaction
  | .MEM_READ =>
    { transactionType := .DATA_READ, address := lqele.address, dataSize := 64
      src_cube := c.get_src_cubeID num, dest_cube1 := c.get_cube_num num lqele.address
      transactionID := tag }
  | .MEM_WRITE | .MEM_EVICT =>
    { transactionType := .DATA_WRITE, address := lqele.address, dataSize := 64
      src_cube := c.get_src_cubeID num, dest_cube1 := c.get_cube_num num lqele.address
      transactionID := tag }
  | .PEI_DOT =>
    { transactionType := .PIM_DOT, address := lqele.address, dataSize := lqele.rlen
      src_cube := c.get_src_cubeID num, dest_cube1 := c.get_cube_num num lqele.address
      transactionID := tag }
  | .PEI_ATOMIC =>
    { transactionType := .PIM_ATOMIC, address := lqele.dest_addr, dataSize := lqele.rlen
      src_cube := c.get_src_cubeID num, dest_cube1 := c.get_cube_num num lqele.dest_addr
      transactionID := tag }
  | .ART_ADD =>
    { transactionType := .ACTIVE_ADD, dest_address := c.flow_id num lqele.dest_addr
      src_address1 := lqele.src_addr1, dataSize := lqele.rlen
      src_cube := c.get_src_cubeID num, dest_cube1 := c.get_active_cube_num lqele.src_addr1
      address := lqele.dest_addr, lines := lqele.lines, transactionID := tag }
  | .ART_DOT =>
    { transactionType := .ACTIVE_DOT, dest_address := c.flow_id num lqele.dest_addr
      src_address1 := lqele.src_addr2, dataSize := lqele.rlen
      src_cube := c.get_src_cubeID num, dest_cube1 := c.get_active_cube_num lqele.src_addr2
      address := lqele.dest_addr, transactionID := tag }
  | .ART_MULT =>
    { transactionType := .ACTIVE_MULT, dest_address := c.flow_id num lqele.dest_addr
      src_address1 := lqele.src_addr1, src_address2 := lqele.src_addr2, dataSize := lqele.rlen
      src_cube := c.get_src_cubeID num, dest_cube1 := c.get_cube_num num lqele.src_addr1
      dest_cube2 := c.get_cube_num num lqele.src_addr2
      address := lqele.dest_addr, lines := lqele.lines, transactionID := tag }
  | .ART_GET => PTSHMCController.gatherTran c num lqele.dest_addr lqele.src_addr1 tag

/-- Whether requests of a type are the updates of a flow. -/
def isUpdate : TranType → Bool
  | .ART_ADD | .ART_MULT | .ART_DOT => true
  | _ => false

/-- A transaction of controller `num` waits to be sent. -/
def addTran (m : Host) (num event_time : ℕ) (lqele : LocalQueueElement) (type : TranType) : Host :=
  { m.setHmc num ((m.hmcs num).addTran event_time (newTran c num m.tranGlobalID lqele type) lqele
      (isUpdate type)) with
    tranGlobalID := m.tranGlobalID + 1 }

/-- `add_req_event`. -/
def add_req_event (m : Host) (num event_time : ℕ) (lqele : LocalQueueElement) :
    Except HostError Host := do
  let (h, ready) ← (m.hmcs num).pairTwins lqele
  let m := m.setHmc num h
  if ready then
    match hmc_transaction_type lqele.type with
    | none => throw .unknownType
    | some .ART_GET => m.addGather c num (c.alignTime event_time) lqele
    | some type =>
      if isUpdate type then do
        let m ← m.markForest num lqele.dest_addr
        if lqele.nthreads = -1 then pure (m.addTran c num (c.alignTime event_time) lqele type)
        else throw .assertion
      else pure (m.addTran c num (c.alignTime event_time) lqele type)
  else pure m

/-! ## Responses -/

/-- The controllers that answer; under `art_naive` the loop ends after the first. -/
def replies (num : ℕ) : Bool :=
  num < c.hmcs_size ∧ (c.art_scheme = .art_naive → num = 0)

/-- All `ACT_GET`s of a flow are answered. -/
def answerFlow (m : Host) (dest_addr : BitVec 64) : Host :=
  { m with
    hmcs := fun num =>
      if replies c num then (m.hmcs num).replyGather c num dest_addr else m.hmcs num
    active_forests := Function.update m.active_forests dest_addr none
    gather_barrier := Function.update m.gather_barrier dest_addr none }

/-- `add_rep_event`: controller `num` has received the response of the flow of
    `dest_addr`. -/
def add_rep_event (m : Host) (num : ℕ) (dest_addr : BitVec 64) : Except HostError Host :=
  match m.gather_barrier dest_addr with
  | none => throw .assertion
  | some ((nthreads, count), ports) =>
    match ports[num]? with
    | none => throw .outOfRange
    | some port =>
      if count - port = 0 then
        if (List.range c.hmcs_size).all fun other =>
            !replies c other || ((ports.set num (-1))[other]? = some (-1) ∨
              (ports.set num (-1))[other]? = some 0) then
          pure (m.answerFlow c dest_addr)
        else throw .assertion
      else
        pure (m.setBarrier dest_addr ((nthreads, count - port), ports.set num (-1)))

end Host

/-! ## Processing -/

namespace PTSHMCController

/-- An update that goes to the network is acknowledged. -/
def sendUpdate (h : PTSHMCController) (tran : Transaction) : Except HostError PTSHMCController :=
  match h.active_update_event.find? fun entry => entry.1 = tran.transactionID with
  | some (_, lqele) =>
    pure { h with
      pending_active_updates := h.pending_active_updates ++ [(tran.dest_address, lqele)]
      active_update_event :=
        h.active_update_event.filter fun entry => entry.1 ≠ tran.transactionID }
  | none => throw .assertion

/-- Another request is outstanding from now on. -/
def sendRequest (h : PTSHMCController) (curr_time : ℕ) (tran : Transaction) : PTSHMCController :=
  { h with outstanding_req := h.outstanding_req ++ [(tran.transactionID, curr_time)] }

/-- What the controller notes of the transaction that it sends. -/
def noteTran (h : PTSHMCController) (curr_time : ℕ) (tran : Transaction) :
    Except HostError PTSHMCController :=
  match tran.transactionType with
  | .ACTIVE_ADD | .ACTIVE_MULT | .ACTIVE_DOT => h.sendUpdate tran
  | .ACTIVE_GET => pure h
  | .DATA_READ | .PIM_DOT | .PIM_ATOMIC => pure (h.sendRequest curr_time tran)
  | .DATA_WRITE =>
    match h.req_event.find? fun entry => entry.1 = tran.transactionID with
    | none => throw .outOfRange
    | some (_, lqele) =>
      if lqele.type ∈ [.et_write, .et_write_nd, .et_s_rd_wr, .et_evict, .et_evict_nd,
          .et_dir_evict] then pure (h.sendRequest curr_time tran)
      else throw .assertion
  | _ => throw .assertion

/-- The head of `tran_buf` is handed to the network, if its time has come and
    the network accepts it. -/
def sendTran (h : PTSHMCController) (curr_time : ℕ) (accepts : Bool) :
    Except HostError (PTSHMCController × Option Transaction) :=
  match h.tran_buf with
  | [] => pure (h, none)
  | (time, tran) :: rest =>
    if time ≤ curr_time ∧ accepts then do
      let h ← h.noteTran curr_time tran
      pure ({ h with tran_buf := rest }, some tran)
    else pure (h, none)

/-- A request other than an update has been served. -/
def finishRequest (h : PTSHMCController) (req_id : ℕ) : Except HostError PTSHMCController :=
  match h.outstanding_req.find? fun entry => entry.1 = req_id with
  | none => throw .assertion
  | some (_, issue_time) =>
    -- the source compares the issue time with the numbers of the four active events
    if issue_time ∈ [30, 31, 32, 33] then throw .assertion
    else
      match h.req_event.find? fun entry => entry.1 = req_id with
      | none => throw .assertion
      | some (_, lqele) =>
        if hmc_transaction_type lqele.type ∈ [some .MEM_READ, some .MEM_WRITE, some .MEM_EVICT,
            some .PEI_DOT, some .PEI_ATOMIC] then
          pure { h with
            outstanding_req := h.outstanding_req.eraseP fun entry => entry.1 = req_id
            resp_queue := h.resp_queue ++ [lqele]
            req_event := h.req_event.filter fun entry => entry.1 ≠ req_id }
        else throw .unknownType

/-- Whether the answer of an element goes to its thread; others go to the
    directory or end here. -/
def answersThread : EventType → Option Bool
  | .et_rd_dir_info_req | .et_rd_dir_info_rep | .et_read | .et_e_rd | .et_s_rd
  | .et_evict | .et_dir_evict | .et_s_rd_wr => some false
  | .et_art_get | .et_pei_dot | .et_pei_atomic => some true
  | _ => none

/-- The element at the head of the response queue, if it goes to the thread. -/
def respond (h : PTSHMCController) : Except HostError (PTSHMCController × Option LocalQueueElement) :=
  match h.resp_queue with
  | [] => pure (h, none)
  | lqele :: rest =>
    match answersThread lqele.type with
    | none => throw .assertion
    | some toThread => pure ({ h with resp_queue := rest }, if toThread then some lqele else none)

end PTSHMCController

namespace Host

variable (c : HostConfig)

/-- The first of the served transactions of controller `num`. -/
def takeServed (m : Host) (num : ℕ) (served_trans : List (BitVec 64 × PacketCommandType)) :
    Except HostError Host :=
  match served_trans with
  | [] => pure m
  | (served, .ACT_GET) :: _ => m.add_rep_event c num (c.flow_dest served)
  | (served, _) :: _ => do
    let h ← (m.hmcs num).finishRequest served.toNat
    pure (m.setHmc num h)

end Host

end ActiveRouting

import ActiveRouting.Buffer.CubeTails
import ActiveRouting.Buffer.MasterRuns
import ActiveRouting.Library.Run
import ActiveRouting.Link.LinkSystem

/-!
# The packet buffers of the memory network

The buffers of the HMC controllers, links, crossbar switches and vaults, each
component with the calls that its neighbours and its own `Update` make.
-/

namespace ActiveRouting

open Blocks Outcome Transition

/-- The buffers of a `DualVectorObject`: transactions or packets downstream, packets
    upstream and for the active-routing engine of a vault. -/
structure DualVectors (α : Type) where
  downBuffers : List (Option α) := []
  upBuffers : PacketVector := []
  artBuffers : PacketVector := []

namespace DualVectors

variable {α : Type}

def setDown (d : DualVectors α) (slots : List (Option α)) : DualVectors α :=
  { d with downBuffers := slots }

def setUp (d : DualVectors α) (slots : PacketVector) : DualVectors α := { d with upBuffers := slots }

def setArt (d : DualVectors α) (slots : PacketVector) : DualVectors α :=
  { d with artBuffers := slots }

/-- `ReceiveDown`, `ReceiveUp` and `ReceiveArt`. -/
def receive (size : α → ℕ) (bufferMax : ℕ) (slots : List (Option α)) (element : α) :
    List (Option α) :=
  if slots.length + size element ≤ bufferMax then slots ++ block size element else slots

/-- The head of a buffer is handled, and leaves it or not. -/
def takeHead (size : α → ℕ) (leaves : Bool) :
    List (Option α) → Except VectorError (List (Option α))
  | [] => pure []
  | none :: _ => throw .headIsNull
  | some head :: rest =>
    pure (if leaves then eraseAt (some head :: rest) 0 (size head) else some head :: rest)

/-- An element at index `i` of a loop over a buffer; `NULL`s are passed over. -/
def takeAt (size : α → ℕ) (leaves : Bool) (slots : List (Option α)) (i : ℕ) : List (Option α) :=
  match slots[i]? with
  | some (some element) => if leaves then eraseAt slots i (size element) else slots
  | _ => slots

/-- What is done to the buffers: an HMC controller and a link slave send the heads of
    both, a vault converts packets anywhere in its down buffer, sends the head of its
    up buffer and consumes the head of its art buffer. -/
inductive Call (α : Type) where
  | receiveDown (element : α)
  | receiveUp (packet : Packet)
  | receiveArt (packet : Packet)
  | sendDown (leaves : Bool)
  | convert (i : ℕ) (leaves : Bool)
  | sendUp (leaves : Bool)
  | takeArt (leaves : Bool)

def call (size : α → ℕ) (downMax upMax : ℕ) (d : DualVectors α) :
    Call α → Except VectorError (DualVectors α)
  | .receiveDown element => pure (d.setDown (receive size downMax d.downBuffers element))
  | .receiveUp packet => pure (d.setUp (receive Packet.LNG upMax d.upBuffers packet))
  | .receiveArt packet => pure (d.setArt (receive Packet.LNG upMax d.artBuffers packet))
  | .sendDown leaves => do
    let slots ← takeHead size leaves d.downBuffers
    pure (d.setDown slots)
  | .convert i leaves => pure (d.setDown (takeAt size leaves d.downBuffers i))
  | .sendUp leaves => do
    let slots ← takeHead Packet.LNG leaves d.upBuffers
    pure (d.setUp slots)
  | .takeArt leaves => do
    let slots ← takeHead Packet.LNG leaves d.artBuffers
    pure (d.setArt slots)

/-- The buffers are sequences of elements with their tails. -/
structure Tailed (size : α → ℕ) (d : DualVectors α) : Prop where
  down : IsBlocks size d.downBuffers
  up : IsBlocks Packet.LNG d.upBuffers
  art : IsBlocks Packet.LNG d.artBuffers

/-- What is received has a length. -/
def Call.Allowed (size : α → ℕ) : Call α → Prop
  | .receiveDown element => 0 < size element
  | .receiveUp packet => 0 < packet.LNG
  | .receiveArt packet => 0 < packet.LNG
  | _ => True

variable {size : α → ℕ}

instance : DecidablePred (Call.Allowed size)
  | .receiveDown _ | .receiveUp _ | .receiveArt _ => inferInstanceAs (Decidable (0 < _))
  | .sendDown _ | .convert _ _ | .sendUp _ | .takeArt _ => .isTrue trivial

theorem tailed_new : Tailed size {} := ⟨isBlocks_nil, isBlocks_nil, isBlocks_nil⟩

theorem receive_isBlocks {bufferMax : ℕ} {slots : List (Option α)} {element : α}
    (isBlocks : IsBlocks size slots) (positive : 0 < size element) :
    IsBlocks size (receive size bufferMax slots element) := by
  rw [receive]
  split
  · exact isBlocks.push positive
  · exact isBlocks

theorem takeHead_isBlocks {leaves : Bool} : ∀ {slots : List (Option α)}, IsBlocks size slots →
    Yields (IsBlocks size) VectorError.OfTails (takeHead size leaves slots)
  | [], isBlocks => Yields.pure isBlocks
  | none :: _, isBlocks => isBlocks.head_ne_none.elim
  | some head :: rest, isBlocks => by
    rw [takeHead]
    cases leaves with
    | false => exact Yields.pure isBlocks
    | true => exact Yields.pure (isBlocks.eraseAt rfl)

theorem takeAt_isBlocks {leaves : Bool} {slots : List (Option α)} (isBlocks : IsBlocks size slots)
    (i : ℕ) : IsBlocks size (takeAt size leaves slots i) := by
  rw [takeAt]
  split
  · rename_i element found
    split
    · exact isBlocks.eraseAt found
    · exact isBlocks
  · exact isBlocks

theorem call_tailed {d : DualVectors α} (tailed : Tailed size d) (downMax upMax : ℕ)
    (call : Call α) (allowed : call.Allowed size) :
    Yields (Tailed size) VectorError.OfTails (d.call size downMax upMax call) := by
  cases call with
  | receiveDown element =>
    exact Yields.pure { tailed with down := receive_isBlocks tailed.down allowed }
  | receiveUp packet =>
    exact Yields.pure { tailed with up := receive_isBlocks tailed.up allowed }
  | receiveArt packet =>
    exact Yields.pure { tailed with art := receive_isBlocks tailed.art allowed }
  | sendDown leaves =>
    apply (takeHead_isBlocks tailed.down).bind
    intro slots isBlocks
    exact Yields.pure { tailed with down := isBlocks }
  | convert i leaves =>
    exact Yields.pure { tailed with down := takeAt_isBlocks tailed.down i }
  | sendUp leaves =>
    apply (takeHead_isBlocks tailed.up).bind
    intro slots isBlocks
    exact Yields.pure { tailed with up := isBlocks }
  | takeArt leaves =>
    apply (takeHead_isBlocks tailed.art).bind
    intro slots isBlocks
    exact Yields.pure { tailed with art := isBlocks }

end DualVectors

/-! ## The network -/

/-- The components of a memory network, as far as their buffers are concerned. -/
structure BufferSystem where
  hmcControllers : ℕ → DualVectors Transaction := fun _ => {}
  linkMasters : ℕ → MasterVectors
  linkSlaves : ℕ → DualVectors Packet := fun _ => {}
  crossbarSwitches : ℕ → CrossbarSwitch
  vaultControllers : ℕ → DualVectors Packet := fun _ => {}

/-- The ways in which a component stops the simulation. -/
inductive BufferError where
  | vector (error : VectorError)
  | cube (error : CubeError)
  deriving DecidableEq, Repr

/-- The size of a transaction in the buffer of an HMC controller. -/
def transactionLNG (_ : Transaction) : ℕ := 1

structure BufferConfig where
  crcCheck : Bool
  downstream : ℕ → Bool
  cubes : ℕ → CubeConfig

namespace BufferSystem

inductive Call where
  | hmcController (n : ℕ) (call : DualVectors.Call Transaction)
  | linkMaster (n : ℕ) (call : MasterVectors.Call)
  | linkSlave (n : ℕ) (call : DualVectors.Call Packet)
  | crossbarSwitch (n : ℕ) (action : CrossbarSwitch.Action)
  | vaultController (n : ℕ) (call : DualVectors.Call Packet)

def liftVector {α : Type} : Except VectorError α → Except BufferError α :=
  Except.mapError .vector

def liftCube {α : Type} : Except CubeError α → Except BufferError α :=
  Except.mapError .cube

def setHmcController (sys : BufferSystem) (n : ℕ) (d : DualVectors Transaction) : BufferSystem :=
  { sys with hmcControllers := Function.update sys.hmcControllers n d }

def setLinkMaster (sys : BufferSystem) (n : ℕ) (v : MasterVectors) : BufferSystem :=
  { sys with linkMasters := Function.update sys.linkMasters n v }

def setLinkSlave (sys : BufferSystem) (n : ℕ) (d : DualVectors Packet) : BufferSystem :=
  { sys with linkSlaves := Function.update sys.linkSlaves n d }

def setCrossbarSwitch (sys : BufferSystem) (n : ℕ) (s : CrossbarSwitch) : BufferSystem :=
  { sys with crossbarSwitches := Function.update sys.crossbarSwitches n s }

def setVaultController (sys : BufferSystem) (n : ℕ) (d : DualVectors Packet) : BufferSystem :=
  { sys with vaultControllers := Function.update sys.vaultControllers n d }

variable (c : BufferConfig)

def init : BufferSystem where
  linkMasters n := { registers := { downstream := c.downstream n } }
  crossbarSwitches n := CrossbarSwitch.start (c.cubes n)

def step (sys : BufferSystem) : Call → Except BufferError BufferSystem
  | .hmcController n call => do
    let d ← liftVector ((sys.hmcControllers n).call transactionLNG maxReqBuf maxLinkBuf call)
    pure (sys.setHmcController n d)
  | .linkMaster n call => do
    let v ← liftVector ((sys.linkMasters n).call c.crcCheck call)
    pure (sys.setLinkMaster n v)
  | .linkSlave n call => do
    let d ← liftVector ((sys.linkSlaves n).call Packet.LNG maxLinkBuf maxLinkBuf call)
    pure (sys.setLinkSlave n d)
  | .crossbarSwitch n action => do
    let (s, _) ← liftCube ((sys.crossbarSwitches n).act (c.cubes n) action)
    pure (sys.setCrossbarSwitch n s)
  | .vaultController n call => do
    let d ← liftVector ((sys.vaultControllers n).call Packet.LNG maxVltBuf maxVltBuf call)
    pure (sys.setVaultController n d)

/-- Every buffer of the network is a sequence of packets with their tails. -/
structure Tailed (sys : BufferSystem) : Prop where
  hmcControllers : ∀ n, (sys.hmcControllers n).Tailed transactionLNG
  linkMasters : ∀ n, (sys.linkMasters n).Tailed c.crcCheck
  linkSlaves : ∀ n, (sys.linkSlaves n).Tailed Packet.LNG
  crossbarSwitches : ∀ n, (sys.crossbarSwitches n).Tailed
  vaultControllers : ∀ n, (sys.vaultControllers n).Tailed Packet.LNG

/-- What the calls keep to. -/
def Allowed (sys : BufferSystem) (call : Call) (_ : BufferSystem) : Prop :=
  match call with
  | .hmcController _ call => call.Allowed transactionLNG
  | .linkMaster n call => call.Allowed c.crcCheck (sys.linkMasters n)
  | .linkSlave _ call => call.Allowed Packet.LNG
  | .crossbarSwitch _ action => action.Allowed
  | .vaultController _ call => call.Allowed Packet.LNG

/-- The errors of a component that finds a `NULL` where a packet is, or a packet where the
    retry buffer is empty. -/
def OfTails : BufferError → Prop
  | .vector error => error.OfTails
  | .cube _ => False

variable {c}

theorem tailed_init : (init c).Tailed c where
  hmcControllers _ := DualVectors.tailed_new
  linkMasters n := MasterVectors.tailed_init c.crcCheck (c.downstream n)
  linkSlaves _ := DualVectors.tailed_new
  crossbarSwitches n := CrossbarSwitch.tailed_start (c.cubes n)
  vaultControllers _ := DualVectors.tailed_new

/-- What holds of every component still holds when one of them is replaced by one that
    has the property. -/
theorem forall_update {α : Type} {P : ℕ → α → Prop} {table : ℕ → α} (all : ∀ n, P n (table n))
    {n : ℕ} {component : α} (holds : P n component) :
    ∀ m, P m (Function.update table n component m) := by
  intro m
  by_cases same : m = n
  · subst same
    rwa [Function.update_self]
  · rw [Function.update_of_ne same]
    exact all m

theorem liftVector_yields {α : Type} {wanted : α → Prop} {x : Except VectorError α}
    (yields : Yields wanted VectorError.OfTails x) : Yields wanted OfTails (liftVector x) :=
  yields.mapError fun _ isTail => isTail

theorem liftCube_yields {α : Type} {wanted : α → Prop} {x : Except CubeError α}
    (yields : Yields wanted (fun _ => False) x) : Yields wanted OfTails (liftCube x) :=
  yields.mapError fun _ isTail => isTail

theorem step_tailed {sys : BufferSystem} (tailed : sys.Tailed c) (call : Call)
    (allowed : Allowed c sys call sys) : Yields (Tailed c) OfTails (sys.step c call) := by
  cases call with
  | hmcController n call =>
    have keeps := DualVectors.call_tailed (tailed.hmcControllers n) maxReqBuf maxLinkBuf call allowed
    rw [step]
    apply (liftVector_yields keeps).bind
    intro d tailed'
    exact Yields.pure
      { tailed with hmcControllers := forall_update tailed.hmcControllers tailed' }
  | linkMaster n call =>
    have keeps := MasterVectors.call_keeps (tailed.linkMasters n) call allowed
    rw [step]
    apply (liftVector_yields keeps).bind
    intro v tailed'
    exact Yields.pure { tailed with linkMasters := forall_update tailed.linkMasters tailed' }
  | linkSlave n call =>
    have keeps := DualVectors.call_tailed (tailed.linkSlaves n) maxLinkBuf maxLinkBuf call allowed
    rw [step]
    apply (liftVector_yields keeps).bind
    intro d tailed'
    exact Yields.pure { tailed with linkSlaves := forall_update tailed.linkSlaves tailed' }
  | crossbarSwitch n action =>
    have keeps := CrossbarSwitch.act_tailed (k := c.cubes n) (tailed.crossbarSwitches n) action
      allowed
    rw [step]
    apply (liftCube_yields keeps).bind
    intro done tailed'
    exact Yields.pure
      { tailed with crossbarSwitches := forall_update tailed.crossbarSwitches tailed' }
  | vaultController n call =>
    have keeps := DualVectors.call_tailed (tailed.vaultControllers n) maxVltBuf maxVltBuf call
      allowed
    rw [step]
    apply (liftVector_yields keeps).bind
    intro d tailed'
    exact Yields.pure
      { tailed with vaultControllers := forall_update tailed.vaultControllers tailed' }

/-- In every run whose retry pointers point behind packets that are still in the retry
    buffer, and in which a retry is started only while there is a packet to be retried,
    every buffer is a sequence of packets with their tails, and no component finds a
    `NULL` at the head of a buffer or a packet in an empty slot of the retry buffer. -/
theorem buffers_keep_tails {calls : List Call} {sys : BufferSystem}
    (run : Run (step c) (Allowed c) (init c) calls sys) :
    sys.Tailed c ∧ ∀ call, Allowed c sys call sys →
      sys.step c call ≠ .error (.vector .headIsNull) ∧
        sys.step c call ≠ .error (.vector (.link .retryOccupied)) := by
  have tailed : sys.Tailed c := by
    apply run.invariant tailed_init
    intro sys call sys' tailed stepped allowed
    have yields := step_tailed tailed call allowed
    rw [stepped] at yields
    exact yields
  refine ⟨tailed, fun call allowed => ?_⟩
  have yields := step_tailed tailed call allowed
  constructor
  · intro failed
    rw [failed] at yields
    exact yields (.inl rfl)
  · intro failed
    rw [failed] at yields
    exact yields (.inr rfl)

instance (sys sys' : BufferSystem) : ∀ call, Decidable (Allowed c sys call sys')
  | .hmcController _ call => inferInstanceAs (Decidable (call.Allowed transactionLNG))
  | .linkMaster n call => inferInstanceAs (Decidable (call.Allowed c.crcCheck (sys.linkMasters n)))
  | .linkSlave _ call => inferInstanceAs (Decidable (call.Allowed Packet.LNG))
  | .crossbarSwitch _ action => inferInstanceAs (Decidable action.Allowed)
  | .vaultController _ call => inferInstanceAs (Decidable (call.Allowed Packet.LNG))

/-- A network that checks CRCs. -/
def checked : BufferConfig where
  crcCheck := true
  downstream _ := true
  cubes _ := CrossbarSwitch.smallCube

/-- A write crosses a link: it is saved in the retry buffer until it is acknowledged, and
    reaches a vault. -/
def writeCrosses : List Call :=
  let write : Packet :=
    { packetType := .REQUEST, CMD := .WR32, LNG := 3, DESTCUB := 0, bufPopDelay := 0 }
  [.linkMaster 0 (.receiveDown write), .linkMaster 0 .update, .linkMaster 0 .update,
    .linkMaster 0 .update, .linkSlave 0 (.receiveDown write),
    .linkMaster 0 (.updateRetryPointer { write with RRP := 3 }), .linkSlave 0 (.sendDown true),
    .crossbarSwitch 0 (.receiveDown 0 write),
    .crossbarSwitch 0 (.visitDown 0 0 CrossbarSwitch.allReceive),
    .vaultController 0 (.receiveDown write)]

theorem buffers_keep_tails_writeCrosses :
    ∃ sys, Run (step checked) (Allowed checked) (init checked) writeCrosses sys ∧
      (sys.vaultControllers 0).downBuffers.length = 3 ∧
      (sys.linkMasters 0).registers.retBufReadP = 3 ∧ sys.Tailed checked := by
  have executed : ((execute (step checked) (Allowed checked) (init checked) writeCrosses).map
      fun sys => ((sys.vaultControllers 0).downBuffers.length,
        (sys.linkMasters 0).registers.retBufReadP)) = some (3, 3) := by decide +kernel
  obtain ⟨sys, executed, seen⟩ := Option.map_eq_some_iff.mp executed
  obtain ⟨length, readP⟩ := Prod.mk.inj seen
  exact ⟨sys, execute_run executed, length, readP, (buffers_keep_tails (execute_run executed)).1⟩

end BufferSystem

/-! ## Retry pointers that are late -/

namespace LinkSystem

open MasterVectors

/-- Two requests go one way while a response waits on the link of the other way; it was
    numbered before the first request arrived.  The second request arrives with an error, and
    the retry sequence for it is sent before the response. -/
def lateResponse : List Action :=
  let request : Packet := { packetType := .REQUEST, CMD := .RD16 }
  let cycles (n : ℕ) (action : Action) := List.replicate n action
  [.receiveUp true { packetType := .RESPONSE, CMD := .RD_RS, LNG := 5 }] ++
  cycles 3 (.masterUpdate true) ++ cycles 2 (.linkUpdate true false true) ++
  [.receiveUp true { packetType := .RESPONSE, CMD := .WR_RS }] ++ cycles 3 (.masterUpdate true) ++
  [.receiveDown false request] ++ cycles 3 (.masterUpdate false) ++
  cycles 9 (.linkUpdate false false true) ++ cycles 3 (.slaveUpdate true false false) ++
  [.receiveDown false request] ++ cycles 3 (.masterUpdate false) ++
  cycles 9 (.linkUpdate false true true) ++ cycles 3 (.slaveUpdate true false false) ++
  -- the retry sequence overtakes the response
  cycles 70 (.linkUpdate true false true) ++ cycles 5 (.slaveUpdate false true true) ++
  cycles 42 (.linkUpdate false false true) ++ cycles 3 (.slaveUpdate true false false) ++
  cycles 4 (.masterUpdate false) ++
  cycles 10 (.linkUpdate true false true) ++ cycles 2 (.slaveUpdate false true true)

/-- The second request arrives with an error once more. -/
def secondError : List Action :=
  let cycles (n : ℕ) (action : Action) := List.replicate n action
  cycles 20 (.linkUpdate false true true) ++ cycles 3 (.masterUpdate false) ++
  cycles 3 (.slaveUpdate true false false) ++ cycles 30 (.linkUpdate true false true) ++
  cycles 2 (.slaveUpdate false true true)

/-- A retry pointer that arrives late empties the retry buffer: the request that is still to
    be acknowledged is lost, and when it is asked for, the first retry packet is `NULL`. -/
theorem lateResponse_empties :
    (∃ sys, Run (step true) (fun _ _ _ => True) (init not id) lateResponse sys ∧
        ¬ RetryTailed true (sys.side false).master) ∧
      ∃ sys, Run (step true) (fun _ _ _ => True) (init not id) (lateResponse ++ secondError) sys ∧
        sys.step true (.slaveUpdate false true true) = .error .retryNull := by
  have executed : ((execute (step true) (fun _ _ _ => True) (init not id) lateResponse).map
      fun sys => ((sys.side false).master.retBufReadP, (sys.side false).master.retBufWriteP,
        (sys.side false).master.retryBuffers (sys.side false).master.retBufReadP)) =
        some (0, 2, none) := by decide +kernel
  have executed_error : ((execute (step true) (fun _ _ _ => True) (init not id)
      (lateResponse ++ secondError)).map fun sys =>
        match sys.step true (.slaveUpdate false true true) with
        | .error e => some e
        | .ok _ => none) = some (some .retryNull) := by decide +kernel
  constructor
  · obtain ⟨sys, executed, seen⟩ := Option.map_eq_some_iff.mp executed
    obtain ⟨readP, seen⟩ := Prod.mk.inj seen
    obtain ⟨writeP, empty⟩ := Prod.mk.inj seen
    refine ⟨sys, execute_run executed, ?_⟩
    rintro ⟨packets, ring⟩
    -- nothing is at the read pointer, although the pointers say that there is
    have noPackets : packets = [] := by
      rw [← List.head?_eq_none_iff, ← ring.head]
      exact empty
    have same := ring.pointers_eq.mpr noPackets
    rw [readP, writeP] at same
    contradiction
  · obtain ⟨sys, executed, seen⟩ := Option.map_eq_some_iff.mp executed_error
    refine ⟨sys, execute_run executed, ?_⟩
    cases stepped : sys.step true (.slaveUpdate false true true) with
    | ok next =>
      rw [stepped] at seen
      cases seen
    | error e =>
      rw [stepped] at seen
      cases seen
      rfl

end LinkSystem

end ActiveRouting

import ActiveRouting.Cube.CrossbarSwitch
import ActiveRouting.Library.Outcome
import Mathlib.Tactic.Ring

/-!
# Operand buffers of a vault

The flow table and the operand buffers of `VLPVaultController.cpp`.  A multiplication
reserves an operand buffer of the vault that computes it before its packet is forwarded,
and frees the buffer if the packet is refused.
-/

namespace ActiveRouting

open Outcome

/-- `VaultFlowEntry`, without the partial result. -/
structure VaultFlowEntry where
  opcode : Opcode := .INVALID
  req_count : BitVec 64 := 0
  rep_count : BitVec 64 := 0
  parent : ℤ := -1
  g_flag : Bool := false
  deriving DecidableEq, Repr

/-- `VaultOperandEntry`. -/
structure VaultOperandEntry where
  flowID : BitVec 64 := 0
  src_addr1 : BitVec 64 := 0
  src_addr2 : BitVec 64 := 0
  op1_ready : Bool := false
  op2_ready : Bool := false
  ready : Bool := false
  multStageCounter : ℕ := 5
  counted : Bool := false
  deriving DecidableEq, Repr

namespace VaultOperandEntry

/-- Neither address is set and no operand has arrived. -/
def isClear (e : VaultOperandEntry) : Bool :=
  e.src_addr1 = 0 ∧ e.src_addr2 = 0 ∧ !e.op1_ready ∧ !e.op2_ready ∧ !e.ready

def reserve (e : VaultOperandEntry) (flow src1 src2 : BitVec 64) : VaultOperandEntry :=
  { e with flowID := flow, src_addr1 := src1, src_addr2 := src2 }

/-- What `FreeOperandBuffer` makes of an entry. -/
def release (e : VaultOperandEntry) (numMultStages : ℕ) : VaultOperandEntry where
  multStageCounter := numMultStages
  counted := e.counted

end VaultOperandEntry

/-- The tables and counters of a vault.  `cubeID` is that of the crossbar switch once the
    vault has had a flow. -/
structure VLPVault where
  flowTable : BitVec 64 → Option VaultFlowEntry := fun _ => none
  operandBuffers : List VaultOperandEntry
  freeOperandBufIDs : List ℕ
  numFlows : ℤ := 0
  numOperands : ℤ := 0
  cubeID : ℤ := -1
  numMultStages : ℕ := 5

/-- The ways in which a vault stops the simulation. -/
inductive VLPError where
  | assertion
  /-- An operand buffer id outside the operand buffers. -/
  | operandBuffer
  deriving DecidableEq, Repr

namespace VLPVault

/-- A request is counted in the entry of its flow, which a new flow gets. -/
def addRequest (v : VLPVault) (cubeID : ℤ) (dest_addr : BitVec 64) (opcode : Opcode) :
    Except VLPError VLPVault :=
  match v.flowTable dest_addr with
  | none =>
    pure { v with
      flowTable := Function.update v.flowTable dest_addr
        (some { opcode := opcode, parent := cubeID, req_count := 1 })
      numFlows := v.numFlows + 1
      cubeID := cubeID }
  | some flow =>
    if flow.parent ≠ cubeID then throw .assertion
    else
      pure { v with
        flowTable := Function.update v.flowTable dest_addr
          (some { flow with req_count := flow.req_count + 1 }) }

/-- The operand buffer gets the flow and the addresses of its operands. -/
def fill (v : VLPVault) (operand_buf_id : ℕ) (flow src1 src2 : BitVec 64) :
    Except VLPError VLPVault :=
  match v.operandBuffers[operand_buf_id]? with
  | none => throw .operandBuffer
  | some operandEntry =>
    if operandEntry.isClear then
      pure { v with operandBuffers :=
        v.operandBuffers.set operand_buf_id (operandEntry.reserve flow src1 src2) }
    else throw .assertion

/-- `OperandBufferStatus`: the operand buffer that is reserved for a packet, in the cube of
    the crossbar switch.  The packet gets its id as `vaultOperandBufID`. -/
def OperandBufferStatus (v : VLPVault) (xbarCube : ℤ) (pkt : Packet) :
    Except VLPError (Option (ℕ × VLPVault)) :=
  match v.freeOperandBufIDs with
  | [] => pure none
  | operand_buf_id :: rest => do
    let counted := { v with numOperands := v.numOperands + 1, freeOperandBufIDs := rest }
    let requested ← counted.addRequest xbarCube pkt.DESTADRS .MAC
    let filled ← requested.fill operand_buf_id pkt.DESTADRS pkt.SRCADRS1 pkt.SRCADRS2
    pure (some (operand_buf_id, filled))

/-- `FreeOperandBuffer`. -/
def FreeOperandBuffer (v : VLPVault) (i : ℕ) : Except VLPError VLPVault :=
  match v.operandBuffers[i]? with
  | none => throw .operandBuffer
  | some operandEntry =>
    match v.flowTable operandEntry.flowID with
    | none => throw .assertion
    | some flowEntry =>
      pure { v with
        flowTable := Function.update v.flowTable operandEntry.flowID
          (some { flowEntry with req_count := flowEntry.req_count - 1 })
        operandBuffers := v.operandBuffers.set i (operandEntry.release v.numMultStages)
        freeOperandBufIDs := v.freeOperandBufIDs ++ [i] }

/-- A multiplication whose packet is refused after its operand buffer has been reserved. -/
def refused (v : VLPVault) (xbarCube : ℤ) (pkt : Packet) : Except VLPError VLPVault := do
  match ← v.OperandBufferStatus xbarCube pkt with
  | none => pure v
  | some (operandBufID, reserved) => reserved.FreeOperandBuffer operandBufID

/-- An addition takes an operand buffer and gives it back if the command queue refuses its
    commands; the tables are touched only after they have been taken. -/
def addUpdate (v : VLPVault) (pkt : Packet) (converted : Bool) : Except VLPError VLPVault :=
  match v.freeOperandBufIDs with
  | [] => pure v
  | operand_buf_id :: rest =>
    if converted then do
      let counted := { v with numOperands := v.numOperands + 1, freeOperandBufIDs := rest }
      let requested ← counted.addRequest v.cubeID pkt.DESTADRS .ADD
      requested.fill operand_buf_id pkt.DESTADRS pkt.SRCADRS1 0
    else pure { v with freeOperandBufIDs := rest ++ [operand_buf_id] }

/-! ## Undoing a reservation -/

/-- Nothing has changed but the order of the free buffers. -/
structure Undone (before after : VLPVault) : Prop where
  flowTable : after.flowTable = before.flowTable
  operandBuffers : after.operandBuffers = before.operandBuffers
  numFlows : after.numFlows = before.numFlows
  numOperands : after.numOperands = before.numOperands
  free : after.freeOperandBufIDs.Perm before.freeOperandBufIDs

/-- The same, apart from the number of operands. -/
structure UndoneButOperands (before after : VLPVault) : Prop where
  flowTable : after.flowTable = before.flowTable
  operandBuffers : after.operandBuffers = before.operandBuffers
  numFlows : after.numFlows = before.numFlows
  free : after.freeOperandBufIDs.Perm before.freeOperandBufIDs

variable {v reserved : VLPVault} {xbarCube : ℤ} {pkt : Packet} {id : ℕ}

/-- An addition that is refused leaves no trace. -/
theorem addUpdate_refused (v : VLPVault) (pkt : Packet) :
    ∃ after, v.addUpdate pkt false = .ok after ∧ Undone v after := by
  unfold addUpdate
  cases free : v.freeOperandBufIDs with
  | nil => exact ⟨v, rfl, rfl, rfl, rfl, rfl, .refl _⟩
  | cons id rest =>
    refine ⟨_, rfl, rfl, rfl, rfl, rfl, ?_⟩
    rw [free]
    exact List.perm_append_singleton id rest

/-- The state of a vault after a reservation has been freed again. -/
structure Freed (v : VLPVault) (xbarCube : ℤ) (pkt : Packet) (id : ℕ) (entry : VaultOperandEntry)
    (after : VLPVault) : Prop where
  flowTable : after.flowTable = Function.update v.flowTable pkt.DESTADRS
    (some ((v.flowTable pkt.DESTADRS).getD { opcode := .MAC, parent := xbarCube }))
  operandBuffers : after.operandBuffers = v.operandBuffers.set id (entry.release v.numMultStages)
  numFlows : after.numFlows = v.numFlows + if (v.flowTable pkt.DESTADRS).isSome then 0 else 1
  numOperands : after.numOperands = v.numOperands + 1
  numMultStages : after.numMultStages = v.numMultStages
  free : after.freeOperandBufIDs.Perm v.freeOperandBufIDs

/-- The request that is counted, with the entry of its flow. -/
theorem addRequest_eq_ok {after : VLPVault} {dest : BitVec 64} {opcode : Opcode}
    (added : v.addRequest xbarCube dest opcode = .ok after) :
    ∃ flow cube, flow = (v.flowTable dest).getD { opcode := opcode, parent := xbarCube } ∧
      after = { v with
        flowTable := Function.update v.flowTable dest
          (some { flow with req_count := flow.req_count + 1 })
        numFlows := v.numFlows + if (v.flowTable dest).isSome then 0 else 1
        cubeID := cube } := by
  unfold addRequest at added
  cases isFlow : v.flowTable dest with
  | none =>
    rw [isFlow] at added
    obtain rfl := pure_eq_ok.mp added
    exact ⟨_, xbarCube, rfl, rfl⟩
  | some flow =>
    simp only [isFlow] at added
    split at added
    · cases added
    · obtain rfl := pure_eq_ok.mp added
      exact ⟨flow, v.cubeID, rfl, by simp⟩

theorem fill_eq_ok {after : VLPVault} {flow src1 src2 : BitVec 64}
    (filled : v.fill id flow src1 src2 = .ok after) :
    ∃ entry, v.operandBuffers[id]? = some entry ∧ entry.isClear = true ∧
      after = { v with operandBuffers := v.operandBuffers.set id (entry.reserve flow src1 src2) } := by
  unfold fill at filled
  cases isEntry : v.operandBuffers[id]? with
  | none =>
    rw [isEntry] at filled
    cases filled
  | some entry =>
    simp only [isEntry] at filled
    split at filled
    · rename_i clear
      exact ⟨entry, rfl, clear, (pure_eq_ok.mp filled).symm⟩
    · cases filled

theorem FreeOperandBuffer_of {i : ℕ} {entry : VaultOperandEntry} {flow : VaultFlowEntry}
    (isEntry : v.operandBuffers[i]? = some entry) (isFlow : v.flowTable entry.flowID = some flow) :
    v.FreeOperandBuffer i = .ok { v with
      flowTable := Function.update v.flowTable entry.flowID
        (some { flow with req_count := flow.req_count - 1 })
      operandBuffers := v.operandBuffers.set i (entry.release v.numMultStages)
      freeOperandBufIDs := v.freeOperandBufIDs ++ [i] } := by
  simp only [FreeOperandBuffer, isEntry, isFlow]
  rfl

/-- Freeing takes back the request and the operand buffer, and nothing else. -/
theorem freed_of_reserved
    (status : v.OperandBufferStatus xbarCube pkt = .ok (some (id, reserved))) :
    ∃ entry after, v.freeOperandBufIDs.head? = some id ∧ v.operandBuffers[id]? = some entry ∧
      entry.isClear = true ∧ reserved.FreeOperandBuffer id = .ok after ∧
      Freed v xbarCube pkt id entry after := by
  unfold OperandBufferStatus at status
  cases free : v.freeOperandBufIDs with
  | nil =>
    rw [free] at status
    cases status
  | cons first rest =>
    simp only [free] at status
    obtain ⟨requested, added, status⟩ := bind_eq_ok.mp status
    obtain ⟨filled, isFilled, status⟩ := bind_eq_ok.mp status
    obtain ⟨rfl, rfl⟩ := Prod.mk.inj (Option.some.inj (pure_eq_ok.mp status))
    obtain ⟨flow, cube, isFlow, rfl⟩ := addRequest_eq_ok added
    obtain ⟨entry, isEntry, clear, rfl⟩ := fill_eq_ok isFilled
    have inside : first < v.operandBuffers.length := (List.getElem?_eq_some_iff.mp isEntry).1
    refine ⟨entry, _, rfl, isEntry, clear,
      FreeOperandBuffer_of (List.getElem?_set_self inside) (Function.update_self _ _ _), ?_⟩
    constructor
    · simp [isFlow, VaultOperandEntry.reserve]
    · simp [VaultOperandEntry.release, VaultOperandEntry.reserve]
    · rfl
    · rfl
    · rfl
    · rw [free]
      exact List.perm_append_singleton first rest

/-- A flow that had no entry keeps the one that it got. -/
theorem Freed.flowTable_iff {entry : VaultOperandEntry} {after : VLPVault}
    (freed : Freed v xbarCube pkt id entry after) :
    after.flowTable = v.flowTable ↔ (v.flowTable pkt.DESTADRS).isSome := by
  rw [freed.flowTable]
  cases isFlow : v.flowTable pkt.DESTADRS with
  | none =>
    refine ⟨fun same => ?_, fun some => nomatch some⟩
    have atFlow := congrFun same pkt.DESTADRS
    rw [Function.update_self, isFlow] at atFlow
    cases atFlow
  | some flow =>
    refine ⟨fun _ => rfl, fun _ => ?_⟩
    rw [Option.getD_some, ← isFlow, Function.update_eq_self]

theorem Freed.operandBuffers_iff {entry : VaultOperandEntry} {after : VLPVault}
    (freed : Freed v xbarCube pkt id entry after) (isEntry : v.operandBuffers[id]? = some entry)
    (clear : entry.isClear = true) :
    after.operandBuffers = v.operandBuffers ↔
      entry.flowID = 0 ∧ entry.multStageCounter = v.numMultStages := by
  obtain ⟨inside, atId⟩ := List.getElem?_eq_some_iff.mp isEntry
  have released : entry.release v.numMultStages = entry ↔
      entry.flowID = 0 ∧ entry.multStageCounter = v.numMultStages := by
    obtain ⟨flowID, src_addr1, src_addr2, op1_ready, op2_ready, ready, counter, counted⟩ := entry
    simp only [VaultOperandEntry.isClear, decide_eq_true_eq, Bool.not_eq_true'] at clear
    obtain ⟨rfl, rfl, rfl, rfl, rfl⟩ := clear
    constructor
    · intro same
      obtain ⟨isFlow, -, -, -, -, -, isCounter, -⟩ := VaultOperandEntry.mk.inj same
      exact ⟨isFlow.symm, isCounter.symm⟩
    · rintro ⟨rfl, rfl⟩
      rfl
  rw [freed.operandBuffers, ← released]
  constructor
  · intro same
    have atSame := congrArg (·[id]?) same
    rw [List.getElem?_set_self inside, isEntry] at atSame
    exact Option.some.inj atSame
  · intro same
    rw [same, ← atId, List.set_getElem_self]

/-- The operand buffer that is reserved next was left as a new one. -/
def NextIsNew (v : VLPVault) : Prop :=
  ∃ id entry, v.freeOperandBufIDs.head? = some id ∧ v.operandBuffers[id]? = some entry ∧
    entry.flowID = 0 ∧ entry.multStageCounter = v.numMultStages

/-- `FreeOperandBuffer` never undoes a reservation: the number of operands stays raised.
    The rest is undone exactly if the flow had an entry before and the operand buffer was
    left as a new one. -/
theorem not_undone (status : v.OperandBufferStatus xbarCube pkt = .ok (some (id, reserved))) :
    ∃ after, reserved.FreeOperandBuffer id = .ok after ∧ ¬ Undone v after ∧
      (UndoneButOperands v after ↔ (v.flowTable pkt.DESTADRS).isSome ∧ NextIsNew v) := by
  obtain ⟨entry, after, isHead, isEntry, clear, isFreed, freed⟩ := freed_of_reserved status
  have raised := freed.numOperands
  refine ⟨after, isFreed, fun undone => ?_, ?_⟩
  · have same := undone.numOperands
    omega
  · have buffers := freed.operandBuffers_iff isEntry clear
    constructor
    · intro undone
      exact ⟨freed.flowTable_iff.mp undone.flowTable, id, entry, isHead, isEntry,
        buffers.mp undone.operandBuffers⟩
    · rintro ⟨known, other, otherEntry, isOther, isOtherEntry, isNew⟩
      obtain rfl := Option.some.inj (isHead.symm.trans isOther)
      obtain rfl := Option.some.inj (isEntry.symm.trans isOtherEntry)
      refine ⟨freed.flowTable_iff.mpr known, buffers.mpr isNew, ?_, freed.free⟩
      rw [freed.numFlows, if_pos known, add_zero]

/-- A vault with four operand buffers and no flow. -/
def idle : VLPVault := { operandBuffers := List.replicate 4 {}, freeOperandBufIDs := [0, 1, 2, 3] }

/-- The first multiplication of a flow. -/
def firstMult : Packet :=
  { packetType := .REQUEST, CMD := .ACT_MULT, TAG := 1, DESTADRS := 4096, SRCADRS1 := 64
    SRCADRS2 := 128, LINES := 1, SRCCUB := 0, DESTCUB := 0, DESTCUB1 := 0, DESTCUB2 := 0 }

theorem not_undone_firstMult :
    ∃ reserved, idle.OperandBufferStatus 0 firstMult = .ok (some (0, reserved)) ∧
      ∃ after, reserved.FreeOperandBuffer 0 = .ok after ∧ ¬ Undone idle after ∧
        (UndoneButOperands idle after ↔ (idle.flowTable firstMult.DESTADRS).isSome ∧ NextIsNew idle) :=
  ⟨_, rfl, not_undone rfl⟩

/-- The flow whose first multiplication is refused stays in the flow table. -/
theorem flow_left_behind :
    ∃ after, idle.refused 0 firstMult = .ok after ∧
      after.flowTable firstMult.DESTADRS = some { opcode := .MAC, parent := 0 } ∧
      after.numFlows = 1 ∧ after.numOperands = 1 ∧ ¬ Undone idle after := by
  refine ⟨_, rfl, rfl, rfl, rfl, fun undone => ?_⟩
  have same : (1 : ℤ) = 0 := undone.numFlows
  cases same

end VLPVault

end ActiveRouting

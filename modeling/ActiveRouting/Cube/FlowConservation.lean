import ActiveRouting.Cube.CrossbarSwitch
import ActiveRouting.Library.Ledger
import ActiveRouting.Library.Outcome
import ActiveRouting.Library.Run

/-!
# Conservation in the flow table

Every update that a cube counts for a flow is answered, or an operand buffer is
reserved for it, or it was sent to a child; and every operand buffer is free or
reserved.
-/

namespace ActiveRouting

open Outcome Transition

namespace FlowEntry

/-- The updates that were sent to children which have not answered. -/
def awaited (e : FlowEntry) : ℕ := ∑ link, e.children_count link

theorem awaited_addChild (e : FlowEntry) (link : Fin numLinks) :
    (e.addChild link).awaited = e.awaited + 1 := by
  have changed := Ledger.sum_update (Finset.mem_univ link) id e.children_count
    (e.children_count link + 1)
  simp only [id_eq] at changed
  show ∑ child, Function.update e.children_count link (e.children_count link + 1) child =
    ∑ child, e.children_count child + 1
  omega

theorem awaited_answerChild (e : FlowEntry) (link : Fin numLinks) :
    (e.answerChild link).awaited + e.children_count link = e.awaited := by
  have changed := Ledger.sum_update (Finset.mem_univ link) id e.children_count 0
  simp only [id_eq] at changed
  exact changed

end FlowEntry

namespace FlowTables

variable (k : CubeConfig)

/-- Whether an operand buffer is reserved for a flow. -/
def reservedFor (flow : BitVec 64) (entry : Option OperandEntry) : ℕ :=
  if entry.any fun e => e.flowID = flow then 1 else 0

/-- The operand buffers that are reserved for a flow. -/
def held (t : FlowTables) (flow : BitVec 64) : ℕ :=
  ∑ id ∈ Finset.range k.operandBufSize, reservedFor flow (t.operandBuffers id)

/-- The ids of the operand buffers that are in use. -/
def inUse (t : FlowTables) : List ℕ :=
  (List.range k.operandBufSize).filter fun id => (t.operandBuffers id).isSome

/-- The updates that were counted for a flow are answered, or outstanding, or just being
    entered.  A free operand buffer is not reserved, and every other one is. -/
structure Balanced (entered : BitVec 64 → ℕ) (t : FlowTables) : Prop where
  counted : ∀ flow flowEntry, t.flowTable flow = some flowEntry →
    flowEntry.req_count = flowEntry.rep_count + t.held k flow + flowEntry.awaited + entered flow
  absent : ∀ flow, t.flowTable flow = none → t.held k flow = 0 ∧ entered flow = 0
  nodup : t.freeOperandBufIDs.Nodup
  free : ∀ id, id ∈ t.freeOperandBufIDs ↔ id < k.operandBufSize ∧ t.operandBuffers id = none

/-- Nothing is being entered. -/
def settled : BitVec 64 → ℕ := fun _ => 0

/-- One update of a flow is being entered. -/
def entering (flow : BitVec 64) : BitVec 64 → ℕ := Function.update settled flow 1

variable {k}

theorem held_setOperand {t : FlowTables} {id : ℕ} (inside : id < k.operandBufSize)
    (entry : Option OperandEntry) (flow : BitVec 64) :
    (t.setOperand id entry).held k flow + reservedFor flow (t.operandBuffers id) =
      t.held k flow + reservedFor flow entry :=
  Ledger.sum_update (Finset.mem_range.mpr inside) (reservedFor flow) t.operandBuffers entry

theorem reservedFor_self (e : OperandEntry) : reservedFor e.flowID (some e) = 1 := by
  simp [reservedFor]

theorem reservedFor_other {flow : BitVec 64} {e : OperandEntry} (other : e.flowID ≠ flow) :
    reservedFor flow (some e) = 0 := by
  simp [reservedFor, other]

/-- The free ids and those in use are the ids of the operand buffers, each of them once. -/
theorem Balanced.partition {entered : BitVec 64 → ℕ} {t : FlowTables}
    (balanced : Balanced k entered t) :
    (t.freeOperandBufIDs ++ t.inUse k).Perm (List.range k.operandBufSize) := by
  have inUse_nodup : (t.inUse k).Nodup := List.nodup_range.filter _
  have disjoint : List.Disjoint t.freeOperandBufIDs (t.inUse k) := by
    intro id isFree isUsed
    have isNone := ((balanced.free id).mp isFree).2
    have isSome := (List.mem_filter.mp isUsed).2
    rw [isNone] at isSome
    cases isSome
  apply (List.perm_ext_iff_of_nodup (balanced.nodup.append inUse_nodup disjoint)
    List.nodup_range).mpr
  intro id
  rw [List.mem_append, balanced.free, inUse, List.mem_filter, List.mem_range]
  cases t.operandBuffers id with
  | none => simp
  | some e => simp

/-! ## The operations on the tables -/

/-- The entry of a flow is overwritten by one that accounts for the flow. -/
theorem Balanced.setFlow {entered entered' : BitVec 64 → ℕ} {t : FlowTables} {flow : BitVec 64}
    {flowEntry : FlowEntry} (balanced : Balanced k entered t)
    (counted : flowEntry.req_count =
      flowEntry.rep_count + t.held k flow + flowEntry.awaited + entered' flow)
    (others : ∀ other, other ≠ flow → entered' other = entered other) :
    Balanced k entered' (t.setFlow flow (some flowEntry)) where
  counted other otherEntry found := by
    by_cases same : other = flow
    · subst same
      obtain rfl : flowEntry = otherEntry := by simpa [FlowTables.setFlow] using found
      exact counted
    · have old : t.flowTable other = some otherEntry := by
        simpa [FlowTables.setFlow, same] using found
      rw [others other same]
      exact balanced.counted other otherEntry old
  absent other missing := by
    by_cases same : other = flow
    · subst same
      simp [FlowTables.setFlow] at missing
    · have old : t.flowTable other = none := by
        simpa [FlowTables.setFlow, same] using missing
      rw [others other same]
      exact balanced.absent other old
  nodup := balanced.nodup
  free := balanced.free

/-- An update is counted before it is accounted for. -/
theorem Balanced.countUpdate {t : FlowTables} (balanced : Balanced k settled t) (opcode : Opcode)
    (flow : BitVec 64) (parent : ℤ) :
    Yields (Balanced k (entering flow)) (fun _ => False) (t.countUpdate opcode flow parent) := by
  have others : ∀ other, other ≠ flow → entering flow other = settled other :=
    fun other different => Function.update_of_ne different _ _
  have one : entering flow flow = 1 := Function.update_self _ _ _
  rw [FlowTables.countUpdate]
  split
  · rename_i missing
    have noneHeld := (balanced.absent flow missing).1
    apply Yields.pure
    apply balanced.setFlow _ others
    rw [noneHeld, one]
    rfl
  · rename_i flowEntry found
    have before := balanced.counted flow flowEntry found
    split
    · apply Yields.pure
      apply balanced.setFlow _ others
      rw [one]
      show flowEntry.req_count + 1 = flowEntry.rep_count + _ + flowEntry.awaited + 1
      rw [before]
      rfl
    · exact Yields.throw not_false

/-- An update that is sent to a child. -/
theorem Balanced.countChild {t : FlowTables} {flow : BitVec 64}
    (balanced : Balanced k (entering flow) t) (link : Fin numLinks) :
    Balanced k settled (t.countChild flow link) := by
  have one : entering flow flow = 1 := Function.update_self _ _ _
  have others : ∀ other, other ≠ flow → settled other = entering flow other :=
    fun other different => (Function.update_of_ne different _ _).symm
  cases found : t.flowTable flow with
  | none =>
    have none_entering := (balanced.absent flow found).2
    rw [one] at none_entering
    cases none_entering
  | some flowEntry =>
    have before := balanced.counted flow flowEntry found
    rw [one] at before
    rw [FlowTables.countChild, found, Option.map_some]
    apply balanced.setFlow _ others
    rw [FlowEntry.awaited_addChild]
    show flowEntry.req_count = flowEntry.rep_count + _ + _ + 0
    omega

/-- What the operand buffers hold moves between the flows as what is being entered. -/
theorem Balanced.transfer {entered entered' : BitVec 64 → ℕ} {t : FlowTables}
    (balanced : Balanced k entered t) (t' : FlowTables) (sameTable : t'.flowTable = t.flowTable)
    (moved : ∀ flow, t'.held k flow + entered' flow = t.held k flow + entered flow)
    (nodup : t'.freeOperandBufIDs.Nodup)
    (free : ∀ id, id ∈ t'.freeOperandBufIDs ↔
      id < k.operandBufSize ∧ t'.operandBuffers id = none) :
    Balanced k entered' t' where
  counted flow flowEntry found := by
    rw [sameTable] at found
    have before := balanced.counted flow flowEntry found
    have same := moved flow
    omega
  absent flow missing := by
    rw [sameTable] at missing
    have before := balanced.absent flow missing
    have same := moved flow
    omega
  nodup := nodup
  free := free

/-- A free operand buffer is reserved for the update that is being entered. -/
theorem Balanced.reserveOperand {t : FlowTables} {flow : BitVec 64}
    (balanced : Balanced k (entering flow) t) (src1 src2 : BitVec 64) :
    Yields (fun reserved => Balanced k settled reserved.2) (fun _ => False)
      (t.reserveOperand k flow src1 src2) := by
  rw [FlowTables.reserveOperand]
  split
  · exact Yields.throw not_false
  · rename_i id rest isFree
    have inFree : id ∈ t.freeOperandBufIDs := isFree ▸ List.mem_cons_self
    obtain ⟨inside, vacant⟩ := (balanced.free id).mp inFree
    have nodup := balanced.nodup
    rw [isFree, List.nodup_cons] at nodup
    split
    · apply Yields.pure
      apply balanced.transfer (t.takeFree id rest _) rfl _ nodup.2
      · intro other
        have sameID : ∀ id', id' ∈ t.freeOperandBufIDs ↔ id' = id ∨ id' ∈ rest := by
          intro id'
          rw [isFree, List.mem_cons]
        have old := balanced.free other
        rw [sameID] at old
        by_cases same : other = id
        · subst same
          simp [FlowTables.takeFree, FlowTables.setOperand, nodup.1]
        · simpa [FlowTables.takeFree, FlowTables.setOperand, same] using old
      · intro other
        have changed := held_setOperand (t := t) inside
          (some ((t.operand k id).reserve flow src1 src2)) other
        rw [vacant] at changed
        have vacant_zero : reservedFor other none = 0 := rfl
        by_cases same : other = flow
        · subst same
          have one : entering other other = 1 := Function.update_self _ _ _
          have reserved : reservedFor other (some ((t.operand k id).reserve other src1 src2)) = 1 :=
            reservedFor_self _
          rw [one]
          show (t.setOperand id _).held k other + 0 = _
          omega
        · have zero : entering flow other = 0 := Function.update_of_ne same _ _
          have notReserved :
              reservedFor other (some ((t.operand k id).reserve flow src1 src2)) = 0 :=
            reservedFor_other (Ne.symm same)
          rw [zero]
          show (t.setOperand id _).held k other + 0 = _
          omega
    · exact Yields.throw not_false

theorem Balanced.enter {t : FlowTables} (balanced : Balanced k settled t) (opcode : Opcode)
    (packet : Packet) (src2 : BitVec 64) :
    Yields (fun entered => Balanced k settled entered.2) (fun _ => False)
      (t.enter k opcode packet src2) :=
  (balanced.countUpdate opcode packet.DESTADRS (k.parentCube packet.SRCCUB)).bind
    fun _ counted => counted.reserveOperand packet.SRCADRS1 src2

/-- An operand buffer that is reserved stays reserved for its flow. -/
theorem Balanced.setOperand {entered : BitVec 64 → ℕ} {t : FlowTables} {id : ℕ}
    {e e' : OperandEntry} (balanced : Balanced k entered t) (inside : id < k.operandBufSize)
    (isReserved : t.operandBuffers id = some e) (sameFlow : e'.flowID = e.flowID) :
    Balanced k entered (t.setOperand id (some e')) := by
  apply balanced.transfer (t.setOperand id (some e')) rfl _ balanced.nodup
  · intro other
    rw [FlowTables.setOperand]
    by_cases same : other = id
    · subst same
      have notFree : other ∉ t.freeOperandBufIDs := by
        intro isFree
        have vacant := ((balanced.free other).mp isFree).2
        rw [isReserved] at vacant
        cases vacant
      simp [notFree]
    · simpa [same] using balanced.free other
  · intro flow
    have changed := held_setOperand (t := t) inside (some e') flow
    rw [isReserved] at changed
    have sameReserved : reservedFor flow (some e') = reservedFor flow (some e) := by
      simp [reservedFor, sameFlow]
    omega

/-- The entry of a flow is overwritten by one with the same sums. -/
theorem Balanced.replaceFlow {t : FlowTables} {flow : BitVec 64} {flowEntry flowEntry' : FlowEntry}
    (balanced : Balanced k settled t) (found : t.flowTable flow = some flowEntry)
    (same : flowEntry'.req_count + (flowEntry.rep_count + flowEntry.awaited) =
      flowEntry.req_count + (flowEntry'.rep_count + flowEntry'.awaited)) :
    Balanced k settled (t.setFlow flow (some flowEntry')) := by
  have before := balanced.counted flow flowEntry found
  apply balanced.setFlow _ fun _ _ => rfl
  omega

theorem Balanced.answerChild {t : FlowTables} {flow : BitVec 64} {flowEntry : FlowEntry}
    (balanced : Balanced k settled t) (found : t.flowTable flow = some flowEntry)
    (link : Fin numLinks) :
    Balanced k settled (t.setFlow flow (some (flowEntry.answerChild link))) := by
  apply balanced.replaceFlow found
  have answered := flowEntry.awaited_answerChild link
  show flowEntry.req_count + _ = _ + (flowEntry.rep_count + flowEntry.children_count link + _)
  omega

/-- The operands of a flow are consumed: their buffer is free again. -/
theorem Balanced.releaseOperand {t : FlowTables} {id : ℕ} {e : OperandEntry}
    {flowEntry : FlowEntry} (balanced : Balanced k settled t) (inside : id < k.operandBufSize)
    (isReserved : t.operandBuffers id = some e) (found : t.flowTable e.flowID = some flowEntry) :
    Balanced k settled (CrossbarSwitch.releaseOperand t id e.flowID flowEntry) := by
  have before := balanced.counted e.flowID flowEntry found
  have freed : ∀ flow, (t.setOperand id none).held k flow + reservedFor flow (some e) =
      t.held k flow := by
    intro flow
    have changed := held_setOperand (t := t) inside none flow
    rw [isReserved] at changed
    exact changed
  have notFree : id ∉ t.freeOperandBufIDs := by
    intro isFree
    have vacant := ((balanced.free id).mp isFree).2
    rw [isReserved] at vacant
    cases vacant
  exact {
    counted := by
      intro flow otherEntry foundOther
      have old := freed flow
      by_cases same : flow = e.flowID
      · subst same
        obtain rfl : flowEntry.addReply = otherEntry := by
          simpa [CrossbarSwitch.releaseOperand, FlowTables.setFlow, FlowTables.setOperand] using
            foundOther
        rw [reservedFor_self] at old
        show flowEntry.req_count = flowEntry.rep_count + 1 + (t.setOperand id none).held k _ +
          flowEntry.awaited + 0
        rw [before]
        show flowEntry.rep_count + _ + flowEntry.awaited + 0 = _
        omega
      · have foundOld : t.flowTable flow = some otherEntry := by
          simpa [CrossbarSwitch.releaseOperand, FlowTables.setFlow, FlowTables.setOperand, same]
            using foundOther
        rw [reservedFor_other (Ne.symm same)] at old
        have balance := balanced.counted flow otherEntry foundOld
        show otherEntry.req_count = otherEntry.rep_count + (t.setOperand id none).held k flow +
          otherEntry.awaited + 0
        rw [balance]
        show otherEntry.rep_count + _ + otherEntry.awaited + 0 = _
        omega
    absent := by
      intro flow missing
      have other : flow ≠ e.flowID := by
        rintro rfl
        simp [CrossbarSwitch.releaseOperand, FlowTables.setFlow, FlowTables.setOperand] at missing
      have missingOld : t.flowTable flow = none := by
        simpa [CrossbarSwitch.releaseOperand, FlowTables.setFlow, FlowTables.setOperand, other]
          using missing
      have noneHeld := (balanced.absent flow missingOld).1
      have old := freed flow
      constructor
      · show (t.setOperand id none).held k flow = 0
        omega
      · rfl
    nodup := balanced.nodup.append (List.nodup_singleton id)
      (List.disjoint_singleton.mpr notFree)
    free := by
      intro other
      rw [CrossbarSwitch.releaseOperand, List.mem_append, List.mem_singleton]
      by_cases same : other = id
      · subst same
        simp [FlowTables.setOperand, inside]
      · simpa [FlowTables.setOperand, FlowTables.setFlow, same] using balanced.free other }

/-- A flow whose updates are all answered is deallocated. -/
theorem Balanced.deallocate {t : FlowTables} {flow : BitVec 64} {flowEntry : FlowEntry}
    (balanced : Balanced k settled t) (found : t.flowTable flow = some flowEntry)
    (answered : flowEntry.req_count = flowEntry.rep_count) :
    Balanced k settled (t.setFlow flow none) where
  counted other otherEntry foundOther := by
    by_cases same : other = flow
    · subst same
      simp [FlowTables.setFlow] at foundOther
    · exact balanced.counted other otherEntry (by simpa [FlowTables.setFlow, same] using foundOther)
  absent other missing := by
    by_cases same : other = flow
    · subst same
      have balance := balanced.counted other flowEntry found
      constructor
      · show t.held k other = 0
        omega
      · rfl
    · exact balanced.absent other (by simpa [FlowTables.setFlow, same] using missing)
  nodup := balanced.nodup
  free := balanced.free

/-! ## Counters that stay -/

/-- The counters of an entry. -/
def counters (flowEntry : FlowEntry) : ℕ × ℕ × (Fin numLinks → ℕ) :=
  (flowEntry.req_count, flowEntry.rep_count, flowEntry.children_count)

/-- The same counters and operand buffers. -/
structure SameCounts (t t' : FlowTables) : Prop where
  table : ∀ flow, (t'.flowTable flow).map counters = (t.flowTable flow).map counters
  operands : t'.operandBuffers = t.operandBuffers
  free : t'.freeOperandBufIDs = t.freeOperandBufIDs

theorem SameCounts.refl (t : FlowTables) : SameCounts t t := ⟨fun _ => rfl, rfl, rfl⟩

theorem SameCounts.setFlow {t : FlowTables} {flow : BitVec 64} {flowEntry flowEntry' : FlowEntry}
    (found : t.flowTable flow = some flowEntry)
    (same : counters flowEntry' = counters flowEntry) :
    SameCounts t (t.setFlow flow (some flowEntry')) where
  table other := by
    by_cases isFlow : other = flow
    · subst isFlow
      simp [FlowTables.setFlow, found, same]
    · simp [FlowTables.setFlow, isFlow]
  operands := rfl
  free := rfl

/-! ## The pipeline of multiplications -/

/-- An operand buffer is ready when both operands have arrived. -/
def Complete (e : OperandEntry) : Prop :=
  e.op1_ready = true → e.op2_ready = true → e.ready = true

/-- The stages of the operands stay, and so do the operands that are ready; no flow is removed or
    becomes one of another operation. -/
structure Aside (k : CubeConfig) (t t' : FlowTables) : Prop where
  complete : (∀ id, Complete (t.operand k id)) → ∀ id, Complete (t'.operand k id)
  occupancy : t'.multPipeOccupancy = t.multPipeOccupancy
  stage : ∀ id, (t'.operand k id).multStageCounter = (t.operand k id).multStageCounter
  ready : ∀ id, (t.operand k id).ready = true → t'.operandBuffers id = t.operandBuffers id
  opcode : ∀ flow flowEntry, t.flowTable flow = some flowEntry →
    ∃ flowEntry', t'.flowTable flow = some flowEntry' ∧ flowEntry'.opcode = flowEntry.opcode

namespace Aside

variable {k : CubeConfig} {t t' t'' : FlowTables}

theorem refl (t : FlowTables) : Aside k t t :=
  ⟨fun complete => complete, rfl, fun _ => rfl, fun _ _ => rfl,
    fun _ flowEntry found => ⟨flowEntry, found, rfl⟩⟩

theorem trans (first : Aside k t t') (second : Aside k t' t'') : Aside k t t'' where
  complete isComplete := second.complete (first.complete isComplete)
  occupancy := second.occupancy.trans first.occupancy
  stage id := (second.stage id).trans (first.stage id)
  ready id isReady := by
    have same := first.ready id isReady
    have stays : t'.operand k id = t.operand k id := by rw [operand, same]; rfl
    exact (second.ready id (stays ▸ isReady)).trans same
  opcode flow flowEntry found := by
    obtain ⟨flowEntry', found', same⟩ := first.opcode flow flowEntry found
    obtain ⟨flowEntry'', found'', same'⟩ := second.opcode flow flowEntry' found'
    exact ⟨flowEntry'', found'', same'.trans same⟩

/-- An entry of the flow table is replaced. -/
theorem setFlow {flow : BitVec 64} {flowEntry' : FlowEntry}
    (same : ∀ flowEntry, t.flowTable flow = some flowEntry → flowEntry'.opcode = flowEntry.opcode) :
    Aside k t (t.setFlow flow (some flowEntry')) where
  complete isComplete := isComplete
  occupancy := rfl
  stage _ := rfl
  ready _ _ := rfl
  opcode other flowEntry found := by
    by_cases isFlow : other = flow
    · subst isFlow
      exact ⟨flowEntry', by simp [FlowTables.setFlow], same flowEntry found⟩
    · exact ⟨flowEntry, by simp [FlowTables.setFlow, isFlow, found], rfl⟩

/-- An operand buffer whose operands are not ready is filled. -/
theorem setOperand {id : ℕ} {e : OperandEntry} (waits : (t.operand k id).ready = false)
    (same : e.multStageCounter = (t.operand k id).multStageCounter)
    (complete : Complete (t.operand k id) → Complete e) :
    Aside k t (t.setOperand id (some e)) where
  complete isComplete other := by
    by_cases isId : other = id
    · subst isId
      simpa [FlowTables.operand, FlowTables.setOperand] using complete (isComplete other)
    · simpa [FlowTables.operand, FlowTables.setOperand, isId] using isComplete other
  occupancy := rfl
  stage other := by
    by_cases isId : other = id
    · subst isId
      simpa [FlowTables.operand, FlowTables.setOperand] using same
    · simp [FlowTables.operand, FlowTables.setOperand, isId]
  ready other isReady := by
    have isOther : other ≠ id := by
      rintro rfl
      rw [waits] at isReady
      cases isReady
    simp [FlowTables.setOperand, isOther]
  opcode flow flowEntry found := ⟨flowEntry, found, rfl⟩

theorem countUpdate (opcode : Opcode) (flow : BitVec 64) (parent : ℤ) :
    Yields (Aside k t) (fun _ => False) (t.countUpdate opcode flow parent) := by
  rw [FlowTables.countUpdate]
  split
  · rename_i absent
    apply Yields.pure
    apply setFlow
    intro flowEntry found
    rw [absent] at found
    cases found
  · rename_i flowEntry found
    split
    · apply Yields.pure
      apply setFlow
      intro flowEntry' found'
      rw [found] at found'
      exact Option.some.inj found' ▸ rfl
    · exact Yields.throw not_false

theorem countChild (flow : BitVec 64) (link : Fin numLinks) :
    Aside k t (t.countChild flow link) := by
  rw [FlowTables.countChild]
  cases found : t.flowTable flow with
  | none =>
    refine ⟨fun complete => complete, rfl, fun _ => rfl, fun _ _ => rfl, ?_⟩
    intro other flowEntry isEntry
    have isOther : other ≠ flow := by
      rintro rfl
      rw [found] at isEntry
      cases isEntry
    exact ⟨flowEntry, by simp [FlowTables.setFlow, isOther, isEntry], rfl⟩
  | some flowEntry =>
    apply setFlow
    intro flowEntry' found'
    rw [found] at found'
    exact Option.some.inj found' ▸ rfl

theorem reserveOperand (flow src1 src2 : BitVec 64) :
    Yields (fun entered => Aside k t entered.2) (fun _ => False)
      (t.reserveOperand k flow src1 src2) := by
  rw [FlowTables.reserveOperand]
  split
  · exact Yields.throw not_false
  · rename_i id rest isFree
    split
    · rename_i clear
      have waits : (t.operand k id).ready = false := by
        simp only [OperandEntry.isClear, Bool.decide_and, Bool.and_eq_true] at clear
        simpa using clear.2.2.2.2
      have aside : Aside k t (t.setOperand id (some ((t.operand k id).reserve flow src1 src2))) :=
        setOperand waits rfl fun complete => complete
      exact Yields.pure
        ⟨aside.complete, aside.occupancy, aside.stage, aside.ready, aside.opcode⟩
    · exact Yields.throw not_false

theorem enter (opcode : Opcode) (packet : Packet) (src2 : BitVec 64) :
    Yields (fun entered => Aside k t entered.2) (fun _ => False) (t.enter k opcode packet src2) := by
  apply (countUpdate opcode packet.DESTADRS (k.parentCube packet.SRCCUB)).bind
  intro counted aside
  apply (reserveOperand packet.DESTADRS packet.SRCADRS1 src2).mono
  intro entered reserved
  exact aside.trans reserved

end Aside

end FlowTables

namespace CrossbarSwitch

open FlowTables

variable {k : CubeConfig}

/-! ## Visits -/

/-- A visit keeps the balance, leaves the counters alone where nothing is sent, does not
    change the length of a packet that stays, and leaves the pipeline alone. -/
def Accounts (k : CubeConfig) (t : FlowTables) (packet : Packet) : Except CubeError Visit → Prop :=
  Yields (fun visit => (Balanced k settled t → Balanced k settled visit.tables) ∧
    (visit.sent = [] → SameCounts t visit.tables) ∧ visit.fate.SameLength packet ∧
    Aside k t visit.tables) fun _ => False

theorem Accounts.unchanged {t : FlowTables} {packet : Packet} {fate : Fate}
    (sameLength : fate.SameLength packet) (sent : List (Port × Packet)) :
    Accounts k t packet (pure ⟨t, fate, sent⟩) :=
  Yields.pure ⟨fun balanced => balanced, fun _ => SameCounts.refl t, sameLength, .refl t⟩

theorem Accounts.throw {t : FlowTables} {packet : Packet} (error : CubeError) :
    Accounts k t packet (throw error) :=
  Yields.throw not_false

/-- Something is sent, and the tables are balanced afterwards. -/
theorem Accounts.sent {t t' : FlowTables} {packet : Packet} {fate : Fate}
    (balanced : Balanced k settled t → Balanced k settled t') (aside : Aside k t t')
    (sameLength : fate.SameLength packet) (message : Port × Packet) :
    Accounts k t packet (pure ⟨t', fate, [message]⟩) :=
  Yields.pure ⟨balanced, fun nothing => (nomatch nothing), sameLength, aside⟩

theorem Accounts.enter {t : FlowTables} {packet : Packet} (opcode : Opcode) (src2 : BitVec 64)
    {next : ℕ × FlowTables → Except CubeError Visit}
    (accounts : ∀ entered, (Balanced k settled t → Balanced k settled entered.2) →
      Aside k t entered.2 → Accounts k t packet (next entered)) :
    Accounts k t packet (t.enter k opcode packet src2 >>= next) := by
  have balances := Yields.of_imp fun balanced : Balanced k settled t =>
    balanced.enter opcode packet src2
  apply (balances.and (Aside.enter opcode packet src2)).bind
  intro entered facts
  exact accounts entered facts.1 facts.2

theorem nextAddLine_sameLength (packet : Packet) :
    Yields (fun fate => fate.SameLength packet) (fun _ => False) (nextAddLine packet) := by
  rw [nextAddLine]
  split
  · exact Yields.pure trivial
  · dsimp only
    split
    · exact Yields.pure rfl
    · exact Yields.throw not_false

theorem visitAdd_accounts {t : FlowTables} (answers : Answers) (packet : Packet) :
    Accounts k t packet (visitAdd k answers t packet) := by
  rw [visitAdd]
  split
  · apply Accounts.enter
    intro entered balanced' aside
    apply (nextAddLine_sameLength packet).bind
    intro fate sameLength
    exact Yields.pure ⟨balanced', fun nothing => (nomatch nothing), sameLength, aside⟩
  · apply Accounts.unchanged
    exact trivial

theorem visitFullMult_accounts {t : FlowTables} (answers : Answers) (packet : Packet) :
    Accounts k t packet (visitFullMult k answers t packet) := by
  rw [visitFullMult]
  split
  · exact Accounts.throw _
  · split
    · apply Accounts.unchanged
      exact trivial
    · split
      · split
        · apply Accounts.enter
          intro entered balanced' aside
          apply Accounts.sent balanced' aside
          exact rfl
        · apply Accounts.unchanged
          exact rfl
      · split
        · split
          · apply Accounts.enter
            intro entered balanced' aside
            apply Accounts.sent balanced' aside
            exact rfl
          · apply Accounts.unchanged
            exact rfl
        · exact Accounts.throw _

theorem visitHalfMult_accounts {t : FlowTables} (answers : Answers) (packet : Packet) :
    Accounts k t packet (visitHalfMult k answers t packet) := by
  rw [visitHalfMult]
  split
  · split
    · exact Accounts.throw _
    · split
      · apply Accounts.unchanged
        exact trivial
      · split
        · exact Accounts.throw _
        · apply Accounts.unchanged
          exact rfl
  · apply Accounts.unchanged
    exact trivial

/-- A flag of an entry is set. -/
theorem Accounts.mark {t : FlowTables} {flow : BitVec 64} {flowEntry flowEntry' : FlowEntry}
    (found : t.flowTable flow = some flowEntry)
    (same : counters flowEntry' = counters flowEntry)
    (sameOpcode : flowEntry'.opcode = flowEntry.opcode) {packet : Packet} {fate : Fate}
    (sameLength : fate.SameLength packet) :
    Accounts k t packet (pure ⟨t.setFlow flow (some flowEntry'), fate, []⟩) := by
  obtain ⟨sameReq, sameRep, sameChildren⟩ : flowEntry'.req_count = flowEntry.req_count ∧
      flowEntry'.rep_count = flowEntry.rep_count ∧
        flowEntry'.children_count = flowEntry.children_count := by
    simpa [counters] using same
  refine Yields.pure
    ⟨fun balanced => balanced.replaceFlow found ?_, fun _ => SameCounts.setFlow found same,
      sameLength, Aside.setFlow ?_⟩
  · rw [sameReq, sameRep, FlowEntry.awaited, FlowEntry.awaited, sameChildren]
  · intro other isEntry
    exact Option.some.inj (found.symm.trans isEntry) ▸ sameOpcode

theorem serveChildren_accounts {t : FlowTables} {packet : Packet} {flowEntry : FlowEntry}
    (found : t.flowTable packet.DESTADRS = some flowEntry)
    (room : Bool) : ∀ links,
    Accounts k t packet (serveChildren k room t packet flowEntry links)
  | [] => by
    apply Accounts.unchanged
    exact trivial
  | c :: links => by
    rw [serveChildren]
    split
    · exact Accounts.throw _
    · split
      · have same : counters (flowEntry.markChild c) = counters flowEntry := rfl
        apply Accounts.mark found same rfl
        exact rfl
      · exact serveChildren_accounts found room links

theorem visitGet_accounts {t : FlowTables} (isInorder room : Bool) (packet : Packet) :
    Accounts k t packet (visitGet k isInorder room t packet) := by
  rw [visitGet]
  split
  · apply Accounts.unchanged
    exact trivial
  · split
    · exact Accounts.throw _
    · rename_i flowEntry found
      split
      · have same : counters flowEntry.markGather = counters flowEntry := rfl
        apply Accounts.mark found same rfl
        exact trivial
      · split
        · exact Accounts.throw _
        · exact serveChildren_accounts found room _

theorem visitPlain_accounts {t : FlowTables} (answers : Answers) (packet : Packet) :
    Accounts k t packet (visitPlain k answers t packet) := by
  rw [visitPlain]
  split
  · apply Accounts.unchanged
    exact trivial
  · apply Accounts.unchanged
    exact trivial

theorem visitHere_accounts {t : FlowTables} (answers : Answers)
    (isInorder room : Bool) (packet : Packet) :
    Accounts k t packet (visitHere k answers isInorder room t packet) := by
  rw [visitHere]
  split
  · exact visitAdd_accounts answers packet
  · split
    · split
      · exact visitFullMult_accounts answers packet
      · exact visitHalfMult_accounts answers packet
    · split
      · exact visitGet_accounts isInorder room packet
      · exact visitPlain_accounts answers packet

theorem visitSplit_accounts {t : FlowTables} (answers : Answers) (packet : Packet)
    (link1 link2 : Fin numLinks) :
    Accounts k t packet (visitSplit k answers t packet link1 link2) := by
  rw [visitSplit]
  split
  · apply Accounts.unchanged
    exact trivial
  · split
    · exact Accounts.throw _
    · split
      · apply Accounts.enter
        intro entered balanced' aside
        apply Accounts.sent balanced' aside
        exact rfl
      · split
        · apply Accounts.enter
          intro entered balanced' aside
          apply Accounts.sent balanced' aside
          exact rfl
        · apply Accounts.unchanged
          exact trivial

theorem forwardUpdate_accounts {t : FlowTables} (answers : Answers) (packet : Packet)
    (opcode : Opcode) (link : Fin numLinks) :
    Accounts k t packet (forwardUpdate k answers t packet opcode link) := by
  rw [forwardUpdate]
  split
  · have balances := Yields.of_imp fun balanced : Balanced k settled t =>
      balanced.countUpdate opcode packet.DESTADRS (k.parentCube packet.SRCCUB)
    apply (balances.and (Aside.countUpdate opcode packet.DESTADRS _)).bind
    intro counted facts
    exact Yields.pure ⟨fun balanced => (facts.1 balanced).countChild link,
      fun nothing => (nomatch nothing), trivial, facts.2.trans (.countChild _ link)⟩
  · apply Accounts.unchanged
    exact trivial

theorem forwardHalf_accounts {t : FlowTables} (answers : Answers) (packet : Packet)
    (link : Fin numLinks) :
    Accounts k t packet (forwardHalf k answers t packet link) := by
  rw [forwardHalf]
  split
  · split
    · exact Accounts.throw _
    · split
      · apply Accounts.unchanged
        exact trivial
      · apply Accounts.unchanged
        exact rfl
  · apply Accounts.unchanged
    exact trivial

theorem visitElsewhere_accounts {t : FlowTables} (answers : Answers) (packet : Packet) :
    Accounts k t packet (visitElsewhere k answers t packet) := by
  rw [visitElsewhere]
  split
  · split
    · split
      · exact Accounts.throw _
      · split
        · exact visitSplit_accounts answers packet _ _
        · exact forwardUpdate_accounts answers packet _ _
    · exact forwardHalf_accounts answers packet _
  · split
    · exact forwardUpdate_accounts answers packet _ _
    · rw [forwardPlain]
      split
      · apply Accounts.unchanged
        exact trivial
      · apply Accounts.unchanged
        exact trivial

theorem visitRequest_accounts {t : FlowTables} (answers : Answers) (isInorder room : Bool) (packet : Packet) :
    Accounts k t packet (visitRequest k answers isInorder room t packet) := by
  rw [visitRequest]
  split
  · exact visitHere_accounts answers isInorder room packet
  · exact visitElsewhere_accounts answers packet

/-! ## Responses -/

theorem operandID_lt (packet : Packet) :
    Yields (fun id => id < k.operandBufSize) (fun _ => False) (operandID k packet) := by
  rw [operandID]
  split
  · rename_i inside
    apply Yields.pure
    omega
  · exact Yields.throw not_false

/-- An operand buffer with an address is in use. -/
theorem operandBuffers_of_operand {t : FlowTables} {id : ℕ}
    (used : (t.operand k id).src_addr1 ≠ 0 ∨ (t.operand k id).src_addr2 ≠ 0) :
    t.operandBuffers id = some (t.operand k id) := by
  rw [FlowTables.operand] at used ⊢
  cases buffer : t.operandBuffers id with
  | none =>
    rw [buffer] at used
    rcases used with isNonzero | isNonzero
    · exact (isNonzero rfl).elim
    · exact (isNonzero rfl).elim
  | some e => rfl

theorem fillAdd_balanced {t : FlowTables} {packet : Packet} {id : ℕ}
    (balanced : Balanced k settled t) (inside : id < k.operandBufSize)
    (address : packet.SRCADRS1 ≠ 0) :
    Yields (Balanced k settled) (fun _ => False) (fillAdd k t packet id) := by
  rw [CrossbarSwitch.fillAdd]
  split
  · rename_i fills
    have awaits := fills.2.2
    simp only [awaitsAdd, Bool.decide_and, Bool.and_eq_true, decide_eq_true_eq] at awaits
    have reserved : t.operandBuffers id = some (t.operand k id) :=
      operandBuffers_of_operand (.inl (awaits.2.1 ▸ address))
    exact Yields.pure (balanced.setOperand inside reserved rfl)
  · exact Yields.throw not_false

theorem fillMult_balanced {t : FlowTables} {packet : Packet} {id : ℕ}
    (balanced : Balanced k settled t) (inside : id < k.operandBufSize) :
    Yields (Balanced k settled) (fun _ => False) (fillMult k t packet id) := by
  rw [fillMult]
  split
  · exact Yields.throw not_false
  · split
    · rename_i fills
      have awaits := fills.2.2
      simp only [awaitsFirst, Bool.decide_and, Bool.and_eq_true, decide_eq_true_eq] at awaits
      have reserved : t.operandBuffers id = some (t.operand k id) :=
        operandBuffers_of_operand (.inl (awaits.1 ▸ fills.1))
      exact Yields.pure (balanced.setOperand inside reserved rfl)
    · split
      · rename_i fills
        have awaits := fills.2.2
        simp only [awaitsSecond, Bool.decide_and, Bool.and_eq_true, decide_eq_true_eq] at awaits
        have reserved : t.operandBuffers id = some (t.operand k id) :=
          operandBuffers_of_operand (.inr (awaits.1 ▸ fills.2.1))
        exact Yields.pure (balanced.setOperand inside reserved rfl)
      · exact Yields.throw not_false

theorem answerGet_balanced {t : FlowTables} (balanced : Balanced k settled t) (packet : Packet) :
    Yields (Balanced k settled) (fun _ => False) (answerGet k t packet) := by
  rw [answerGet]
  split
  · exact Yields.throw not_false
  · rename_i flowEntry found
    exact Yields.pure (balanced.answerChild found _)

/-- The operand of an addition that is answered is not at address zero, which stands for
    no operand. -/
def hasOperand (packet : Packet) : Bool :=
  !(packet.CMD = .ACT_ADD || packet.CMD = .ACT_DOT) || packet.SRCADRS1 ≠ 0

theorem address_ne_zero {packet : Packet} (operand : hasOperand packet)
    (isAdd : packet.CMD = .ACT_ADD ∨ packet.CMD = .ACT_DOT) : packet.SRCADRS1 ≠ 0 := by
  rcases isAdd with isAdd | isDot
  · simpa [hasOperand, isAdd] using operand
  · simpa [hasOperand, isDot] using operand

/-- A response keeps the balance; where it is passed on the tables stay. -/
theorem visitResponse_balanced {t : FlowTables} {packet : Packet}
    (balanced : Balanced k settled t) (answers : Answers) (operand : hasOperand packet) :
    Yields (fun visit => Balanced k settled visit.tables ∧
      (SegmentTable.goesUp k.cubeID packet → visit.tables = t)) (fun _ => False)
      (visitResponse k answers t packet) := by
  rw [visitResponse]
  split
  · rename_i isAdd
    have notUp : SegmentTable.goesUp k.cubeID packet = false := by
      rcases isAdd with isAdd | isDot
      · simp [SegmentTable.goesUp, isAdd]
      · simp [SegmentTable.goesUp, isDot]
    apply (operandID_lt packet).bind
    intro id inside
    apply (fillAdd_balanced balanced inside (address_ne_zero operand isAdd)).bind
    intro filled balanced'
    exact Yields.pure ⟨balanced', fun up => (nomatch up.symm.trans notUp)⟩
  · split
    · rename_i isMult
      have notUp : SegmentTable.goesUp k.cubeID packet = false := by
        simp [SegmentTable.goesUp, isMult]
      apply (operandID_lt packet).bind
      intro id inside
      apply (fillMult_balanced balanced inside).bind
      intro filled balanced'
      exact Yields.pure ⟨balanced', fun up => (nomatch up.symm.trans notUp)⟩
    · split
      · rename_i isGet
        have notUp : SegmentTable.goesUp k.cubeID packet = false := by
          simp [SegmentTable.goesUp, isGet]
        apply (answerGet_balanced balanced packet).bind
        intro answered balanced'
        exact Yields.pure ⟨balanced', fun up => (nomatch up.symm.trans notUp)⟩
      · split
        · exact Yields.pure ⟨balanced, fun _ => rfl⟩
        · exact Yields.pure ⟨balanced, fun _ => rfl⟩

/-! ## Operands that are ready -/

theorem operandBuffers_of_ready {t : FlowTables} {id : ℕ} (ready : (t.operand k id).ready) :
    t.operandBuffers id = some (t.operand k id) := by
  rw [FlowTables.operand] at ready ⊢
  cases buffer : t.operandBuffers id with
  | none =>
    rw [buffer] at ready
    cases ready
  | some e => rfl

theorem setOccupancy_balanced {t : FlowTables} (balanced : Balanced k settled t) (occupancy : ℤ) :
    Balanced k settled (setOccupancy t occupancy) :=
  balanced.transfer (setOccupancy t occupancy) rfl (fun _ => rfl) balanced.nodup balanced.free

theorem moveStage_balanced {p : Pipeline} {id : ℕ} {flowEntry : FlowEntry} {e : OperandEntry}
    (balanced : Balanced k settled p.tables) (inside : id < k.operandBufSize)
    (reserved : p.tables.operandBuffers id = some e)
    (found : p.tables.flowTable e.flowID = some flowEntry) :
    Balanced k settled (moveStage k p id e flowEntry).tables := by
  have sameFlow : e.nextStage.flowID = e.flowID := rfl
  rw [moveStage]
  split
  · split
    · exact setOccupancy_balanced (balanced.setOperand inside reserved sameFlow) _
    · exact balanced
  · split
    · exact balanced.setOperand inside reserved sameFlow
    · exact (setOccupancy_balanced balanced _).releaseOperand inside reserved found

theorem processOperand_balanced {p : Pipeline} {id : ℕ}
    (balanced : Balanced k settled p.tables) (inside : id < k.operandBufSize) :
    Yields (fun p' => Balanced k settled p'.tables) (fun _ => False) (processOperand k p id) := by
  rw [processOperand]
  split
  · exact Yields.pure balanced
  · rename_i ready
    have reserved : p.tables.operandBuffers id = some (p.tables.operand k id) :=
      operandBuffers_of_ready (by simpa using ready)
    split
    · exact Yields.throw not_false
    · rename_i flowEntry found
      split
      · exact Yields.pure (moveStage_balanced balanced inside reserved found)
      · apply Yields.pure
        rw [processAdd]
        split
        · exact balanced
        · exact balanced.releaseOperand inside reserved found

/-- The loop over the operand buffers. -/
theorem foldlM_balanced : ∀ {ids : List ℕ} {p : Pipeline}, Balanced k settled p.tables →
    (∀ id ∈ ids, id < k.operandBufSize) →
    Yields (fun p' => Balanced k settled p'.tables) (fun _ => False)
      (ids.foldlM (processOperand k) p)
  | [], _, balanced, _ => Yields.pure balanced
  | id :: ids, p, balanced, inside => by
    obtain ⟨inside_first, inside_rest⟩ := List.forall_mem_cons.mp inside
    rw [List.foldlM_cons]
    apply (processOperand_balanced balanced inside_first).bind
    intro p' balanced'
    exact foldlM_balanced balanced' inside_rest

theorem processOperands_balanced {t : FlowTables} (balanced : Balanced k settled t) :
    Yields (Balanced k settled) (fun _ => False) (processOperands k t) := by
  have inside : ∀ id ∈ List.range k.operandBufSize, id < k.operandBufSize :=
    fun id member => List.mem_range.mp member
  have started : Balanced k settled ({ tables := t } : Pipeline).tables := balanced
  apply (foldlM_balanced started inside).bind
  intro p balanced'
  exact Yields.pure balanced'

/-- A flow is committed when nothing of it is outstanding. -/
theorem commit_balanced {t : FlowTables} (balanced : Balanced k settled t) (answers : Answers)
    (flow : BitVec 64) :
    Balanced k settled (commit k answers t flow).1 ∧
      ((commit k answers t flow).2 = [] → (commit k answers t flow).1 = t) := by
  rw [commit]
  split
  · exact ⟨balanced, fun _ => rfl⟩
  · rename_i flowEntry found
    split
    · rename_i ready
      exact ⟨balanced.deallocate found ready.1, fun nothing => (nomatch nothing)⟩
    · exact ⟨balanced, fun _ => rfl⟩

/-! ## Runs -/

/-- The operands that are answered are not at address zero. -/
def Guard (s : CrossbarSwitch) (action : Action) (_ : CrossbarSwitch) : Prop :=
  match action with
  | .visitUp l i _ => ((s.upBuffers l)[i]?.join).all hasOperand = true
  | _ => True

/-- An action that could not forward a packet, or for which nothing could be reserved. -/
def Fails (k : CubeConfig) (s : CrossbarSwitch) (sent : List (Port × Packet)) : Action → Prop
  | .receiveUp _ _ => True
  | .receiveDown _ _ => True
  | .visitUp l i _ => sent = [] ∧ ∃ packet, (s.upBuffers l)[i]? = some (some packet) ∧
      packet.segment = false ∧ SegmentTable.goesUp k.cubeID packet
  | .visitDown _ _ _ => sent = []
  | .processOperands => False
  | .commit _ _ => sent = []

/-- What an action does to the tables of a crossbar switch. -/
def ActsWell (k : CubeConfig) (s : CrossbarSwitch) (action : Action) :
    Except CubeError (CrossbarSwitch × List (Port × Packet)) → Prop :=
  Yields (fun done => Balanced k settled done.1.tables ∧
    (Fails k s done.2 action → SameCounts s.tables done.1.tables)) fun _ => False

theorem visitSegment_tables (s : CrossbarSwitch) (l i : ℕ) (packet : Packet) :
    Yields (fun s' => s'.tables = s.tables) (fun _ => False) (visitSegment k s l i packet) := by
  rw [visitSegment]
  split
  · exact Yields.throw not_false
  · exact Yields.pure rfl
  · exact Yields.pure rfl

theorem visitUp_actsWell {s : CrossbarSwitch} (balanced : Balanced k settled s.tables) (l i : ℕ)
    (answers : Answers)
    (operands : ((s.upBuffers l)[i]?.join).all hasOperand) :
    ActsWell k s (.visitUp l i answers) (s.visitUp k answers l i) := by
  rw [CrossbarSwitch.visitUp]
  split
  · rename_i packet found
    split
    · exact Yields.throw not_false
    · split
      · rename_i isSegment
        apply (visitSegment_tables s l i packet).bind
        intro s' same
        apply Yields.pure
        rw [same]
        exact ⟨balanced, fun _ => SameCounts.refl _⟩
      · rw [found] at operands
        have operand : hasOperand packet := operands
        apply (visitResponse_balanced balanced answers operand).bind
        intro visit balanced'
        apply Yields.pure
        refine ⟨balanced'.1, ?_⟩
        rintro ⟨-, packet', found', -, up⟩
        rw [found] at found'
        obtain rfl : packet = packet' := Option.some.inj (Option.some.inj found')
        show SameCounts s.tables visit.tables
        rw [balanced'.2 up]
        exact SameCounts.refl _
  · exact Yields.pure ⟨balanced, fun _ => SameCounts.refl _⟩

theorem visitDown_actsWell {s : CrossbarSwitch} (balanced : Balanced k settled s.tables)
    (l i : ℕ) (answers : Answers) :
    ActsWell k s (.visitDown l i answers) (s.visitDown k answers l i) := by
  rw [CrossbarSwitch.visitDown]
  split
  · rename_i packet found
    split
    · exact Yields.throw not_false
    · split
      · exact Yields.pure ⟨balanced, fun _ => SameCounts.refl _⟩
      · apply (visitRequest_accounts answers _ _ packet).bind
        intro visit accounts
        exact Yields.pure ⟨accounts.1 balanced, accounts.2.1⟩
  · exact Yields.pure ⟨balanced, fun _ => SameCounts.refl _⟩

theorem act_actsWell {s : CrossbarSwitch} (balanced : Balanced k settled s.tables)
    (action : Action) (guarded : ∀ s', Guard s action s') : ActsWell k s action (s.act k action) := by
  cases action with
  | receiveUp l packet => exact Yields.pure ⟨balanced, fun _ => SameCounts.refl _⟩
  | receiveDown l packet => exact Yields.pure ⟨balanced, fun _ => SameCounts.refl _⟩
  | visitUp l i answers => exact visitUp_actsWell balanced l i answers (guarded s)
  | visitDown l i answers => exact visitDown_actsWell balanced l i answers
  | processOperands =>
    apply (processOperands_balanced balanced).bind
    intro tables balanced'
    exact Yields.pure ⟨balanced', fun fails => fails.elim⟩
  | commit flow answers =>
    obtain ⟨balanced', same⟩ := commit_balanced balanced answers flow
    refine Yields.pure ⟨balanced', fun nothing => ?_⟩
    show SameCounts s.tables (commit k answers s.tables flow).1
    rw [same nothing]
    exact SameCounts.refl _

theorem start_balanced (k : CubeConfig) : Balanced k settled (start k).tables where
  counted flow flowEntry found := by cases found
  absent flow _ := by
    constructor
    · apply Finset.sum_eq_zero
      intro id _
      rfl
    · rfl
  nodup := List.nodup_range
  free id := by
    show id ∈ List.range k.operandBufSize ↔ _ ∧ none = none
    rw [List.mem_range]
    exact (and_iff_left rfl).symm

theorem run_balanced {s : CrossbarSwitch} {actions : List Action}
    (run : Run (step k) Guard (start k) actions s) : Balanced k settled s.tables := by
  apply run.invariant (start_balanced k)
  intro s action s' balanced stepped guarded
  have acts := act_actsWell balanced action fun _ => guarded
  rw [step] at stepped
  obtain ⟨done, acted, same⟩ := bind_eq_ok.mp stepped
  rw [acted] at acts
  obtain rfl := pure_eq_ok.mp same
  exact acts.1

/-- In every run of a crossbar switch each update that was counted for a flow of the table
    is answered, or an operand buffer is reserved for it, or it is awaited from a child; the
    free operand buffers and those in use are all of them, each once; and an action that
    fails to forward or to reserve leaves the counters and operand buffers as they are. -/
theorem flow_table_conserves {s : CrossbarSwitch} {actions : List Action}
    (run : Run (step k) Guard (start k) actions s) :
    (∀ flow flowEntry, s.tables.flowTable flow = some flowEntry →
        flowEntry.rep_count ≤ flowEntry.req_count ∧
          flowEntry.req_count =
            flowEntry.rep_count + (s.tables.held k flow + flowEntry.awaited)) ∧
      (s.tables.freeOperandBufIDs ++ s.tables.inUse k).Perm (List.range k.operandBufSize) ∧
      ∀ action s' sent, (∀ s', Guard s action s') → s.act k action = .ok (s', sent) →
        Fails k s sent action → SameCounts s.tables s'.tables := by
  have balanced := run_balanced run
  refine ⟨?_, balanced.partition, ?_⟩
  · intro flow flowEntry found
    have counted : flowEntry.req_count = flowEntry.rep_count + s.tables.held k flow +
        flowEntry.awaited + 0 := balanced.counted flow flowEntry found
    omega
  · intro action s' sent guarded acted fails
    have acts := act_actsWell balanced action guarded
    rw [acted] at acts
    exact acts.2 fails

instance (s : CrossbarSwitch) : ∀ action s', Decidable (Guard s action s')
  | .visitUp _ _ _, _ => inferInstanceAs (Decidable (_ = true))
  | .receiveUp _ _, _ => .isTrue trivial
  | .receiveDown _ _, _ => .isTrue trivial
  | .visitDown _ _ _, _ => .isTrue trivial
  | .processOperands, _ => .isTrue trivial
  | .commit _ _, _ => .isTrue trivial

def smallNextLink (dest : ℤ) : Fin numLinks :=
  if dest = 1 then ⟨1, by decide⟩ else if dest = 2 then ⟨2, by decide⟩ else ⟨0, by decide⟩

/-- A cube with a neighbour on each of links 1 and 2, and with two operand buffers. -/
def smallCube : CubeConfig where
  cubeID := 0
  findNextLink dest _ := smallNextLink dest
  neighborCubeID link := link.val
  operandBufSize := 2

def allReceive : Answers := ⟨fun _ => true, fun _ => true, fun _ => true⟩

/-- An addition in the cube, a multiplication that is split there, and an addition that is
    passed on; the operand of the first arrives. -/
def addAndSplit : List Action :=
  let add : Packet :=
    { packetType := .REQUEST, CMD := .ACT_ADD, DESTADRS := 256, SRCADRS1 := 64, ADRS := 64
      LINES := 1, DESTCUB := 0 }
  let mult : Packet :=
    { packetType := .REQUEST, CMD := .ACT_MULT, DESTADRS := 256, SRCADRS1 := 128
      SRCADRS2 := 192, ADRS := 128, LINES := 1, DESTCUB := 1, DESTCUB1 := 1, DESTCUB2 := 2 }
  [.receiveDown 0 add, .receiveDown 0 mult, .receiveDown 0 { add with DESTCUB := 1 },
    .visitDown 0 0 allReceive, .visitDown 0 0 allReceive, .visitDown 0 0 allReceive,
    .visitDown 0 0 allReceive,
    .receiveUp 4 { packetType := .RESPONSE, CMD := .ACT_ADD, DESTADRS := 256, SRCADRS1 := 64
                   DESTCUB := 0, operandBufID := 0 },
    .visitUp 4 0 allReceive, .processOperands]

theorem flow_table_conserves_addAndSplit :
    ∃ s flowEntry, Run (step smallCube) Guard (start smallCube) addAndSplit s ∧
      s.tables.flowTable 256 = some flowEntry ∧ flowEntry.req_count = 3 ∧
      flowEntry.rep_count + (s.tables.held smallCube 256 + flowEntry.awaited) = 3 := by
  have executed : ((execute (step smallCube) Guard (start smallCube) addAndSplit).bind fun s =>
      (s.tables.flowTable 256).map fun flowEntry => flowEntry.req_count) = some 3 := by
    decide +kernel
  obtain ⟨s, executed, found⟩ := Option.bind_eq_some_iff.mp executed
  obtain ⟨flowEntry, found, requests⟩ := Option.map_eq_some_iff.mp found
  have conserved := ((flow_table_conserves (execute_run executed)).1 256 flowEntry found).2
  exact ⟨s, flowEntry, execute_run executed, found, requests, conserved ▸ requests⟩

/-- An addition of flow 0 to which an operand at address zero is answered twice. -/
def zeroAnsweredTwice : List Action :=
  let answer : List Action :=
    [.receiveUp 4 { packetType := .RESPONSE, CMD := .ACT_ADD, DESTADRS := 0, SRCADRS1 := 0
                    DESTCUB := 0, operandBufID := 0 },
      .visitUp 4 0 allReceive, .processOperands]
  [.receiveDown 0
      { packetType := .REQUEST, CMD := .ACT_ADD, DESTADRS := 0, SRCADRS1 := 0, LINES := 1
        DESTCUB := 0 },
    .visitDown 0 0 allReceive] ++ answer ++ answer

/-- The entry that the first answer has released is taken for one that awaits the second, so more
    is answered than was asked for, and a free operand buffer is listed twice. -/
theorem flow_table_zeroAnsweredTwice :
    ∃ s flowEntry, Run (step smallCube) (fun _ _ _ => True) (start smallCube) zeroAnsweredTwice s ∧
      s.tables.flowTable 0 = some flowEntry ∧ flowEntry.req_count < flowEntry.rep_count ∧
      ¬ s.tables.freeOperandBufIDs.Nodup := by
  have executed : ((execute (step smallCube) (fun _ _ _ => True) (start smallCube)
      zeroAnsweredTwice).bind fun s => (s.tables.flowTable 0).map fun flowEntry =>
        (flowEntry.req_count, flowEntry.rep_count, s.tables.freeOperandBufIDs)) =
          some (1, 2, [1, 0, 0]) := by
    decide +kernel
  obtain ⟨s, executed, found⟩ := Option.bind_eq_some_iff.mp executed
  obtain ⟨flowEntry, found, outcome⟩ := Option.map_eq_some_iff.mp found
  obtain ⟨requests, rest⟩ := Prod.mk.inj outcome
  obtain ⟨replies, free⟩ := Prod.mk.inj rest
  refine ⟨s, flowEntry, execute_run executed, found, ?_, ?_⟩
  · rw [requests, replies]
    exact Nat.lt_succ_self 1
  · rw [free]
    decide

end CrossbarSwitch

end ActiveRouting

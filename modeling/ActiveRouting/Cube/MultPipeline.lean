import Mathlib.Algebra.BigOperators.Group.Finset.Piecewise
import ActiveRouting.Cube.FlowConservation

/-!
# The pipeline of multiplications

An operand buffer whose counter is below the number of stages is a multiplication in
the pipeline.  A cycle moves all of them on by a stage, starts at most one more, and
frees the operand buffers that it counts for their flows.
-/

namespace ActiveRouting

open Outcome Transition

namespace FlowTables

variable {k : CubeConfig} {t t' t'' : FlowTables}

@[simp] theorem operand_setOperand_self (id : ℕ) (entry : Option OperandEntry) :
    (t.setOperand id entry).operand k id = entry.getD k.newOperand := by
  simp [operand, setOperand]

theorem operand_setOperand_of_ne {id other : ℕ} (isOther : other ≠ id)
    (entry : Option OperandEntry) : (t.setOperand id entry).operand k other = t.operand k other := by
  simp [operand, setOperand, isOther]

/-! ## Operand buffers in a stage -/

/-- Whether an operand buffer is a multiplication that has started. -/
def started (k : CubeConfig) (entry : Option OperandEntry) : ℕ :=
  if (entry.getD k.newOperand).multStageCounter < k.numMultStages then 1 else 0

/-- The cycles that an operand buffer stays ready when it need not wait. -/
def stagesLeft (k : CubeConfig) (entry : Option OperandEntry) : ℕ :=
  if (entry.getD k.newOperand).ready then
    (entry.getD k.newOperand).multStageCounter.toNat
  else 0

def totalStarted (k : CubeConfig) (t : FlowTables) : ℕ :=
  ∑ id ∈ Finset.range k.operandBufSize, started k (t.operandBuffers id)

def totalLeft (k : CubeConfig) (t : FlowTables) : ℕ :=
  ∑ id ∈ Finset.range k.operandBufSize, stagesLeft k (t.operandBuffers id)

/-- The operand buffers whose counter is strictly between 0 and the number of stages. -/
def inStages (k : CubeConfig) (t : FlowTables) : ℕ :=
  ((Finset.range k.operandBufSize).filter fun id =>
    0 < (t.operand k id).multStageCounter ∧
      (t.operand k id).multStageCounter < k.numMultStages).card

/-- The operand buffers that have left the first stage have their operands, and belong to a
    flow of multiplications; they are counted. -/
structure Staged (k : CubeConfig) (t : FlowTables) : Prop where
  bounds : ∀ id, 0 < (t.operand k id).multStageCounter ∧
    (t.operand k id).multStageCounter ≤ k.numMultStages
  moving : ∀ id, id < k.operandBufSize → (t.operand k id).multStageCounter < k.numMultStages →
    (t.operand k id).ready = true ∧
      ∃ flowEntry, t.flowTable (t.operand k id).flowID = some flowEntry ∧ flowEntry.opcode = .MAC
  complete : ∀ id, Complete (t.operand k id)
  occupancy : t.multPipeOccupancy = totalStarted k t
  atMost : t.multPipeOccupancy ≤ k.numMultStages

theorem totalLeft_setOperand {id : ℕ} (inside : id < k.operandBufSize)
    (entry : Option OperandEntry) :
    totalLeft k (t.setOperand id entry) + stagesLeft k (t.operandBuffers id) =
      totalLeft k t + stagesLeft k entry :=
  Ledger.sum_update (Finset.mem_range.mpr inside) (stagesLeft k) t.operandBuffers entry

theorem inStages_eq_totalStarted (bounds : ∀ id, 0 < (t.operand k id).multStageCounter) :
    inStages k t = totalStarted k t := by
  rw [inStages, Finset.card_filter]
  apply Finset.sum_congr rfl
  intro id _
  simp only [bounds id, true_and]
  rfl

theorem toChar_of_le {n : ℤ} (nonneg : 0 ≤ n) (atMost : n ≤ 127) : toChar n = n := by
  rw [toChar, Int.bmod_eq_of_le]
  · omega
  · omega

theorem newOperand_counter (stages : k.numMultStages ≤ 127) :
    k.newOperand.multStageCounter = k.numMultStages := by
  rw [CubeConfig.newOperand, toChar_of_le]
  · omega
  · omega

theorem nextStage_counter {e : OperandEntry} (positive : 0 < e.multStageCounter)
    (atMost : e.multStageCounter ≤ 127) :
    e.nextStage.multStageCounter = e.multStageCounter - 1 := by
  rw [OperandEntry.nextStage, toChar_of_le]
  · omega
  · omega

namespace Staged

/-- What leaves the pipeline alone keeps its account. -/
theorem aside (staged : Staged k t) (isAside : Aside k t t') : Staged k t' where
  bounds id := isAside.stage id ▸ staged.bounds id
  moving id inside moves := by
    rw [isAside.stage id] at moves
    obtain ⟨ready, flowEntry, found, isMAC⟩ := staged.moving id inside moves
    have same : t'.operand k id = t.operand k id := by
      rw [operand, isAside.ready id ready]
      rfl
    obtain ⟨flowEntry', found', sameOpcode⟩ := isAside.opcode _ flowEntry found
    rw [same]
    exact ⟨ready, flowEntry', found', sameOpcode.trans isMAC⟩
  complete := isAside.complete staged.complete
  occupancy := by
    have same : totalStarted k t' = totalStarted k t := by
      apply Finset.sum_congr rfl
      intro id _
      have sameStage : ((t'.operandBuffers id).getD k.newOperand).multStageCounter =
          ((t.operandBuffers id).getD k.newOperand).multStageCounter := isAside.stage id
      rw [started, started, sameStage]
    rw [isAside.occupancy, same]
    exact staged.occupancy
  atMost := isAside.occupancy ▸ staged.atMost

/-- One operand buffer is overwritten, and the occupancy follows. -/
theorem overwrite {id : ℕ} {entry : Option OperandEntry} (staged : Staged k t)
    (inside : id < k.operandBufSize)
    (buffers : t'.operandBuffers = Function.update t.operandBuffers id entry)
    (flows : ∀ flow flowEntry, t.flowTable flow = some flowEntry →
      ∃ flowEntry', t'.flowTable flow = some flowEntry' ∧ flowEntry'.opcode = flowEntry.opcode)
    (bounds : 0 < (t'.operand k id).multStageCounter ∧
      (t'.operand k id).multStageCounter ≤ k.numMultStages)
    (moving : (t'.operand k id).multStageCounter < k.numMultStages →
      (t'.operand k id).ready = true ∧ ∃ flowEntry,
        t.flowTable (t'.operand k id).flowID = some flowEntry ∧ flowEntry.opcode = .MAC)
    (complete : Complete (t'.operand k id))
    (counted : t'.multPipeOccupancy + started k (t.operandBuffers id) =
      t.multPipeOccupancy + started k entry)
    (atMost : t'.multPipeOccupancy ≤ k.numMultStages) : Staged k t' := by
  have others : ∀ other, other ≠ id → t'.operand k other = t.operand k other := by
    intro other isOther
    rw [operand, buffers, Function.update_of_ne isOther]
    rfl
  have keepsMAC : ∀ flow, (∃ flowEntry, t.flowTable flow = some flowEntry ∧
      flowEntry.opcode = .MAC) → ∃ flowEntry, t'.flowTable flow = some flowEntry ∧
        flowEntry.opcode = .MAC := by
    rintro flow ⟨flowEntry, found, isMAC⟩
    obtain ⟨flowEntry', found', same⟩ := flows flow flowEntry found
    exact ⟨flowEntry', found', same.trans isMAC⟩
  have total : totalStarted k t' + started k (t.operandBuffers id) =
      totalStarted k t + started k entry := by
    have changed := Ledger.sum_update (Finset.mem_range.mpr inside) (started k)
      t.operandBuffers entry
    rw [totalStarted, buffers]
    exact changed
  exact {
    bounds := by
      intro other
      by_cases same : other = id
      · exact same ▸ bounds
      · exact others other same ▸ staged.bounds other
    moving := by
      intro other insideOther moves
      by_cases same : other = id
      · subst same
        exact ⟨(moving moves).1, keepsMAC _ (moving moves).2⟩
      · rw [others other same] at moves ⊢
        have old := staged.moving other insideOther moves
        exact ⟨old.1, keepsMAC _ old.2⟩
    complete := by
      intro other
      by_cases same : other = id
      · exact same ▸ complete
      · exact others other same ▸ staged.complete other
    occupancy := by
      have before := staged.occupancy
      omega
    atMost := atMost }

end Staged

end FlowTables

namespace CrossbarSwitch

open FlowTables

variable {k : CubeConfig}

/-! ## The visit of an operand buffer -/

/-- An operand buffer that is ready waits for others, and has not started. -/
def Blocked (k : CubeConfig) (p : Pipeline) (id : ℕ) : Prop :=
  (p.tables.operand k id).ready = true →
    (p.tables.operand k id).multStageCounter = k.numMultStages ∧
      (p.startedMult = true ∨ p.finishedAdd = true ∨
        k.numMultStages ≤ p.tables.multPipeOccupancy)

/-- An operand buffer waits, or its multiplication starts or moves on by a stage, or it is
    counted and freed. -/
inductive Processed (k : CubeConfig) (p : Pipeline) (id : ℕ) : Pipeline → Prop
  | waits (blocked : Blocked k p id) : Processed k p id p
  | advances {flowEntry : FlowEntry} (isReady : (p.tables.operand k id).ready = true)
      (found : p.tables.flowTable (p.tables.operand k id).flowID = some flowEntry)
      (isMAC : flowEntry.opcode = .MAC) (later : 1 < (p.tables.operand k id).multStageCounter)
      (occupancy : ℤ) (startedMult : Bool)
      (enters : (p.tables.operand k id).multStageCounter = k.numMultStages →
        p.startedMult = false ∧ startedMult = true ∧
          p.tables.multPipeOccupancy < k.numMultStages ∧
            occupancy = p.tables.multPipeOccupancy + 1)
      (stays : (p.tables.operand k id).multStageCounter ≠ k.numMultStages →
        startedMult = p.startedMult ∧ occupancy = p.tables.multPipeOccupancy) :
      Processed k p id
        { p with
          tables := setOccupancy
            (p.tables.setOperand id (some (p.tables.operand k id).nextStage)) occupancy
          startedMult := startedMult }
  | releases {flowEntry : FlowEntry} (isReady : (p.tables.operand k id).ready = true)
      (found : p.tables.flowTable (p.tables.operand k id).flowID = some flowEntry)
      (occupancy : ℤ) (finishedAdd : Bool)
      (leaves : occupancy + started k (p.tables.operandBuffers id) =
        p.tables.multPipeOccupancy) :
      Processed k p id
        { p with
          tables := releaseOperand (setOccupancy p.tables occupancy) id
            (p.tables.operand k id).flowID flowEntry
          finishedAdd := finishedAdd }

/-- The flow of an operand buffer that is ready is in the table. -/
theorem flowTable_of_ready {t : FlowTables} (balanced : Balanced k settled t) {id : ℕ}
    (inside : id < k.operandBufSize) (isReady : (t.operand k id).ready = true) :
    ∃ flowEntry, t.flowTable (t.operand k id).flowID = some flowEntry := by
  cases found : t.flowTable (t.operand k id).flowID with
  | some flowEntry => exact ⟨flowEntry, rfl⟩
  | none =>
    have noneHeld : t.held k (t.operand k id).flowID = 0 := (balanced.absent _ found).1
    have mine : reservedFor (t.operand k id).flowID (t.operandBuffers id) = 1 := by
      rw [operandBuffers_of_ready isReady]
      exact reservedFor_self _
    have none_mine := Finset.sum_eq_zero_iff.mp noneHeld id (Finset.mem_range.mpr inside)
    rw [mine] at none_mine
    cases none_mine

@[simp] theorem operand_setOccupancy (t : FlowTables) (occupancy : ℤ) (id : ℕ) :
    (setOccupancy t occupancy).operand k id = t.operand k id := rfl

@[simp] theorem operand_releaseOperand_self (t : FlowTables) (id : ℕ) (flow : BitVec 64)
    (flowEntry : FlowEntry) :
    (releaseOperand t id flow flowEntry).operand k id = k.newOperand := by
  simp [operand, releaseOperand, setOperand]

theorem operand_releaseOperand_of_ne (t : FlowTables) {id other : ℕ} (isOther : other ≠ id)
    (flow : BitVec 64) (flowEntry : FlowEntry) :
    (releaseOperand t id flow flowEntry).operand k other = t.operand k other := by
  simp [operand, releaseOperand, setOperand, setFlow, isOther]

/-- The flows that are in the table stay there, the one of the freed operands with one more. -/
theorem flowTable_releaseOperand {t : FlowTables} {id : ℕ} {flow : BitVec 64}
    {flowEntry : FlowEntry} (found : t.flowTable flow = some flowEntry) (other : BitVec 64)
    (otherEntry : FlowEntry) (isOther : t.flowTable other = some otherEntry) :
    ∃ entry', (releaseOperand t id flow flowEntry).flowTable other = some entry' ∧
      entry'.opcode = otherEntry.opcode ∧
        entry'.rep_count = otherEntry.rep_count + if flow = other then 1 else 0 := by
  by_cases same : flow = other
  · subst same
    obtain rfl : flowEntry = otherEntry := Option.some.inj (found.symm.trans isOther)
    refine ⟨flowEntry.addReply, by simp [releaseOperand, setOperand, setFlow], rfl, ?_⟩
    simp [FlowEntry.addReply]
  · refine ⟨otherEntry, ?_, rfl, by simp [same]⟩
    simp [releaseOperand, setOperand, setFlow, Ne.symm same, isOther]

variable {p : Pipeline} {id : ℕ} {flowEntry : FlowEntry}

theorem started_of_atStart {t : FlowTables}
    (atStart : (t.operand k id).multStageCounter = k.numMultStages) :
    started k (t.operandBuffers id) = 0 := by
  have notBelow : ¬ (t.operand k id).multStageCounter < k.numMultStages := by omega
  exact if_neg notBelow

theorem started_of_moving {t : FlowTables}
    (moving : (t.operand k id).multStageCounter < k.numMultStages) :
    started k (t.operandBuffers id) = 1 := if_pos moving

theorem moveStage_processed (staged : Staged k p.tables)
    (stages : 2 ≤ k.numMultStages ∧ k.numMultStages ≤ 127)
    (isReady : (p.tables.operand k id).ready = true)
    (found : p.tables.flowTable (p.tables.operand k id).flowID = some flowEntry)
    (isMAC : flowEntry.opcode = .MAC) :
    Processed k p id (moveStage k p id (p.tables.operand k id) flowEntry) := by
  have bounds := staged.bounds id
  have next := nextStage_counter bounds.1 (by omega)
  rw [moveStage]
  split
  · rename_i atStart
    split
    · rename_i starts
      have notStarted : p.startedMult = false := by simpa using starts.1
      exact .advances isReady found isMAC (by omega) _ true
        (fun _ => ⟨notStarted, rfl, starts.2, rfl⟩) fun moved => (moved atStart).elim
    · rename_i full
      apply Processed.waits
      intro _
      cases isStarted : p.startedMult with
      | true => exact ⟨atStart, .inl rfl⟩
      | false =>
        simp only [isStarted, Bool.not_false, true_and] at full
        exact ⟨atStart, .inr (.inr (by omega))⟩
  · rename_i moved
    split
    · rename_i more
      exact .advances isReady found isMAC (by omega) p.tables.multPipeOccupancy p.startedMult
        (fun atStart => (moved atStart).elim) fun _ => ⟨rfl, rfl⟩
    · have isMoving : started k (p.tables.operandBuffers id) = 1 :=
          started_of_moving (by omega)
      exact .releases isReady found _ p.finishedAdd (by omega)

theorem processAdd_processed (staged : Staged k p.tables) (inside : id < k.operandBufSize)
    (isReady : (p.tables.operand k id).ready = true)
    (found : p.tables.flowTable (p.tables.operand k id).flowID = some flowEntry)
    (notMAC : flowEntry.opcode ≠ .MAC) :
    Processed k p id (processAdd p id (p.tables.operand k id) flowEntry) := by
  have atStart : (p.tables.operand k id).multStageCounter = k.numMultStages := by
    by_contra moved
    have atMost := (staged.bounds id).2
    obtain ⟨-, other, isOther, isMAC⟩ := staged.moving id inside (by omega)
    obtain rfl : other = flowEntry := Option.some.inj (isOther.symm.trans found)
    exact notMAC isMAC
  rw [processAdd]
  split
  · rename_i finished
    exact .waits fun _ => ⟨atStart, .inr (.inl finished.2)⟩
  · have notStarted := started_of_atStart atStart
    exact .releases isReady found p.tables.multPipeOccupancy _ (by omega)

theorem processOperand_processed (staged : Staged k p.tables)
    (balanced : Balanced k settled p.tables) (stages : 2 ≤ k.numMultStages ∧ k.numMultStages ≤ 127)
    (inside : id < k.operandBufSize) :
    ∃ p', processOperand k p id = .ok p' ∧ Processed k p id p' := by
  rw [processOperand]
  split
  · rename_i notReady
    refine ⟨p, rfl, .waits fun isReady => ?_⟩
    simp [isReady] at notReady
  · rename_i isReady
    have isReady : (p.tables.operand k id).ready = true := by simpa using isReady
    obtain ⟨flowEntry, found⟩ := flowTable_of_ready balanced inside isReady
    simp only [found]
    split
    · rename_i isMAC
      exact ⟨_, rfl, moveStage_processed staged stages isReady found isMAC⟩
    · rename_i notMAC
      exact ⟨_, rfl, processAdd_processed staged inside isReady found notMAC⟩

/-! ## What a cycle does -/

/-- The entry of the flow table is of the same operation, with more operands counted. -/
def Counts (more : ℕ) (flowEntry flowEntry' : FlowEntry) : Prop :=
  flowEntry'.opcode = flowEntry.opcode ∧ flowEntry'.rep_count = flowEntry.rep_count + more

/-- Operand buffers that were ready are freed, and each of them is counted for its flow; the
    others stay ready or not as they are. -/
structure Consumes (k : CubeConfig) (t t' : FlowTables) (released : List ℕ) : Prop where
  freed : t'.freeOperandBufIDs = t.freeOperandBufIDs ++ released
  wasReady : ∀ id ∈ released, (t.operand k id).ready = true
  isFree : ∀ id ∈ released, t'.operandBuffers id = none
  staysFree : ∀ id, t.operandBuffers id = none → t'.operandBuffers id = none
  others : ∀ id, id ∉ released → (t'.operand k id).ready = (t.operand k id).ready ∧
    (t'.operand k id).flowID = (t.operand k id).flowID
  counted : ∀ flow flowEntry, t.flowTable flow = some flowEntry →
    ∃ flowEntry', t'.flowTable flow = some flowEntry' ∧
      Counts (released.countP fun id => (t.operand k id).flowID = flow) flowEntry flowEntry'

namespace Consumes

variable {t t' t'' : FlowTables}

theorem refl (t : FlowTables) : Consumes k t t [] where
  freed := (List.append_nil _).symm
  wasReady _ member := (nomatch member)
  isFree _ member := (nomatch member)
  staysFree _ vacant := vacant
  others _ _ := ⟨rfl, rfl⟩
  counted _ flowEntry found := ⟨flowEntry, found, rfl, rfl⟩

theorem trans {released released' : List ℕ} (first : Consumes k t t' released)
    (second : Consumes k t' t'' released') : Consumes k t t'' (released ++ released') := by
  -- what is freed is not ready any more, and so it is not freed again
  have notAgain : ∀ id ∈ released', id ∉ released := by
    intro id member isReleased
    have isReady := second.wasReady id member
    rw [FlowTables.operand, first.isFree id isReleased] at isReady
    cases isReady
  exact {
    freed := by rw [second.freed, first.freed, List.append_assoc]
    wasReady := by
      intro id member
      cases List.mem_append.mp member with
      | inl isFirst => exact first.wasReady id isFirst
      | inr isSecond =>
        rw [← (first.others id (notAgain id isSecond)).1]
        exact second.wasReady id isSecond
    isFree := by
      intro id member
      cases List.mem_append.mp member with
      | inl isFirst => exact second.staysFree id (first.isFree id isFirst)
      | inr isSecond => exact second.isFree id isSecond
    staysFree := fun id vacant => second.staysFree id (first.staysFree id vacant)
    others := by
      intro id notReleased
      simp only [List.mem_append, not_or] at notReleased
      have old := first.others id notReleased.1
      have new := second.others id notReleased.2
      exact ⟨new.1.trans old.1, new.2.trans old.2⟩
    counted := by
      intro flow flowEntry found
      obtain ⟨flowEntry', found', same, counted⟩ := first.counted flow flowEntry found
      obtain ⟨flowEntry'', found'', same', counted'⟩ := second.counted flow flowEntry' found'
      have sameFlows : released'.countP (fun id => (t'.operand k id).flowID = flow) =
          released'.countP (fun id => (t.operand k id).flowID = flow) := by
        apply List.countP_congr
        intro id member
        rw [(first.others id (notAgain id member)).2]
      refine ⟨flowEntry'', found'', same'.trans same, ?_⟩
      rw [List.countP_append, counted', counted, sameFlows]
      omega }

end Consumes

/-- Whether the multiplication of an operand buffer has not started. -/
def AtStart (k : CubeConfig) (t : FlowTables) (id : ℕ) : Prop :=
  (t.operand k id).multStageCounter = k.numMultStages

/-- At most one operand buffer starts, and none when one has started before. -/
structure OneStart (k : CubeConfig) (p p' : Pipeline) : Prop where
  keeps : p.startedMult = true → p'.startedMult = true
  blocked : p.startedMult = true → ∀ id, AtStart k p.tables id → AtStart k p'.tables id
  recorded : ∀ id, AtStart k p.tables id → ¬ AtStart k p'.tables id → p'.startedMult = true
  once : ∀ id id', AtStart k p.tables id → ¬ AtStart k p'.tables id → AtStart k p.tables id' →
    ¬ AtStart k p'.tables id' → id = id'

namespace OneStart

variable {p p' p'' : Pipeline}

theorem of_none (flag : p'.startedMult = p.startedMult)
    (noneStarts : ∀ id, AtStart k p.tables id → AtStart k p'.tables id) : OneStart k p p' where
  keeps isStarted := flag.trans isStarted
  blocked _ := noneStarts
  recorded id before after := (after (noneStarts id before)).elim
  once id _ before after := (after (noneStarts id before)).elim

theorem trans (first : OneStart k p p') (second : OneStart k p' p'') : OneStart k p p'' where
  keeps isStarted := second.keeps (first.keeps isStarted)
  blocked isStarted id before :=
    second.blocked (first.keeps isStarted) id (first.blocked isStarted id before)
  recorded id before after := by
    by_cases between : AtStart k p'.tables id
    · exact second.recorded id between after
    · exact second.keeps (first.recorded id before between)
  once id id' before after before' after' := by
    by_cases between : AtStart k p'.tables id
    · by_cases between' : AtStart k p'.tables id'
      · exact second.once id id' between after between' after'
      · exact (after (second.blocked (first.recorded id' before' between') id between)).elim
    · by_cases between' : AtStart k p'.tables id'
      · exact (after' (second.blocked (first.recorded id before between) id' between')).elim
      · exact first.once id id' before between before' between'

end OneStart

/-! ## Steps of the loop -/

namespace Processed

variable {p p' : Pipeline} {id : ℕ}

theorem staged (processed : Processed k p id p') (staged : Staged k p.tables)
    (stages : 2 ≤ k.numMultStages ∧ k.numMultStages ≤ 127) (inside : id < k.operandBufSize) :
    Staged k p'.tables := by
  have bounds := staged.bounds id
  have atMost := staged.atMost
  cases processed with
  | waits => exact staged
  | advances isReady found isMAC later occupancy startedMult enters stays =>
    have next := nextStage_counter bounds.1 (by omega)
    have nowMoving : started k (some (p.tables.operand k id).nextStage) = 1 := by
      apply if_pos
      simp only [Option.getD_some, next]
      omega
    have counted : occupancy + started k (p.tables.operandBuffers id) =
        p.tables.multPipeOccupancy + 1 := by
      by_cases atStart : (p.tables.operand k id).multStageCounter = k.numMultStages
      · have notStarted := started_of_atStart atStart
        have entered := (enters atStart).2.2.2
        omega
      · have isMoving : started k (p.tables.operandBuffers id) = 1 :=
          started_of_moving (by omega)
        have stayed := (stays atStart).2
        omega
    have isNext : (setOccupancy (p.tables.setOperand id
        (some (p.tables.operand k id).nextStage)) occupancy).operand k id =
          (p.tables.operand k id).nextStage := by simp
    have buffers : (setOccupancy (p.tables.setOperand id
        (some (p.tables.operand k id).nextStage)) occupancy).operandBuffers =
          Function.update p.tables.operandBuffers id
            (some (p.tables.operand k id).nextStage) := rfl
    apply staged.overwrite inside buffers
    · exact fun flow flowEntry isEntry => ⟨flowEntry, isEntry, rfl⟩
    · rw [isNext, next]
      omega
    · rw [isNext]
      exact fun _ => ⟨isReady, _, found, isMAC⟩
    · rw [isNext]
      exact fun _ _ => isReady
    · rw [nowMoving]
      exact counted
    · show occupancy ≤ _
      by_cases atStart : (p.tables.operand k id).multStageCounter = k.numMultStages
      · have entered := enters atStart
        omega
      · have stayed := (stays atStart).2
        omega
  | @releases flowEntry isReady found occupancy finishedAdd leaves =>
    have isNew : (releaseOperand (setOccupancy p.tables occupancy) id
        (p.tables.operand k id).flowID flowEntry).operand k id = k.newOperand := by simp
    have counter := newOperand_counter stages.2
    have notStarted : started k none = 0 := by
      apply if_neg
      rw [Option.getD_none, counter]
      exact lt_irrefl _
    have fewer : p.tables.multPipeOccupancy =
        occupancy + started k (p.tables.operandBuffers id) := leaves.symm
    have buffers : (releaseOperand (setOccupancy p.tables occupancy) id
        (p.tables.operand k id).flowID flowEntry).operandBuffers =
          Function.update p.tables.operandBuffers id none := rfl
    apply staged.overwrite inside buffers
    · intro flow flowEntry isEntry
      obtain ⟨flowEntry', found', same, -⟩ := @flowTable_releaseOperand
        (setOccupancy p.tables occupancy) id _ _ found flow flowEntry isEntry
      exact ⟨flowEntry', found', same⟩
    · rw [isNew, counter]
      omega
    · rw [isNew, counter]
      omega
    · rw [isNew]
      exact fun arrived => (nomatch arrived)
    · show occupancy + _ = _
      omega
    · show occupancy ≤ _
      omega

theorem consumes (processed : Processed k p id p') :
    ∃ released, Consumes k p.tables p'.tables released := by
  cases processed with
  | waits => exact ⟨[], .refl _⟩
  | advances isReady found isMAC later occupancy startedMult enters stays =>
    refine ⟨[], (List.append_nil _).symm, fun _ member => (nomatch member),
      fun _ member => (nomatch member), ?_, ?_, fun _ flowEntry found => ⟨flowEntry, found, rfl, rfl⟩⟩
    · intro other vacant
      have isOther : other ≠ id := by
        rintro rfl
        rw [operandBuffers_of_ready isReady] at vacant
        cases vacant
      simpa [setOccupancy, FlowTables.setOperand, isOther] using vacant
    · intro other _
      by_cases same : other = id
      · subst same
        simp [OperandEntry.nextStage]
      · simp [operand_setOperand_of_ne same]
  | @releases flowEntry isReady found occupancy finishedAdd leaves =>
    refine ⟨[id], rfl, ?_, ?_, ?_, ?_, ?_⟩
    · intro other isReleased
      rw [List.mem_singleton.mp isReleased]
      exact isReady
    · intro other isReleased
      rw [List.mem_singleton.mp isReleased]
      simp [releaseOperand, FlowTables.setOperand]
    · intro other vacant
      by_cases same : other = id
      · simp [same, releaseOperand, FlowTables.setOperand]
      · simpa [releaseOperand, FlowTables.setOperand, setFlow, setOccupancy, same] using vacant
    · intro other notReleased
      have isOther : other ≠ id := by simpa using notReleased
      simp [operand_releaseOperand_of_ne _ isOther]
    · intro flow otherEntry isEntry
      obtain ⟨flowEntry', found', same, more⟩ := @flowTable_releaseOperand
        (setOccupancy p.tables occupancy) id _ _ found flow otherEntry isEntry
      refine ⟨flowEntry', found', same, ?_⟩
      rw [more, List.countP_singleton]
      simp

theorem oneStart (processed : Processed k p id p')
    (stages : 2 ≤ k.numMultStages ∧ k.numMultStages ≤ 127) : OneStart k p p' := by
  cases processed with
  | waits => exact .of_none rfl fun _ before => before
  | advances isReady found isMAC later occupancy startedMult enters stays =>
    have others : ∀ other, other ≠ id → AtStart k p.tables other →
        AtStart k (setOccupancy (p.tables.setOperand id
          (some (p.tables.operand k id).nextStage)) occupancy) other := by
      intro other isOther before
      simpa [AtStart, operand_setOperand_of_ne isOther] using before
    by_cases atStart : (p.tables.operand k id).multStageCounter = k.numMultStages
    · -- only this one leaves the start, and none had started before
      have entered := enters atStart
      have isThis : ∀ other, AtStart k p.tables other → ¬ AtStart k (setOccupancy
          (p.tables.setOperand id (some (p.tables.operand k id).nextStage)) occupancy) other →
            other = id := by
        intro other before after
        by_contra isOther
        exact after (others other isOther before)
      exact {
        keeps := fun _ => entered.2.1
        blocked := by
          intro isStarted
          rw [entered.1] at isStarted
          cases isStarted
        recorded := fun _ _ _ => entered.2.1
        once := fun other other' before after before' after' =>
          (isThis other before after).trans (isThis other' before' after').symm }
    · apply OneStart.of_none (stays atStart).1
      intro other before
      apply others other _ before
      rintro rfl
      exact atStart before
  | releases isReady found occupancy finishedAdd leaves =>
    apply OneStart.of_none
    · rfl
    · intro other before
      by_cases same : other = id
      · subst same
        simpa [AtStart] using newOperand_counter stages.2
      · simpa [AtStart, operand_releaseOperand_of_ne _ same] using before

/-- What is left to do falls, unless the operand buffer waits. -/
theorem totalLeft_falls (processed : Processed k p id p') (staged : Staged k p.tables)
    (stages : 2 ≤ k.numMultStages ∧ k.numMultStages ≤ 127) (inside : id < k.operandBufSize) :
    p' = p ∧ Blocked k p id ∨ totalLeft k p'.tables < totalLeft k p.tables := by
  have bounds := staged.bounds id
  have leftOf_ready : (p.tables.operand k id).ready = true →
      stagesLeft k (p.tables.operandBuffers id) =
        (p.tables.operand k id).multStageCounter.toNat := fun isReady => if_pos isReady
  cases processed with
  | waits blocked => exact .inl ⟨rfl, blocked⟩
  | advances isReady found isMAC later occupancy startedMult enters stays =>
    have next := nextStage_counter bounds.1 (by omega)
    have changed := totalLeft_setOperand (t := p.tables) inside
      (some (p.tables.operand k id).nextStage)
    have left : stagesLeft k (some (p.tables.operand k id).nextStage) =
        (p.tables.operand k id).nextStage.multStageCounter.toNat := if_pos isReady
    rw [leftOf_ready isReady, left, next] at changed
    right
    show totalLeft k (p.tables.setOperand id _) < _
    omega
  | releases isReady found occupancy finishedAdd leaves =>
    have changed := totalLeft_setOperand (t := p.tables) inside none
    have left : stagesLeft k none = 0 := rfl
    rw [leftOf_ready isReady, left] at changed
    right
    show totalLeft k (p.tables.setOperand id none) < _
    omega

end Processed

/-! ## Cycles -/

/-- The tables of a reachable state. -/
structure Accounted (k : CubeConfig) (t : FlowTables) : Prop where
  balanced : Balanced k settled t
  staged : Staged k t

theorem processOperand_accounted {p : Pipeline} {id : ℕ} (accounted : Accounted k p.tables)
    (stages : 2 ≤ k.numMultStages ∧ k.numMultStages ≤ 127) (inside : id < k.operandBufSize) :
    ∃ p', processOperand k p id = .ok p' ∧ Processed k p id p' ∧ Accounted k p'.tables := by
  obtain ⟨p', isResult, processed⟩ :=
    processOperand_processed accounted.staged accounted.balanced stages inside
  have balanced := processOperand_balanced accounted.balanced inside
  rw [isResult] at balanced
  exact ⟨p', isResult, processed, balanced, processed.staged accounted.staged stages inside⟩

/-- What a part of a cycle has done. -/
def Progress (k : CubeConfig) (p p' : Pipeline) : Prop :=
  OneStart k p p' ∧ ∃ released, Consumes k p.tables p'.tables released

/-- The loop over the operand buffers. -/
theorem processOperands_progress {t : FlowTables} (accounted : Accounted k t)
    (stages : 2 ≤ k.numMultStages ∧ k.numMultStages ≤ 127) :
    ∃ p, (List.range k.operandBufSize).foldlM (processOperand k) { tables := t } = .ok p ∧
      Accounted k p.tables ∧ Progress k { tables := t } p ∧
        totalLeft k p.tables ≤ totalLeft k t ∧
          (totalLeft k p.tables = totalLeft k t →
            ∀ id < k.operandBufSize, Blocked k { tables := t } id) := by
  have steps : ∀ id ∈ List.range k.operandBufSize, ∀ p : Pipeline, Accounted k p.tables →
      ∃ p', processOperand k p id = .ok p' ∧ Accounted k p'.tables ∧ Progress k p p' ∧
        totalLeft k p'.tables ≤ totalLeft k p.tables ∧
          (totalLeft k p'.tables = totalLeft k p.tables → p' = p) := by
    intro id member p accounted
    have inside := List.mem_range.mp member
    obtain ⟨p', isResult, processed, accounted'⟩ :=
      processOperand_accounted accounted stages inside
    refine ⟨p', isResult, accounted', ⟨processed.oneStart stages, processed.consumes⟩, ?_⟩
    cases processed.totalLeft_falls accounted.staged stages inside with
    | inl waits => exact ⟨waits.1 ▸ le_refl _, fun _ => waits.1⟩
    | inr falls => exact ⟨falls.le, fun same => (falls.ne same).elim⟩
  obtain ⟨p, folded, accounted', progress, falls, still⟩ := foldlM_ranked (processOperand k)
    (fun p => Accounted k p.tables) (Progress k) (fun p => totalLeft k p.tables)
    (fun p => ⟨.of_none rfl fun _ before => before, [], .refl _⟩)
    (fun p p' p'' first second => ⟨first.1.trans second.1, by
      obtain ⟨released, consumes⟩ := first.2
      obtain ⟨released', consumes'⟩ := second.2
      exact ⟨released ++ released', consumes.trans consumes'⟩⟩)
    (List.range k.operandBufSize) { tables := t } accounted steps
  refine ⟨p, folded, accounted', progress, falls, ?_⟩
  intro same id inside
  have isStill := (still same).2 id (List.mem_range.mpr inside)
  obtain ⟨p', isResult, processed, -⟩ :=
    processOperand_accounted (p := { tables := t }) accounted stages inside
  obtain rfl : p' = { tables := t } := Except.ok.inj (isResult.symm.trans isStill)
  cases processed.totalLeft_falls accounted.staged stages inside with
  | inl waits => exact waits.2
  | inr falls => exact (lt_irrefl _ falls).elim

/-- Where all that are ready wait, nothing is ready. -/
theorem notReady_of_blocked {t : FlowTables} (staged : Staged k t)
    (stages : 2 ≤ k.numMultStages ∧ k.numMultStages ≤ 127)
    (blocked : ∀ id < k.operandBufSize, Blocked k { tables := t } id) :
    ∀ id < k.operandBufSize, (t.operand k id).ready = false := by
  have atStart : ∀ id < k.operandBufSize,
      (t.operand k id).multStageCounter = k.numMultStages := by
    intro id inside
    by_contra moved
    have atMost := (staged.bounds id).2
    have isReady := (staged.moving id inside (by omega)).1
    exact moved (blocked id inside isReady).1
  have noneStarted : totalStarted k t = 0 := by
    apply Finset.sum_eq_zero
    intro id member
    exact started_of_atStart (atStart id (Finset.mem_range.mp member))
  intro id inside
  by_contra isReady
  have waits := (blocked id inside (by simpa using isReady)).2
  have occupancy := staged.occupancy
  simp only [Bool.false_eq_true, false_or] at waits
  omega

/-! ## Visits of packets -/

theorem fillAdd_aside (t : FlowTables) (packet : Packet) (id : ℕ) :
    Yields (Aside k t) (fun _ => False) (fillAdd k t packet id) := by
  rw [CrossbarSwitch.fillAdd]
  split
  · rename_i fills
    have awaits := fills.2.2
    simp only [awaitsAdd, Bool.decide_and, Bool.and_eq_true] at awaits
    have waits : (t.operand k id).ready = false := by simpa using awaits.2.2.2.2
    exact Yields.pure (Aside.setOperand waits rfl fun _ _ _ => rfl)
  · exact Yields.throw not_false

/-- An operand buffer is ready with the second of its operands, whichever that is. -/
theorem fillMult_aside (t : FlowTables) (packet : Packet) (id : ℕ) :
    Yields (Aside k t) (fun _ => False) (fillMult k t packet id) := by
  rw [fillMult]
  split
  · exact Yields.throw not_false
  · split
    · rename_i fills
      have awaits := fills.2.2
      simp only [awaitsFirst, Bool.decide_and, Bool.and_eq_true] at awaits
      have waits : (t.operand k id).ready = false := by simpa using awaits.2.2
      exact Yields.pure (Aside.setOperand waits rfl fun _ _ second => second)
    · split
      · rename_i fills
        have awaits := fills.2.2
        simp only [awaitsSecond, Bool.decide_and, Bool.and_eq_true] at awaits
        have waits : (t.operand k id).ready = false := by simpa using awaits.2.2
        exact Yields.pure (Aside.setOperand waits rfl fun _ first _ => first)
      · exact Yields.throw not_false

theorem answerGet_aside (t : FlowTables) (packet : Packet) :
    Yields (Aside k t) (fun _ => False) (answerGet k t packet) := by
  rw [answerGet]
  split
  · exact Yields.throw not_false
  · rename_i flowEntry found
    apply Yields.pure
    apply Aside.setFlow
    intro other isEntry
    exact Option.some.inj (found.symm.trans isEntry) ▸ rfl

/-- A response leaves the pipeline alone: what it fills was not ready. -/
theorem visitResponse_aside {t : FlowTables} (answers : Answers) (packet : Packet) :
    Yields (fun visit => Aside k t visit.tables) (fun _ => False)
      (visitResponse k answers t packet) := by
  rw [visitResponse]
  split
  · apply (operandID_lt packet).bind
    intro id _
    exact (fillAdd_aside t packet id).bind fun _ isAside => Yields.pure isAside
  · split
    · apply (operandID_lt packet).bind
      intro id _
      exact (fillMult_aside t packet id).bind fun _ isAside => Yields.pure isAside
    · split
      · exact (answerGet_aside t packet).bind fun _ isAside => Yields.pure isAside
      · split
        · exact Yields.pure (.refl t)
        · exact Yields.pure (.refl t)

theorem visitUp_aside (s : CrossbarSwitch) (l i : ℕ) (answers : Answers) :
    Yields (fun done => Aside k s.tables done.1.tables) (fun _ => False)
      (s.visitUp k answers l i) := by
  rw [CrossbarSwitch.visitUp]
  split
  · rename_i packet _
    split
    · exact Yields.throw not_false
    · split
      · apply (visitSegment_tables s l i packet).bind
        intro s' same
        apply Yields.pure
        rw [same]
        exact .refl _
      · apply (visitResponse_aside answers packet).bind
        exact fun _ isAside => Yields.pure isAside
  · exact Yields.pure (.refl _)

theorem visitDown_aside (s : CrossbarSwitch) (l i : ℕ) (answers : Answers) :
    Yields (fun done => Aside k s.tables done.1.tables) (fun _ => False)
      (s.visitDown k answers l i) := by
  rw [CrossbarSwitch.visitDown]
  split
  · rename_i packet _
    split
    · exact Yields.throw not_false
    · split
      · exact Yields.pure (.refl _)
      · apply (visitRequest_accounts answers _ _ packet).bind
        exact fun _ accounts => Yields.pure accounts.2.2.2
  · exact Yields.pure (.refl _)

theorem commit_operandBuffers (t : FlowTables) (answers : Answers) (flow : BitVec 64) :
    (commit k answers t flow).1.operandBuffers = t.operandBuffers := by
  rw [commit]
  split
  · rfl
  · split
    · rfl
    · rfl

/-- No operand buffer is reserved for a flow that is committed. -/
theorem commit_staged {t : FlowTables} (accounted : Accounted k t) (answers : Answers)
    (flow : BitVec 64) : Staged k (commit k answers t flow).1 := by
  have balanced' := (commit_balanced accounted.balanced answers flow).1
  revert balanced'
  rw [commit]
  split
  · exact fun _ => accounted.staged
  · split
    · intro balanced'
      have staged := accounted.staged
      refine ⟨staged.bounds, ?_, staged.complete, staged.occupancy, staged.atMost⟩
      intro id inside moves
      obtain ⟨isReady, flowEntry, found, isMAC⟩ := staged.moving id inside moves
      obtain ⟨other, isEntry⟩ := flowTable_of_ready balanced' inside isReady
      have isOther : (t.operand k id).flowID ≠ flow := by
        intro same
        have isEntry : (t.setFlow flow none).flowTable (t.operand k id).flowID = some other :=
          isEntry
        simp [FlowTables.setFlow, same] at isEntry
      refine ⟨isReady, flowEntry, ?_, isMAC⟩
      show (t.setFlow flow none).flowTable (t.operand k id).flowID = some flowEntry
      simpa [FlowTables.setFlow, isOther] using found
    · exact fun _ => accounted.staged

/-! ## Runs -/

theorem start_staged (stages : 2 ≤ k.numMultStages ∧ k.numMultStages ≤ 127) :
    Staged k (start k).tables := by
  have counter := newOperand_counter stages.2
  have isNew : ∀ id, (start k).tables.operand k id = k.newOperand := fun _ => rfl
  exact {
    bounds := by
      intro id
      rw [isNew, counter]
      omega
    moving := by
      intro id _ moves
      rw [isNew, counter] at moves
      exact (lt_irrefl _ moves).elim
    complete := fun _ arrived => (nomatch arrived)
    occupancy := by
      have noneStarted : totalStarted k (start k).tables = 0 := by
        apply Finset.sum_eq_zero
        intro id _
        exact started_of_atStart (by rw [isNew, counter])
      rw [noneStarted]
      rfl
    atMost := Int.natCast_nonneg _ }

theorem act_staged {s : CrossbarSwitch} (accounted : Accounted k s.tables)
    (stages : 2 ≤ k.numMultStages ∧ k.numMultStages ≤ 127) (action : Action) :
    Yields (fun done => Staged k done.1.tables) (fun _ => False) (s.act k action) := by
  have staged := accounted.staged
  cases action with
  | receiveUp l packet => exact Yields.pure staged
  | receiveDown l packet => exact Yields.pure staged
  | visitUp l i answers =>
    exact (visitUp_aside s l i answers).mono fun _ isAside => staged.aside isAside
  | visitDown l i answers =>
    exact (visitDown_aside s l i answers).mono fun _ isAside => staged.aside isAside
  | processOperands =>
    obtain ⟨p, folded, accounted', -⟩ := processOperands_progress accounted stages
    rw [act, processOperands, folded]
    exact accounted'.staged
  | commit flow answers => exact Yields.pure (commit_staged accounted answers flow)

/-- Nothing but a cycle touches an operand buffer that is ready. -/
theorem act_ready (s : CrossbarSwitch) {action : Action} (other : action ≠ .processOperands) :
    Yields (fun done => ∀ id, (s.tables.operand k id).ready = true →
      done.1.tables.operandBuffers id = s.tables.operandBuffers id) (fun _ => False)
      (s.act k action) := by
  cases action with
  | receiveUp l packet => exact Yields.pure fun _ _ => rfl
  | receiveDown l packet => exact Yields.pure fun _ _ => rfl
  | visitUp l i answers =>
    exact (visitUp_aside s l i answers).mono fun _ isAside => isAside.ready
  | visitDown l i answers =>
    exact (visitDown_aside s l i answers).mono fun _ isAside => isAside.ready
  | processOperands => exact (other rfl).elim
  | commit flow answers =>
    exact Yields.pure fun id _ => congrFun (commit_operandBuffers s.tables answers flow) id

theorem run_accounted {s : CrossbarSwitch} {actions : List Action}
    (stages : 2 ≤ k.numMultStages ∧ k.numMultStages ≤ 127)
    (run : Run (step k) Guard (start k) actions s) : Accounted k s.tables := by
  have initially : Accounted k (start k).tables := ⟨start_balanced k, start_staged stages⟩
  apply run.invariant initially
  intro s action s' accounted stepped guarded
  have acts := (act_actsWell accounted.balanced action fun _ => guarded).and
    (act_staged accounted stages action)
  rw [step] at stepped
  obtain ⟨done, acted, same⟩ := bind_eq_ok.mp stepped
  rw [acted] at acts
  obtain rfl := pure_eq_ok.mp same
  exact ⟨acts.1.1, acts.2⟩

/-- One cycle of the operand buffers. -/
theorem exists_cycle {t : FlowTables} (accounted : Accounted k t)
    (stages : 2 ≤ k.numMultStages ∧ k.numMultStages ≤ 127) :
    ∃ t' released, processOperands k t = .ok t' ∧ Accounted k t' ∧ Consumes k t t' released ∧
      (∀ id id', AtStart k t id → ¬ AtStart k t' id → AtStart k t id' → ¬ AtStart k t' id' →
        id = id') ∧
      ((∀ id < k.operandBufSize, (t.operand k id).ready = false) ∨
        totalLeft k t' < totalLeft k t) := by
  obtain ⟨p, folded, accounted', ⟨oneStart, released, consumes⟩, falls, still⟩ :=
    processOperands_progress accounted stages
  have isResult : processOperands k t = .ok p.tables := by
    rw [processOperands, folded]
    rfl
  refine ⟨p.tables, released, isResult, accounted', consumes, oneStart.once, ?_⟩
  by_cases same : totalLeft k p.tables = totalLeft k t
  · exact .inl (notReady_of_blocked accounted.staged stages (still same))
  · exact .inr (lt_of_le_of_ne falls same)

/-- Cycles go on until nothing is ready. -/
theorem exists_cycles (stages : 2 ≤ k.numMultStages ∧ k.numMultStages ≤ 127) :
    ∀ (left : ℕ) (s : CrossbarSwitch), Accounted k s.tables → totalLeft k s.tables = left →
      ∃ cycles s' released,
        Run (step k) Guard s (List.replicate cycles .processOperands) s' ∧
          Accounted k s'.tables ∧ Consumes k s.tables s'.tables released ∧
            ∀ id < k.operandBufSize, (s'.tables.operand k id).ready = false := by
  intro left
  induction left using Nat.strong_induction_on with
  | _ left inductionHypothesis =>
    intro s accounted isLeft
    obtain ⟨t', released, isResult, accounted', consumes, -, goesOn⟩ :=
      exists_cycle accounted stages
    cases goesOn with
    | inl notReady => exact ⟨0, s, [], .start s, accounted, .refl _, notReady⟩
    | inr falls =>
      have stepped : step k s .processOperands = .ok (s.setTables t') := by
        rw [step, act, isResult]
        rfl
      obtain ⟨cycles, s', released', run, accounted'', consumes', notReady⟩ :=
        inductionHypothesis _ (isLeft ▸ falls) (s.setTables t') accounted' rfl
      exact ⟨cycles + 1, s', released ++ released', .cons stepped trivial run, accounted'',
        consumes.trans consumes', notReady⟩

theorem Consumes.nodup {t t' : FlowTables} {released : List ℕ}
    (consumes : Consumes k t t' released) (balanced' : Balanced k settled t') : released.Nodup := by
  have nodup := balanced'.nodup
  rw [consumes.freed] at nodup
  exact (List.nodup_append.mp nodup).2.1

theorem Consumes.lt {t t' : FlowTables} {released : List ℕ} (consumes : Consumes k t t' released)
    (balanced' : Balanced k settled t') {id : ℕ} (member : id ∈ released) :
    id < k.operandBufSize := by
  have isFree : id ∈ t'.freeOperandBufIDs := by
    rw [consumes.freed]
    exact List.mem_append_right _ member
  exact ((balanced'.free id).mp isFree).1

/-- With 2 to 127 stages, in every run of a crossbar switch the occupancy is the number of
    operand buffers whose counter is strictly between 0 and the number of stages, and not
    more than that number.  An operand buffer with both operands is ready.  A cycle starts at
    most one multiplication, and each operand buffer that it frees was ready and is counted
    once for its flow; nothing else touches one that is ready.  In as many cycles as it takes
    those that are ready are all freed and counted, each of them once. -/
theorem mult_pipeline_accounts {s : CrossbarSwitch} {actions : List Action}
    (stages : 2 ≤ k.numMultStages ∧ k.numMultStages ≤ 127)
    (run : Run (step k) Guard (start k) actions s) :
    s.tables.multPipeOccupancy = inStages k s.tables ∧
      inStages k s.tables ≤ k.numMultStages ∧
      (∀ id, (s.tables.operand k id).op1_ready = true → (s.tables.operand k id).op2_ready = true →
        (s.tables.operand k id).ready = true) ∧
      (∃ t' released, processOperands k s.tables = .ok t' ∧
        Consumes k s.tables t' released ∧ released.Nodup ∧
        ∀ id id', AtStart k s.tables id → ¬ AtStart k t' id → AtStart k s.tables id' →
          ¬ AtStart k t' id' → id = id') ∧
      (∀ action s' sent, action ≠ .processOperands → s.act k action = .ok (s', sent) →
        ∀ id, (s.tables.operand k id).ready = true →
          s'.tables.operandBuffers id = s.tables.operandBuffers id) ∧
      ∃ cycles s' released,
        Run (step k) Guard s (List.replicate cycles .processOperands) s' ∧
          Consumes k s.tables s'.tables released ∧ released.Nodup ∧
            ∀ id, id ∈ released ↔
              id < k.operandBufSize ∧ (s.tables.operand k id).ready = true := by
  have accounted := run_accounted stages run
  have staged := accounted.staged
  have isTotal := inStages_eq_totalStarted fun id => (staged.bounds id).1
  refine ⟨isTotal ▸ staged.occupancy, ?_, staged.complete, ?_, ?_, ?_⟩
  · have occupancy := staged.occupancy
    have atMost := staged.atMost
    omega
  · obtain ⟨t', released, isResult, accounted', consumes, oneStart, -⟩ :=
      exists_cycle accounted stages
    exact ⟨t', released, isResult, consumes, consumes.nodup accounted'.balanced, oneStart⟩
  · intro action s' sent other acted
    have keeps := act_ready (k := k) s other
    rw [acted] at keeps
    exact keeps
  · obtain ⟨cycles, s', released, run', accounted', consumes, notReady⟩ :=
      exists_cycles stages _ s accounted rfl
    refine ⟨cycles, s', released, run', consumes, consumes.nodup accounted'.balanced, ?_⟩
    intro id
    constructor
    · intro member
      exact ⟨consumes.lt accounted'.balanced member, consumes.wasReady id member⟩
    · intro isReady
      by_contra notReleased
      have stays := (consumes.others id notReleased).1
      rw [isReady.2, notReady id isReady.1] at stays
      cases stays

/-- A multiplication in the cube whose operands arrive, and a cycle. -/
def multiply : List Action :=
  let mult : Packet :=
    { packetType := .REQUEST, CMD := .ACT_MULT, DESTADRS := 256, SRCADRS1 := 128
      SRCADRS2 := 192, ADRS := 128, LINES := 1, DESTCUB := 0, DESTCUB1 := 0, DESTCUB2 := 0 }
  let operand : Packet :=
    { packetType := .RESPONSE, CMD := .ACT_MULT, DESTADRS := 256, DESTCUB := 0, operandBufID := 0 }
  [.receiveDown 0 mult, .visitDown 0 0 allReceive, .visitDown 0 0 allReceive,
    .receiveUp 4 { operand with SRCADRS2 := 192 }, .receiveUp 4 { operand with SRCADRS1 := 128 },
    .visitUp 4 0 allReceive, .visitUp 4 0 allReceive, .processOperands]

theorem mult_pipeline_accounts_multiply :
    ∃ s, Run (step smallCube) Guard (start smallCube) multiply s ∧
      s.tables.multPipeOccupancy = 1 ∧ s.tables.multPipeOccupancy = inStages smallCube s.tables := by
  have executed : (execute (step smallCube) Guard (start smallCube) multiply).map
      (fun s => s.tables.multPipeOccupancy) = some 1 := by
    decide +kernel
  obtain ⟨s, executed, occupancy⟩ := Option.map_eq_some_iff.mp executed
  have run := execute_run executed
  exact ⟨s, run, occupancy, (mult_pipeline_accounts (by decide) run).1⟩

/-- The counter of an operand buffer is a `char`: it does not hold 128. -/
theorem mult_pipeline_128 :
    ¬ ∀ k : CubeConfig, 2 ≤ k.numMultStages → ∀ actions s,
      Run (step k) Guard (start k) actions s →
        s.tables.multPipeOccupancy = inStages k s.tables := by
  intro accounts
  have executed : (execute (step { smallCube with numMultStages := 128 }) Guard
      (start { smallCube with numMultStages := 128 }) multiply).map (fun s =>
        (s.tables.multPipeOccupancy,
          inStages { smallCube with numMultStages := 128 } s.tables)) = some (0, 1) := by
    decide +kernel
  obtain ⟨s, executed, counts⟩ := Option.map_eq_some_iff.mp executed
  have same := accounts _ (by decide) multiply s (execute_run executed)
  obtain ⟨occupancy, stages⟩ := Prod.mk.inj counts
  rw [occupancy, stages] at same
  cases same

/-- A multiplication of flow 0 waits for its operands, and an addition of flow 0 is answered with
    an operand at address zero for a free operand buffer. -/
def zeroOperand : List Action :=
  [.receiveDown 0
      { packetType := .REQUEST, CMD := .ACT_MULT, DESTADRS := 0, SRCADRS1 := 128
        SRCADRS2 := 192, ADRS := 128, LINES := 1, DESTCUB := 0, DESTCUB1 := 0, DESTCUB2 := 0 },
    .visitDown 0 0 allReceive, .visitDown 0 0 allReceive,
    .receiveUp 4
      { packetType := .RESPONSE, CMD := .ACT_ADD, DESTADRS := 0, SRCADRS1 := 0, DESTCUB := 0
        operandBufID := 1 },
    .visitUp 4 0 allReceive] ++ List.replicate 5 .processOperands

/-- The free operand buffer passes the pipeline, is counted for the flow and freed once more. -/
theorem mult_pipeline_zeroOperand :
    ∃ s, Run (step smallCube) (fun _ _ _ => True) (start smallCube) zeroOperand s ∧
      (s.tables.flowTable 0).map FlowEntry.rep_count = some 1 ∧
      s.tables.freeOperandBufIDs = [1, 1] := by
  have executed : (execute (step smallCube) (fun _ _ _ => True) (start smallCube)
      zeroOperand).map (fun s => ((s.tables.flowTable 0).map FlowEntry.rep_count,
        s.tables.freeOperandBufIDs)) = some (some 1, [1, 1]) := by
    decide +kernel
  obtain ⟨s, run, outcome⟩ := execute_reaches executed
  exact ⟨s, run, Prod.mk.inj outcome⟩

end CrossbarSwitch

end ActiveRouting

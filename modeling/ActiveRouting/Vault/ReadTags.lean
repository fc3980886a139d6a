import ActiveRouting.Library.Run
import ActiveRouting.Vault.Contents

/-!
# Tags of reads

`pendingReadData` holds a tag for each read that has been queued and whose data has not been
returned.  So data always finds its request, and a vault stops the simulation for nothing but a
collision on the data bus.
-/

namespace ActiveRouting

open DRAMCommand CommandQueue

namespace DRAMCommand

/-- What a command has of its request, where its response depends on it. -/
structure Formed (cmd : DRAMCommand) : Prop where
  ordinary : cmd.packetCMD = .PEI_DOT → cmd.atomic = false ∧ cmd.commandType.isWrite = false
  operands : cmd.packetCMD = .ACT_MULT → cmd.commandType ≠ .ACTIVATE →
    (cmd.srcAddr1 = 0) ≠ (cmd.srcAddr2 = 0)

/-- A command that the DRAM accepts. -/
def accepted (cmd : DRAMCommand) : Bool :=
  cmd.requested || cmd.commandType = .REFRESH || cmd.commandType = .PRECHARGE

end DRAMCommand

namespace VaultController

variable {c : DRAMConfig} {v v' : VaultController}

/-- A request that a vault can convert. -/
def Acceptable (c : DRAMConfig) (packet : Packet) : Prop :=
  (requestKind c packet.CMD).isSome = true ∧ operandsOk packet = true

instance (packet : Packet) : Decidable (Acceptable c packet) := by
  unfold Acceptable
  infer_instance

/-- The reads whose data has not been returned: in the queues, on the bus, in the DRAM. -/
def unreturned (c : DRAMConfig) (v : VaultController) : List DRAMCommand :=
  (queued c v.commandQueue).filter (fun cmd => cmd.commandType.isRead) ++ v.behind

/-- What the vault holds, and the tags of its reads. -/
structure Tracked (c : DRAMConfig) (v : VaultController) : Prop where
  packets : ∀ packet ∈ v.downBuffers, Acceptable c packet
  stored : Stored c v.commandQueue
  formed : ∀ i, ∀ cmd ∈ v.commandQueue.queue i, cmd.Formed
  bus : ∀ cmd ∈ v.cmdBus, cmd.accepted = true ∧ v.cmdCyclesLeft = 1
  reading : ∀ cmd ∈ v.reading, cmd.commandType = .READ_DATA ∧ cmd.bank < c.numBanks ∧ cmd.Formed
  operating : ∀ cmd ∈ v.atomicCMD, cmd.atomic = true ∧ cmd.lastCMD = true
  writing : ∀ cmd ∈ v.dataBus.toList ++ v.writeData.map Prod.fst,
    cmd.commandType = .WRITE_DATA ∧ cmd.packetCMD ≠ .PEI_DOT
  tags : v.pendingReadData.Perm ((v.unreturned c).map packetTAG)

/-- What the tags of reads do not depend on differs. -/
structure SameReads (v v' : VaultController) : Prop where
  downBuffers : v'.downBuffers = v.downBuffers
  queue : v'.commandQueue.queue = v.commandQueue.queue
  cmdBus : v'.cmdBus = v.cmdBus
  cmdCyclesLeft : v'.cmdCyclesLeft = v.cmdCyclesLeft
  readData : v'.dram.readData = v.dram.readData
  readReturn : v'.dram.readReturn = v.dram.readReturn
  atomicCMD : v'.atomicCMD = v.atomicCMD
  writing : ∀ cmd ∈ v'.dataBus.toList ++ v'.writeData.map Prod.fst,
    cmd ∈ v.dataBus.toList ++ v.writeData.map Prod.fst
  pendingReadData : v'.pendingReadData = v.pendingReadData

theorem SameReads.behind (same : SameReads v v') : v'.behind = v.behind := by
  rw [VaultController.behind, same.readData, same.readReturn, same.cmdBus]
  rfl

theorem SameReads.tracked (same : SameReads v v') (tracked : Tracked c v) : Tracked c v' where
  packets := same.downBuffers ▸ tracked.packets
  stored := tracked.stored.of_queue same.queue
  formed := same.queue ▸ tracked.formed
  bus := by
    rw [same.cmdBus, same.cmdCyclesLeft]
    exact tracked.bus
  reading := by
    rw [reading_eq, same.atomicCMD, same.behind, ← reading_eq]
    exact tracked.reading
  operating := same.atomicCMD ▸ tracked.operating
  writing cmd member := tracked.writing cmd (same.writing cmd member)
  tags := by
    rw [same.pendingReadData, unreturned, queued_of_queue same.queue, same.behind]
    exact tracked.tags

theorem SameReads.of_aside (aside : Aside v v') : SameReads v v' where
  downBuffers := aside.downBuffers
  queue := by rw [aside.commandQueue]
  cmdBus := aside.cmdBus
  cmdCyclesLeft := aside.cmdCyclesLeft
  readData := by rw [aside.dram]
  readReturn := by rw [aside.dram]
  atomicCMD := aside.atomicCMD
  writing cmd member := by
    rw [aside.dataBus, aside.writeData] at member
    exact member
  pendingReadData := aside.pendingReadData

/-- A stage of a cycle keeps track of the reads, and stops the simulation only for a collision on
    a bus. -/
def KeepsTrack (c : DRAMConfig) (attempt : Except VaultError VaultController) : Prop :=
  Outcome.Yields (Tracked c) (fun error => error ≠ .busCollision) attempt

/-! ## Responses -/

theorem respondPacket_succeeds {cmd : DRAMCommand}
    (answerable : cmd.atomic = true ∨ cmd.commandType = .WRITE_DATA ∨
      cmd.commandType = .READ_DATA ∧ cmd.Formed) : Succeeds (respondPacket cmd) := by
  unfold respondPacket
  cases atomic : cmd.atomic with
  | true =>
    simp only [if_true]
    split
    · exact trivial
    · split
      · exact trivial
      · exact trivial
  | false =>
    simp only [Bool.false_eq_true, if_false]
    rcases answerable with isAtomic | isWrite | ⟨isRead, formed⟩
    · rw [isAtomic] at atomic
      cases atomic
    · rw [isWrite]
      exact trivial
    · rw [isRead]
      simp only
      split
      · exact trivial
      · exact trivial
      · exact trivial
      · rename_i isMult
        rw [if_pos (formed.operands isMult (by rw [isRead]; exact fun h => by cases h))]
        exact trivial
      · exact trivial

theorem makeRespondPacket_succeeds {cmd : DRAMCommand} (responds : Succeeds (respondPacket cmd)) :
    Succeeds (v.makeRespondPacket cmd) := by
  refine responds.bind fun response _ => ?_
  simp only
  split
  · exact trivial
  · split
    · exact trivial
    · exact trivial

theorem respond_succeeds {cmd : DRAMCommand} (responds : Succeeds (respondPacket cmd))
    (notPei : cmd.packetCMD ≠ .PEI_DOT) : Succeeds (v.respond cmd) := by
  refine (makeRespondPacket_succeeds responds).bind fun result _ => ?_
  simp only [if_neg notPei]
  exact trivial

theorem receiveCMD_succeeds {d : DRAM} {cmd : DRAMCommand}
    (accepts : cmd.accepted = true ∨ cmd.commandType = .WRITE_DATA) :
    Succeeds (d.receiveCMD c cmd) := by
  unfold DRAM.receiveCMD
  cases isType : cmd.commandType with
  | ACTIVATE | READ | READ_P | WRITE | WRITE_P | PRECHARGE | REFRESH | WRITE_DATA => exact trivial
  | READ_DATA | POWERDOWN_ENTRY | POWERDOWN_EXIT =>
    simp [accepted, requested, isType, DRAMCommandType.isRead, DRAMCommandType.isWrite] at accepts

/-! ## The countdowns -/

theorem transmitCommand_tracked (tracked : Tracked c v) :
    Outcome.Yields (fun v' => Tracked c v' ∧ v'.cmdBus = none) (fun e => e ≠ .busCollision)
      (v.transmitCommand c) := by
  unfold transmitCommand
  cases onBus : v.cmdBus with
  | none => exact ⟨tracked, onBus⟩
  | some cmd =>
    obtain ⟨isAccepted, left⟩ := tracked.bus cmd onBus
    simp only [left, Nat.sub_self, if_pos]
    have receives : Succeeds (v.dram.receiveCMD c cmd) := receiveCMD_succeeds (.inl isAccepted)
    cases received : v.dram.receiveCMD c cmd with
    | error e =>
      rw [received] at receives
      exact absurd trivial receives
    | ok dram =>
      have sameReading := reading_received onBus received
      have sameBehind : (v.freeCmdBus.setDram dram).behind = v.behind := by
        rw [reading_eq, reading_eq] at sameReading
        exact List.append_cancel_left sameReading
      refine ⟨{
        packets := tracked.packets
        stored := tracked.stored.of_queue rfl
        formed := tracked.formed
        bus := fun other none => by cases none
        reading := by
          rw [sameReading]
          exact tracked.reading
        operating := tracked.operating
        writing := tracked.writing
        tags := by
          rw [unreturned, sameBehind]
          exact tracked.tags }, rfl⟩

theorem answerWrite_tracked (tracked : Tracked c v) {cmd : DRAMCommand} (onBus : v.dataBus = some cmd) :
    Outcome.Yields (Aside v) (fun e => e ≠ .busCollision) (v.answerWrite cmd) := by
  obtain ⟨isData, notPei⟩ := tracked.writing cmd (List.mem_append_left _ (by rw [onBus]; simp))
  cases answered : v.answerWrite cmd with
  | ok v₁ => exact answerWrite_aside answered
  | error e =>
    exfalso
    unfold answerWrite at answered
    split at answered
    · have responds : Succeeds (v.respond cmd) :=
        respond_succeeds (respondPacket_succeeds (.inr (.inl isData))) notPei
      rw [answered] at responds
      exact responds trivial
    · exact Outcome.pure_ne_error answered

theorem transmitData_tracked (tracked : Tracked c v) (free : v.cmdBus = none) :
    Outcome.Yields (fun v' => Tracked c v' ∧ v'.cmdBus = none) (fun e => e ≠ .busCollision)
      (v.transmitData c) := by
  unfold transmitData
  cases onBus : v.dataBus with
  | none => exact ⟨tracked, free⟩
  | some cmd =>
    obtain ⟨isData, _⟩ := tracked.writing cmd (List.mem_append_left _ (by rw [onBus]; simp))
    simp only
    split
    · refine (answerWrite_tracked tracked onBus).bind fun v₁ aside => ?_
      have receives : Succeeds (v₁.dram.receiveCMD c cmd) := receiveCMD_succeeds (.inr isData)
      cases received : v₁.dram.receiveCMD c cmd with
      | error e =>
        rw [received] at receives
        exact absurd trivial receives
      | ok dram =>
        obtain rfl := receiveCMD_writeData isData received
        have same := SameReads.of_aside aside
        refine ⟨SameReads.tracked (v := v) ?_ tracked, same.cmdBus.trans free⟩
        exact { same with
          writing := fun other member => same.writing other (List.mem_append_right _ member) }
    · refine ⟨SameReads.tracked (v := v) ?_ tracked, free⟩
      exact ⟨rfl, rfl, rfl, rfl, rfl, rfl, rfl, fun _ member => member, rfl⟩

theorem sendWriteData_tracked (tracked : Tracked c v) (free : v.cmdBus = none) :
    Outcome.Yields (fun v' => Tracked c v' ∧ v'.cmdBus = none) (fun e => e ≠ .busCollision)
      (v.sendWriteData c) := by
  have counted : ∀ entries : List (DRAMCommand × ℕ),
      (countWrites entries).map Prod.fst = entries.map Prod.fst := by
    intro entries
    simp [countWrites]
  unfold sendWriteData
  split
  · rename_i cmd rest isDue
    split
    · refine ⟨SameReads.tracked (v := v) ?_ tracked, free⟩
      refine ⟨rfl, rfl, rfl, rfl, rfl, rfl, rfl, fun other member => ?_, rfl⟩
      simp only [sendData, Option.toList_some, List.cons_append, List.nil_append, counted]
        at member
      rw [isDue]
      exact List.mem_append_right _ member
    · exact fun other => other rfl
  · refine ⟨SameReads.tracked (v := v) ?_ tracked, free⟩
    refine ⟨rfl, rfl, rfl, rfl, rfl, rfl, rfl, fun other member => ?_, rfl⟩
    simp only [setWriteData, counted] at member
    exact member

theorem countRefresh_tracked (tracked : Tracked c v) (free : v.cmdBus = none) :
    Tracked c (v.countRefresh c) ∧ (v.countRefresh c).cmdBus = none := by
  have same : SameReads v (v.countRefresh c) := by
    unfold countRefresh
    split
    all_goals exact ⟨rfl, rfl, rfl, rfl, rfl, rfl, rfl, fun _ member => member, rfl⟩
  exact ⟨same.tracked tracked, same.cmdBus.trans free⟩

theorem updateCountdown_tracked (tracked : Tracked c v) :
    Outcome.Yields (fun v' => Tracked c v' ∧ v'.cmdBus = none) (fun e => e ≠ .busCollision)
      (v.updateCountdown c) := by
  refine (transmitCommand_tracked tracked).bind fun v₁ facts₁ => ?_
  refine (transmitData_tracked facts₁.1 facts₁.2).bind fun v₂ facts₂ => ?_
  refine (sendWriteData_tracked facts₂.1 facts₂.2).bind fun v₃ facts₃ => ?_
  exact countRefresh_tracked facts₃.1 facts₃.2

/-! ## Conversion of packets -/

theorem convertPackets_succeeds : ∀ {packets : List Packet} {v : VaultController},
    (∀ packet ∈ packets, Acceptable c packet) → Succeeds (v.convertPackets c packets)
  | [], _, _ => trivial
  | [packet], v, acceptable => by
    have first := acceptable packet List.mem_cons_self
    refine Outcome.Yields.bind (convert_one first) fun result _ => ?_
    cases result with
    | none | some v₁ => exact trivial
  | packet :: next :: rest, v, acceptable => by
    have first := acceptable packet List.mem_cons_self
    have others : ∀ other ∈ next :: rest, Acceptable c other := fun other member =>
      acceptable other (List.mem_cons_of_mem _ member)
    unfold convertPackets
    refine Outcome.Yields.bind (convert_one first) fun result _ => ?_
    cases result with
    | none => exact Outcome.Yields.bind (convertPackets_succeeds others) fun _ _ => trivial
    | some v₁ =>
      refine Outcome.Yields.bind (convertPackets_succeeds fun other member => ?_) fun _ _ => trivial
      exact others other (List.mem_cons_of_mem _ member)
where
  convert_one {packet : Packet} {v : VaultController} (acceptable : Acceptable c packet) :
      Succeeds (v.convPacketIntoCMDs c packet) := by
    obtain ⟨kind, isKind⟩ := Option.isSome_iff_exists.mp acceptable.1
    unfold convPacketIntoCMDs
    rw [isKind]
    simp only [acceptable.2, if_true]
    split
    · exact trivial
    · exact trivial

/-- The commands of a request that a vault can convert. -/
theorem commands_formed {packet : Packet} {kind : RequestKind} (acceptable : operandsOk packet = true)
    (isKind : requestKind c packet.CMD = some kind) :
    ∀ cmd ∈ commands c packet kind, cmd.Formed := by
  intro cmd member
  cases List.mem_cons.mp member with
  | inl isAct =>
    subst isAct
    refine ⟨fun isPei => ?_, fun _ notActivate => absurd rfl notActivate⟩
    have isPei : packet.CMD = .PEI_DOT := isPei
    rw [isPei] at isKind
    obtain rfl := Option.some.inj isKind
    exact ⟨rfl, rfl⟩
  | inr inRange =>
    obtain ⟨i, inBlocks, rfl⟩ := List.mem_map.mp inRange
    have someBlocks : blocks packet ≠ 0 := by
      have := List.mem_range.mp inBlocks
      omega
    have isRead : (readKind c).tempCMD.isRead = true := by
      unfold readKind
      split <;> rfl
    refine ⟨fun isPei => ?_, fun isMult _ => ?_⟩
    · have isPei : packet.CMD = .PEI_DOT := isPei
      rw [isPei] at isKind
      obtain rfl := Option.some.inj isKind
      refine ⟨rfl, ?_⟩
      cases close : c.openPage <;> by_cases earlier : i < blocks packet - 1 <;>
        simp [rwCMD, readKind, earlierType, close, earlier, DRAMCommandType.isWrite]
    · have mult : packet.CMD = .ACT_MULT := isMult
      have operands : (packet.SRCADRS1 = 0) ≠ (packet.SRCADRS2 = 0) := by
        simpa [operandsOk, mult, someBlocks] using acceptable
      rw [mult] at isKind
      obtain rfl := Option.some.inj isKind
      by_cases first : packet.SRCADRS1 = 0
      · simpa [rwCMD, isRead, mult, first] using operands
      · have first : ¬ packet.SRCADRS1 = 0#64 := first
        simp [rwCMD, isRead, mult, first]

theorem reads_commands {packet : Packet} {kind : RequestKind}
    (isKind : requestKind c packet.CMD = some kind) :
    ((commands c packet kind).filter fun cmd => cmd.commandType.isRead).map packetTAG =
      if kind.tempCMD.isRead then List.replicate (blocks packet) packet.TAG else [] := by
  have alike : ∀ i, (rwCMD c packet kind i).commandType.isRead = kind.tempCMD.isRead := by
    intro i
    obtain ⟨posted, rfl⟩ | rfl | ⟨posted, rfl⟩ := requestKind_cases isKind
    · cases close : c.openPage <;> by_cases earlier : i < blocks packet - 1 <;>
        simp [rwCMD, writeKind, earlierType, close, earlier, DRAMCommandType.isRead]
    · cases close : c.openPage <;> by_cases earlier : i < blocks packet - 1 <;>
        simp [rwCMD, readKind, earlierType, close, earlier, DRAMCommandType.isRead]
    · by_cases earlier : i < blocks packet - 1 <;>
        simp [rwCMD, atomicKind, earlierType, earlier, DRAMCommandType.isRead]
  have notAct : (commands c packet kind).filter (fun cmd => cmd.commandType.isRead) =
      ((List.range (blocks packet)).map (rwCMD c packet kind)).filter
        fun cmd => cmd.commandType.isRead := rfl
  rw [notAct, List.filter_map, List.map_map]
  cases isRead : kind.tempCMD.isRead with
  | true =>
    have all : (List.range (blocks packet)).filter
        ((fun cmd => cmd.commandType.isRead) ∘ rwCMD c packet kind) = List.range (blocks packet) :=
      List.filter_eq_self.mpr fun i _ => (alike i).trans isRead
    rw [all, if_pos rfl]
    exact List.eq_replicate_iff.mpr ⟨by simp, fun tag member => by
      obtain ⟨i, _, rfl⟩ := List.mem_map.mp member
      rfl⟩
  | false =>
    have none : (List.range (blocks packet)).filter
        ((fun cmd => cmd.commandType.isRead) ∘ rwCMD c packet kind) = [] :=
      List.filter_eq_nil_iff.mpr fun i _ isTrue => by
        rw [Function.comp_apply, alike, isRead] at isTrue
        cases isTrue
    rw [none]
    rfl

theorem mem_enqueueAll {packet : Packet} {kind : RequestKind} {i : ℕ} {cmd : DRAMCommand}
    (member : cmd ∈ (v.enqueueAll c packet kind).commandQueue.queue i) :
    cmd ∈ v.commandQueue.queue i ∨ cmd ∈ commands c packet kind := by
  rw [show (v.enqueueAll c packet kind).commandQueue.queue = _ from
    foldl_enqueue_queue (addressMapping c packet.ADRS).1 (commands c packet kind) v.commandQueue]
    at member
  by_cases same : i = index c (addressMapping c packet.ADRS).1
  · subst same
    rw [Function.update_self] at member
    exact List.mem_append.mp member
  · rw [Function.update_of_ne same] at member
    exact .inl member

theorem enqueueAll_tracked (banks : 0 < c.numBanks) (tracked : Tracked c v) {packet : Packet}
    {kind : RequestKind} (acceptable : Acceptable c packet)
    (isKind : requestKind c packet.CMD = some kind) : Tracked c (v.enqueueAll c packet kind) := by
  obtain ⟨stored, enqueued⟩ := enqueueAll_stored banks tracked.stored isKind
  exact {
    packets := tracked.packets
    stored := stored
    formed := fun i cmd member => (mem_enqueueAll member).elim (tracked.formed i cmd)
      (commands_formed acceptable.2 isKind cmd)
    bus := tracked.bus
    reading := tracked.reading
    operating := tracked.operating
    writing := tracked.writing
    tags := by
      have reads := (enqueued.filter fun cmd => cmd.commandType.isRead).map packetTAG
      rw [List.filter_append, List.map_append, reads_commands isKind] at reads
      have goal : ((v.enqueueAll c packet kind).unreturned c).map packetTAG =
          ((queued c (v.enqueueAll c packet kind).commandQueue).filter
            fun cmd => cmd.commandType.isRead).map packetTAG ++ v.behind.map packetTAG := by
        rw [unreturned, List.map_append]
        rfl
      rw [goal]
      refine .trans ?_ (reads.append_right _).symm
      have before := tracked.tags
      rw [unreturned, List.map_append] at before
      show (if kind.tempCMD.isRead then
        v.pendingReadData ++ List.replicate (blocks packet) packet.TAG
        else v.pendingReadData).Perm _
      cases isRead : kind.tempCMD.isRead with
      | true =>
        simp only [if_true, List.append_assoc]
        exact List.perm_append_comm.trans (before.append_left _)
      | false =>
        simp only [Bool.false_eq_true, if_false, List.nil_append]
        exact before }

theorem convert_tracked (banks : 0 < c.numBanks) (tracked : Tracked c v) (free : v.cmdBus = none) :
    Outcome.Yields (fun v' => Tracked c v' ∧ v'.cmdBus = none) (fun e => e ≠ .busCollision)
      (v.convert c) := by
  unfold convert
  split
  · have converts := convertPackets_succeeds (v := v) tracked.packets
    cases isConverted : v.convertPackets c v.downBuffers with
    | error e =>
      rw [isConverted] at converts
      exact absurd trivial converts
    | ok result =>
      obtain ⟨v₁, kept⟩ := result
      have keeps := convertPackets_induct (fun v₂ => Tracked c v₂ ∧ v₂.cmdBus = none) isConverted
        ⟨tracked, free⟩ fun packet member v₂ v₃ holds isPacket => by
          obtain ⟨kind, isKind, _, rfl⟩ := convPacketIntoCMDs_eq_some isPacket
          exact ⟨enqueueAll_tracked banks holds.1 (tracked.packets packet member) isKind, holds.2⟩
      obtain ⟨keeps, stillFree⟩ := keeps
      refine ⟨{
        packets := fun packet member =>
          tracked.packets packet ((convertPackets_sublist isConverted).subset member)
        stored := keeps.stored
        formed := keeps.formed
        bus := keeps.bus
        reading := keeps.reading
        operating := keeps.operating
        writing := keeps.writing
        tags := keeps.tags }, stillFree⟩
  · exact ⟨tracked, free⟩

/-! ## The scheduler -/

theorem issue_tracked {q : CommandQueue} {cmd : DRAMCommand} (tracked : Tracked c v)
    (free : v.cmdBus = none) (popped : v.commandQueue.cmdPop c v.view = .ok (q, some cmd)) :
    Tracked c ((v.setQueue q).issue c cmd) := by
  obtain ⟨stored, dropped, isDropped, moved⟩ := tracked.stored.cmdPop popped
  obtain ⟨within, chosen⟩ := cmdPop_eq_some popped
  -- what is issued comes from a queue, or has no request
  have source : (cmd.requested = true ∧ cmd.bank < c.numBanks ∧ cmd.Formed) ∨
      (cmd.commandType = .REFRESH ∨ cmd.commandType = .PRECHARGE) := by
    cases chosen with
    | queued i member => exact .inl ⟨tracked.stored.requested i cmd member,
        tracked.stored.inBanks i cmd member, tracked.formed i cmd member⟩
    | refresh => exact .inr (.inl rfl)
    | precharge => exact .inr (.inr rfl)
  have isBehind : ((v.setQueue q).issue c cmd).behind = v.behind ++
      ([cmd].filter fun cmd => cmd.commandType.isRead).map fun cmd => cmd.withType .READ_DATA := by
    simp [behind, issue, setQueue, free]
  have notRead : cmd.requested = false → cmd.commandType.isRead = false := by
    intro made
    simp only [DRAMCommand.requested, Bool.or_eq_false_iff] at made
    exact made.1.2
  have reads : ([cmd].filter DRAMCommand.requested).filter (fun cmd => cmd.commandType.isRead) =
      [cmd].filter fun cmd => cmd.commandType.isRead := by
    cases isRequested : cmd.requested with
    | true => simp [isRequested]
    | false => simp [isRequested, notRead isRequested]
  have noReads : dropped.filter (fun cmd => cmd.commandType.isRead) = [] := by
    refine List.filter_eq_nil_iff.mpr fun act member => ?_
    rw [(isDropped act member).1]
    decide
  exact {
    packets := tracked.packets
    stored := stored
    formed := fun i other member => tracked.formed i other ((within i).subset member)
    bus := fun other onBus => by
      obtain rfl : cmd = other := Option.some.inj onBus
      refine ⟨?_, rfl⟩
      rw [accepted]
      rcases source with ⟨requested, _⟩ | isRefresh | isPrecharge
      · simp [requested]
      · simp [isRefresh]
      · simp [isPrecharge]
    reading := fun other member => by
      rw [reading_eq, isBehind, ← List.append_assoc, List.mem_append] at member
      cases member with
      | inl before => exact tracked.reading other (by rw [reading_eq]; exact before)
      | inr isNew =>
        obtain ⟨_, member, rfl⟩ := List.mem_map.mp isNew
        obtain ⟨isCmd, isRead⟩ := List.mem_filter.mp member
        obtain rfl := List.mem_singleton.mp isCmd
        rcases source with ⟨_, inBanks, formed⟩ | isRefresh | isPrecharge
        · refine ⟨rfl, inBanks, ⟨fun isPei => ⟨(formed.ordinary isPei).1, rfl⟩, fun isMult _ => ?_⟩⟩
          refine formed.operands isMult fun isActivate => ?_
          rw [isActivate] at isRead
          cases isRead
        · rw [isRefresh] at isRead
          cases isRead
        · rw [isPrecharge] at isRead
          cases isRead
    operating := tracked.operating
    writing := fun other member => by
      simp only [issue, setQueue] at member
      split at member
      · rename_i isWrite
        rw [List.map_append, ← List.append_assoc, List.mem_append] at member
        cases member with
        | inl before => exact tracked.writing other before
        | inr isNew =>
          obtain rfl := List.mem_singleton.mp isNew
          refine ⟨rfl, fun isPei => ?_⟩
          rcases source with ⟨_, _, formed⟩ | isRefresh | isPrecharge
          · rw [(formed.ordinary isPei).2] at isWrite
            cases isWrite
          · rw [isRefresh] at isWrite
            cases isWrite
          · rw [isPrecharge] at isWrite
            cases isWrite
      · exact tracked.writing other member
    tags := by
      have reading := (moved.filter fun cmd => cmd.commandType.isRead).map packetTAG
      rw [Option.toList_some, List.filter_append, List.filter_append, reads, noReads, List.append_nil,
        List.map_append] at reading
      have before := tracked.tags
      rw [unreturned, List.map_append] at before
      show v.pendingReadData.Perm _
      rw [unreturned, isBehind, List.map_append, List.map_append, List.map_map]
      have retyped : packetTAG ∘ (fun cmd : DRAMCommand => cmd.withType .READ_DATA) = packetTAG := rfl
      rw [retyped]
      refine before.trans ((reading.append_right _).trans ?_)
      show (_ ++ ((queued c q).filter _).map packetTAG ++ _).Perm
        (((queued c q).filter _).map packetTAG ++ _)
      rw [List.perm_iff_count]
      intro tag
      simp only [List.count_append]
      omega }

theorem popCommand_tracked (tracked : Tracked c v) (free : v.cmdBus = none) :
    KeepsTrack c (v.popCommand c) := by
  unfold popCommand
  have pops := cmdPop_succeeds tracked.stored v.view
  cases popped : v.commandQueue.cmdPop c v.view with
  | error e =>
    rw [popped] at pops
    exact absurd trivial pops
  | ok result =>
    obtain ⟨q, taken⟩ := result
    cases taken with
    | none =>
      have same : SameReads v (v.setQueue q) :=
        ⟨rfl, cmdPop_eq_none popped, rfl, rfl, rfl, rfl, rfl, fun _ member => member, rfl⟩
      exact same.tracked tracked
    | some cmd =>
      simp only [Outcome.ok_bind, free, if_true]
      exact issue_tracked tracked free popped

/-! ## Atomic operations -/

/-- The result of an atomic is queued as a write. -/
theorem writeBack_tracked (tracked : Tracked c v) {cmd : DRAMCommand}
    (atomic : v.atomicCMD = some cmd) : Tracked c (v.writeBack c cmd) := by
  unfold writeBack
  split
  · exact tracked
  · have isAtomic := (tracked.operating cmd atomic).1
    have member : cmd ∈ v.reading := by
      rw [reading_eq, atomic]
      exact List.mem_append_left _ (List.mem_singleton_self cmd)
    obtain ⟨isData, inBanks, formed⟩ := tracked.reading cmd member
    have isWrite : (atmRstCMD c cmd).commandType.isRead = false ∧
        (atmRstCMD c cmd).requested = true := by
      cases close : c.openPage <;>
        simp [atmRstCMD, close, requested, DRAMCommandType.isRead, DRAMCommandType.isWrite]
    have inBanks' : (atmRstCMD c cmd).bank < c.numBanks := inBanks
    obtain ⟨stored, pushed⟩ := tracked.stored.pushFront inBanks' isWrite.2
    exact {
      packets := tracked.packets
      stored := stored
      formed := fun i other inQueue => by
        rw [show (v.setQueue (v.commandQueue.pushFront c cmd.bank (atmRstCMD c cmd))).commandQueue.queue
          = Function.update v.commandQueue.queue (index c cmd.bank)
            (atmRstCMD c cmd :: v.commandQueue.accessQue c cmd.bank) from rfl] at inQueue
        by_cases same : i = index c cmd.bank
        · subst same
          rw [Function.update_self] at inQueue
          cases List.mem_cons.mp inQueue with
          | inl isResult =>
            rw [isResult]
            refine ⟨fun isPei => ?_, fun isMult _ => formed.operands isMult ?_⟩
            · have ordinary := (formed.ordinary isPei).1
              rw [isAtomic] at ordinary
              cases ordinary
            · rw [isData]
              exact fun h => by cases h
          | inr before => exact tracked.formed _ other before
        · rw [Function.update_of_ne same] at inQueue
          exact tracked.formed i other inQueue
      bus := tracked.bus
      reading := tracked.reading
      operating := tracked.operating
      writing := tracked.writing
      tags := by
        have reads := pushed.filter fun other => other.commandType.isRead
        rw [List.filter_cons_of_neg (by rw [isWrite.1]; decide)] at reads
        exact tracked.tags.trans ((reads.symm.append_right _).map packetTAG) }

theorem endAtomic_tracked (tracked : Tracked c v) : Tracked c v.endAtomic where
  packets := tracked.packets
  stored := tracked.stored
  formed := tracked.formed
  bus := tracked.bus
  reading cmd member := by
    refine tracked.reading cmd ?_
    rw [reading_eq] at member ⊢
    exact List.mem_append_right _ member
  operating _ none := by cases none
  writing := tracked.writing
  tags := tracked.tags

theorem atomicOperation_tracked (tracked : Tracked c v) : KeepsTrack c (v.atomicOperation c) := by
  unfold atomicOperation
  cases atomic : v.atomicCMD with
  | none => exact tracked
  | some cmd =>
    simp only
    split
    · have written := writeBack_tracked tracked atomic
      have answers : Succeeds ((v.writeBack c cmd).answerAtomic cmd) := by
        unfold answerAtomic
        split
        · exact trivial
        · have isAtomic := (tracked.operating cmd atomic).1
          have member : cmd ∈ v.reading := by
            rw [reading_eq, atomic]
            exact List.mem_append_left _ (List.mem_singleton_self cmd)
          refine respond_succeeds (respondPacket_succeeds (.inl isAtomic)) fun isPei => ?_
          have ordinary := ((tracked.reading cmd member).2.2.ordinary isPei).1
          rw [isAtomic] at ordinary
          cases ordinary
      cases answered : (v.writeBack c cmd).answerAtomic cmd with
      | error e =>
        rw [answered] at answers
        exact absurd trivial answers
      | ok v₁ =>
        have same := SameReads.of_aside (answerAtomic_aside answered)
        exact endAtomic_tracked (same.tracked written)
    · have same : SameReads v v.operate :=
        ⟨rfl, rfl, rfl, rfl, rfl, rfl, rfl, fun _ member => member, rfl⟩
      exact same.tracked tracked

/-! ## A cycle -/

theorem enablePowerdown_same (v : VaultController) :
    SameReads v (v.enablePowerdown c).countDelays := by
  unfold enablePowerdown
  split
  · split
    · unfold DRAM.powerDown
      split
      · rename_i isDown
        split at isDown
        · obtain ⟨rfl, _⟩ := Prod.mk.inj isDown
          exact ⟨rfl, rfl, rfl, rfl, rfl, rfl, rfl, fun _ member => member, rfl⟩
        · cases isDown
      · exact ⟨rfl, rfl, rfl, rfl, rfl, rfl, rfl, fun _ member => member, rfl⟩
    · split
      all_goals exact ⟨rfl, rfl, rfl, rfl, rfl, rfl, rfl, fun _ member => member, rfl⟩
  · exact ⟨rfl, rfl, rfl, rfl, rfl, rfl, rfl, fun _ member => member, rfl⟩

theorem update_tracked (banks : 0 < c.numBanks) (tracked : Tracked c v) (accepts : Bool) :
    KeepsTrack c (v.update c accepts) := by
  have flushed := (SameReads.of_aside (flushPcu_aside v)).tracked tracked
  refine (updateCountdown_tracked flushed).bind fun v₁ facts₁ => ?_
  refine (convert_tracked banks facts₁.1 facts₁.2).bind fun v₂ facts₂ => ?_
  have sent := SameReads.of_aside (sendUp_aside v₂ accepts)
  have popped := popCommand_tracked (sent.tracked facts₂.1) (sent.cmdBus.trans facts₂.2)
  refine popped.bind fun v₃ tracked₃ => ?_
  refine (atomicOperation_tracked tracked₃).bind fun v₄ tracked₄ => ?_
  exact (enablePowerdown_same v₄).tracked tracked₄

/-! ## Data that returns -/

/-- The data of a read leaves the bus of the DRAM with its tag. -/
theorem consume_tracked (tracked : Tracked c v) {cmd : DRAMCommand}
    (isData : v.dram.readData = some cmd) {v₁ : VaultController} (aside : Aside v v₁)
    (atomicCMD : Option DRAMCommand) (atomicOperLeft : ℕ)
    (operating : ∀ other ∈ atomicCMD,
      other ∈ v.reading ∧ other.atomic = true ∧ other.lastCMD = true) :
    Tracked c ({ v₁ with
      atomicCMD := atomicCMD, atomicOperLeft := atomicOperLeft
      pendingReadData := v₁.pendingReadData.erase cmd.packetTAG
      dram := dropData v₁.dram } : VaultController) := by
  have same := SameReads.of_aside aside
  have tracked₁ := same.tracked tracked
  have isData₁ : v₁.dram.readData = some cmd := same.readData.trans isData
  have sameReading : v₁.reading = v.reading := aside.reading
  have front : v₁.behind = cmd :: (v₁.dram.readReturn.map Prod.fst ++
      (v₁.cmdBus.toList.filter fun cmd => cmd.commandType.isRead).map fun cmd =>
        cmd.withType .READ_DATA) := by
    rw [behind, isData₁]
    rfl
  exact {
    packets := tracked₁.packets
    stored := tracked₁.stored
    formed := tracked₁.formed
    bus := tracked₁.bus
    reading := fun other member => by
      rw [reading_eq, List.mem_append] at member
      cases member with
      | inl isAtomic =>
        exact tracked.reading other (operating other (Option.mem_toList.mp isAtomic)).1
      | inr isBehind =>
        refine tracked₁.reading other ?_
        rw [reading_eq, front]
        exact List.mem_append_right _ (List.mem_cons_of_mem _ isBehind)
    operating := fun other isAtomic => (operating other isAtomic).2
    writing := tracked₁.writing
    tags := by
      have before := tracked₁.tags
      rw [unreturned, front] at before
      have moved := before.trans (List.perm_middle.map packetTAG)
      have erased := moved.erase cmd.packetTAG
      rw [List.map_cons, List.erase_cons_head] at erased
      exact erased }

theorem returnCommand_tracked (tracked : Tracked c v) {cmd : DRAMCommand}
    (isData : v.dram.readData = some cmd) :
    Outcome.Yields (fun result : VaultController × Bool =>
        Tracked c (if result.2 then result.1.setDram (dropData result.1.dram) else result.1))
      (fun e => e ≠ .busCollision) (v.returnCommand cmd) := by
  have isBehind : cmd ∈ v.behind := by
    rw [behind, isData]
    exact List.mem_append_left _ (List.mem_singleton_self cmd)
  have member : cmd ∈ v.reading := by
    rw [reading_eq]
    exact List.mem_append_right _ isBehind
  obtain ⟨isReadData, _, formed⟩ := tracked.reading cmd member
  have isPending : cmd.packetTAG ∈ v.pendingReadData := by
    refine tracked.tags.mem_iff.mpr (List.mem_map_of_mem ?_)
    exact List.mem_append_right _ isBehind
  have operating : ∀ other ∈ v.atomicCMD,
      other ∈ v.reading ∧ other.atomic = true ∧ other.lastCMD = true := by
    intro other isAtomic
    refine ⟨?_, tracked.operating other isAtomic⟩
    rw [reading_eq]
    exact List.mem_append_left _ (Option.mem_toList.mpr isAtomic)
  unfold returnCommand
  rw [if_pos isPending]
  split
  · exact fun other => other rfl
  · cases isLast : cmd.lastCMD with
    | false =>
      exact consume_tracked tracked isData (.refl v) v.atomicCMD v.atomicOperLeft operating
    | true =>
      simp only [if_true]
      cases isAtomic : cmd.atomic with
      | true =>
        refine consume_tracked tracked isData (.refl v) (some cmd) 1 fun other same => ?_
        obtain rfl := Option.some.inj same
        exact ⟨member, isAtomic, isLast⟩
      | false =>
        simp only [Bool.false_eq_true, if_false]
        have makes : Succeeds (v.makeRespondPacket cmd) :=
          makeRespondPacket_succeeds (respondPacket_succeeds (.inr (.inr ⟨isReadData, formed⟩)))
        cases made : v.makeRespondPacket cmd with
        | error e =>
          rw [made] at makes
          exact absurd trivial makes
        | ok result =>
          obtain ⟨v₁, taken⟩ := result
          have aside := makeRespondPacket_aside made
          cases taken with
          | true =>
            have consumed := consume_tracked tracked isData aside v₁.atomicCMD v₁.atomicOperLeft
              (by rw [aside.atomicCMD]; exact operating)
            exact consumed
          | false => exact (SameReads.of_aside aside).tracked tracked

theorem returnData_tracked (tracked : Tracked c v) : KeepsTrack c v.returnData := by
  have counted : SameReads v (v.setDram (countData v.dram)) :=
    ⟨rfl, rfl, rfl, rfl, rfl, rfl, rfl, fun _ member => member, rfl⟩
  unfold returnData
  cases isData : v.dram.readData with
  | none => exact tracked
  | some cmd =>
    simp only
    split
    · refine (returnCommand_tracked (counted.tracked tracked) isData).bind fun result facts => ?_
      obtain ⟨v₁, consumed⟩ := result
      cases consumed with
      | true => exact facts
      | false => exact facts
    · exact counted.tracked tracked

theorem updateDram_tracked (tracked : Tracked c v) : KeepsTrack c (v.updateDram c) := by
  have banks : SameReads v (v.setDram (v.dram.updateBanks c)) :=
    ⟨rfl, rfl, rfl, rfl, rfl, rfl, rfl, fun _ member => member, rfl⟩
  refine (returnData_tracked (banks.tracked tracked)).bind fun v₁ tracked₁ => ?_
  have sameReading := reading_takeBus (c := c) v₁
  have sameBehind : (v₁.setDram (countReturns (takeBus c v₁.dram)).step).behind = v₁.behind := by
    rw [reading_eq, reading_eq] at sameReading
    exact List.append_cancel_left sameReading
  exact {
    packets := tracked₁.packets
    stored := tracked₁.stored
    formed := tracked₁.formed
    bus := tracked₁.bus
    reading := by
      rw [sameReading]
      exact tracked₁.reading
    operating := tracked₁.operating
    writing := tracked₁.writing
    tags := by
      rw [unreturned, sameBehind]
      exact tracked₁.tags }

theorem cycle_tracked (banks : 0 < c.numBanks) (tracked : Tracked c v) (accepts : Bool) :
    KeepsTrack c (v.cycle c accepts) :=
  (update_tracked banks tracked accepts).bind fun _ tracked₁ => updateDram_tracked tracked₁

/-! ## Runs -/

/-- The crossbar switch offers only requests that the vault can convert. -/
def OffersAcceptable (c : DRAMConfig) (_ : VaultController) : Action → VaultController → Prop
  | .offer packet, _ => Acceptable c packet
  | .cycle _, _ => True

instance (v : VaultController) : ∀ action v', Decidable (OffersAcceptable c v action v')
  | .offer packet, _ => inferInstanceAs (Decidable (Acceptable c packet))
  | .cycle _, _ => .isTrue trivial

theorem start_tracked (id : ℕ) : Tracked c (start c id) where
  packets _ member := by cases member
  stored := ⟨fun _ _ => rfl, (fun _ _ member => by cases member), fun _ _ member => by cases member⟩
  formed _ _ member := by cases member
  bus _ onBus := by cases onBus
  reading _ member := by cases member
  operating _ isAtomic := by cases isAtomic
  writing _ member := by cases member
  tags := by
    have empty : queued c (start c id).commandQueue = [] :=
      List.flatMap_eq_nil_iff.mpr fun _ _ => rfl
    rw [unreturned, empty]
    exact .refl _

theorem step_tracked (banks : 0 < c.numBanks) {action : Action} (tracked : Tracked c v)
    (stepped : v.step c action = .ok v') (acceptable : OffersAcceptable c v action v') :
    Tracked c v' := by
  cases action with
  | offer packet =>
    obtain rfl := Outcome.pure_eq_ok.mp stepped
    unfold receiveDown
    split
    · exact {
        packets := fun other member => by
          cases List.mem_append.mp member with
          | inl before => exact tracked.packets other before
          | inr new => exact List.mem_singleton.mp new ▸ acceptable
        stored := tracked.stored
        formed := tracked.formed
        bus := tracked.bus
        reading := tracked.reading
        operating := tracked.operating
        writing := tracked.writing
        tags := tracked.tags }
    · exact tracked
  | cycle accepts =>
    have keeps := cycle_tracked banks tracked accepts
    rw [show v.cycle c accepts = .ok v' from stepped] at keeps
    exact keeps

/-- In every run, in either organisation of the queues and under either policy, the pending tags
    are those of the reads that are queued, on the bus or in the DRAM.  Whatever comes next, data
    finds its request, and nothing but a collision on a bus stops the simulation. -/
theorem run_readTags (banks : 0 < c.numBanks) {id : ℕ} {actions : List Action}
    (run : Transition.Run (step c) (OffersAcceptable c) (start c id) actions v) :
    v.pendingReadData.Perm ((v.unreturned c).map packetTAG) ∧
      ∀ accepts error, v.cycle c accepts = .error error → error = .busCollision := by
  have tracked : Tracked c v := run.invariant (start_tracked id) fun _ _ _ tracked =>
    step_tracked banks tracked
  refine ⟨tracked.tags, fun accepts error stops => ?_⟩
  have keeps := cycle_tracked banks tracked accepts
  rw [stops] at keeps
  exact not_not.mp keeps

/-- Two reads with the same tag, to different banks. -/
def readTwice (cycles : ℕ) : List Action :=
  [.offer { packetType := .REQUEST, CMD := .RD64, TAG := 7, reqDataSize := 64 },
    .offer { packetType := .REQUEST, CMD := .RD64, TAG := 7, reqDataSize := 64, ADRS := 0x800 }] ++
      List.replicate cycles (.cycle true)

theorem run_readTags_readTwice : ∃ v,
    Transition.Run (step {}) (OffersAcceptable {}) (start {} 0) (readTwice 20) v ∧
      v.pendingReadData = [7, 7, 7, 7] ∧
      v.pendingReadData.Perm ((v.unreturned {}).map packetTAG) ∧
        ∀ accepts error, v.cycle {} accepts = .error error → error = .busCollision := by
  have executed : (Transition.execute (step {}) (OffersAcceptable {}) (start {} 0)
      (readTwice 20)).map pendingReadData = some [7, 7, 7, 7] := by decide +kernel
  obtain ⟨v, executed, pending⟩ := Option.map_eq_some_iff.mp executed
  have run := Transition.execute_run executed
  exact ⟨v, run, pending, run_readTags (by decide) run⟩

end VaultController

end ActiveRouting

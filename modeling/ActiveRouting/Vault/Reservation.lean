import ActiveRouting.Library.Run
import ActiveRouting.Vault.Scheduling
import ActiveRouting.Vault.VaultController

/-!
# Space for responses

When the last command of a request is issued, the vault promises space of its
upstream buffer to the response.  `pendingDataSize` counts what is promised.
-/

namespace ActiveRouting

namespace DRAMCommand

/-- The response to a command is pushed when its data arrives. -/
def answered (cmd : DRAMCommand) : Bool :=
  cmd.lastCMD && !cmd.posted && !(cmd.commandType = .WRITE_DATA && cmd.atomic)

/-- The length of the response that `MakeRespondPacket` builds. -/
def responseLNG (cmd : DRAMCommand) : ℕ :=
  if cmd.atomic then
    if VaultController.answersWrite cmd.packetCMD || cmd.packetCMD = .PEI_ATOMIC then 1 else 2
  else if cmd.commandType = .WRITE_DATA then 1
  else if cmd.packetCMD = .PEI_DOT || cmd.packetCMD = .ACT_MULT then 2
  else cmd.dataSize / 16 + 1

/-- What a command contributes to the space that responses need. -/
def owes (cmd : DRAMCommand) : ℕ := if cmd.answered then cmd.responseLNG else 0

/-- The response has the length that `Update` promises it, and its read is not
    issued without that space. -/
structure Fits (cmd : DRAMCommand) : Prop where
  notPei : cmd.packetCMD ≠ .PEI_DOT
  operand : cmd.atomic = false → cmd.packetCMD = .ACT_MULT → cmd.dataSize / 16 = 1
  data : cmd.atomic = true → cmd.posted = false →
    (VaultController.answersWrite cmd.packetCMD || cmd.packetCMD = .PEI_ATOMIC) = false →
      16 ≤ cmd.dataSize
  read : cmd.commandType.isRead = true ∨ cmd.commandType = .READ_DATA → cmd.atomic = false →
    cmd.posted = false

theorem Fits.readData {cmd : DRAMCommand} (fits : cmd.Fits)
    (isRead : cmd.commandType.isRead = true) : (cmd.withType .READ_DATA).Fits :=
  ⟨fits.notPei, fits.operand, fits.data, fun _ => fits.read (.inl isRead)⟩

theorem Fits.writeData {cmd : DRAMCommand} (fits : cmd.Fits) : (cmd.withType .WRITE_DATA).Fits :=
  ⟨fits.notPei, fits.operand, fits.data, fun isRead => by cases isRead with
    | inl isRead => cases isRead
    | inr isRead => cases isRead⟩

/-- The type of a read does not matter for its response. -/
theorem owes_readData {cmd : DRAMCommand} (isRead : cmd.commandType.isRead = true) :
    (cmd.withType .READ_DATA).owes = cmd.owes := by
  cases cmd with
  | mk commandType =>
    cases commandType with
    | READ | READ_P => rfl
    | ACTIVATE | WRITE | WRITE_P | READ_DATA | WRITE_DATA | PRECHARGE | REFRESH | POWERDOWN_ENTRY
    | POWERDOWN_EXIT => cases isRead

theorem owes_of_posted {cmd : DRAMCommand} (posted : cmd.posted = true) : cmd.owes = 0 := by
  simp [owes, answered, posted]

theorem owes_of_not_last {cmd : DRAMCommand} (earlier : cmd.lastCMD = false) : cmd.owes = 0 := by
  simp [owes, answered, earlier]

theorem owes_of_answered {cmd : DRAMCommand} (answered : cmd.answered = true) :
    cmd.owes = cmd.responseLNG := if_pos answered

end DRAMCommand

namespace VaultController

variable {c : DRAMConfig} {slack : ℕ}

/-! ## What is promised -/

/-- The commands that have been issued to the DRAM and wait for their data, or
    for the end of an atomic operation. -/
def inFlight (v : VaultController) : List DRAMCommand :=
  v.cmdBus.toList.filter (fun cmd => cmd.commandType.isRead) ++ v.dram.readReturn.map Prod.fst ++
    v.dram.readData.toList ++ v.atomicCMD.toList ++ v.writeData.map Prod.fst ++ v.dataBus.toList

/-- Those whose response has not been pushed yet. -/
def outstanding (v : VaultController) : List DRAMCommand :=
  v.inFlight.filter DRAMCommand.answered

/-- The space of all responses is reserved, and no response has been refused.  A
    response in the processing unit has not been pushed yet. -/
structure SpaceReserved (v : VaultController) : Prop where
  space : occupancy v.upBuffers + v.pendingDataSize ≤ maxVltBuf
  pending : v.pendingDataSize =
    (v.outstanding.map DRAMCommand.responseLNG).sum + occupancy v.pcuPacket
  refused : v.refused = []

def owed (cmds : List DRAMCommand) : ℕ := (cmds.map DRAMCommand.owes).sum

@[simp] theorem owed_nil : owed [] = 0 := rfl

@[simp] theorem owed_cons (cmd : DRAMCommand) (cmds : List DRAMCommand) :
    owed (cmd :: cmds) = cmd.owes + owed cmds := by simp [owed]

@[simp] theorem owed_append (first second : List DRAMCommand) :
    owed (first ++ second) = owed first + owed second := by simp [owed]

theorem sum_answered (cmds : List DRAMCommand) :
    ((cmds.filter DRAMCommand.answered).map DRAMCommand.responseLNG).sum = owed cmds := by
  induction cmds with
  | nil => rfl
  | cons cmd cmds inductionHypothesis =>
    cases answered : cmd.answered with
    | true => simp [answered, inductionHypothesis, DRAMCommand.owes]
    | false => simp [answered, inductionHypothesis, DRAMCommand.owes]

/-- An atomic that is answered with data. -/
def answersData (c : DRAMConfig) (cmd : PacketCommandType) : Bool :=
  ((requestKind c cmd).any fun kind => kind.atomic && !kind.posted) &&
    !(answersWrite cmd || cmd = .PEI_ATOMIC)

/-- A request whose response has the length that is promised to it. -/
def Answerable (c : DRAMConfig) (packet : Packet) : Prop :=
  packet.CMD ≠ .PEI_DOT ∧ (packet.CMD = .ACT_MULT → packet.reqDataSize / 16 = 1) ∧
    (answersData c packet.CMD = true → 16 ≤ packet.reqDataSize)

instance (packet : Packet) : Decidable (Answerable c packet) := by
  unfold Answerable
  infer_instance

/-- The invariant of the vault.  An atomic operation ends `slack` cycles before
    the data on the bus returns, so that no operation takes the place of another. -/
structure Reserves (c : DRAMConfig) (slack : ℕ) (v : VaultController) : Prop where
  space : occupancy v.upBuffers + v.pendingDataSize ≤ maxVltBuf
  pending : v.pendingDataSize = owed v.inFlight
  refused : v.refused = []
  pcu : v.pcuPacket = []
  packets : ∀ packet ∈ v.downBuffers, Answerable c packet
  queued : ∀ i, ∀ cmd ∈ v.commandQueue.queue i, cmd.commandType ≠ .ACTIVATE → cmd.Fits
  bus : ∀ cmd ∈ v.cmdBus, cmd.commandType.isRead = true → cmd.Fits
  returning : ∀ entry ∈ v.dram.readReturn, entry.1.Fits ∧ entry.1.commandType = .READ_DATA
  reading : ∀ cmd ∈ v.dram.readData, cmd.Fits ∧ cmd.commandType = .READ_DATA
  operating : ∀ cmd ∈ v.atomicCMD, cmd.Fits ∧ cmd.commandType = .READ_DATA ∧
    cmd.atomic = true ∧ cmd.lastCMD = true
  writing : ∀ entry ∈ v.writeData, entry.1.Fits ∧ entry.1.commandType = .WRITE_DATA
  written : ∀ cmd ∈ v.dataBus, cmd.Fits ∧ cmd.commandType = .WRITE_DATA
  short : v.atomicCMD ≠ none → v.atomicOperLeft ≤ 1
  alone : v.atomicCMD ≠ none → v.dram.readData ≠ none →
    v.atomicOperLeft + slack ≤ v.dram.dataCyclesLeft

theorem Reserves.spaceReserved {v : VaultController} (reserves : Reserves c slack v) :
    SpaceReserved v where
  space := reserves.space
  pending := by
    rw [reserves.pending, outstanding, sum_answered, reserves.pcu]
    rfl
  refused := reserves.refused

/-! ## Responses -/

/-- A response is pushed, and its space is no longer promised. -/
def answer (v : VaultController) (packet : Packet) (size : ℕ) : VaultController :=
  { v with
    upBuffers := v.upBuffers ++ [packet]
    pendingDataSize := v.pendingDataSize - size }

/-- The response of a command that fits gives back what it takes. -/
theorem respondPacket_eq_ok {cmd : DRAMCommand} {packet : Packet} {size : ℕ} (fits : cmd.Fits)
    (isData : cmd.commandType = .READ_DATA ∨ cmd.commandType = .WRITE_DATA)
    (responded : respondPacket cmd = .ok (packet, size)) :
    packet.LNG = cmd.responseLNG ∧ size = cmd.responseLNG ∧ packet.CMD ≠ .PEI_DOT := by
  unfold respondPacket at responded
  unfold DRAMCommand.responseLNG
  cases atomic : cmd.atomic with
  | true =>
    simp only [atomic, if_true] at responded ⊢
    split at responded
    · rename_i answersWrite
      cases responded
      simp [answersWrite, response]
    · rename_i notWrite
      split at responded
      · rename_i isPei
        cases responded
        simp [isPei, response]
      · rename_i notPei
        cases responded
        simp [notWrite, notPei, response]
  | false =>
    simp only [atomic, Bool.false_eq_true, if_false] at responded ⊢
    cases isData with
    | inr isWrite =>
      rw [isWrite] at responded
      cases responded
      simp [isWrite, response]
    | inl isRead =>
      simp only [isRead] at responded
      rw [if_neg (by simp [isRead])]
      split at responded
      · rename_i isAdd
        cases responded
        simp [isAdd, operandResponse, response]
      · rename_i isDot
        cases responded
        simp [isDot, operandResponse, response]
      · rename_i isPei
        exact absurd isPei fits.notPei
      · rename_i isMult
        split at responded
        · cases responded
          simp [isMult, operandResponse, response, fits.operand atomic isMult]
        · cases responded
      · rename_i notMult _ _
        cases responded
        simp_all [response, fits.notPei]

/-- Where space is promised to a response, it is accepted and gives the space back. -/
theorem makeRespondPacket_eq_ok {v v' : VaultController} {cmd : DRAMCommand} {consumed : Bool}
    (fits : cmd.Fits) (isData : cmd.commandType = .READ_DATA ∨ cmd.commandType = .WRITE_DATA)
    (space : occupancy v.upBuffers + v.pendingDataSize ≤ maxVltBuf)
    (promised : cmd.responseLNG ≤ v.pendingDataSize)
    (responded : v.makeRespondPacket cmd = .ok (v', consumed)) :
    consumed = true ∧ ∃ packet, packet.LNG = cmd.responseLNG ∧
      v' = v.answer packet cmd.responseLNG := by
  unfold makeRespondPacket at responded
  obtain ⟨⟨packet, size⟩, isResponse, responded⟩ := Outcome.bind_eq_ok.mp responded
  obtain ⟨lng, rfl, notPei⟩ := respondPacket_eq_ok fits isData isResponse
  have accepted : v.receiveUp packet = some { v with upBuffers := v.upBuffers ++ [packet] } := by
    unfold receiveUp
    exact if_pos (by rw [lng]; omega)
  simp only [if_neg notPei, accepted] at responded
  obtain ⟨rfl, rfl⟩ := Prod.mk.inj (Outcome.pure_eq_ok.mp responded)
  refine ⟨rfl, packet, lng, ?_⟩
  unfold giveBack answer
  have capacity : maxVltBuf = 32 := rfl
  rw [unsignedSub_eq promised (by omega)]

theorem respond_eq_ok {v v' : VaultController} {cmd : DRAMCommand} (fits : cmd.Fits)
    (isData : cmd.commandType = .READ_DATA ∨ cmd.commandType = .WRITE_DATA)
    (space : occupancy v.upBuffers + v.pendingDataSize ≤ maxVltBuf)
    (promised : cmd.responseLNG ≤ v.pendingDataSize) (responded : v.respond cmd = .ok v') :
    ∃ packet, packet.LNG = cmd.responseLNG ∧ v' = v.answer packet cmd.responseLNG := by
  unfold respond at responded
  obtain ⟨⟨v₁, consumed⟩, isMade, responded⟩ := Outcome.bind_eq_ok.mp responded
  simp only [if_neg fits.notPei] at responded
  obtain rfl := Outcome.pure_eq_ok.mp responded
  exact (makeRespondPacket_eq_ok fits isData space promised isMade).2

@[simp] theorem occupancy_concat (packets : List Packet) (packet : Packet) :
    occupancy (packets ++ [packet]) = occupancy packets + packet.LNG := by simp [occupancy]

theorem owed_inFlight (v : VaultController) :
    owed v.inFlight = owed (v.cmdBus.toList.filter fun cmd => cmd.commandType.isRead) +
      owed (v.dram.readReturn.map Prod.fst) + owed v.dram.readData.toList +
      owed v.atomicCMD.toList + owed (v.writeData.map Prod.fst) + owed v.dataBus.toList := by
  simp [inFlight, add_assoc]

/-! ## The command bus and the data bus -/

theorem transmitCommand_reserves {v v' : VaultController} (reserves : Reserves c slack v)
    (transmitted : v.transmitCommand c = .ok v') : Reserves c slack v' := by
  unfold transmitCommand at transmitted
  cases onBus : v.cmdBus with
  | none =>
    rw [onBus] at transmitted
    exact Outcome.pure_eq_ok.mp transmitted ▸ reserves
  | some cmd =>
    simp only [onBus] at transmitted
    split at transmitted
    · obtain ⟨dram, received, transmitted⟩ := Outcome.bind_eq_ok.mp transmitted
      obtain rfl := Outcome.pure_eq_ok.mp transmitted
      obtain ⟨_, _, sameData, sameCycles, returns⟩ := DRAM.receiveCMD_eq_ok received
      have owes : owed ((v.freeCmdBus.setDram dram).inFlight) = owed v.inFlight := by
        rw [owed_inFlight, owed_inFlight]
        show owed [] + owed (dram.readReturn.map Prod.fst) + owed dram.readData.toList + _ + _ + _ = _
        rw [onBus, returns, sameData]
        cases isRead : cmd.commandType.isRead with
        | true =>
          have same := DRAMCommand.owes_readData isRead
          simp [isRead, freeCmdBus, setDram, same]
          omega
        | false => simp [isRead, freeCmdBus, setDram]
      refine { reserves with
        pending := reserves.pending.trans owes.symm
        bus := fun cmd member => (nomatch member)
        returning := ?_
        reading := sameData ▸ reserves.reading
        alone := sameData ▸ sameCycles ▸ reserves.alone }
      show ∀ entry ∈ dram.readReturn, _
      rw [returns]
      intro entry member
      cases List.mem_append.mp member with
      | inl before => exact reserves.returning entry before
      | inr appended =>
        cases isRead : cmd.commandType.isRead with
        | true =>
          rw [isRead, if_pos rfl, List.mem_singleton] at appended
          rw [appended]
          exact ⟨(reserves.bus cmd onBus isRead).readData isRead, rfl⟩
        | false =>
          rw [isRead] at appended
          cases appended
    · exact Outcome.pure_eq_ok.mp transmitted ▸ { reserves with }

theorem owes_of_unanswered {cmd : DRAMCommand} (unanswered : cmd.answered = false) :
    cmd.owes = 0 := by
  unfold DRAMCommand.owes
  rw [unanswered]
  rfl

/-- The last write of a request is answered, and nothing is owed for another. -/
theorem answerWrite_eq_ok {v v' : VaultController} {cmd : DRAMCommand} (fits : cmd.Fits)
    (isData : cmd.commandType = .WRITE_DATA)
    (space : occupancy v.upBuffers + v.pendingDataSize ≤ maxVltBuf)
    (promised : cmd.owes ≤ v.pendingDataSize) (answers : v.answerWrite cmd = .ok v') :
    v' = v ∧ cmd.owes = 0 ∨
      ∃ packet, packet.LNG = cmd.owes ∧ v' = v.answer packet cmd.owes := by
  unfold answerWrite at answers
  have isAnswered : (cmd.lastCMD && !cmd.atomic && !cmd.posted) = cmd.answered := by
    unfold DRAMCommand.answered
    rw [isData]
    cases cmd.lastCMD <;> cases cmd.atomic <;> cases cmd.posted <;> rfl
  rw [isAnswered] at answers
  cases answered : cmd.answered with
  | false =>
    rw [answered] at answers
    exact .inl ⟨(Outcome.pure_eq_ok.mp answers).symm, owes_of_unanswered answered⟩
  | true =>
    rw [answered, if_pos rfl] at answers
    rw [DRAMCommand.owes_of_answered answered] at promised ⊢
    exact .inr (respond_eq_ok fits (.inr isData) space promised answers)

theorem transmitData_reserves {v v' : VaultController} (reserves : Reserves c slack v)
    (transmitted : v.transmitData c = .ok v') : Reserves c slack v' := by
  unfold transmitData at transmitted
  cases onBus : v.dataBus with
  | none =>
    rw [onBus] at transmitted
    exact Outcome.pure_eq_ok.mp transmitted ▸ reserves
  | some cmd =>
    obtain ⟨fits, isData⟩ := reserves.written cmd onBus
    simp only [onBus] at transmitted
    split at transmitted
    · obtain ⟨v₁, answers, transmitted⟩ := Outcome.bind_eq_ok.mp transmitted
      obtain ⟨dram, received, transmitted⟩ := Outcome.bind_eq_ok.mp transmitted
      obtain rfl := Outcome.pure_eq_ok.mp transmitted
      obtain ⟨_, _, sameData, sameCycles, returns⟩ := DRAM.receiveCMD_eq_ok received
      rw [isData] at returns
      have noReturn : dram.readReturn = v₁.dram.readReturn := returns.trans (List.append_nil _)
      have split : owed v.inFlight = owed v.freeDataBus.inFlight + cmd.owes := by
        rw [owed_inFlight, owed_inFlight, onBus]
        simp [freeDataBus]
      have pending := reserves.pending
      have same : owed ((v₁.freeDataBus).setDram dram).inFlight = owed v₁.freeDataBus.inFlight := by
        rw [owed_inFlight, owed_inFlight]
        simp [freeDataBus, setDram, noReturn, sameData]
      cases answerWrite_eq_ok fits isData reserves.space (by omega) answers with
      | inl nothing =>
        obtain ⟨rfl, owesNothing⟩ := nothing
        refine { reserves with
          pending := ?_
          returning := noReturn ▸ reserves.returning
          reading := sameData ▸ reserves.reading
          alone := sameData ▸ sameCycles ▸ reserves.alone
          written := fun cmd member => (nomatch member) }
        show v₁.pendingDataSize = _
        rw [same]
        omega
      | inr answered =>
        obtain ⟨packet, lng, rfl⟩ := answered
        have space := reserves.space
        have owes : owed ((v.answer packet cmd.owes).freeDataBus).inFlight =
            owed v.freeDataBus.inFlight := rfl
        refine { reserves with
          space := ?_
          pending := ?_
          returning := noReturn ▸ reserves.returning
          reading := sameData ▸ reserves.reading
          alone := sameData ▸ sameCycles ▸ reserves.alone
          written := fun cmd member => (nomatch member) }
        · show occupancy (v.upBuffers ++ [packet]) + (v.pendingDataSize - cmd.owes) ≤ maxVltBuf
          rw [occupancy_concat]
          omega
        · show v.pendingDataSize - cmd.owes = _
          rw [same, owes]
          omega
    · exact Outcome.pure_eq_ok.mp transmitted ▸ { reserves with }

@[simp] theorem countWrites_fst (writeData : List (DRAMCommand × ℕ)) :
    (countWrites writeData).map Prod.fst = writeData.map Prod.fst := by
  simp [countWrites]

theorem mem_countWrites {writeData : List (DRAMCommand × ℕ)} {entry : DRAMCommand × ℕ}
    (member : entry ∈ countWrites writeData) : ∃ before ∈ writeData, before.1 = entry.1 := by
  obtain ⟨before, isBefore, rfl⟩ := List.mem_map.mp member
  exact ⟨before, isBefore, rfl⟩

theorem sendWriteData_reserves {v v' : VaultController} (reserves : Reserves c slack v)
    (sent : v.sendWriteData c = .ok v') : Reserves c slack v' := by
  unfold sendWriteData at sent
  split at sent
  · rename_i cmd rest waiting
    split at sent
    · rename_i free
      obtain rfl := Outcome.pure_eq_ok.mp sent
      have first : cmd.Fits ∧ cmd.commandType = .WRITE_DATA :=
        reserves.writing (cmd, 0) (waiting ▸ List.mem_cons_self)
      refine { reserves with
        pending := ?_
        writing := fun entry member => ?_
        written := fun taken isTaken => ?_ }
      · refine reserves.pending.trans ?_
        rw [owed_inFlight, owed_inFlight, waiting, free]
        simp [sendData]
        omega
      · obtain ⟨before, isBefore, same⟩ := mem_countWrites member
        exact same ▸ reserves.writing before (waiting ▸ List.mem_cons_of_mem _ isBefore)
      · cases isTaken
        exact first
    · cases sent
  · obtain rfl := Outcome.pure_eq_ok.mp sent
    refine { reserves with
      pending := ?_
      writing := fun entry member => ?_ }
    · refine reserves.pending.trans ?_
      rw [owed_inFlight, owed_inFlight]
      simp [setWriteData]
    · obtain ⟨before, isBefore, same⟩ := mem_countWrites member
      exact same ▸ reserves.writing before isBefore

theorem countRefresh_reserves {v : VaultController} (reserves : Reserves c slack v) :
    Reserves c slack (v.countRefresh c) := by
  unfold countRefresh
  split
  · exact { reserves with }
  · exact { reserves with }

theorem updateCountdown_reserves {v v' : VaultController} (reserves : Reserves c slack v)
    (updated : v.updateCountdown c = .ok v') : Reserves c slack v' := by
  unfold updateCountdown at updated
  obtain ⟨v₁, transmitted, updated⟩ := Outcome.bind_eq_ok.mp updated
  obtain ⟨v₂, dataTransmitted, updated⟩ := Outcome.bind_eq_ok.mp updated
  obtain ⟨v₃, sent, updated⟩ := Outcome.bind_eq_ok.mp updated
  obtain rfl := Outcome.pure_eq_ok.mp updated
  apply countRefresh_reserves
  apply sendWriteData_reserves _ sent
  apply transmitData_reserves _ dataTransmitted
  exact transmitCommand_reserves reserves transmitted

/-! ## Conversion -/

/-- Only atomic reads are posted. -/
theorem requestKind_read {cmd : PacketCommandType} {kind : RequestKind}
    (isKind : requestKind c cmd = some kind)
    (isRead : kind.tempCMD.isRead = true ∨ kind.tempCMD = .READ_DATA)
    (notAtomic : kind.atomic = false) : kind.posted = false := by
  obtain ⟨posted, rfl⟩ | rfl | ⟨posted, rfl⟩ := requestKind_cases isKind
  · unfold writeKind at isRead
    simp only at isRead
    split at isRead <;> cases isRead with
    | inl isRead => cases isRead
    | inr isRead => cases isRead
  · rfl
  · cases notAtomic

theorem earlierType_read {type : DRAMCommandType}
    (isRead : (earlierType type).isRead = true ∨ earlierType type = .READ_DATA) :
    type.isRead = true ∨ type = .READ_DATA := by
  cases type with
  | READ_P => exact .inl rfl
  | WRITE_P => cases isRead with
    | inl isRead => cases isRead
    | inr isRead => cases isRead
  | ACTIVATE | READ | WRITE | READ_DATA | WRITE_DATA | PRECHARGE | REFRESH | POWERDOWN_ENTRY
  | POWERDOWN_EXIT => exact isRead

/-- The last command of a request has the type of its kind. -/
theorem rwCMD_read {packet : Packet} {kind : RequestKind} {i : ℕ}
    (isRead : (rwCMD c packet kind i).commandType.isRead = true ∨
      (rwCMD c packet kind i).commandType = .READ_DATA) :
    kind.tempCMD.isRead = true ∨ kind.tempCMD = .READ_DATA := by
  unfold rwCMD at isRead
  simp only at isRead
  split at isRead
  · exact isRead
  · exact earlierType_read isRead

theorem answersData_of_kind {cmd : PacketCommandType} {kind : RequestKind}
    (isKind : requestKind c cmd = some kind) (atomic : kind.atomic = true)
    (posted : kind.posted = false) (short : (answersWrite cmd || cmd = .PEI_ATOMIC) = false) :
    answersData c cmd = true := by
  simp only [answersData, isKind, Option.any_some, atomic, posted, short, Bool.not_false,
    Bool.and_self]

/-- The commands of an answerable request fit. -/
theorem commands_fit {packet : Packet} {kind : RequestKind} (answerable : Answerable c packet)
    (isKind : requestKind c packet.CMD = some kind) :
    ∀ cmd ∈ commands c packet kind, cmd.commandType ≠ .ACTIVATE → cmd.Fits := by
  intro cmd member notActivate
  obtain ⟨notPei, operand, data⟩ := answerable
  cases List.mem_cons.mp member with
  | inl isActivate => exact absurd (isActivate ▸ rfl) notActivate
  | inr isBlock =>
    obtain ⟨i, _, rfl⟩ := List.mem_map.mp isBlock
    exact {
      notPei := notPei
      operand := fun _ isMult => operand isMult
      data := fun atomic posted short => data (answersData_of_kind isKind atomic posted short)
      read := fun isRead notAtomic => requestKind_read isKind (rwCMD_read isRead) notAtomic }

theorem mem_enqueue {q : CommandQueue} {bank i : ℕ} {cmd enqCMD : DRAMCommand}
    (member : cmd ∈ (q.enqueue c bank enqCMD).queue i) : cmd ∈ q.queue i ∨ cmd = enqCMD := by
  change cmd ∈ Function.update q.queue _ _ i at member
  by_cases isQueue : i = CommandQueue.index c bank
  · rw [isQueue, Function.update_self] at member
    cases List.mem_append.mp member with
    | inl before => exact .inl (isQueue ▸ before)
    | inr appended => exact .inr (List.mem_singleton.mp appended)
  · rw [Function.update_of_ne isQueue] at member
    exact .inl member

theorem mem_foldl_enqueue {bank i : ℕ} {cmd : DRAMCommand} :
    ∀ (cmds : List DRAMCommand) {q : CommandQueue},
      cmd ∈ (cmds.foldl (fun q cmd => q.enqueue c bank cmd) q).queue i →
        cmd ∈ q.queue i ∨ cmd ∈ cmds
  | [], _, member => .inl member
  | first :: rest, _, member => by
    cases mem_foldl_enqueue rest member with
    | inl before =>
      cases mem_enqueue before with
      | inl inQueue => exact .inl inQueue
      | inr isFirst => exact .inr (isFirst ▸ List.mem_cons_self)
    | inr inRest => exact .inr (List.mem_cons_of_mem first inRest)

theorem convPacketIntoCMDs_reserves {v v' : VaultController} {packet : Packet}
    (reserves : Reserves c slack v) (answerable : Answerable c packet)
    (converted : v.convPacketIntoCMDs c packet = .ok (some v')) : Reserves c slack v' := by
  unfold convPacketIntoCMDs at converted
  cases isKind : requestKind c packet.CMD with
  | none => rw [isKind] at converted; cases converted
  | some kind =>
    simp only [isKind] at converted
    split at converted
    · split at converted
      · obtain rfl := Option.some.inj (Outcome.pure_eq_ok.mp converted)
        refine { reserves with queued := fun i cmd member => ?_ }
        cases mem_foldl_enqueue _ member with
        | inl before => exact reserves.queued i cmd before
        | inr new => exact commands_fit answerable isKind cmd new
      · cases converted
    · cases converted

/-- The conversion of packets keeps the invariant, and keeps only packets that were there. -/
theorem convertPackets_reserves : ∀ {packets kept : List Packet} {v v' : VaultController},
    Reserves c slack v → (∀ packet ∈ packets, Answerable c packet) →
      v.convertPackets c packets = .ok (v', kept) →
        Reserves c slack v' ∧ ∀ packet ∈ kept, packet ∈ packets
  | [], kept, v, v', reserves, _, converted => by
    obtain ⟨rfl, rfl⟩ := Prod.mk.inj (Outcome.pure_eq_ok.mp converted)
    exact ⟨reserves, fun _ member => member⟩
  | [packet], kept, v, v', reserves, answerable, converted => by
    unfold convertPackets at converted
    obtain ⟨outcome, isOutcome, converted⟩ := Outcome.bind_eq_ok.mp converted
    cases outcome with
    | none =>
      obtain ⟨rfl, rfl⟩ := Prod.mk.inj (Outcome.pure_eq_ok.mp converted)
      exact ⟨reserves, fun _ member => member⟩
    | some v₁ =>
      obtain ⟨rfl, rfl⟩ := Prod.mk.inj (Outcome.pure_eq_ok.mp converted)
      exact ⟨convPacketIntoCMDs_reserves reserves (answerable packet List.mem_cons_self) isOutcome,
        fun _ member => (nomatch member)⟩
  | packet :: next :: rest, kept, v, v', reserves, answerable, converted => by
    unfold convertPackets at converted
    obtain ⟨outcome, isOutcome, converted⟩ := Outcome.bind_eq_ok.mp converted
    cases outcome with
    | none =>
      obtain ⟨⟨v₁, kept₁⟩, isRest, converted⟩ := Outcome.bind_eq_ok.mp converted
      obtain ⟨rfl, rfl⟩ := Prod.mk.inj (Outcome.pure_eq_ok.mp converted)
      obtain ⟨reserves₁, keptFrom⟩ := convertPackets_reserves reserves
        (fun other member => answerable other (List.mem_cons_of_mem packet member)) isRest
      refine ⟨reserves₁, fun other member => ?_⟩
      cases List.mem_cons.mp member with
      | inl isFirst => exact isFirst ▸ List.mem_cons_self
      | inr inKept => exact List.mem_cons_of_mem packet (keptFrom other inKept)
    | some v₁ =>
      have reserves₁ := convPacketIntoCMDs_reserves reserves
        (answerable packet List.mem_cons_self) isOutcome
      obtain ⟨⟨v₂, kept₂⟩, isRest, converted⟩ := Outcome.bind_eq_ok.mp converted
      obtain ⟨rfl, rfl⟩ := Prod.mk.inj (Outcome.pure_eq_ok.mp converted)
      obtain ⟨reserves₂, keptFrom⟩ := convertPackets_reserves reserves₁ (fun other member =>
        answerable other (List.mem_cons_of_mem packet (List.mem_cons_of_mem next member))) isRest
      refine ⟨reserves₂, fun other member => ?_⟩
      cases List.mem_cons.mp member with
      | inl isNext => exact isNext ▸ List.mem_cons_of_mem packet List.mem_cons_self
      | inr inKept =>
        exact List.mem_cons_of_mem packet (List.mem_cons_of_mem next (keptFrom other inKept))

theorem convert_reserves {v v' : VaultController} (reserves : Reserves c slack v)
    (converted : v.convert c = .ok v') : Reserves c slack v' := by
  unfold convert at converted
  split at converted
  · obtain ⟨⟨v₁, kept⟩, isConverted, converted⟩ := Outcome.bind_eq_ok.mp converted
    obtain rfl := Outcome.pure_eq_ok.mp converted
    obtain ⟨reserves₁, keptFrom⟩ := convertPackets_reserves reserves reserves.packets isConverted
    exact { reserves₁ with
      packets := fun packet member => reserves.packets packet (keptFrom packet member) }
  · exact Outcome.pure_eq_ok.mp converted ▸ reserves

/-! ## Issue -/

theorem sendUp_reserves {v : VaultController} (reserves : Reserves c slack v) (accepts : Bool) :
    Reserves c slack (v.sendUp accepts) := by
  unfold sendUp
  split
  · have fewer : occupancy v.upBuffers.tail ≤ occupancy v.upBuffers := by
      cases v.upBuffers with
      | nil => exact le_refl _
      | cons packet packets => simp [occupancy]
    have space := reserves.space
    refine { reserves with space := ?_ }
    show occupancy v.upBuffers.tail + v.pendingDataSize ≤ maxVltBuf
    omega
  · exact reserves

/-- What a command that is issued adds to the commands in flight. -/
def issued (cmd : DRAMCommand) : List DRAMCommand :=
  if cmd.commandType.isRead then [cmd]
  else if cmd.commandType.isWrite then [cmd.withType .WRITE_DATA]
  else []

theorem owed_issue {v : VaultController} (free : v.cmdBus = none) (cmd : DRAMCommand) :
    owed (v.issue c cmd).inFlight = owed v.inFlight + owed (issued cmd) := by
  rw [owed_inFlight, owed_inFlight, free]
  cases isType : cmd.commandType <;>
    simp [issue, issued, isType, DRAMCommandType.isRead, DRAMCommandType.isWrite] <;> omega

/-- The promised space is what the response takes. -/
theorem reserved_eq {cmd : DRAMCommand} (fits : cmd.commandType ≠ .ACTIVATE → cmd.Fits) :
    reserved cmd = owed (issued cmd) := by
  unfold reserved issued
  cases isRead : cmd.commandType.isRead with
  | true =>
    have notWrite : cmd.commandType.isWrite = false := by
      cases isType : cmd.commandType <;> rw [isType] at isRead <;> first | rfl | cases isRead
    have notData : (decide (cmd.commandType = .WRITE_DATA)) = false := by
      cases isType : cmd.commandType <;> rw [isType] at isRead <;> first | rfl | cases isRead
    have fits := fits (fun isActivate => by rw [isActivate] at isRead; cases isRead)
    simp only [if_true, owed_cons, owed_nil, notWrite, Bool.false_eq_true, if_false]
    unfold DRAMCommand.owes DRAMCommand.answered
    rw [notData, Bool.false_and, Bool.not_false, Bool.and_true]
    cases last : cmd.lastCMD && !cmd.posted with
    | false => rfl
    | true =>
      rw [if_pos rfl, if_pos rfl]
      unfold DRAMCommand.responseLNG
      cases atomic : cmd.atomic with
      | true => simp
      | false =>
        have notPei := fits.notPei
        have operand := fits.operand atomic
        have notWriteData := of_decide_eq_false notData
        by_cases isMult : cmd.packetCMD = .ACT_MULT
        · simp [isMult, operand isMult, notWriteData]
        · simp [isMult, notPei, notWriteData]
  | false =>
    cases isWrite : cmd.commandType.isWrite with
    | true =>
      cases last : cmd.lastCMD <;> cases posted : cmd.posted <;> cases atomic : cmd.atomic <;>
        simp [DRAMCommand.owes, DRAMCommand.answered, DRAMCommand.responseLNG,
          DRAMCommand.withType, last, posted, atomic]
    | false => simp

/-- A command is issued only if its response finds space beside those promised before. -/
theorem reserved_le {q : CommandQueue} {view : VaultView} {cmd : DRAMCommand}
    (fits : cmd.commandType ≠ .ACTIVATE → cmd.Fits)
    (issuable : q.isIssuable c view cmd = .ok true) :
    reserved cmd = 0 ∨
      view.pendingDataSize + reserved cmd ≤ view.upBufferMax - view.upBuffersSize := by
  unfold CommandQueue.isIssuable at issuable
  cases isType : cmd.commandType with
  | ACTIVATE | PRECHARGE | REFRESH | READ_DATA | WRITE_DATA | POWERDOWN_ENTRY | POWERDOWN_EXIT =>
    left
    simp [reserved, isType, DRAMCommandType.isWrite, DRAMCommandType.isRead]
  | WRITE | WRITE_P =>
    simp only [isType, Except.ok.injEq, Bool.and_eq_true, Bool.or_eq_true] at issuable
    cases issuable.2 with
    | inl noResponse =>
      left
      cases noResponse with
      | inl atomic => simp [reserved, isType, DRAMCommandType.isWrite, atomic]
      | inr posted => simp [reserved, posted]
    | inr hasSpace =>
      right
      have space := of_decide_eq_true hasSpace
      have small : reserved cmd ≤ 1 := by
        unfold reserved
        rw [isType]
        simp only [DRAMCommandType.isWrite, if_true]
        split <;> [split; skip] <;> omega
      omega
  | READ | READ_P =>
    right
    simp only [isType, Except.ok.injEq, Bool.and_eq_true] at issuable
    have space := of_decide_eq_true issuable.2
    have fits := fits (by simp [isType])
    have small : reserved cmd ≤ cmd.dataSize / 16 + 1 := by
      unfold reserved
      rw [isType]
      simp only [DRAMCommandType.isWrite, DRAMCommandType.isRead, if_true, Bool.false_eq_true,
        if_false]
      split
      · rename_i last
        rw [Bool.and_eq_true, Bool.not_eq_true'] at last
        cases atomic : cmd.atomic with
        | false => simp
        | true =>
          cases short : answersWrite cmd.packetCMD || cmd.packetCMD = .PEI_ATOMIC with
          | true => simp
          | false =>
            have := fits.data atomic last.2 short
            simp
            omega
      · omega
    omega

/-- What is issued fits, and the space for its response is there. -/
theorem chosen_fits {v : VaultController} (reserves : Reserves c slack v) {cmd : DRAMCommand}
    (chosen : CommandQueue.Chosen c v.commandQueue.countTFAW v.view cmd) :
    (cmd.commandType ≠ .ACTIVATE → cmd.Fits) ∧
      occupancy v.upBuffers + (v.pendingDataSize + reserved cmd) ≤ maxVltBuf := by
  have space := reserves.space
  cases chosen with
  | queued i member issuable =>
    have fits := reserves.queued i cmd member
    refine ⟨fits, ?_⟩
    cases reserved_le fits issuable with
    | inl nothing => omega
    | inr room =>
      change v.pendingDataSize + reserved cmd ≤ maxVltBuf - occupancy v.upBuffers at room
      omega
  | refresh =>
    have fits : CommandQueue.refreshCMD.Fits :=
      ⟨fun h => (nomatch h), fun _ h => (nomatch h), fun h => (nomatch h), fun _ _ => rfl⟩
    exact ⟨fun _ => fits, space⟩
  | precharge b =>
    have fits : (CommandQueue.prechargeCMD b).Fits :=
      ⟨fun h => (nomatch h), fun _ h => (nomatch h), fun h => (nomatch h), fun _ _ => rfl⟩
    exact ⟨fun _ => fits, space⟩

theorem popCommand_reserves {v v' : VaultController} (reserves : Reserves c slack v)
    (popped : v.popCommand c = .ok v') : Reserves c slack v' := by
  unfold popCommand at popped
  obtain ⟨⟨q, taken⟩, isPopped, popped⟩ := Outcome.bind_eq_ok.mp popped
  cases taken with
  | none =>
    obtain rfl := Outcome.pure_eq_ok.mp popped
    have same := CommandQueue.cmdPop_eq_none isPopped
    exact { reserves with queued := fun i cmd member => reserves.queued i cmd (same ▸ member) }
  | some cmd =>
    simp only at popped
    split at popped
    · rename_i free
      obtain rfl := Outcome.pure_eq_ok.mp popped
      obtain ⟨within, chosen⟩ := CommandQueue.cmdPop_eq_some isPopped
      obtain ⟨fits, space⟩ := chosen_fits reserves chosen
      refine { reserves with
        space := space
        pending := ?_
        queued := fun i other member => reserves.queued i other ((within i).subset member)
        bus := fun taken isTaken isRead => ?_
        writing := fun entry member => ?_ }
      · show v.pendingDataSize + reserved cmd = owed ((v.setQueue q).issue c cmd).inFlight
        rw [owed_issue (v := v.setQueue q) free cmd, reserved_eq fits, reserves.pending]
        rfl
      · cases isTaken
        exact fits (fun isActivate => by rw [isActivate] at isRead; cases isRead)
      · change entry ∈ if cmd.commandType.isWrite then _ else _ at member
        split at member
        · rename_i isWrite
          cases List.mem_append.mp member with
          | inl before => exact reserves.writing entry before
          | inr new =>
            rw [List.mem_singleton.mp new]
            have fits := fits (fun isActivate => by rw [isActivate] at isWrite; cases isWrite)
            exact ⟨fits.writeData, rfl⟩
        · exact reserves.writing entry member
    · cases popped

/-! ## Atomic operations -/

theorem mem_setQue {q : CommandQueue} {bank i : ℕ} {cmd : DRAMCommand} {cmds : List DRAMCommand}
    (member : cmd ∈ (q.setQue c bank cmds).queue i) : cmd ∈ q.queue i ∨ cmd ∈ cmds := by
  change cmd ∈ Function.update q.queue _ _ i at member
  by_cases isQueue : i = CommandQueue.index c bank
  · rw [isQueue, Function.update_self] at member
    exact .inr member
  · rw [Function.update_of_ne isQueue] at member
    exact .inl member

/-- The write back of an atomic fits. -/
theorem writeBack_reserves {v : VaultController} (reserves : Reserves c slack v) {cmd : DRAMCommand}
    (fits : cmd.Fits) (atomic : cmd.atomic = true) : Reserves c slack (v.writeBack c cmd) := by
  unfold writeBack
  split
  · exact reserves
  · refine { reserves with queued := fun i other member => ?_ }
    cases mem_setQue member with
    | inl before => exact reserves.queued i other before
    | inr inQueue =>
      cases List.mem_cons.mp inQueue with
      | inl isWriteBack =>
        intro _
        rw [isWriteBack]
        exact {
          notPei := fits.notPei
          operand := fun notAtomic => by
            change cmd.atomic = false at notAtomic
            rw [atomic] at notAtomic
            cases notAtomic
          data := fun _ _ _ => le_refl 16
          read := fun _ notAtomic => by
            change cmd.atomic = false at notAtomic
            rw [atomic] at notAtomic
            cases notAtomic }
      | inr before => exact reserves.queued _ other before

theorem answerAtomic_eq_ok {v v' : VaultController} {cmd : DRAMCommand} (fits : cmd.Fits)
    (isData : cmd.commandType = .READ_DATA) (last : cmd.lastCMD = true)
    (space : occupancy v.upBuffers + v.pendingDataSize ≤ maxVltBuf)
    (promised : cmd.owes ≤ v.pendingDataSize) (answers : v.answerAtomic cmd = .ok v') :
    v' = v ∧ cmd.owes = 0 ∨
      ∃ packet, packet.LNG = cmd.owes ∧ v' = v.answer packet cmd.owes := by
  unfold answerAtomic at answers
  cases posted : cmd.posted with
  | true =>
    rw [posted] at answers
    exact .inl ⟨(Outcome.pure_eq_ok.mp answers).symm, DRAMCommand.owes_of_posted posted⟩
  | false =>
    rw [posted] at answers
    have answered : cmd.answered = true := by
      simp [DRAMCommand.answered, last, posted, isData]
    rw [DRAMCommand.owes_of_answered answered] at promised ⊢
    exact .inr (respond_eq_ok fits (.inl isData) space promised answers)

theorem atomicOperation_reserves {v v' : VaultController} (reserves : Reserves c slack v)
    (operated : v.atomicOperation c = .ok v') : Reserves c (slack + 1) v' := by
  unfold atomicOperation at operated
  cases operation : v.atomicCMD with
  | none =>
    rw [operation] at operated
    obtain rfl := Outcome.pure_eq_ok.mp operated
    exact { reserves with alone := fun operating => absurd operation operating }
  | some cmd =>
    obtain ⟨fits, isData, atomic, last⟩ := reserves.operating cmd operation
    simp only [operation] at operated
    split at operated
    · obtain ⟨v₁, answers, operated⟩ := Outcome.bind_eq_ok.mp operated
      obtain rfl := Outcome.pure_eq_ok.mp operated
      have written := writeBack_reserves reserves fits atomic
      have pending := written.pending
      have space := written.space
      have stillOperating : (v.writeBack c cmd).atomicCMD = some cmd := by
        unfold writeBack
        split <;> exact operation
      have split : owed (v.writeBack c cmd).inFlight =
          owed (v.writeBack c cmd).endAtomic.inFlight + cmd.owes := by
        rw [owed_inFlight, owed_inFlight, stillOperating]
        simp [endAtomic]
        omega
      cases answerAtomic_eq_ok fits isData last space (by omega) answers with
      | inl nothing =>
        obtain ⟨rfl, owesNothing⟩ := nothing
        refine { written with
          pending := ?_
          operating := fun _ member => (nomatch member)
          short := fun operating => absurd rfl operating
          alone := fun operating => absurd rfl operating }
        show (v.writeBack c cmd).pendingDataSize = _
        omega
      | inr answered =>
        obtain ⟨packet, lng, rfl⟩ := answered
        refine { written with
          space := ?_
          pending := ?_
          operating := fun _ member => (nomatch member)
          short := fun operating => absurd rfl operating
          alone := fun operating => absurd rfl operating }
        · show occupancy ((v.writeBack c cmd).upBuffers ++ [packet]) +
            ((v.writeBack c cmd).pendingDataSize - cmd.owes) ≤ maxVltBuf
          rw [occupancy_concat]
          omega
        · show (v.writeBack c cmd).pendingDataSize - cmd.owes =
            owed (v.writeBack c cmd).endAtomic.inFlight
          omega
    · rename_i left
      obtain rfl := Outcome.pure_eq_ok.mp operated
      refine { reserves with
        short := fun operating => ?_
        alone := fun operating reading => ?_ }
      · have := reserves.short operating
        show v.atomicOperLeft - 1 ≤ 1
        omega
      · have := reserves.alone operating reading
        show v.atomicOperLeft - 1 + (slack + 1) ≤ v.dram.dataCyclesLeft
        omega

/-! ## A cycle -/

theorem flushPcu_eq {v : VaultController} (reserves : Reserves c slack v) : v.flushPcu = v := by
  unfold flushPcu
  rw [reserves.pcu]

theorem powerDown_eq {d : DRAM} : (d.powerDown c).1.readReturn = d.readReturn ∧
    (d.powerDown c).1.readData = d.readData ∧
      (d.powerDown c).1.dataCyclesLeft = d.dataCyclesLeft := by
  unfold DRAM.powerDown
  split <;> exact ⟨rfl, rfl, rfl⟩

/-- The banks play no part in the invariant. -/
theorem setPower_reserves {v : VaultController} (reserves : Reserves c slack v) {dram : DRAM}
    (powered : Bool) (sameReturn : dram.readReturn = v.dram.readReturn)
    (sameData : dram.readData = v.dram.readData)
    (sameCycles : dram.dataCyclesLeft = v.dram.dataCyclesLeft) :
    Reserves c slack (v.setPower dram powered) :=
  { reserves with
    pending := by
      refine reserves.pending.trans ?_
      rw [owed_inFlight, owed_inFlight]
      simp [setPower, sameReturn, sameData]
    returning := sameReturn ▸ reserves.returning
    reading := sameData ▸ reserves.reading
    alone := sameData ▸ sameCycles ▸ reserves.alone }

theorem enablePowerdown_reserves {v : VaultController} (reserves : Reserves c slack v) :
    Reserves c slack (v.enablePowerdown c) := by
  unfold enablePowerdown
  split
  · split
    · have same := powerDown_eq (c := c) (d := v.dram)
      cases powered : v.dram.powerDown c with
      | mk dram done =>
        rw [powered] at same
        cases done with
        | true => exact setPower_reserves reserves true same.1 same.2.1 same.2.2
        | false => exact reserves
    · split
      · exact setPower_reserves reserves false rfl rfl rfl
      · exact reserves
  · exact reserves

theorem countDelays_reserves {v : VaultController} (reserves : Reserves c slack v) :
    Reserves c slack v.countDelays :=
  { reserves with
    pcu := by
      show v.pcuPacket.map Packet.tick = []
      rw [reserves.pcu]
      rfl }

theorem update_reserves {v v' : VaultController} {accepts : Bool} (reserves : Reserves c slack v)
    (updated : v.update c accepts = .ok v') : Reserves c (slack + 1) v' := by
  unfold update at updated
  rw [flushPcu_eq reserves] at updated
  obtain ⟨v₁, counted, updated⟩ := Outcome.bind_eq_ok.mp updated
  obtain ⟨v₂, converted, updated⟩ := Outcome.bind_eq_ok.mp updated
  obtain ⟨v₃, popped, updated⟩ := Outcome.bind_eq_ok.mp updated
  obtain ⟨v₄, operated, updated⟩ := Outcome.bind_eq_ok.mp updated
  obtain rfl := Outcome.pure_eq_ok.mp updated
  have reserves₁ := updateCountdown_reserves reserves counted
  have reserves₂ := convert_reserves reserves₁ converted
  have reserves₃ := popCommand_reserves (sendUp_reserves reserves₂ accepts) popped
  exact countDelays_reserves (enablePowerdown_reserves (atomicOperation_reserves reserves₃ operated))

/-! ## Returning data -/

/-- The vault without the data on the bus of its DRAM, and without the space that
    is promised for it. -/
def withoutData (v : VaultController) (size : ℕ) : VaultController :=
  { v.setDram (dropData v.dram) with pendingDataSize := v.pendingDataSize - size }

/-- Read data that returns is answered, or starts an atomic operation. -/
theorem returnCommand_reserves {v v' : VaultController} {cmd : DRAMCommand} {consumed : Bool}
    (reserves : Reserves c slack (v.withoutData cmd.owes)) (idle : v.atomicCMD = none)
    (fits : cmd.Fits) (isData : cmd.commandType = .READ_DATA)
    (promised : cmd.owes ≤ v.pendingDataSize)
    (space : occupancy v.upBuffers + v.pendingDataSize ≤ maxVltBuf)
    (returned : v.returnCommand cmd = .ok (v', consumed)) :
    consumed = true ∧ Reserves c slack (v'.setDram (dropData v'.dram)) := by
  have pending : v.pendingDataSize - cmd.owes = owed (v.withoutData cmd.owes).inFlight :=
    reserves.pending
  unfold returnCommand at returned
  split at returned
  · cases returned
  · split at returned
    · cases last : cmd.lastCMD with
      | false =>
        simp only [last, Bool.false_eq_true, if_false] at returned
        obtain ⟨rfl, rfl⟩ := Prod.mk.inj (Outcome.pure_eq_ok.mp returned)
        have owesNothing := DRAMCommand.owes_of_not_last last
        refine ⟨rfl, { reserves with
          space := space
          pending := ?_ }⟩
        show v.pendingDataSize = owed (v.withoutData cmd.owes).inFlight
        omega
      | true =>
        simp only [last, if_true] at returned
        cases atomic : cmd.atomic with
        | true =>
          simp only [atomic, if_true] at returned
          obtain ⟨rfl, rfl⟩ := Prod.mk.inj (Outcome.pure_eq_ok.mp returned)
          refine ⟨rfl, { reserves with
            space := space
            pending := ?_
            operating := fun operation isOperation => ?_
            short := fun _ => le_refl 1
            alone := fun _ busy => absurd rfl busy }⟩
          · show v.pendingDataSize = _
            rw [owed_inFlight] at pending ⊢
            simp [withoutData, setDram, dropData, dropPending, startAtomic, idle] at pending ⊢
            omega
          · cases isOperation
            exact ⟨fits, isData, atomic, last⟩
        | false =>
          simp only [atomic, Bool.false_eq_true, if_false] at returned
          obtain ⟨⟨v₁, accepted⟩, responded, returned⟩ := Outcome.bind_eq_ok.mp returned
          have posted := fits.read (.inr isData) atomic
          have answered : cmd.answered = true := by
            simp [DRAMCommand.answered, last, posted, atomic]
          have owes := DRAMCommand.owes_of_answered answered
          obtain ⟨rfl, packet, lng, rfl⟩ :=
            makeRespondPacket_eq_ok fits (.inl isData) space (by omega) responded
          obtain ⟨rfl, rfl⟩ := Prod.mk.inj (Outcome.pure_eq_ok.mp returned)
          refine ⟨rfl, { reserves with
            space := ?_
            pending := ?_ }⟩
          · show occupancy (v.upBuffers ++ [packet]) + (v.pendingDataSize - cmd.responseLNG) ≤ maxVltBuf
            rw [occupancy_concat]
            omega
          · show v.pendingDataSize - cmd.responseLNG = owed (v.withoutData cmd.owes).inFlight
            omega
    · cases returned

/-- Data returns only when no atomic operation is under way. -/
theorem returnData_reserves {v v' : VaultController} (reserves : Reserves c 2 v)
    (returned : v.returnData = .ok v') : Reserves c 1 v' := by
  unfold returnData at returned
  cases reading : v.dram.readData with
  | none =>
    rw [reading] at returned
    obtain rfl := Outcome.pure_eq_ok.mp returned
    exact { reserves with alone := fun _ busy => absurd reading busy }
  | some cmd =>
    obtain ⟨fits, isData⟩ := reserves.reading cmd reading
    simp only [reading] at returned
    split at returned
    · rename_i last
      have idle : v.atomicCMD = none := by
        cases operation : v.atomicCMD with
        | none => rfl
        | some atomicCMD =>
          have := reserves.alone (by simp [operation]) (by simp [reading])
          omega
      obtain ⟨⟨v₁, consumed⟩, isReturned, returned⟩ := Outcome.bind_eq_ok.mp returned
      have split : owed v.inFlight = owed (v.setDram (dropData (countData v.dram))).inFlight +
          cmd.owes := by
        rw [owed_inFlight, owed_inFlight, reading]
        simp [setDram, dropData, countData]
        omega
      have pending := reserves.pending
      have space := reserves.space
      have dropped : Reserves c 1 ((v.setDram (countData v.dram)).withoutData cmd.owes) :=
        { reserves with
          space := by
            show occupancy v.upBuffers + (v.pendingDataSize - cmd.owes) ≤ maxVltBuf
            omega
          pending := by
            show v.pendingDataSize - cmd.owes =
              owed (v.setDram (dropData (countData v.dram))).inFlight
            omega
          reading := fun _ member => (nomatch member)
          alone := fun _ busy => absurd rfl busy }
      have promised : cmd.owes ≤ v.pendingDataSize := by omega
      obtain ⟨rfl, kept⟩ := returnCommand_reserves (v := v.setDram (countData v.dram)) dropped idle
        fits isData promised space isReturned
      obtain rfl := Outcome.pure_eq_ok.mp returned
      exact kept
    · rename_i notLast
      obtain rfl := Outcome.pure_eq_ok.mp returned
      refine { reserves with alone := fun operating busy => ?_ }
      have := reserves.alone operating busy
      show v.atomicOperLeft + 1 ≤ v.dram.dataCyclesLeft - 1
      omega

theorem takeBus_reserves {v : VaultController} (wide : 2 ≤ c.BL) (reserves : Reserves c 1 v) :
    Reserves c 1 (v.setDram (takeBus c v.dram)) := by
  unfold takeBus
  split
  · rename_i cmd rest free waiting
    have first : cmd.Fits ∧ cmd.commandType = .READ_DATA :=
      reserves.returning (cmd, 0) (waiting ▸ List.mem_cons_self)
    refine { reserves with
      pending := ?_
      returning := fun entry member => reserves.returning entry
        (waiting ▸ List.mem_cons_of_mem _ member)
      reading := fun taken isTaken => ?_
      alone := fun operating _ => ?_ }
    · refine reserves.pending.trans ?_
      rw [owed_inFlight, owed_inFlight, waiting, free]
      simp [setDram, putOnBus]
      omega
    · cases isTaken
      exact first
    · have := reserves.short operating
      show v.atomicOperLeft + 1 ≤ c.BL
      omega
  · exact reserves

theorem countReturns_reserves {v : VaultController} (reserves : Reserves c slack v) :
    Reserves c slack (v.setDram (countReturns v.dram).step) where
  __ := reserves
  pending := by
    refine reserves.pending.trans ?_
    rw [owed_inFlight, owed_inFlight]
    simp [setDram, countReturns, DRAM.step, Function.comp_def]
  returning := by
    intro entry member
    obtain ⟨before, isBefore, rfl⟩ := List.mem_map.mp member
    exact reserves.returning before isBefore

theorem updateDram_reserves {v v' : VaultController} (wide : 2 ≤ c.BL) (reserves : Reserves c 2 v)
    (updated : v.updateDram c = .ok v') : Reserves c 1 v' := by
  unfold updateDram at updated
  obtain ⟨v₁, returned, updated⟩ := Outcome.bind_eq_ok.mp updated
  obtain rfl := Outcome.pure_eq_ok.mp updated
  have banks : Reserves c 2 (v.setDram (v.dram.updateBanks c)) := { reserves with }
  exact countReturns_reserves (takeBus_reserves wide (returnData_reserves banks returned))

/-! ## Runs -/

theorem start_reserves (id : ℕ) : Reserves c slack (start c id) where
  space := Nat.zero_le maxVltBuf
  pending := rfl
  refused := rfl
  pcu := rfl
  packets := fun _ member => (nomatch member)
  queued := fun _ _ member => (nomatch member)
  bus := fun _ member => (nomatch member)
  returning := fun _ member => (nomatch member)
  reading := fun _ member => (nomatch member)
  operating := fun _ member => (nomatch member)
  writing := fun _ member => (nomatch member)
  written := fun _ member => (nomatch member)
  short := fun operating => absurd rfl operating
  alone := fun operating => absurd rfl operating

/-- The vault is offered answerable requests. -/
def OffersAnswerable (c : DRAMConfig) (_ : VaultController) : Action → VaultController → Prop
  | .offer packet, _ => Answerable c packet
  | .cycle _, _ => True

instance (v v' : VaultController) (action : Action) :
    Decidable (OffersAnswerable c v action v') := by
  unfold OffersAnswerable
  cases action <;> infer_instance

theorem step_reserves {v v' : VaultController} {action : Action} (wide : 2 ≤ c.BL)
    (reserves : Reserves c 1 v) (stepped : v.step c action = .ok v')
    (answerable : OffersAnswerable c v action v') : Reserves c 1 v' := by
  cases action with
  | offer packet =>
    obtain rfl := Outcome.pure_eq_ok.mp stepped
    unfold receiveDown
    split
    · refine { reserves with packets := fun other member => ?_ }
      cases List.mem_append.mp member with
      | inl before => exact reserves.packets other before
      | inr new => exact List.mem_singleton.mp new ▸ answerable
    · exact reserves
  | cycle accepts =>
    obtain ⟨v₁, updated, returned⟩ := Outcome.bind_eq_ok.mp stepped
    exact updateDram_reserves wide (update_reserves reserves updated) returned

/-- In every run on answerable requests, the space of every response is reserved
    and no response is refused, however long the crossbar switch takes none. -/
theorem run_spaceReserved {id : ℕ} {actions : List Action} {v : VaultController}
    (blocks : 64 ≤ c.addressMapping)
    (run : Transition.Run (step c) (OffersAnswerable c) (start c id) actions v) :
    SpaceReserved v := by
  have wide : 2 ≤ c.BL := (Nat.le_div_iff_mul_le (by decide)).mpr blocks
  have reserves : Reserves c 1 v := run.invariant (start_reserves id) fun _ _ _ reserves =>
    step_reserves wide reserves
  exact reserves.spaceReserved

/-- A read of an operand for the host's processing unit. -/
def peiDot : Packet :=
  { packetType := .REQUEST, CMD := .PEI_DOT, TAG := 1, LNG := 2, SRCCUB := 0, DESTCUB := 0 }

/-- A read of a block. -/
def readBlock : Packet :=
  { packetType := .REQUEST, CMD := .RD64, TAG := 2, reqDataSize := 64, SRCCUB := 0, DESTCUB := 0 }

/-- The request is offered, and then the vault runs alone for some cycles. -/
def serve (packet : Packet) (cycles : ℕ) : List Action :=
  .offer packet :: List.replicate cycles (.cycle true)

theorem run_spaceReserved_readBlock : ∃ v,
    Transition.Run (step {}) (OffersAnswerable {}) (start {} 0) (serve readBlock 30) v ∧
      v.pendingDataSize = 5 ∧ SpaceReserved v := by
  have executed : (Transition.execute (step {}) (OffersAnswerable {}) (start {} 0)
      (serve readBlock 30)).map pendingDataSize = some 5 := by decide +kernel
  obtain ⟨v, executed, pending⟩ := Option.map_eq_some_iff.mp executed
  have run := Transition.execute_run executed
  exact ⟨v, run, pending, run_spaceReserved (by decide) run⟩

/-- An operand that waits in the processing unit gives its space back before it
    is pushed. -/
theorem peiDot_not_reserved : ∃ v,
    Transition.Run (step {}) (fun _ _ _ => True) (start {} 0) (serve peiDot 40) v ∧
      ¬ SpaceReserved v := by
  have executed : (Transition.execute (step {}) (fun _ _ _ => True) (start {} 0)
      (serve peiDot 40)).map (fun v => (v.pendingDataSize, occupancy v.pcuPacket)) =
        some (0, 2) := by decide +kernel
  obtain ⟨v, executed, facts⟩ := Option.map_eq_some_iff.mp executed
  obtain ⟨nothing, waiting⟩ := Prod.mk.inj facts
  refine ⟨v, Transition.execute_run executed, fun reserved => ?_⟩
  have := reserved.pending
  omega

end VaultController

end ActiveRouting

import ActiveRouting.Vault.BankRules

/-!
# A cycle of the banks

Each stage of `VaultController::Update` and of `DRAM::Update` keeps a description of the banks that
obeys the rules.  What the scheduler takes from the queues is left to the page policy.
-/

namespace ActiveRouting

open DRAMCommand CommandQueue

namespace VaultController

variable {c : DRAMConfig} {serves : Packet → Prop}
  {describes : ℕ → ℕ → BankState → Work → Prop} {v v' : VaultController}

/-! ## The command bus -/

theorem bank_received {dram : DRAM} {cmd : DRAMCommand}
    (received : v.dram.receiveCMD c cmd = .ok dram) (b : ℕ) :
    (v.freeCmdBus.setDram dram).bank b = (v.bank b).receive c v.now cmd b :=
  congrFun (DRAM.receiveCMD_eq_ok received).1 b

/-- The command on the bus reaches the banks. -/
theorem phase_received {dram : DRAM} {cmd : DRAMCommand} (rules : BankRules c serves describes)
    (closing : Closing c serves describes v) (onBus : v.cmdBus = some cmd)
    (received : v.dram.receiveCMD c cmd = .ok dram) {b : ℕ} (inBanks : b < c.numBanks) :
    describes v.now b ((v.freeCmdBus.setDram dram).bank b)
      ((v.freeCmdBus.setDram dram).work b) := by
  have phase := closing.phase b inBanks
  rw [bank_received received, work_received onBus received]
  by_cases isRefresh : cmd.commandType = .REFRESH
  · have free : (v.work b).bus = none := by simp [work, busFor, onBus, isRefresh]
    have closed := (closing.ready cmd onBus).2.2 isRefresh b inBanks
    have delivered : (v.work b).deliver = v.work b := by rw [Work.deliver, ← free]
    rw [delivered, BankState.receive, isRefresh]
    exact rules.refresh closed free phase
  · by_cases own : cmd.bank = b
    · subst own
      exact rules.receive (work_bus onBus isRefresh) rfl phase
    · have free : (v.work b).bus = none := by simp [work, busFor, onBus, own]
      have delivered : (v.work b).deliver = v.work b := by rw [Work.deliver, ← free]
      rw [delivered]
      exact rules.sameRow (BankState.receive_other _ (fun same => own same.symm) isRefresh) phase

theorem power_received {dram : DRAM} {cmd : DRAMCommand} (perBank : PerBank c)
    (closing : Closing c serves describes v) (onBus : v.cmdBus = some cmd)
    (received : v.dram.receiveCMD c cmd = .ok dram) : Power c (v.freeCmdBus.setDram dram) := by
  have banks := bank_received (v := v) received
  have sameUp : ∀ b, ((v.freeCmdBus.setDram dram).bank b).nextPowerUp = (v.bank b).nextPowerUp :=
    fun b => by rw [banks, (BankState.receive_power _ _ _ _).1]
  -- while the vault is powered down only a refresh is on the bus
  have refreshes : v.powerDown = true → ∀ b,
      (v.freeCmdBus.setDram dram).bank b = (v.bank b).refresh c v.now := by
    intro down b
    rw [banks, BankState.receive, closing.bus down cmd onBus]
  exact {
    used := closing.used
    awake := fun up b inBanks isDown => by
      rw [banks] at isDown
      exact closing.awake up b inBanks ((BankState.receive_power _ _ _ _).2 isDown)
    closed := fun down b _ => by
      rw [refreshes down]
      exact fun isOpen => by cases isOpen
    bus := fun _ _ member => by cases member
    together := fun down b inBanks => by
      rw [sameUp, sameUp]
      exact closing.together down b inBanks
    refreshed := fun down b inBanks => by
      refine .inr ?_
      have soon := closing.soon down
      have together := closing.together down b inBanks
      have powerUp := perBank.powerUp
      rw [sameUp, refreshes down]
      show (v.bank b).nextPowerUp < v.now + c.tRFC
      omega }

theorem transmitCommand_middle (perBank : PerBank c)
    (rules : BankRules c serves describes) (closing : Closing c serves describes v)
    (sent : v.transmitCommand c = .ok v') : Middle c serves describes v' ∧ v'.cmdBus = none := by
  unfold transmitCommand at sent
  cases onBus : v.cmdBus with
  | none =>
    simp only [onBus] at sent
    obtain rfl := Outcome.pure_eq_ok.mp sent
    exact ⟨closing.toMiddle, onBus⟩
  | some cmd =>
    have due : v.cmdCyclesLeft - 1 = 0 := by rw [(closing.ready cmd onBus).1]
    simp only [onBus, if_pos due] at sent
    obtain ⟨dram, received, sent⟩ := Outcome.bind_eq_ok.mp sent
    obtain rfl := Outcome.pure_eq_ok.mp sent
    obtain ⟨_, clock, readData, dataCyclesLeft, _⟩ := DRAM.receiveCMD_eq_ok received
    have isNow : (v.freeCmdBus.setDram dram).now = v.now := clock
    have sameUp : ((v.freeCmdBus.setDram dram).bank 0).nextPowerUp = (v.bank 0).nextPowerUp := by
      rw [bank_received received, (BankState.receive_power _ _ _ _).1]
    refine ⟨{
      phase := fun b inBanks => by
        rw [isNow]
        exact phase_received rules closing onBus received inBanks
      packets := closing.packets
      issued := closing.issued
      writes := closing.writes
      operates := closing.operates
      inBanks := by
        rw [reading_received onBus received]
        exact closing.inBanks
      capacity := fun b inBanks => by
        rw [work_received onBus received]
        exact closing.capacity b inBanks
      toPower := power_received perBank closing onBus received
      paced := fun operating => by
        obtain ⟨short, alone⟩ := closing.paced operating
        show v.atomicOperLeft + 0 ≤ 1 ∧ (dram.readData.isSome = true →
          v.atomicOperLeft + 0 < dram.dataCyclesLeft)
        rw [readData, dataCyclesLeft]
        exact ⟨short, alone⟩
      soon := fun down => by
        rw [sameUp, isNow]
        exact closing.soon down
      late := fun down b inBanks waits due => by
        rw [sameUp, isNow]
        exact closing.late down b inBanks waits due }, rfl⟩

/-! ## The data bus -/

/-- Only data of writes is put on the data bus. -/
theorem Middle.setWrites (middle : Middle c serves describes v) (dataBus : Option DRAMCommand)
    (dataCyclesLeft : ℕ) (writeData : List (DRAMCommand × ℕ))
    (writes : ∀ cmd ∈ dataBus.toList ++ writeData.map Prod.fst, cmd.commandType = .WRITE_DATA) :
    Middle c serves describes { v with
      dataBus := dataBus, dataCyclesLeft := dataCyclesLeft, writeData := writeData } :=
  { phase := middle.phase
    packets := middle.packets
    issued := middle.issued
    writes := writes
    operates := middle.operates
    inBanks := middle.inBanks
    capacity := middle.capacity
    used := middle.used
    awake := middle.awake
    closed := middle.closed
    bus := middle.bus
    together := middle.together
    refreshed := middle.refreshed
    paced := middle.paced
    soon := middle.soon
    late := middle.late }

theorem transmitData_middle (middle : Middle c serves describes v)
    (sent : v.transmitData c = .ok v') : Middle c serves describes v' ∧ v'.cmdBus = v.cmdBus := by
  have writes := middle.writes
  unfold transmitData at sent
  cases onBus : v.dataBus with
  | none =>
    simp only [onBus] at sent
    obtain rfl := Outcome.pure_eq_ok.mp sent
    exact ⟨middle, rfl⟩
  | some cmd =>
    rw [onBus] at writes
    simp only [onBus] at sent
    split at sent
    · obtain ⟨v₁, answered, sent⟩ := Outcome.bind_eq_ok.mp sent
      obtain ⟨dram, received, sent⟩ := Outcome.bind_eq_ok.mp sent
      obtain rfl := Outcome.pure_eq_ok.mp sent
      have aside := answerWrite_aside answered
      obtain rfl := receiveCMD_writeData (writes cmd List.mem_cons_self) received
      refine ⟨(aside.middle middle).setWrites none 0 v₁.writeData ?_, aside.cmdBus⟩
      rw [aside.writeData]
      exact fun other member => writes other (List.mem_cons_of_mem _ member)
    · obtain rfl := Outcome.pure_eq_ok.mp sent
      exact ⟨middle.setWrites v.dataBus (v.dataCyclesLeft - 1) v.writeData middle.writes, rfl⟩

theorem sendWriteData_middle (middle : Middle c serves describes v)
    (sent : v.sendWriteData c = .ok v') : Middle c serves describes v' ∧ v'.cmdBus = v.cmdBus := by
  have writes := middle.writes
  have counted : (countWrites v.writeData).map Prod.fst = v.writeData.map Prod.fst := by
    simp [countWrites]
  unfold sendWriteData at sent
  split at sent
  · rename_i cmd rest isDue
    split at sent
    · obtain rfl := Outcome.pure_eq_ok.mp sent
      refine ⟨middle.setWrites (some cmd) c.BL (countWrites rest) fun other member => ?_, rfl⟩
      rw [isDue] at writes
      have rests : (countWrites rest).map Prod.fst = rest.map Prod.fst := by simp [countWrites]
      rw [rests] at member
      exact writes other (List.mem_append_right _ (by simpa using member))
    · cases sent
  · obtain rfl := Outcome.pure_eq_ok.mp sent
    refine ⟨middle.setWrites v.dataBus v.dataCyclesLeft (countWrites v.writeData) ?_, rfl⟩
    rw [counted]
    exact writes

theorem countRefresh_middle (middle : Middle c serves describes v) :
    Middle c serves describes (v.countRefresh c) ∧ (v.countRefresh c).cmdBus = v.cmdBus := by
  unfold countRefresh
  split
  all_goals
    exact ⟨⟨⟨middle.phase, middle.packets, middle.issued, middle.writes, middle.operates,
      middle.inBanks, middle.capacity⟩, ⟨middle.used, middle.awake, middle.closed, middle.bus,
      middle.together, middle.refreshed⟩, middle.paced, middle.soon, middle.late⟩, rfl⟩

theorem updateCountdown_middle (perBank : PerBank c)
    (rules : BankRules c serves describes) (closing : Closing c serves describes v)
    (updated : v.updateCountdown c = .ok v') : Middle c serves describes v' ∧ v'.cmdBus = none := by
  obtain ⟨v₁, sentCommand, updated⟩ := Outcome.bind_eq_ok.mp updated
  obtain ⟨v₂, sentData, updated⟩ := Outcome.bind_eq_ok.mp updated
  obtain ⟨v₃, sent, updated⟩ := Outcome.bind_eq_ok.mp updated
  obtain rfl := Outcome.pure_eq_ok.mp updated
  obtain ⟨middle₁, free⟩ := transmitCommand_middle perBank rules closing sentCommand
  obtain ⟨middle₂, same₂⟩ := transmitData_middle middle₁ sentData
  obtain ⟨middle₃, same₃⟩ := sendWriteData_middle middle₂ sent
  obtain ⟨middle, same⟩ := countRefresh_middle middle₃
  exact ⟨middle, by rw [same, same₃, same₂, free]⟩

/-! ## Conversion of packets -/

/-- The commands are put behind the queue of the bank. -/
theorem foldl_enqueue (perBank : c.quePerBank = true) (bank : ℕ) :
    ∀ (cmds : List DRAMCommand) (q : CommandQueue),
      (cmds.foldl (fun q cmd => q.enqueue c bank cmd) q).queue =
          Function.update q.queue bank (q.queue bank ++ cmds) ∧
        (∀ b, (cmds.foldl (fun q cmd => q.enqueue c bank cmd) q).lockState b = q.lockState b) ∧
        (cmds.foldl (fun q cmd => q.enqueue c bank cmd) q).issuedBank = q.issuedBank ∧
        ∀ b, (cmds.foldl (fun q cmd => q.enqueue c bank cmd) q).queue b ≠ [] →
          (cmds.foldl (fun q cmd => q.enqueue c bank cmd) q).bufPopDelayPerBank b = 0 →
            q.queue b ≠ [] ∧ q.bufPopDelayPerBank b = 0
  | [], q => ⟨by simp, fun _ => rfl, rfl, fun _ waits due => ⟨waits, due⟩⟩
  | cmd :: cmds, q => by
    have atBank : index c bank = bank := if_pos perBank
    obtain ⟨queue, lock, issued, due⟩ := foldl_enqueue perBank bank cmds (q.enqueue c bank cmd)
    refine ⟨?_, fun b => (lock b).trans rfl, issued, fun b waits isDue => ?_⟩
    · rw [List.foldl_cons, queue]
      simp [enqueue, accessQue, atBank]
    · obtain ⟨waits, isDue⟩ := due b waits isDue
      simp only [enqueue, accessQue, popCycle, atBank] at waits isDue
      by_cases own : b = bank
      · subst own
        by_cases empty : q.queue b = []
        · rw [if_pos empty, Function.update_self] at isDue
          omega
        · rw [if_neg empty] at isDue
          exact ⟨empty, isDue⟩
      · rw [Function.update_of_ne own] at waits
        by_cases empty : q.queue bank = []
        · rw [if_pos empty, Function.update_of_ne own] at isDue
          exact ⟨waits, isDue⟩
        · rw [if_neg empty] at isDue
          exact ⟨waits, isDue⟩

theorem commands_length (packet : Packet) (kind : RequestKind) :
    (commands c packet kind).length = blocks packet + 1 := by
  simp [commands]

theorem work_enqueueAll (perBank : c.quePerBank = true) (packet : Packet) (kind : RequestKind)
    (b : ℕ) : (v.enqueueAll c packet kind).work b =
      if b = (addressMapping c packet.ADRS).1 then (v.work b).enqueue (commands c packet kind)
      else v.work b := by
  obtain ⟨queue, lock, -⟩ := foldl_enqueue perBank (addressMapping c packet.ADRS).1
    (commands c packet kind) v.commandQueue
  have locked := lock b
  by_cases own : b = (addressMapping c packet.ADRS).1
  · rw [if_pos own]
    simp only [work, Work.enqueue, Work.mk.injEq]
    refine ⟨locked, ?_, rfl, rfl⟩
    show ((commands c packet kind).foldl _ v.commandQueue).queue _ = _
    rw [queue, own, Function.update_self]
  · rw [if_neg own]
    simp only [work, Work.mk.injEq]
    refine ⟨locked, ?_, rfl, rfl⟩
    show ((commands c packet kind).foldl _ v.commandQueue).queue _ = _
    rw [queue, Function.update_of_ne own]

theorem convPacketIntoCMDs_middle (perBank : PerBank c) (rules : BankRules c serves describes)
    {packet : Packet} (asked : serves packet) (middle : Middle c serves describes v)
    (converted : v.convPacketIntoCMDs c packet = .ok (some v')) :
    Middle c serves describes v' ∧ v'.cmdBus = v.cmdBus := by
  obtain ⟨kind, isKind, space, rfl⟩ := convPacketIntoCMDs_eq_some converted
  have isWork := work_enqueueAll (v := v) perBank.perBank packet kind
  obtain ⟨-, -, issued, due⟩ := foldl_enqueue perBank.perBank (addressMapping c packet.ADRS).1
    (commands c packet kind) v.commandQueue
  refine ⟨{
    phase := fun b inBanks => ?_
    packets := middle.packets
    issued := lt_of_eq_of_lt issued middle.issued
    writes := middle.writes
    operates := middle.operates
    inBanks := middle.inBanks
    capacity := fun b inBanks => ?_
    used := middle.used
    awake := middle.awake
    closed := middle.closed
    bus := middle.bus
    together := middle.together
    refreshed := middle.refreshed
    paced := middle.paced
    soon := middle.soon
    late := fun down b inBanks waits isDue => ?_ }, rfl⟩
  · have phase := middle.phase b inBanks
    rw [isWork]
    split
    · rename_i own
      exact rules.enqueue asked isKind own.symm phase
    · exact phase
  · have before := middle.capacity b inBanks
    rw [isWork]
    split
    · rename_i own
      subst own
      -- the space of the write back of an atomic in operation is kept free
      obtain ⟨single, unlocked⟩ := rules.held (middle.phase _ inBanks)
      show ((v.work _).queue ++ commands c packet kind).length + (v.work _).held.length ≤ _
      rw [List.length_append, commands_length]
      rw [availableSpace, accessQue, index, if_pos perBank.perBank] at space
      have space : (v.work (addressMapping c packet.ADRS).1).queue.length + _ ≤ _ :=
        of_decide_eq_true space
      split at space
      · omega
      · rename_i free
        have none : (v.work (addressMapping c packet.ADRS).1).held = [] := unlocked (if_neg free)
        rw [none, List.length_nil]
        omega
    · exact before
  · obtain ⟨waited, wasDue⟩ := due b waits isDue
    exact middle.late down b inBanks waited wasDue

theorem convert_middle (perBank : PerBank c) (rules : BankRules c serves describes)
    (middle : Middle c serves describes v) (converted : v.convert c = .ok v') :
    Middle c serves describes v' ∧ v'.cmdBus = v.cmdBus := by
  unfold convert at converted
  split at converted
  · obtain ⟨⟨v₁, kept⟩, isConverted, converted⟩ := Outcome.bind_eq_ok.mp converted
    obtain rfl := Outcome.pure_eq_ok.mp converted
    have packets := middle.packets
    obtain ⟨middle₁, same⟩ : Middle c serves describes v₁ ∧ v₁.cmdBus = v.cmdBus := by
      refine convertPackets_induct
        (fun v₁ => Middle c serves describes v₁ ∧ v₁.cmdBus = v.cmdBus) isConverted
        ⟨middle, rfl⟩ fun packet member v₁ v₂ holds isConverted => ?_
      obtain ⟨middle₂, same⟩ := convPacketIntoCMDs_middle perBank rules (packets packet member)
        holds.1 isConverted
      exact ⟨middle₂, same.trans holds.2⟩
    have sublist := convertPackets_sublist isConverted
    exact ⟨{ middle₁ with packets := fun packet member => packets packet (sublist.subset member) },
      same⟩
  · obtain rfl := Outcome.pure_eq_ok.mp converted
    exact ⟨middle, rfl⟩

/-! ## The next command -/

/-- While the vault is powered down no command of a queue can be issued. -/
theorem Middle.awake_of_leaves (rules : BankRules c serves describes) {b : ℕ} {q : CommandQueue}
    {cmd : DRAMCommand} (middle : Middle c serves describes v) (free : v.cmdBus = none)
    (leaves : Leaves c v.commandQueue v.view b q cmd) : v.powerDown = false := by
  cases down : v.powerDown with
  | false => rfl
  | true =>
    exfalso
    obtain rfl := leaves.bank
    have finds := leaves.finds
    have closed := middle.closed down cmd.bank leaves.inBanks
    have waits : v.commandQueue.queue cmd.bank ≠ [] := by
      have shorter := leaves.shorter
      exact List.ne_nil_of_length_pos (by omega)
    unfold Finds at finds
    split at finds
    · rename_i activates
      -- a bank that rests is not locked, so that the delay of its queue has passed
      have unlocked := rules.unlocked closed (work_free free cmd.bank)
        (middle.phase cmd.bank leaves.inBanks)
      have late := middle.late down cmd.bank leaves.inBanks waits (leaves.due activates unlocked)
      have together := middle.together down cmd.bank leaves.inBanks
      have due : (v.bank cmd.bank).nextActivate ≤ v.now := finds.2
      cases middle.refreshed down cmd.bank leaves.inBanks with
      | inl isDown =>
        have state : (v.bank cmd.bank).currentBankState = .IDLE ∨
          (v.bank cmd.bank).currentBankState = .REFRESHING := finds.1
        rw [isDown] at state
        cases state <;> contradiction
      | inr later => omega
    · exact closed finds.1

/-- A command that leaves its queue is put on the bus. -/
theorem Middle.issue (rules : BankRules c serves describes) {b : ℕ} {q : CommandQueue}
    {cmd : DRAMCommand} (middle : Middle c serves describes v) (free : v.cmdBus = none)
    (leaves : Leaves c v.commandQueue v.view b q cmd)
    (phase : describes v.now b (v.bank b) ((v.work b).pop cmd (q.queue b))) :
    Middle c serves describes ((v.setQueue q).issue c cmd) ∧
      BusReady c ((v.setQueue q).issue c cmd) := by
  have up := middle.awake_of_leaves rules free leaves
  have inBanks := leaves.inBanks
  have isWork := work_issue free leaves
  obtain rfl := leaves.bank
  refine ⟨{
    phase := fun b inBanks => by
      rw [isWork]
      split
      · rename_i own
        subst own
        exact phase
      · exact middle.phase b inBanks
    packets := middle.packets
    issued := leaves.issued
    writes := by
      have writes := middle.writes
      intro other member
      show other.commandType = .WRITE_DATA
      change other ∈ v.dataBus.toList ++ (if cmd.commandType.isWrite then
        v.writeData ++ [(cmd.withType .WRITE_DATA, c.WL)] else v.writeData).map Prod.fst at member
      split at member
      · rw [List.map_append, ← List.append_assoc] at member
        cases List.mem_append.mp member with
        | inl before => exact writes other before
        | inr new =>
          rw [List.map_singleton, List.mem_singleton] at new
          rw [new]
          rfl
      · exact writes other member
    operates := middle.operates
    inBanks := fun other member => by
      rw [reading_issue free] at member
      cases List.mem_append.mp member with
      | inl before => exact middle.inBanks other before
      | inr new =>
        split at new
        · rw [List.mem_singleton.mp new]
          exact inBanks
        · cases new
    capacity := fun b inBanks => by
      have before := middle.capacity b inBanks
      rw [isWork]
      split
      · rename_i own
        subst own
        have shorter : (q.queue cmd.bank).length < (v.work cmd.bank).queue.length := leaves.shorter
        show (q.queue cmd.bank).length + _ ≤ _
        rw [Work.held_pop, List.length_append]
        split
        · rw [List.length_singleton]
          omega
        · rw [List.length_nil]
          omega
      · exact before
    used := middle.used
    awake := middle.awake
    closed := middle.closed
    bus := fun down => absurd (down.symm.trans up) (by decide)
    together := middle.together
    refreshed := middle.refreshed
    paced := middle.paced
    soon := middle.soon
    late := fun down => absurd (down.symm.trans up) (by decide) }, fun other onBus => ?_⟩
  obtain rfl : cmd = other := Option.some.inj onBus
  exact ⟨rfl, inBanks, fun isRefresh => absurd isRefresh leaves.notRefresh⟩

/-- No command is issued. -/
theorem Middle.untouched {q : CommandQueue} (middle : Middle c serves describes v)
    (free : v.cmdBus = none) (same : Untouched c v.commandQueue q) :
    Middle c serves describes (v.setQueue q) ∧ BusReady c (v.setQueue q) := by
  have sameWork : ∀ b, (v.setQueue q).work b = v.work b := fun b => by
    simp only [work, Work.mk.injEq]
    exact ⟨same.lock b, congrFun same.queue b, rfl, rfl⟩
  refine ⟨{ middle with
    phase := fun b inBanks => by
      rw [sameWork]
      exact middle.phase b inBanks
    issued := same.issued
    capacity := fun b inBanks => by
      rw [sameWork]
      exact middle.capacity b inBanks
    late := fun down b inBanks waits due => ?_ }, fun cmd onBus => ?_⟩
  · change q.queue b ≠ [] at waits
    change q.bufPopDelayPerBank b = 0 at due
    rw [same.queue] at waits
    rw [same.bufPopDelay] at due
    exact middle.late down b inBanks waits due
  · have onBus : cmd ∈ v.cmdBus := onBus
    rw [free] at onBus
    cases onBus

/-- A command that is not taken from a queue is put on the bus. -/
theorem Middle.made {q : CommandQueue} {cmd : DRAMCommand}
    (middle : Middle c serves describes v) (free : v.cmdBus = none)
    (same : Untouched c v.commandQueue q) (inBanks : cmd.bank < c.numBanks)
    (notRead : cmd.commandType.isRead = false) (notWrite : cmd.commandType.isWrite = false)
    (phase : ∀ b < c.numBanks, describes v.now b (v.bank b) ((v.work b).put
      ((some cmd).filter fun cmd => cmd.commandType ≠ .REFRESH && cmd.bank = b)))
    (down : v.powerDown = true → cmd.commandType = .REFRESH)
    (closed : cmd.commandType = .REFRESH →
      ∀ b < c.numBanks, (v.bank b).currentBankState ≠ .ROW_ACTIVE) :
    Middle c serves describes ((v.setQueue q).issue c cmd) ∧
      BusReady c ((v.setQueue q).issue c cmd) := by
  have isWork := work_made (c := c) free same.queue same.lock notRead
  have sameReading : ((v.setQueue q).issue c cmd).reading = v.reading := by
    rw [reading_issue free]
    simp [notRead]
  refine ⟨{
    phase := fun b inBanks => by
      rw [isWork]
      exact phase b inBanks
    packets := middle.packets
    issued := same.issued
    writes := by
      have sameWrites : ((v.setQueue q).issue c cmd).writeData = v.writeData :=
        if_neg (by rw [notWrite]; decide)
      rw [sameWrites]
      exact middle.writes
    operates := middle.operates
    inBanks := by
      rw [sameReading]
      exact middle.inBanks
    capacity := fun b inBanks => by
      rw [isWork]
      exact middle.capacity b inBanks
    used := middle.used
    awake := middle.awake
    closed := middle.closed
    bus := fun isDown other onBus => by
      obtain rfl : cmd = other := Option.some.inj onBus
      exact down isDown
    together := middle.together
    refreshed := middle.refreshed
    paced := middle.paced
    soon := middle.soon
    late := fun down b inBanks waits due => by
      change q.queue b ≠ [] at waits
      change q.bufPopDelayPerBank b = 0 at due
      rw [same.queue] at waits
      rw [same.bufPopDelay] at due
      exact middle.late down b inBanks waits due }, fun other onBus => ?_⟩
  obtain rfl : cmd = other := Option.some.inj onBus
  exact ⟨rfl, inBanks, closed⟩

/-- A refresh is issued when no row is open. -/
theorem Middle.refresh (perBank : PerBank c) {q : CommandQueue}
    (middle : Middle c serves describes v) (free : v.cmdBus = none)
    (same : Untouched c v.commandQueue q)
    (closed : ∀ b < c.numBanks, (v.bank b).currentBankState ≠ .ROW_ACTIVE) :
    Middle c serves describes ((v.setQueue q).issue c refreshCMD) ∧
      BusReady c ((v.setQueue q).issue c refreshCMD) := by
  refine middle.made free same perBank.banks rfl rfl (fun b inBanks => ?_) (fun _ => rfl)
    fun _ => closed
  have noBus : (some refreshCMD).filter (fun cmd => cmd.commandType ≠ .REFRESH && cmd.bank = b) =
      (v.work b).bus := by
    rw [work_free free]
    rfl
  rw [noBus]
  exact middle.phase b inBanks

/-- What `CmdPop` keeps under a page policy. -/
def PopKeeps (c : DRAMConfig) (serves : Packet → Prop)
    (describes : ℕ → ℕ → BankState → Work → Prop) : Prop :=
  ∀ v v', Middle c serves describes v → v.cmdBus = none → v.popCommand c = .ok v' →
    Middle c serves describes v' ∧ BusReady c v'

/-! ## Atomic operations -/

theorem Aside.endAtomic {v₁ v₂ : VaultController} (aside : Aside v₁ v₂) :
    Aside v₁.endAtomic v₂.endAtomic :=
  ⟨aside.dram, aside.commandQueue, aside.cmdBus, aside.cmdCyclesLeft, rfl, aside.atomicOperLeft,
    aside.powerDown, aside.downBuffers, aside.dataBus, aside.writeData, aside.pendingReadData⟩

/-- An atomic ends, and `q` is left of the command queue. -/
theorem Middle.ended {q : CommandQueue} (middle : Middle c serves describes v)
    (issued : q.issuedBank < c.numBanks)
    (phase : ∀ b < c.numBanks, describes v.now b (v.bank b) ((v.setQueue q).endAtomic.work b))
    (capacity : ∀ b < c.numBanks, ((v.setQueue q).endAtomic.work b).queue.length +
      ((v.setQueue q).endAtomic.work b).held.length ≤ maxCmdQue)
    (late : v.powerDown = true → q = v.commandQueue) :
    Middle c serves describes (v.setQueue q).endAtomic where
  phase := phase
  packets := middle.packets
  issued := issued
  writes := middle.writes
  operates _ member := by cases member
  inBanks other member := by
    refine middle.inBanks other ?_
    rw [reading_eq] at member ⊢
    exact List.mem_append_right _ member
  capacity := capacity
  used := middle.used
  awake := middle.awake
  closed := middle.closed
  bus := middle.bus
  together := middle.together
  refreshed := middle.refreshed
  paced operating := by cases operating
  soon := middle.soon
  late down := by
    rw [late down]
    exact middle.late down

theorem endAtomic_middle (perBank : PerBank c) (rules : BankRules c serves describes)
    (middle : Middle c serves describes v) {cmd : DRAMCommand} (atomic : v.atomicCMD = some cmd) :
    Middle c serves describes (v.writeBack c cmd).endAtomic := by
  have operates := middle.operates cmd atomic
  have inBanks : cmd.bank < c.numBanks := middle.inBanks cmd (by rw [reading_eq, atomic]; simp)
  have isPending : (v.work cmd.bank).pending = _ := pending_operating atomic operates cmd.bank
  rw [if_pos rfl, List.singleton_append] at isPending
  have isHeld : (v.work cmd.bank).held = _ := congrArg (List.filter DRAMCommand.locks) isPending
  have phase := middle.phase cmd.bank inBanks
  have isWork := work_endAtomic (c := c) perBank.perBank atomic operates
  cases locks : cmd.locks with
  | true =>
    have member : cmd ∈ (v.work cmd.bank).held := by
      rw [isHeld, List.filter_cons_of_pos locks]
      exact List.mem_cons_self
    have isOpen := rules.isOpen member phase
    have behind : ∀ other ∈ (v.work cmd.bank).bus, other.commandType = .READ →
        other.operates = true → v.behind.filter (fun other => other.operates &&
          decide (other.bank = cmd.bank)) ≠ [] := by
      intro other onBus isRead isLast
      obtain ⟨isBus, own⟩ : v.cmdBus = some other ∧ other.bank = cmd.bank := by
        have onBus : v.busFor cmd.bank = some other := onBus
        simp only [busFor, Option.filter_eq_some_iff, Bool.and_eq_true, decide_eq_true_eq] at onBus
        exact ⟨onBus.1, onBus.2.2⟩
      have isBehind := mem_behind_of_bus isBus (by rw [isRead]; rfl)
      exact List.ne_nil_of_mem (List.mem_filter.mpr ⟨isBehind, by
        rw [Bool.and_eq_true, decide_eq_true_iff]
        exact ⟨isLast, own⟩⟩)
    simp only [locks, if_true] at isWork
    rw [writeBack_locks locks] at isWork ⊢
    refine middle.ended middle.issued (fun b inBanks => ?_) (fun b inBanks => ?_) fun down =>
      absurd isOpen (middle.closed down cmd.bank inBanks)
    · rw [isWork]
      split
      · rename_i own
        subst own
        exact rules.writeBack isPending rfl locks behind phase
      · exact middle.phase b inBanks
    · have before := middle.capacity b inBanks
      rw [isWork]
      split
      · rename_i own
        subst own
        rw [isHeld, List.filter_cons_of_pos locks, List.length_cons] at before
        show (v.work cmd.bank).queue.length + 1 + _ ≤ _
        rw [Nat.add_assoc, Nat.add_comm 1]
        exact before
      · exact before
  | false =>
    simp only [locks, Bool.false_eq_true, if_false] at isWork
    rw [writeBack_ordinary operates locks] at isWork ⊢
    refine middle.ended (q := v.commandQueue) middle.issued (fun b inBanks => ?_)
      (fun b inBanks => ?_) fun _ => rfl
    · show describes v.now b (v.bank b) (v.endAtomic.work b)
      rw [isWork]
      split
      · rename_i own
        subst own
        exact rules.forget isPending locks phase
      · exact middle.phase b inBanks
    · have before := middle.capacity b inBanks
      show (v.endAtomic.work b).queue.length + (v.endAtomic.work b).held.length ≤ _
      rw [isWork]
      split
      · rename_i own
        subst own
        rw [isHeld, List.filter_cons_of_neg (by rw [locks]; decide)] at before
        exact before
      · exact before

theorem atomicOperation_middle (perBank : PerBank c) (rules : BankRules c serves describes)
    (middle : Middle c serves describes v) (ready : BusReady c v)
    (operated : v.atomicOperation c = .ok v') :
    Middle c serves describes v' ∧ Paced 1 v' ∧ BusReady c v' := by
  unfold atomicOperation at operated
  cases atomic : v.atomicCMD with
  | none =>
    simp only [atomic] at operated
    obtain rfl := Outcome.pure_eq_ok.mp operated
    refine ⟨middle, fun operating => ?_, ready⟩
    rw [atomic] at operating
    cases operating
  | some cmd =>
    simp only [atomic] at operated
    split at operated
    · obtain ⟨v₁, answered, operated⟩ := Outcome.bind_eq_ok.mp operated
      obtain rfl := Outcome.pure_eq_ok.mp operated
      have aside := (answerAtomic_aside answered).endAtomic
      have written : BusReady c (v.writeBack c cmd).endAtomic := by
        unfold writeBack
        split <;> exact ready
      refine ⟨aside.middle (endAtomic_middle perBank rules middle atomic),
        fun operating => (by cases operating), fun other onBus => ?_⟩
      rw [aside.cmdBus] at onBus
      simp only [aside.cmdCyclesLeft, aside.bank]
      exact written other onBus
    · rename_i operates
      obtain rfl := Outcome.pure_eq_ok.mp operated
      obtain ⟨short, alone⟩ := middle.paced (by rw [atomic]; rfl)
      refine ⟨{ middle with paced := fun _ => ⟨?_, fun isData => ?_⟩ }, fun _ =>
        ⟨?_, fun isData => ?_⟩, ready⟩
      · show v.atomicOperLeft - 1 + 0 ≤ 1
        omega
      · have := alone isData
        show v.atomicOperLeft - 1 + 0 < v.dram.dataCyclesLeft
        omega
      · show v.atomicOperLeft - 1 + 1 ≤ 1
        omega
      · have := alone isData
        show v.atomicOperLeft - 1 + 1 < v.dram.dataCyclesLeft
        omega

/-! ## Power -/

theorem isEmpty_iff (perBank : c.quePerBank = true) (q : CommandQueue) :
    q.isEmpty c = true ↔ ∀ b < c.numBanks, q.queue b = [] := by
  simp [isEmpty, accessQue, index, perBank, List.all_eq_true]

/-- The state after `Update`, where power is not switched. -/
theorem Middle.evening (middle : Middle c serves describes v) (paced : Paced 1 v)
    (ready : BusReady c v) (asleep : Asleep c (v.now + 1) v) : Evening c serves describes v :=
  { toPhases := middle.toPhases
    toPower := middle.toPower
    paced := paced
    ready := ready
    soon := fun down => (middle.soon down).le
    asleep := asleep }

/-- The banks are powered down when they are idle and nothing is to be done. -/
theorem powerDown_evening (perBank : PerBank c) (rules : BankRules c serves describes)
    (middle : Middle c serves describes v) (paced : Paced 1 v)
    (ready : BusReady c v) (low : c.useLowPower = true) (empty : v.commandQueue.isEmpty c = true)
    (idle : v.dram.allBanks c .IDLE = true) (noRefresh : v.commandQueue.refreshWaiting = false) :
    Evening c serves describes
      (v.setPower (v.dram.mapBanks fun _ => BankState.powerDown c v.now) true) := by
  have empty := (isEmpty_iff perBank.perBank _).mp empty
  have idle : ∀ b < c.numBanks, (v.bank b).currentBankState = .IDLE := by
    simpa [bank, DRAM.allBanks, List.all_eq_true] using idle
  exact {
    phase := fun b inBanks =>
      rules.powerDown (idle b inBanks) (empty b inBanks) (middle.phase b inBanks)
    packets := middle.packets
    issued := middle.issued
    writes := middle.writes
    operates := middle.operates
    inBanks := middle.inBanks
    capacity := middle.capacity
    used := fun _ => low
    awake := fun up => by cases up
    closed := fun _ _ _ isOpen => by cases isOpen
    bus := fun _ cmd onBus => by
      by_contra notRefresh
      have inBanks := (ready cmd onBus).2.1
      have noBus := rules.free (idle cmd.bank inBanks) (empty cmd.bank inBanks)
        (middle.phase cmd.bank inBanks)
      have onBus : v.cmdBus = some cmd := onBus
      rw [work_bus onBus notRefresh] at noBus
      cases noBus
    together := fun _ _ _ => rfl
    refreshed := fun _ _ _ => .inl rfl
    paced := paced
    ready := fun cmd onBus => ⟨(ready cmd onBus).1, (ready cmd onBus).2.1, fun _ _ _ isOpen => by
      cases isOpen⟩
    soon := fun _ => Nat.le_refl _
    asleep := fun _ waits => by
      cases waits with
      | inl refresh => exact absurd (noRefresh.symm.trans refresh) (by decide)
      | inr waits =>
        obtain ⟨b, inBanks, waits⟩ := waits
        exact absurd (empty b inBanks) waits }

/-- The banks are powered up when there is work for them. -/
theorem powerUp_evening (rules : BankRules c serves describes)
    (middle : Middle c serves describes v) (paced : Paced 1 v) (ready : BusReady c v)
    (down : v.powerDown = true) :
    Evening c serves describes
      (v.setPower (v.dram.mapBanks fun _ => BankState.powerUp c v.now) false) := by
  have refresh := middle.bus down
  exact {
    phase := fun b inBanks => by
      refine rules.powerUp (middle.closed down b inBanks) (fun cmd onBus => ?_)
        (middle.phase b inBanks)
      obtain ⟨isBus, -⟩ : v.cmdBus = some cmd ∧ _ := Option.filter_eq_some_iff.mp onBus
      rw [refresh cmd isBus]
      decide
    packets := middle.packets
    issued := middle.issued
    writes := middle.writes
    operates := middle.operates
    inBanks := middle.inBanks
    capacity := middle.capacity
    used := fun down => by cases down
    awake := fun _ _ _ isDown => by cases isDown
    closed := fun down => by cases down
    bus := fun down => by cases down
    together := fun down => by cases down
    refreshed := fun down => by cases down
    paced := paced
    ready := fun cmd onBus => ⟨(ready cmd onBus).1, (ready cmd onBus).2.1, fun _ _ _ isOpen => by
      cases isOpen⟩
    soon := fun down => by cases down
    asleep := fun down => by cases down }

theorem enablePowerdown_evening (perBank : PerBank c) (rules : BankRules c serves describes)
    (middle : Middle c serves describes v) (paced : Paced 1 v)
    (ready : BusReady c v) : Evening c serves describes (v.enablePowerdown c) := by
  unfold enablePowerdown
  split
  · rename_i low
    split
    · rename_i rests
      rw [Bool.and_eq_true, Bool.not_eq_true'] at rests
      obtain ⟨empty, noRefresh⟩ := rests
      unfold DRAM.powerDown
      cases idle : v.dram.allBanks c .IDLE with
      | true => exact powerDown_evening perBank rules middle paced ready low empty idle noRefresh
      | false =>
        refine middle.evening paced ready fun _ waits => ?_
        cases waits with
        | inl refresh => exact absurd (noRefresh.symm.trans refresh) (by decide)
        | inr waits =>
          obtain ⟨b, inBanks, waits⟩ := waits
          exact absurd ((isEmpty_iff perBank.perBank _).mp empty b inBanks) waits
    · split
      · rename_i due
        rw [Bool.and_eq_true] at due
        exact powerUp_evening rules middle paced ready due.1
      · rename_i notDue
        refine middle.evening paced ready fun down _ => ?_
        simp only [down, Bool.true_and, decide_eq_true_eq, not_le] at notDue
        exact notDue
  · rename_i high
    exact middle.evening paced ready fun down => absurd (middle.used down) high

theorem countDelays_evening (evening : Evening c serves describes v) :
    Evening c serves describes v.countDelays :=
  { phase := evening.phase
    packets := evening.packets
    issued := evening.issued
    writes := evening.writes
    operates := evening.operates
    inBanks := evening.inBanks
    capacity := evening.capacity
    used := evening.used
    awake := evening.awake
    closed := evening.closed
    bus := evening.bus
    together := evening.together
    refreshed := evening.refreshed
    paced := evening.paced
    ready := evening.ready
    soon := evening.soon
    asleep := evening.asleep }

theorem update_evening (perBank : PerBank c) (rules : BankRules c serves describes)
    (pops : PopKeeps c serves describes) (closing : Closing c serves describes v) {accepts : Bool}
    (updated : v.update c accepts = .ok v') : Evening c serves describes v' := by
  obtain ⟨v₁, counted, updated⟩ := Outcome.bind_eq_ok.mp updated
  obtain ⟨v₂, converted, updated⟩ := Outcome.bind_eq_ok.mp updated
  obtain ⟨v₃, popped, updated⟩ := Outcome.bind_eq_ok.mp updated
  obtain ⟨v₄, operated, updated⟩ := Outcome.bind_eq_ok.mp updated
  obtain rfl := Outcome.pure_eq_ok.mp updated
  obtain ⟨middle₁, free⟩ := updateCountdown_middle perBank rules
    ((flushPcu_aside v).closing closing) counted
  obtain ⟨middle₂, same⟩ := convert_middle perBank rules middle₁ converted
  have aside := sendUp_aside v₂ accepts
  obtain ⟨middle₃, ready₃⟩ := pops _ _ (aside.middle middle₂) (by rw [aside.cmdBus, same, free])
    popped
  obtain ⟨middle₄, paced, ready⟩ := atomicOperation_middle perBank rules middle₃ ready₃ operated
  exact countDelays_evening (enablePowerdown_evening perBank rules middle₄ paced ready)

/-- The atomics of each bank stay what they are. -/
theorem Returned.pending (returned : Returned v v') (paced : Paced 1 v) (b : ℕ) :
    v'.pending b = v.pending b := by
  simp only [VaultController.pending, reading_eq, behind]
  cases returned with
  | stays alone readData _ _ atomicCMD =>
    rw [atomicCMD, readData, alone.readReturn, alone.cmdBus]
  | leaves alone was readData earlier atomicCMD =>
    rw [atomicCMD, readData, was, alone.readReturn, alone.cmdBus]
    simp [earlier]
  | operates alone was due readData _ atomicCMD =>
    have free : v.atomicCMD = none := by
      cases atomic : v.atomicCMD with
      | none => rfl
      | some cmd =>
        have := (paced (by rw [atomic]; rfl)).2 (by rw [was]; rfl)
        omega
    rw [atomicCMD, readData, was, free, alone.readReturn, alone.cmdBus]
    simp

theorem paced_takeBus (wide : 2 ≤ c.BL) (returned : Returned v v') (paced : Paced 1 v) :
    Paced 0 (v'.setDram (countReturns (takeBus c v'.dram)).step) := by
  intro operating
  have operating : v'.atomicCMD.isSome = true := operating
  show v'.atomicOperLeft + 0 ≤ 1 ∧ ((takeBus c v'.dram).readData.isSome = true →
    v'.atomicOperLeft + 0 < (takeBus c v'.dram).dataCyclesLeft)
  have short : v'.atomicOperLeft ≤ 1 := by
    cases returned with
    | stays _ _ _ _ atomicCMD left | leaves _ _ _ _ atomicCMD left =>
      rw [atomicCMD] at operating
      have := (paced operating).1
      omega
    | operates _ _ _ _ _ _ left => exact left.le
  refine ⟨short, fun isData => ?_⟩
  obtain ⟨same, _⟩ | ⟨cmd, rest, _, _, same⟩ := takeBus_cases (c := c) v'.dram
  · rw [same] at isData ⊢
    cases returned with
    | stays _ readData dataCyclesLeft _ atomicCMD left =>
      rw [atomicCMD] at operating
      rw [readData] at isData
      have := (paced operating).2 isData
      rw [left, dataCyclesLeft isData]
      omega
    | leaves _ _ readData | operates _ _ _ readData =>
      rw [readData] at isData
      cases isData
  · rw [same]
    show v'.atomicOperLeft + 0 < c.BL
    omega

theorem updateDram_closing (perBank : PerBank c) (rules : BankRules c serves describes)
    (evening : Evening c serves describes v) (updated : v.updateDram c = .ok v') :
    Closing c serves describes v' := by
  obtain ⟨v₁, isReturned, updated⟩ := Outcome.bind_eq_ok.mp updated
  obtain rfl := Outcome.pure_eq_ok.mp updated
  have returned := returnData_returned isReturned
  have alone := returned.receiving
  have paced₀ : Paced 1 (v.setDram (v.dram.updateBanks c)) := evening.paced
  have paced := paced_takeBus perBank.wide returned paced₀
  have sameReading := reading_takeBus (c := c) v₁
  have samePending : ∀ b, (v₁.setDram (countReturns (takeBus c v₁.dram)).step).pending b =
      v.pending b := by
    intro b
    rw [pending, sameReading]
    exact returned.pending paced₀ b
  have bankStates : (takeBus c v₁.dram).bankStates = v₁.dram.bankStates ∧
      (takeBus c v₁.dram).currentClockCycle = v₁.dram.currentClockCycle := by
    obtain ⟨same, _⟩ | ⟨cmd, rest, _, _, same⟩ := takeBus_cases (c := c) v₁.dram
    · rw [same]
      exact ⟨rfl, rfl⟩
    · rw [same]
      exact ⟨rfl, rfl⟩
  have isNow : (v₁.setDram (countReturns (takeBus c v₁.dram)).step).now = v.now + 1 := by
    show (takeBus c v₁.dram).currentClockCycle + 1 = _
    rw [bankStates.2, alone.clock]
    rfl
  have sameBank : ∀ b, (v₁.setDram (countReturns (takeBus c v₁.dram)).step).bank b =
      (v.bank b).update c := by
    intro b
    show (takeBus c v₁.dram).bankStates b = _
    rw [bankStates.1, alone.bankStates]
    rfl
  have sameWork : ∀ b, (v₁.setDram (countReturns (takeBus c v₁.dram)).step).work b =
      v.work b := by
    intro b
    simp only [work, Work.mk.injEq]
    refine ⟨?_, ?_, ?_, samePending b⟩
    · show v₁.commandQueue.lockState b = _
      rw [alone.commandQueue]
      rfl
    · show v₁.commandQueue.queue b = _
      rw [alone.commandQueue]
      rfl
    · show v₁.cmdBus.filter _ = _
      rw [alone.cmdBus]
      rfl
  have power := fun b => BankState.update_power (c := c) (v.bank b)
  have sameQueue : (v₁.setDram (countReturns (takeBus c v₁.dram)).step).commandQueue =
      v.commandQueue := alone.commandQueue
  have sameDown : (v₁.setDram (countReturns (takeBus c v₁.dram)).step).powerDown = v.powerDown :=
    alone.powerDown
  have sameBus : (v₁.setDram (countReturns (takeBus c v₁.dram)).step).cmdBus = v.cmdBus :=
    alone.cmdBus
  have sameLeft : (v₁.setDram (countReturns (takeBus c v₁.dram)).step).cmdCyclesLeft =
      v.cmdCyclesLeft := alone.cmdCyclesLeft
  have sameUp : ∀ b, ((v₁.setDram (countReturns (takeBus c v₁.dram)).step).bank b).nextPowerUp =
      (v.bank b).nextPowerUp := fun b => by rw [sameBank, (power b).1]
  have stillClosed : ∀ b, (v.bank b).currentBankState ≠ .ROW_ACTIVE →
      ((v₁.setDram (countReturns (takeBus c v₁.dram)).step).bank b).currentBankState ≠
        .ROW_ACTIVE := by
    intro b closed isOpen
    rw [sameBank] at isOpen
    exact closed ((power b).2.2.2 isOpen)
  exact {
    phase := fun b inBanks => by
      rw [isNow, sameBank, sameWork]
      exact rules.update (evening.phase b inBanks)
    packets := fun packet member => by
      rw [setDram, alone.downBuffers] at member
      exact evening.packets packet member
    issued := by
      rw [sameQueue]
      exact evening.issued
    writes := fun cmd member => by
      rw [setDram, alone.dataBus, alone.writeData] at member
      exact evening.writes cmd member
    operates := fun cmd member => by
      have member : cmd ∈ v₁.atomicCMD := member
      cases returned with
      | stays _ _ _ _ atomicCMD | leaves _ _ _ _ atomicCMD =>
        rw [atomicCMD] at member
        exact evening.operates cmd member
      | operates _ _ _ _ isOperation atomicCMD =>
        rw [atomicCMD] at member
        obtain rfl := Option.some.inj member
        exact isOperation
    inBanks := fun cmd member => by
      rw [sameReading] at member
      exact evening.inBanks cmd (returned.reading_subset member)
    capacity := fun b inBanks => by
      rw [sameWork]
      exact evening.capacity b inBanks
    used := fun down => evening.used (sameDown.symm.trans down)
    awake := fun up b inBanks isDown => by
      rw [sameBank] at isDown
      exact evening.awake (sameDown.symm.trans up) b inBanks ((power b).2.2.1 isDown)
    closed := fun down b inBanks =>
      stillClosed b (evening.closed (sameDown.symm.trans down) b inBanks)
    bus := fun down cmd onBus => by
      rw [sameBus] at onBus
      exact evening.bus (sameDown.symm.trans down) cmd onBus
    together := fun down b inBanks => by
      rw [sameUp, sameUp]
      exact evening.together (sameDown.symm.trans down) b inBanks
    refreshed := fun down b inBanks => by
      rw [sameUp, sameBank, (power b).2.1]
      cases evening.refreshed (sameDown.symm.trans down) b inBanks with
      | inl isDown =>
        refine .inl ?_
        rw [BankState.update_quiet (rules.quiet isDown (evening.phase b inBanks))]
        exact isDown
      | inr later => exact .inr later
    paced := paced
    soon := fun down => by
      have soon := evening.soon (sameDown.symm.trans down)
      rw [sameUp, isNow]
      omega
    late := fun down b inBanks waits _ => by
      rw [sameQueue] at waits
      rw [sameUp, isNow]
      exact evening.asleep (sameDown.symm.trans down) (.inr ⟨b, inBanks, waits⟩)
    ready := fun cmd onBus => by
      rw [sameBus] at onBus
      obtain ⟨left, inBanks, closed⟩ := evening.ready cmd onBus
      rw [sameLeft]
      exact ⟨left, inBanks, fun isRefresh b below => stillClosed b (closed isRefresh b below)⟩ }

/-! ## Runs -/

theorem start_closing (banks : 0 < c.numBanks) (rules : BankRules c serves describes) (id : ℕ) :
    Closing c serves describes (start c id) where
  phase b _ := rules.start b
  packets _ member := by cases member
  issued := banks
  writes _ member := by cases member
  operates _ member := by cases member
  inBanks _ member := by cases member
  capacity _ _ := Nat.zero_le _
  used down := by cases down
  awake _ _ _ isDown := by cases isDown
  closed down := by cases down
  bus down := by cases down
  together down := by cases down
  refreshed down := by cases down
  paced operating := by cases operating
  soon down := by cases down
  late down := by cases down
  ready _ onBus := by cases onBus

/-- A packet waits in the downstream buffer, or is refused. -/
theorem receiveDown_closing {packet : Packet} (closing : Closing c serves describes v)
    (asked : serves packet) : Closing c serves describes ((v.receiveDown packet).getD v) := by
  unfold receiveDown
  split
  · exact {
      phase := closing.phase
      packets := fun other member => by
        cases List.mem_append.mp member with
        | inl before => exact closing.packets other before
        | inr new => exact List.mem_singleton.mp new ▸ asked
      issued := closing.issued
      writes := closing.writes
      operates := closing.operates
      inBanks := closing.inBanks
      capacity := closing.capacity
      toPower := ⟨closing.used, closing.awake, closing.closed, closing.bus, closing.together,
        closing.refreshed⟩
      paced := closing.paced
      soon := closing.soon
      late := closing.late
      ready := closing.ready }
  · exact closing

section Run

variable {guard : VaultController → Action → VaultController → Prop}

theorem step_closing (perBank : PerBank c) (rules : BankRules c serves describes)
    (pops : PopKeeps c serves describes)
    (offers : ∀ v packet v', guard v (.offer packet) v' → serves packet) {action : Action}
    (closing : Closing c serves describes v) (stepped : v.step c action = .ok v')
    (guarded : guard v action v') : Closing c serves describes v' := by
  cases action with
  | offer packet =>
    obtain rfl := Outcome.pure_eq_ok.mp stepped
    exact receiveDown_closing closing (offers _ _ _ guarded)
  | cycle accepts =>
    obtain ⟨v₁, updated, returned⟩ := Outcome.bind_eq_ok.mp stepped
    exact updateDram_closing perBank rules (update_evening perBank rules pops closing updated)
      returned

/-- A description that obeys the rules holds in every state that a vault reaches. -/
theorem run_closing (perBank : PerBank c) (rules : BankRules c serves describes)
    (pops : PopKeeps c serves describes)
    (offers : ∀ v packet v', guard v (.offer packet) v' → serves packet) {id : ℕ}
    {actions : List Action} (run : Transition.Run (step c) guard (start c id) actions v) :
    Closing c serves describes v :=
  run.invariant (start_closing perBank.banks rules id) fun _ _ _ closing =>
    step_closing perBank rules pops offers closing

end Run

end VaultController

end ActiveRouting

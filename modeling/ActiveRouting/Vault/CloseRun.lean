import ActiveRouting.Vault.ClosePage

/-!
# Runs under the close-page policy

In every state that a vault reaches, what closes an open row is on its way, and a row whose last
command has arrived is closed in time.  No queue grows beyond its capacity, the write backs of
atomics included.
-/

namespace ActiveRouting

open DRAMCommand CommandQueue

namespace VaultController

variable {c : DRAMConfig} {v v' : VaultController} {b left : ℕ}

/-! ## Reachable states -/

/-- The crossbar switch offers only requests for data that are written back. -/
def OffersServed (_ : VaultController) : Action → VaultController → Prop
  | .offer packet, _ => Served packet
  | .cycle _, _ => True

instance (v : VaultController) : ∀ action v', Decidable (OffersServed v action v')
  | .offer packet, _ => inferInstanceAs (Decidable (Served packet))
  | .cycle _, _ => .isTrue trivial

theorem OffersServed.asks (v : VaultController) (packet : Packet) (v' : VaultController)
    (served : OffersServed v (.offer packet) v') : Asks False packet :=
  Served.asks served

theorem step_served (close : ClosePage c) {action : Action} (closing : CloseState c v)
    (stepped : v.step c action = .ok v') (guarded : OffersServed v action v') : CloseState c v' :=
  step_closing close.toPerBank (closePage_rules close False) (popCommand_middle close False)
    OffersServed.asks closing stepped guarded

theorem run_served (close : ClosePage c) {id : ℕ} {actions : List Action}
    (run : Transition.Run (step c) OffersServed (start c id) actions v) : CloseState c v :=
  run_closePage close OffersServed.asks run

/-! ## Open rows -/

/-- What will close the open row of a bank. -/
inductive WillClose (c : DRAMConfig) (v : VaultController) (b : ℕ) : Prop where
  /-- The last command of a request waits in the queue of the bank: it precharges, or it is the
      last read of an atomic. -/
  | queued {last : DRAMCommand} (member : last ∈ v.commandQueue.queue b) (bank : last.bank = b)
      (row : (v.bank b).openRowAddress = last.row) (closes : last.Closes)
  /-- The precharging command is on the bus. -/
  | issued {last : DRAMCommand} (onBus : v.cmdBus = some last)
      (row : (v.bank b).openRowAddress = last.row) (precharges : last.precharges = true)
  /-- The data of an atomic is on its way or operated on, and will be written back. -/
  | operating {read : DRAMCommand} (member : read ∈ v.reading) (bank : read.bank = b)
      (row : (v.bank b).openRowAddress = read.row) (operates : read.operates = true)
      (writesBack : read.locks = true)
  /-- The bank has received the precharging command. -/
  | received (last : (v.bank b).lastCommand = .READ_P ∨ (v.bank b).lastCommand = .WRITE_P)
      (positive : 0 < (v.bank b).stateChangeCountdown)
      (bounded : (v.bank b).stateChangeCountdown ≤ c.closeDelay)

theorem CloseState.willClose {b : ℕ} (closing : CloseState c v) (inBanks : b < c.numBanks)
    (isOpen : (v.bank b).currentBankState = .ROW_ACTIVE) : WillClose c v b := by
  cases closing.phase b inBanks with
  | closed resting => exact absurd isOpen resting.closed
  | opening state =>
    rw [state] at isOpen
    cases isOpen
  | opened holds _ bank isTail _ queue =>
    have member : _ ∈ v.commandQueue.queue b :=
      queue ▸ List.mem_append_left _ isTail.last_mem
    cases isTail.ends with
    | closes closes => exact .queued member bank holds.row closes
    | compares allowed => exact allowed.elim
  | lastIssued holds bus precharges =>
    exact .issued (Option.mem_filter_iff.mp bus).1 holds.row precharges
  | closing _ last positive bounded => exact .received last positive bounded
  | @operating read holds _ _ _ pending bank writesBack =>
    have member : read ∈ v.pending b := by
      rw [show v.pending b = [read] from pending]
      exact List.mem_singleton_self read
    obtain ⟨inReading, facts⟩ := List.mem_filter.mp member
    rw [Bool.and_eq_true] at facts
    exact .operating inReading bank holds.row facts.1 writesBack
  | stuck allowed => exact allowed.elim

/-- In every run on served requests, an open row has on its way what closes it. -/
theorem run_willClose (close : ClosePage c) {id : ℕ} {actions : List Action}
    (run : Transition.Run (step c) OffersServed (start c id) actions v)
    (inBanks : b < c.numBanks) (isOpen : (v.bank b).currentBankState = .ROW_ACTIVE) :
    WillClose c v b := (run_served close run).willClose inBanks isOpen

/-- A read of a block that is served under the policy. -/
def readLine : Packet :=
  { packetType := .REQUEST, CMD := .RD64, TAG := 3, reqDataSize := 64, SRCCUB := 0, DESTCUB := 0 }

/-- The request is offered, and the vault runs alone for some cycles. -/
def serveLine (cycles : ℕ) : List Action := .offer readLine :: List.replicate cycles (.cycle true)

theorem run_willClose_readLine : ∃ v,
    Transition.Run (step {}) OffersServed (start {} 0) (serveLine 15) v ∧
      (v.bank 0).currentBankState = .ROW_ACTIVE ∧ WillClose {} v 0 := by
  have executed : (Transition.execute (step {}) OffersServed (start {} 0) (serveLine 15)).map
      (fun v => (v.bank 0).currentBankState) = some .ROW_ACTIVE := by decide +kernel
  obtain ⟨v, run, isOpen⟩ := Transition.execute_reaches executed
  exact ⟨v, run, isOpen, run_willClose closePage_default run (by decide) isOpen⟩

/-! ## Capacity -/

theorem CloseState.space (closing : CloseState c v) (inBanks : b < c.numBanks) :
    (v.commandQueue.queue b).length + (v.pending b).length ≤ maxCmdQue := by
  have capacity := closing.capacity b inBanks
  rwa [(closing.phase b inBanks).held_eq] at capacity

/-- In every run on served requests, no queue holds more than `MAX_CMD_QUE` commands, and there is
    space for the write backs of the atomics in operation. -/
theorem run_capacity (close : ClosePage c) {id : ℕ} {actions : List Action}
    (run : Transition.Run (step c) OffersServed (start c id) actions v)
    (inBanks : b < c.numBanks) :
    (v.commandQueue.queue b).length + (v.pending b).length ≤ maxCmdQue :=
  (run_served close run).space inBanks

theorem run_capacity_readLine : ∃ v,
    Transition.Run (step {}) OffersServed (start {} 0) (serveLine 2) v ∧
      (v.commandQueue.queue 0).length = 3 ∧
        (v.commandQueue.queue 0).length + (v.pending 0).length ≤ maxCmdQue := by
  have executed : (Transition.execute (step {}) OffersServed (start {} 0) (serveLine 2)).map
      (fun v => (v.commandQueue.queue 0).length) = some 3 := by decide +kernel
  obtain ⟨v, run, length⟩ := Transition.execute_reaches executed
  exact ⟨v, run, length, run_capacity closePage_default run (by decide)⟩

/-! ## The time of a closing row -/

theorem updateCountdown_dram (closing : CloseState c v) (updated : v.updateCountdown c = .ok v') :
    v'.dram = v.dram ∨ ∃ cmd, v.cmdBus = some cmd ∧ v.dram.receiveCMD c cmd = .ok v'.dram := by
  obtain ⟨v₁, sentCommand, updated⟩ := Outcome.bind_eq_ok.mp updated
  obtain ⟨v₂, sentData, updated⟩ := Outcome.bind_eq_ok.mp updated
  obtain ⟨v₃, sent, updated⟩ := Outcome.bind_eq_ok.mp updated
  obtain rfl := Outcome.pure_eq_ok.mp updated
  have counted : (v₃.countRefresh c).dram = v₃.dram := by
    unfold countRefresh
    split <;> rfl
  have same₃ : v₃.dram = v₂.dram := by
    unfold sendWriteData at sent
    split at sent
    · split at sent
      · rw [← Outcome.pure_eq_ok.mp sent]
        rfl
      · cases sent
    · rw [← Outcome.pure_eq_ok.mp sent]
      rfl
  have transmitted : v₁.dataBus = v.dataBus ∧ (v₁.dram = v.dram ∨
      ∃ cmd, v.cmdBus = some cmd ∧ v.dram.receiveCMD c cmd = .ok v₁.dram) := by
    unfold transmitCommand at sentCommand
    cases onBus : v.cmdBus with
    | none =>
      simp only [onBus] at sentCommand
      obtain rfl := Outcome.pure_eq_ok.mp sentCommand
      exact ⟨rfl, .inl rfl⟩
    | some cmd =>
      simp only [onBus] at sentCommand
      split at sentCommand
      · obtain ⟨dram, received, sentCommand⟩ := Outcome.bind_eq_ok.mp sentCommand
        obtain rfl := Outcome.pure_eq_ok.mp sentCommand
        exact ⟨rfl, .inr ⟨cmd, rfl, received⟩⟩
      · obtain rfl := Outcome.pure_eq_ok.mp sentCommand
        exact ⟨rfl, .inl rfl⟩
  -- only data of writes is on the data bus
  have same₂ : v₂.dram = v₁.dram := by
    unfold transmitData at sentData
    cases onBus : v₁.dataBus with
    | none =>
      simp only [onBus] at sentData
      rw [← Outcome.pure_eq_ok.mp sentData]
    | some cmd =>
      simp only [onBus] at sentData
      split at sentData
      · obtain ⟨v₀, answered, sentData⟩ := Outcome.bind_eq_ok.mp sentData
        obtain ⟨dram, received, sentData⟩ := Outcome.bind_eq_ok.mp sentData
        obtain rfl := Outcome.pure_eq_ok.mp sentData
        have isData : cmd.commandType = .WRITE_DATA :=
          closing.writes cmd (List.mem_append_left _ (by rw [← transmitted.1, onBus]; simp))
        obtain rfl := receiveCMD_writeData isData received
        exact (answerWrite_aside answered).dram
      · rw [← Outcome.pure_eq_ok.mp sentData]
        rfl
  rw [counted, same₃, same₂]
  exact transmitted.2

theorem convert_dram (converted : v.convert c = .ok v') : v'.dram = v.dram := by
  unfold convert at converted
  split at converted
  · obtain ⟨⟨v₁, kept⟩, isConverted, converted⟩ := Outcome.bind_eq_ok.mp converted
    obtain rfl := Outcome.pure_eq_ok.mp converted
    show v₁.dram = v.dram
    refine convertPackets_induct (fun v₂ => v₂.dram = v.dram) isConverted rfl ?_
    intro packet _ v₂ v₃ same isPacket
    obtain ⟨kind, _, _, rfl⟩ := convPacketIntoCMDs_eq_some isPacket
    exact same
  · rw [← Outcome.pure_eq_ok.mp converted]

theorem popCommand_dram (popped : v.popCommand c = .ok v') : v'.dram = v.dram := by
  obtain ⟨⟨q, taken⟩, _, popped⟩ := Outcome.bind_eq_ok.mp popped
  cases taken with
  | none =>
    rw [← Outcome.pure_eq_ok.mp popped]
    rfl
  | some cmd =>
    simp only at popped
    split at popped
    · rw [← Outcome.pure_eq_ok.mp popped]
      rfl
    · cases popped

theorem atomicOperation_dram (operated : v.atomicOperation c = .ok v') : v'.dram = v.dram := by
  unfold atomicOperation at operated
  cases atomic : v.atomicCMD with
  | none =>
    simp only [atomic] at operated
    rw [← Outcome.pure_eq_ok.mp operated]
  | some cmd =>
    simp only [atomic] at operated
    split at operated
    · obtain ⟨v₁, answered, operated⟩ := Outcome.bind_eq_ok.mp operated
      obtain rfl := Outcome.pure_eq_ok.mp operated
      have same : v₁.dram = (v.writeBack c cmd).dram := by
        unfold answerAtomic at answered
        split at answered
        · rw [← Outcome.pure_eq_ok.mp answered]
        · exact (respond_aside answered).dram
      show v₁.dram = v.dram
      rw [same]
      unfold writeBack
      split <;> rfl
    · rw [← Outcome.pure_eq_ok.mp operated]
      rfl

/-- What a cycle may do to a bank after the command on the bus has arrived. -/
inductive Powered (c : DRAMConfig) (now : ℕ) (s : BankState) : BankState → Prop where
  | stays : Powered c now s s
  | down : Powered c now s (s.powerDown c now)
  | up : Powered c now s (s.powerUp c now)

/-- One cycle of a bank: the command on the bus, the switch of power, and the countdown. -/
theorem cycle_bank (closing : CloseState c v) {accepts : Bool} (cycled : v.cycle c accepts = .ok v')
    (b : ℕ) : ∃ received powered, (received = v.bank b ∨
      ∃ cmd, v.cmdBus = some cmd ∧ received = (v.bank b).receive c v.now cmd b) ∧
      Powered c v.now received powered ∧ v'.bank b = powered.update c := by
  obtain ⟨v₆, updated, cycled⟩ := Outcome.bind_eq_ok.mp cycled
  obtain ⟨v₁, counted, updated⟩ := Outcome.bind_eq_ok.mp updated
  obtain ⟨v₂, converted, updated⟩ := Outcome.bind_eq_ok.mp updated
  obtain ⟨v₃, popped, updated⟩ := Outcome.bind_eq_ok.mp updated
  obtain ⟨v₄, operated, updated⟩ := Outcome.bind_eq_ok.mp updated
  obtain rfl := Outcome.pure_eq_ok.mp updated
  have flushed := flushPcu_aside v
  have same : v₄.dram = v₁.dram := by
    rw [atomicOperation_dram operated, popCommand_dram popped, (sendUp_aside v₂ accepts).dram,
      convert_dram converted]
  have arrived : v₁.now = v.now ∧ (v₁.bank b = v.bank b ∨
      ∃ cmd, v.cmdBus = some cmd ∧ v₁.bank b = (v.bank b).receive c v.now cmd b) := by
    cases updateCountdown_dram (flushed.closing closing) counted with
    | inl alone =>
      rw [flushed.dram] at alone
      exact ⟨by rw [now, alone]; rfl, .inl (by rw [bank, alone]; rfl)⟩
    | inr received =>
      obtain ⟨cmd, onBus, received⟩ := received
      rw [flushed.dram] at received
      rw [flushed.cmdBus] at onBus
      obtain ⟨banks, clock, _⟩ := DRAM.receiveCMD_eq_ok received
      exact ⟨clock, .inr ⟨cmd, onBus, congrFun banks b⟩⟩
  have switched : Powered c v₄.now (v₄.bank b) ((v₄.enablePowerdown c).bank b) := by
    unfold enablePowerdown
    split
    · split
      · unfold DRAM.powerDown
        split
        · rename_i isDown
          split at isDown
          · obtain ⟨rfl, _⟩ := Prod.mk.inj isDown
            exact .down
          · cases isDown
        · exact .stays
      · split
        · exact .up
        · exact .stays
    · exact .stays
  have counted : (v₄.enablePowerdown c).countDelays.bank b = (v₄.enablePowerdown c).bank b := rfl
  obtain ⟨v₅, isReturned, cycled⟩ := Outcome.bind_eq_ok.mp cycled
  obtain rfl := Outcome.pure_eq_ok.mp cycled
  have alone := (returnData_returned isReturned).receiving
  have taken : (takeBus c v₅.dram).bankStates = v₅.dram.bankStates := by
    obtain ⟨unused, _⟩ | ⟨cmd, rest, _, _, used⟩ := takeBus_cases (c := c) v₅.dram
    · rw [unused]
    · rw [used]
      rfl
  refine ⟨v₁.bank b, (v₄.enablePowerdown c).bank b, arrived.2, ?_, ?_⟩
  · rw [bank, same, now, same] at switched
    rw [← arrived.1]
    exact switched
  · show (takeBus c v₅.dram).bankStates b = _
    rw [taken, alone.bankStates]
    rfl

/-- The bank has received its last command, and the row is still open for `left` cycles. -/
structure ClosesIn (v : VaultController) (b left : ℕ) : Prop where
  isOpen : (v.bank b).currentBankState = .ROW_ACTIVE
  last : (v.bank b).lastCommand = .READ_P ∨ (v.bank b).lastCommand = .WRITE_P
  countdown : (v.bank b).stateChangeCountdown = left

theorem ClosesIn.phase (closes : ClosesIn v b left) (closing : CloseState c v)
    (inBanks : b < c.numBanks) : 0 < left ∧ left ≤ c.closeDelay ∧ v.busFor b = none := by
  have stays : staysOpen (v.bank b).lastCommand = false := by
    cases closes.last with
    | inl last | inr last => rw [last]; rfl
  have notHeld : ∀ {row}, ¬ HoldsOpen row (v.bank b) := fun holds => by
    rw [holds.stays] at stays
    cases stays
  cases closing.phase b inBanks with
  | closed resting => exact absurd closes.isOpen resting.closed
  | opening state =>
    have := state.symm.trans closes.isOpen
    cases this
  | opened holds | lastIssued holds | operating holds | stuck _ holds => exact absurd holds notHeld
  | closing _ _ positive bounded idle =>
    rw [closes.countdown] at positive bounded
    exact ⟨positive, bounded, idle.bus⟩

/-- A cycle closes the row, or leaves it one cycle less. -/
theorem ClosesIn.cycle (closes : ClosesIn v b left) (closing : CloseState c v)
    (inBanks : b < c.numBanks) {accepts : Bool} (cycled : v.cycle c accepts = .ok v') :
    (v'.bank b).currentBankState ≠ .ROW_ACTIVE ∨ ClosesIn v' b (left - 1) := by
  obtain ⟨received, powered, arrived, switched, isUpdate⟩ := cycle_bank closing cycled b
  have positive := (closes.phase closing inBanks).1
  have free := (closes.phase closing inBanks).2.2
  -- a command on the bus is for another bank
  have same : SameRow (v.bank b) received := by
    rcases arrived with rfl | ⟨cmd, onBus, rfl⟩
    · exact ⟨rfl, rfl, rfl, rfl, le_refl _⟩
    · have notRefresh : cmd.commandType ≠ .REFRESH := fun isRefresh =>
        (closing.ready cmd onBus).2.2 isRefresh b inBanks closes.isOpen
      refine BankState.receive_other _ (fun own => ?_) notRefresh
      rw [busFor, onBus] at free
      simp [notRefresh, own] at free
  rw [isUpdate]
  cases switched with
  | down => exact .inl fun isOpen => by cases (BankState.update_power _).2.2.2 isOpen
  | up => exact .inl fun isOpen => by cases (BankState.update_power _).2.2.2 isOpen
  | stays =>
    by_cases due : left = 1
    · refine .inl ?_
      rw [BankState.update, if_pos (by rw [same.countdown, closes.countdown, due]), same.last]
      cases closes.last with
      | inl last | inr last =>
        rw [last]
        exact fun isOpen => by cases isOpen
    · refine .inr ?_
      have counted : (v'.bank b) = received.countDown := by
        have notDue : received.stateChangeCountdown ≠ 1 := by
          rw [same.countdown, closes.countdown]
          exact due
        rw [isUpdate, BankState.update, if_neg notDue]
      exact {
        isOpen := by
          rw [counted]
          exact same.state.trans closes.isOpen
        last := by
          rw [counted]
          exact same.last ▸ closes.last
        countdown := by
          rw [counted]
          show received.stateChangeCountdown - 1 = _
          rw [same.countdown, closes.countdown] }

def Action.isCycle : Action → Bool
  | .offer _ => false
  | .cycle _ => true

/-- How many cycles a run takes. -/
def cycles (actions : List Action) : ℕ := actions.countP Action.isCycle

/-- The row has been closed on the way, or as many cycles less are left. -/
theorem ClosesIn.run (close : ClosePage c) (closes : ClosesIn v b left) (closing : CloseState c v)
    (inBanks : b < c.numBanks) {actions : List Action}
    (run : Transition.Run (step c) OffersServed v actions v') :
    CloseState c v' ∧ ((∃ early late mid, actions = early ++ late ∧
        Transition.Run (step c) OffersServed v early mid ∧ cycles early ≤ left ∧
          (mid.bank b).currentBankState ≠ .ROW_ACTIVE) ∨
      ClosesIn v' b (left - cycles actions)) := by
  induction run with
  | start => exact ⟨closing, .inr closes⟩
  | @next v₁ v₂ actions action before stepped guarded inductionHypothesis =>
    obtain ⟨closing₁, inductionHypothesis⟩ := inductionHypothesis
    have closing₂ := step_served close closing₁ stepped guarded
    refine ⟨closing₂, ?_⟩
    cases inductionHypothesis with
    | inl closed =>
      obtain ⟨early, late, mid, rfl, first, short, closed⟩ := closed
      exact .inl ⟨early, late ++ [action], mid, List.append_assoc _ _ _, first, short, closed⟩
    | inr closes₁ =>
      cases action with
      | offer packet =>
        obtain rfl := Outcome.pure_eq_ok.mp stepped
        have same : ((v₁.receiveDown packet).getD v₁).bank b = v₁.bank b := by
          unfold receiveDown
          split <;> rfl
        have count : cycles (actions ++ [.offer packet]) = cycles actions := by
          simp [cycles, Action.isCycle]
        refine .inr ?_
        rw [count]
        exact ⟨same ▸ closes₁.isOpen, same ▸ closes₁.last, same ▸ closes₁.countdown⟩
      | cycle accepts =>
        have count : cycles (actions ++ [.cycle accepts]) = cycles actions + 1 := by
          simp [cycles, Action.isCycle]
        have positive := (closes₁.phase closing₁ inBanks).1
        rw [count]
        cases closes₁.cycle closing₁ inBanks stepped with
        | inl closed =>
          have whole := before.next stepped guarded
          refine .inl ⟨actions ++ [.cycle accepts], [], v₂, (List.append_nil _).symm, whole, ?_,
            closed⟩
          rw [count]
          omega
        | inr closes₂ => exact .inr (by rw [← Nat.sub_sub]; exact closes₂)

/-- A row whose bank has received the precharging command is closed within the delay of the
    precharge, whatever else the vault is asked for. -/
theorem run_closes_in_time (close : ClosePage c) {id : ℕ} {actions further : List Action}
    (run : Transition.Run (step c) OffersServed (start c id) actions v)
    (inBanks : b < c.numBanks) (isOpen : (v.bank b).currentBankState = .ROW_ACTIVE)
    (last : (v.bank b).lastCommand = .READ_P ∨ (v.bank b).lastCommand = .WRITE_P)
    (goesOn : Transition.Run (step c) OffersServed v further v')
    (long : c.closeDelay ≤ cycles further) :
    ∃ early late mid, further = early ++ late ∧
      Transition.Run (step c) OffersServed v early mid ∧ cycles early ≤ c.closeDelay ∧
        (mid.bank b).currentBankState ≠ .ROW_ACTIVE := by
  have closing := run_served close run
  have closes : ClosesIn v b (v.bank b).stateChangeCountdown := ⟨isOpen, last, rfl⟩
  obtain ⟨_, bounded, _⟩ := closes.phase closing inBanks
  obtain ⟨closing', closed | left⟩ := closes.run close closing inBanks goesOn
  · obtain ⟨early, late, mid, isSplit, first, short, closed⟩ := closed
    exact ⟨early, late, mid, isSplit, first, short.trans bounded, closed⟩
  · have := (left.phase closing' inBanks).1
    omega

/-- The cycles of `closeDelay`. -/
def waitClose : List Action := List.replicate 14 (.cycle true)

theorem run_closes_in_time_readLine : ∃ v v',
    Transition.Run (step {}) OffersServed (start {} 0) (serveLine 31) v ∧
      Transition.Run (step {}) OffersServed v waitClose v' ∧
        ∃ early late mid, waitClose = early ++ late ∧
          Transition.Run (step {}) OffersServed v early mid ∧
            cycles early ≤ DRAMConfig.closeDelay {} ∧
              (mid.bank 0).currentBankState ≠ .ROW_ACTIVE := by
  have executed : (Transition.execute (step {}) OffersServed (start {} 0) (serveLine 31)).any
      (fun v => (v.bank 0).currentBankState = .ROW_ACTIVE && (v.bank 0).lastCommand = .READ_P &&
        (Transition.execute (step {}) OffersServed v waitClose).isSome) = true := by
    decide +kernel
  obtain ⟨v, executed, facts⟩ := (Option.any_eq_true _ _).mp executed
  rw [Bool.and_eq_true, Bool.and_eq_true, decide_eq_true_iff, decide_eq_true_iff] at facts
  obtain ⟨⟨isOpen, last⟩, goesOn⟩ := facts
  obtain ⟨v', goesOn⟩ := Option.isSome_iff_exists.mp goesOn
  have run := Transition.execute_run executed
  have further := Transition.execute_run goesOn
  exact ⟨v, v', run, further,
    run_closes_in_time closePage_default run (by decide) isOpen (.inl last) further (by decide)⟩

end VaultController

end ActiveRouting

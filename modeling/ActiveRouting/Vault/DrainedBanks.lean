import ActiveRouting.Vault.CloseRun

/-!
# Drained banks and refreshes

A bank for which nothing is left is idle or powered down, and a vault without open rows issues
the refresh that waits.  A vault that sleeps is woken up for it.
-/

namespace ActiveRouting

open DRAMCommand CommandQueue

namespace VaultController

variable {c : DRAMConfig} {v v' : VaultController} {b : ℕ}

/-! ## Drained banks -/

/-- Nothing is on its way for a bank, and no delay of the bank runs. -/
structure Drained (v : VaultController) (b : ℕ) : Prop where
  queue : v.commandQueue.queue b = []
  bus : v.busFor b = none
  pending : v.pending b = []
  countdown : (v.bank b).stateChangeCountdown = 0

/-- A bank without an open row has a countdown that runs, or it is idle or powered down. -/
theorem idle_of_resting {now : ℕ} {s : BankState} (resting : Resting c now s)
    (countdown : s.stateChangeCountdown = 0) :
    s.currentBankState = .IDLE ∨ s.currentBankState = .POWERDOWN := by
  cases state : s.currentBankState with
  | IDLE => exact .inl rfl
  | POWERDOWN => exact .inr rfl
  | ROW_ACTIVE => exact absurd state resting.closed
  | REFRESHING =>
    have := (resting.refreshing state).2.1
    omega
  | PRECHARGING =>
    have := (resting.precharging state).2.1
    omega
  | AWAKING =>
    have := (resting.awaking state).2
    omega

theorem atomicLock_eq_false {q : CommandQueue} (unlocked : q.lockState b = none) :
    q.atomicLock b = false := by
  unfold lockState at unlocked
  split at unlocked
  · cases unlocked
  · rename_i isFree
    simpa using isFree

theorem CloseState.drained (closing : CloseState c v) (inBanks : b < c.numBanks)
    (drained : Drained v b) : ((v.bank b).currentBankState = .IDLE ∨
      (v.bank b).currentBankState = .POWERDOWN) ∧ v.commandQueue.atomicLock b = false := by
  obtain ⟨idle, resting | ⟨-, -, positive, -⟩⟩ :=
    (closing.phase b inBanks).drained drained.queue drained.pending drained.bus
  · exact ⟨idle_of_resting resting drained.countdown, atomicLock_eq_false idle.lock⟩
  · rw [drained.countdown] at positive
    cases positive

/-- Where no bank is locked, open or kept from an activation, nothing is in the way of a refresh. -/
theorem refreshScanClose_possible {q : CommandQueue} {view : VaultView} : ∀ {banks : List ℕ},
    (∀ b ∈ banks, q.atomicLock b = false ∧ (view.bankStates b).currentBankState ≠ .ROW_ACTIVE ∧
      (view.bankStates b).nextActivate ≤ view.currentClockCycle) →
    q.refreshScanClose c view banks = .ok (true, none)
  | [], _ => rfl
  | b :: banks, rests => by
    obtain ⟨unlocked, closed, due⟩ := rests b List.mem_cons_self
    rw [refreshScanClose, unlocked, if_neg Bool.false_ne_true, if_neg closed,
      if_neg (Nat.not_lt.mpr due)]
    exact refreshScanClose_possible fun other member => rests other (List.mem_cons_of_mem b member)

theorem cmdPop_refresh (close : c.openPage = false) {q : CommandQueue} {view : VaultView}
    (waits : q.refreshWaiting = true)
    (rests : ∀ b < c.numBanks, q.atomicLock b = false ∧
      (view.bankStates b).currentBankState ≠ .ROW_ACTIVE ∧
        (view.bankStates b).nextActivate ≤ view.currentClockCycle)
    (awake : (view.bankStates 0).currentBankState ≠ .POWERDOWN) :
    ∃ q', q.cmdPop c view = .ok (q', some refreshCMD) := by
  have possible : q.countTFAW.refreshScanClose c view (List.range c.numBanks) = .ok (true, none) :=
    refreshScanClose_possible fun b member => rests b (List.mem_range.mp member)
  have refreshes : q.countTFAW.refreshClose c view =
      .ok ({ q.countTFAW with refreshWaiting := false }, some refreshCMD) := by
    rw [refreshClose, possible]
    simp [awake]
  have selects : q.countTFAW.select c view =
      .ok ({ q.countTFAW with refreshWaiting := false }, some refreshCMD) := by
    have waits' : q.countTFAW.refreshWaiting = true := waits
    rw [select, close, if_neg Bool.false_ne_true, if_pos waits', refreshes]
  exact ⟨_, by rw [cmdPop, selects]; rfl⟩

/-! ## A refresh that waits -/

/-- A refresh is on the bus. -/
def Refreshes (v : VaultController) : Prop := ∃ cmd ∈ v.cmdBus, cmd.commandType = .REFRESH

/-- A refresh waits, and nothing but the banks' next activations or their sleep is in its way. -/
structure RefreshWaits (c : DRAMConfig) (v : VaultController) : Prop where
  waits : v.commandQueue.refreshWaiting = true
  free : v.cmdBus = none
  closed : ∀ b < c.numBanks, (v.bank b).currentBankState ≠ .ROW_ACTIVE

/-- Where no row is open, no bank is locked. -/
theorem unlocked_of_closed {t : ℕ} (phases : Phases c (Asks False) (Phase False c) t v)
    (free : v.cmdBus = none) (inBanks : b < c.numBanks)
    (closed : (v.bank b).currentBankState ≠ .ROW_ACTIVE) : v.commandQueue.atomicLock b = false :=
  atomicLock_eq_false ((phases.phase b inBanks).unlocked closed (work_free free b))

/-- Without locked banks and open rows the loop over the banks issues no command. -/
theorem refreshScanClose_none {q : CommandQueue} {view : VaultView} : ∀ {banks : List ℕ}
    {result : Bool × Option (CommandQueue × DRAMCommand)},
    (∀ b ∈ banks, q.atomicLock b = false ∧ (view.bankStates b).currentBankState ≠ .ROW_ACTIVE) →
      q.refreshScanClose c view banks = .ok result → result.2 = none
  | [], result, _, scanned => by
    obtain rfl := Except.ok.inj scanned
    rfl
  | b :: banks, result, rests, scanned => by
    obtain ⟨unlocked, closed⟩ := rests b List.mem_cons_self
    rw [refreshScanClose, unlocked, if_neg Bool.false_ne_true, if_neg closed] at scanned
    split at scanned
    · obtain rfl := Except.ok.inj scanned
      rfl
    · exact refreshScanClose_none (fun other member =>
        rests other (List.mem_cons_of_mem b member)) scanned

/-- While a refresh waits, and no bank is locked or open, only the refresh is issued. -/
theorem cmdPop_waits (close : c.openPage = false) {q q' : CommandQueue} {view : VaultView}
    {taken : Option DRAMCommand} (waits : q.refreshWaiting = true)
    (rests : ∀ b < c.numBanks, q.atomicLock b = false ∧
      (view.bankStates b).currentBankState ≠ .ROW_ACTIVE)
    (popped : q.cmdPop c view = .ok (q', taken)) :
    (taken = none ∧ q'.refreshWaiting = true) ∨ taken = some refreshCMD := by
  obtain ⟨⟨q₁, taken₁⟩, selected, popped⟩ := Outcome.bind_eq_ok.mp popped
  have waits' : q.countTFAW.refreshWaiting = true := waits
  rw [select, close, if_neg Bool.false_ne_true, if_pos waits'] at selected
  obtain ⟨result, scanned, selected⟩ := Outcome.bind_eq_ok.mp selected
  have nothing : result.2 = none := refreshScanClose_none (q := q.countTFAW) (fun b member =>
    rests b (List.mem_range.mp member)) scanned
  obtain ⟨possible, issued⟩ := result
  obtain rfl : issued = none := nothing
  simp only at selected
  split at selected
  · obtain ⟨rfl, rfl⟩ := Prod.mk.inj (Outcome.pure_eq_ok.mp selected)
    exact .inr (Prod.mk.inj (Outcome.pure_eq_ok.mp popped)).2.symm
  · obtain ⟨rfl, rfl⟩ := Prod.mk.inj (Outcome.pure_eq_ok.mp selected)
    obtain ⟨rfl, rfl⟩ := Prod.mk.inj (Outcome.pure_eq_ok.mp popped)
    exact .inl ⟨rfl, waits⟩

/-! ## The stages of a cycle -/

/-- A stage leaves the banks, the command bus and the power alone, and a refresh that waits
    waits on. -/
structure Steady (v v' : VaultController) : Prop where
  dram : v'.dram = v.dram
  cmdBus : v'.cmdBus = v.cmdBus
  powerDown : v'.powerDown = v.powerDown
  waits : v.commandQueue.refreshWaiting = true → v'.commandQueue.refreshWaiting = true

namespace Steady

variable {v'' : VaultController}

theorem refl : Steady v v := ⟨rfl, rfl, rfl, id⟩

theorem trans (first : Steady v v') (second : Steady v' v'') : Steady v v'' where
  dram := second.dram.trans first.dram
  cmdBus := second.cmdBus.trans first.cmdBus
  powerDown := second.powerDown.trans first.powerDown
  waits waits := second.waits (first.waits waits)

theorem of_aside (aside : Aside v v') : Steady v v' where
  dram := aside.dram
  cmdBus := aside.cmdBus
  powerDown := aside.powerDown
  waits waits := by rw [aside.commandQueue, waits]

theorem bank (steady : Steady v v') (b : ℕ) : v'.bank b = v.bank b := by
  rw [VaultController.bank, steady.dram, VaultController.bank]

theorem now (steady : Steady v v') : v'.now = v.now := by
  rw [VaultController.now, steady.dram, VaultController.now]

theorem refreshWaits (steady : Steady v v') (waits : RefreshWaits c v) : RefreshWaits c v' where
  waits := steady.waits waits.waits
  free := steady.cmdBus.trans waits.free
  closed b inBanks := steady.bank b ▸ waits.closed b inBanks

end Steady

theorem updateCountdown_steady (closing : CloseState c v) (free : v.cmdBus = none)
    (updated : v.updateCountdown c = .ok v') : Steady v v' := by
  obtain ⟨v₁, sentCommand, updated⟩ := Outcome.bind_eq_ok.mp updated
  obtain ⟨v₂, sentData, updated⟩ := Outcome.bind_eq_ok.mp updated
  obtain ⟨v₃, sent, updated⟩ := Outcome.bind_eq_ok.mp updated
  obtain rfl := Outcome.pure_eq_ok.mp updated
  obtain rfl : v = v₁ := by
    rw [transmitCommand, free] at sentCommand
    exact Outcome.pure_eq_ok.mp sentCommand
  have counted : Steady v₃ (v₃.countRefresh c) := by
    unfold countRefresh
    split
    · exact ⟨rfl, rfl, rfl, fun _ => rfl⟩
    · exact ⟨rfl, rfl, rfl, id⟩
  have steady₃ : Steady v₂ v₃ := by
    unfold sendWriteData at sent
    split at sent
    · split at sent
      · obtain rfl := Outcome.pure_eq_ok.mp sent
        exact ⟨rfl, rfl, rfl, id⟩
      · cases sent
    · obtain rfl := Outcome.pure_eq_ok.mp sent
      exact ⟨rfl, rfl, rfl, id⟩
  have steady₂ : Steady v v₂ := by
    unfold transmitData at sentData
    cases onBus : v.dataBus with
    | none =>
      simp only [onBus] at sentData
      obtain rfl := Outcome.pure_eq_ok.mp sentData
      exact .refl
    | some cmd =>
      simp only [onBus] at sentData
      split at sentData
      · obtain ⟨v₀, answered, sentData⟩ := Outcome.bind_eq_ok.mp sentData
        obtain ⟨dram, received, sentData⟩ := Outcome.bind_eq_ok.mp sentData
        obtain rfl := Outcome.pure_eq_ok.mp sentData
        -- only data of writes is on the data bus
        have isData : cmd.commandType = .WRITE_DATA :=
          closing.writes cmd (List.mem_append_left _ (by rw [onBus]; simp))
        obtain rfl := receiveCMD_writeData isData received
        have answered := Steady.of_aside (answerWrite_aside answered)
        exact ⟨answered.dram, answered.cmdBus, answered.powerDown, answered.waits⟩
      · obtain rfl := Outcome.pure_eq_ok.mp sentData
        exact ⟨rfl, rfl, rfl, id⟩
  exact (steady₂.trans steady₃).trans counted

theorem convert_steady (converted : v.convert c = .ok v') : Steady v v' := by
  have enqueued : ∀ (bank : ℕ) (cmds : List DRAMCommand) (q : CommandQueue),
      (cmds.foldl (fun q cmd => q.enqueue c bank cmd) q).refreshWaiting = q.refreshWaiting := by
    intro bank cmds
    induction cmds with
    | nil => exact fun _ => rfl
    | cons cmd cmds inductionHypothesis => exact fun q => inductionHypothesis (q.enqueue c bank cmd)
  unfold convert at converted
  split at converted
  · obtain ⟨⟨v₁, kept⟩, isConverted, converted⟩ := Outcome.bind_eq_ok.mp converted
    obtain rfl := Outcome.pure_eq_ok.mp converted
    have steady : Steady v v₁ := by
      refine convertPackets_induct (Steady v) isConverted .refl ?_
      intro packet _ v₂ v₃ steady isPacket
      obtain ⟨kind, _, _, rfl⟩ := convPacketIntoCMDs_eq_some isPacket
      exact steady.trans ⟨rfl, rfl, rfl, fun waits => (enqueued _ _ _).trans waits⟩
    exact ⟨steady.dram, steady.cmdBus, steady.powerDown, steady.waits⟩
  · obtain rfl := Outcome.pure_eq_ok.mp converted
    exact .refl

theorem atomicOperation_steady (operated : v.atomicOperation c = .ok v') : Steady v v' := by
  unfold atomicOperation at operated
  cases atomic : v.atomicCMD with
  | none =>
    simp only [atomic] at operated
    obtain rfl := Outcome.pure_eq_ok.mp operated
    exact .refl
  | some cmd =>
    simp only [atomic] at operated
    split at operated
    · obtain ⟨v₁, answered, operated⟩ := Outcome.bind_eq_ok.mp operated
      obtain rfl := Outcome.pure_eq_ok.mp operated
      have written : Steady v (v.writeBack c cmd) := by
        unfold writeBack
        split
        · exact .refl
        · exact ⟨rfl, rfl, rfl, id⟩
      have steady := written.trans (.of_aside (answerAtomic_aside answered))
      exact ⟨steady.dram, steady.cmdBus, steady.powerDown, steady.waits⟩
    · obtain rfl := Outcome.pure_eq_ok.mp operated
      exact ⟨rfl, rfl, rfl, id⟩

/-- While a refresh waits, the scheduler issues it or nothing. -/
theorem popCommand_waits (close : ClosePage c) (middle : Middle c (Asks False) (Phase False c) v)
    (waits : RefreshWaits c v) (popped : v.popCommand c = .ok v') :
    Refreshes v' ∨ Steady v v' := by
  obtain ⟨⟨q, taken⟩, isTaken, popped⟩ := Outcome.bind_eq_ok.mp popped
  obtain ⟨rfl, waits'⟩ | rfl := cmdPop_waits close.close waits.waits (fun b inBanks =>
    ⟨unlocked_of_closed middle.toPhases waits.free inBanks (waits.closed b inBanks),
      waits.closed b inBanks⟩) isTaken
  · obtain rfl := Outcome.pure_eq_ok.mp popped
    exact .inr ⟨rfl, rfl, rfl, fun _ => waits'⟩
  · simp only [if_pos waits.free] at popped
    obtain rfl := Outcome.pure_eq_ok.mp popped
    exact .inl ⟨refreshCMD, rfl, rfl⟩

/-- Once the banks may be activated again and are awake, the refresh is issued. -/
theorem popCommand_refreshes (close : ClosePage c)
    (middle : Middle c (Asks False) (Phase False c) v) (waits : RefreshWaits c v)
    (up : v.powerDown = false)
    (due : ∀ b < c.numBanks, (v.bank b).nextActivate ≤ v.now)
    (popped : v.popCommand c = .ok v') : Refreshes v' := by
  have refreshes : ∃ q, v.commandQueue.cmdPop c v.view = .ok (q, some refreshCMD) :=
    cmdPop_refresh close.close waits.waits (fun b inBanks =>
      ⟨unlocked_of_closed middle.toPhases waits.free inBanks (waits.closed b inBanks),
        waits.closed b inBanks, due b inBanks⟩) (middle.awake up 0 close.banks)
  obtain ⟨q, refreshes⟩ := refreshes
  obtain ⟨⟨q', taken⟩, isTaken, popped⟩ := Outcome.bind_eq_ok.mp popped
  obtain ⟨rfl, rfl⟩ := Prod.mk.inj (Except.ok.inj (refreshes.symm.trans isTaken))
  simp only [if_pos waits.free] at popped
  obtain rfl := Outcome.pure_eq_ok.mp popped
  exact ⟨refreshCMD, rfl, rfl⟩

/-- What a cycle without a refresh does to a vault in which one waits. -/
inductive Waited (c : DRAMConfig) (v v' : VaultController) : Prop where
  /-- An activation of some bank is not due yet. -/
  | awake (up : v.powerDown = false) (stillUp : v'.powerDown = false)
      (same : ∀ b, (v'.bank b).nextActivate = (v.bank b).nextActivate)
      (early : ∃ b < c.numBanks, v.now < (v.bank b).nextActivate)
  /-- The banks may not be powered up yet. -/
  | asleep (down : v.powerDown = true) (stillDown : v'.powerDown = true)
      (same : (v'.bank 0).nextPowerUp = (v.bank 0).nextPowerUp)
      (early : v.now < (v.bank 0).nextPowerUp)
  /-- The banks are powered up. -/
  | woken (down : v.powerDown = true) (up : v'.powerDown = false)
      (due : ∀ b, (v'.bank b).nextActivate = v.now + c.tXP)

theorem enablePowerdown_waits (power : Power c v)
    (waits : v.commandQueue.refreshWaiting = true) :
    v.enablePowerdown c = v ∧ (v.powerDown = true → v.now < (v.bank 0).nextPowerUp) ∨
      v.powerDown = true ∧
        v.enablePowerdown c = v.setPower (v.dram.powerUp c) false := by
  unfold enablePowerdown
  rw [waits, Bool.not_true, Bool.and_false, if_neg Bool.false_ne_true]
  split
  · split
    · next wakes =>
      rw [Bool.and_eq_true] at wakes
      exact .inr ⟨wakes.1, rfl⟩
    · next sleeps =>
      refine .inl ⟨rfl, fun down => ?_⟩
      simp only [down, Bool.true_and, decide_eq_true_eq, not_le] at sleeps
      exact sleeps
  · next high => exact .inl ⟨rfl, fun down => absurd (power.used down) high⟩

/-- The banks pass through the cycle, and the vault else stays what it is. -/
theorem updateDram_waits (updated : v.updateDram c = .ok v') :
    v'.cmdBus = v.cmdBus ∧ v'.powerDown = v.powerDown ∧ v'.commandQueue = v.commandQueue ∧
      v'.now = v.now + 1 ∧ ∀ b, v'.bank b = (v.bank b).update c := by
  obtain ⟨v₁, isReturned, updated⟩ := Outcome.bind_eq_ok.mp updated
  obtain rfl := Outcome.pure_eq_ok.mp updated
  have alone := (returnData_returned isReturned).receiving
  have taken : (takeBus c v₁.dram).bankStates = v₁.dram.bankStates ∧
      (takeBus c v₁.dram).currentClockCycle = v₁.dram.currentClockCycle := by
    obtain ⟨unused, _⟩ | ⟨cmd, rest, _, _, used⟩ := takeBus_cases (c := c) v₁.dram
    · rw [unused]
      exact ⟨rfl, rfl⟩
    · rw [used]
      exact ⟨rfl, rfl⟩
  refine ⟨alone.cmdBus, alone.powerDown, alone.commandQueue, ?_, fun b => ?_⟩
  · show (takeBus c v₁.dram).currentClockCycle + 1 = _
    rw [taken.2, alone.clock]
    rfl
  · show (takeBus c v₁.dram).bankStates b = _
    rw [taken.1, alone.bankStates]
    rfl

/-- A cycle issues the refresh that waits, or brings it nearer. -/
theorem RefreshWaits.cycle (close : ClosePage c) (closing : CloseState c v)
    (waits : RefreshWaits c v) {accepts : Bool} (cycled : v.cycle c accepts = .ok v') :
    Refreshes v' ∨ RefreshWaits c v' ∧ v'.now = v.now + 1 ∧ Waited c v v' := by
  obtain ⟨v₆, updated, cycled⟩ := Outcome.bind_eq_ok.mp cycled
  obtain ⟨v₁, counted, updated⟩ := Outcome.bind_eq_ok.mp updated
  obtain ⟨v₂, converted, updated⟩ := Outcome.bind_eq_ok.mp updated
  obtain ⟨v₃, popped, updated⟩ := Outcome.bind_eq_ok.mp updated
  obtain ⟨v₄, operated, updated⟩ := Outcome.bind_eq_ok.mp updated
  obtain rfl := Outcome.pure_eq_ok.mp updated
  obtain ⟨bus, power, queue, clock, banks⟩ := updateDram_waits cycled
  have flushed := flushPcu_aside v
  have closing₀ := flushed.closing closing
  have steady₀ : Steady v v.flushPcu := .of_aside flushed
  have steady₁ := steady₀.trans
    (updateCountdown_steady closing₀ (steady₀.refreshWaits waits).free counted)
  have steady₂ := (steady₁.trans (convert_steady converted)).trans
    (.of_aside (sendUp_aside v₂ accepts))
  have rules := closePage_rules close False
  have middle₁ := (updateCountdown_middle close.toPerBank rules closing₀ counted).1
  have middle₂ := (sendUp_aside v₂ accepts).middle
    (convert_middle close.toPerBank rules middle₁ converted).1
  have waits₂ := steady₂.refreshWaits waits
  have sameBus : (v₄.enablePowerdown c).cmdBus = v₄.cmdBus := by
    unfold enablePowerdown
    repeat' split
    all_goals rfl
  have issued : Refreshes v₃ → Refreshes v' := by
    rintro ⟨cmd, onBus, isRefresh⟩
    refine ⟨cmd, ?_, isRefresh⟩
    rw [bus]
    show cmd ∈ (v₄.enablePowerdown c).cmdBus
    rw [sameBus, (atomicOperation_steady operated).cmdBus]
    exact onBus
  rcases popCommand_waits close middle₂ waits₂ popped with refreshes | steady₃
  · exact .inl (issued refreshes)
  have steady₄ := (steady₂.trans steady₃).trans (atomicOperation_steady operated)
  have waits₄ := steady₄.refreshWaits waits
  have power₄ : Power c v₄ := by
    have popped₃ := popCommand_middle close False _ _ middle₂ waits₂.free popped
    exact (atomicOperation_middle close.toPerBank rules popped₃.1 popped₃.2 operated).1.toPower
  have isWaiting : v'.commandQueue.refreshWaiting = true := by
    rw [queue]
    show (v₄.enablePowerdown c).commandQueue.refreshWaiting = true
    rw [enablePowerdown_commandQueue]
    exact waits₄.waits
  have isFree : v'.cmdBus = none := by
    rw [bus]
    show (v₄.enablePowerdown c).cmdBus = none
    rw [sameBus]
    exact waits₄.free
  have powered := fun s => BankState.update_power (c := c) s
  rcases enablePowerdown_waits power₄ waits₄.waits with ⟨same, sleeps⟩ | ⟨down, wakes⟩
  · -- the power stays what it is
    have sameBank : ∀ b, v'.bank b = (v.bank b).update c := by
      intro b
      rw [banks]
      show ((v₄.enablePowerdown c).bank b).update c = _
      rw [same, steady₄.bank]
    have sameDown : v'.powerDown = v.powerDown := by
      rw [power]
      show (v₄.enablePowerdown c).powerDown = _
      rw [same, steady₄.powerDown]
    have isNow : v'.now = v.now + 1 := by
      rw [clock]
      show (v₄.enablePowerdown c).now + 1 = _
      rw [same, steady₄.now]
    have waits' : RefreshWaits c v' := ⟨isWaiting, isFree, fun b inBanks isOpen => by
      rw [sameBank] at isOpen
      exact waits.closed b inBanks ((powered _).2.2.2 isOpen)⟩
    cases down : v.powerDown with
    | false =>
      by_cases due : ∀ b < c.numBanks, (v.bank b).nextActivate ≤ v.now
      · refine .inl (issued (popCommand_refreshes close middle₂ waits₂
          (steady₂.powerDown.trans down) (fun b inBanks => ?_) popped))
        rw [steady₂.bank, steady₂.now]
        exact due b inBanks
      · simp only [not_forall, not_le] at due
        obtain ⟨b, inBanks, early⟩ := due
        exact .inr ⟨waits', isNow, .awake down (sameDown.trans down)
          (fun b => by rw [sameBank, (powered _).2.1]) ⟨b, inBanks, early⟩⟩
    | true =>
      refine .inr ⟨waits', isNow, .asleep down (sameDown.trans down) ?_ ?_⟩
      · rw [sameBank, (powered _).1]
      · have early := sleeps (steady₄.powerDown.trans down)
        rwa [steady₄.bank, steady₄.now] at early
  · -- the banks are woken up
    have sameBank : ∀ b, v'.bank b = ((v.bank b).powerUp c v.now).update c := by
      intro b
      rw [banks]
      show ((v₄.enablePowerdown c).bank b).update c = _
      rw [wakes, ← steady₄.bank, ← steady₄.now]
      rfl
    have isUp : v'.powerDown = false := by
      rw [power]
      show (v₄.enablePowerdown c).powerDown = false
      rw [wakes]
      rfl
    have isNow : v'.now = v.now + 1 := by
      rw [clock]
      show (v₄.enablePowerdown c).now + 1 = _
      rw [wakes, ← steady₄.now]
      rfl
    refine .inr ⟨⟨isWaiting, isFree, fun b _ isOpen => ?_⟩, isNow,
      .woken (steady₄.powerDown.symm.trans down) isUp fun b => ?_⟩
    · rw [sameBank] at isOpen
      cases (powered _).2.2.2 isOpen
    · rw [sameBank, (powered _).2.1]
      rfl

/-! ## The refresh comes -/

/-- A refresh is issued in one of the next `left` cycles. -/
structure RefreshIn (c : DRAMConfig) (v : VaultController) (left : ℕ) : Prop extends
    RefreshWaits c v where
  positive : 0 < left
  awake : v.powerDown = false → ∀ b < c.numBanks, (v.bank b).nextActivate < v.now + left
  asleep : v.powerDown = true → c.tXP < left ∧ (v.bank 0).nextPowerUp + c.tXP < v.now + left

theorem RefreshIn.cycle (close : ClosePage c) (closing : CloseState c v) {left : ℕ}
    (refreshes : RefreshIn c v left) {accepts : Bool} (cycled : v.cycle c accepts = .ok v') :
    Refreshes v' ∨ RefreshIn c v' (left - 1) := by
  refine (refreshes.toRefreshWaits.cycle close closing cycled).imp_right ?_
  rintro ⟨waits', isNow, waited⟩
  cases waited with
  | awake up stillUp same early =>
    obtain ⟨b, inBanks, early⟩ := early
    have due := refreshes.awake up
    have := due b inBanks
    refine ⟨waits', by omega, fun _ b inBanks => ?_, fun down => ?_⟩
    · have := due b inBanks
      rw [same, isNow]
      omega
    · rw [stillUp] at down
      cases down
  | asleep down stillDown same early =>
    obtain ⟨-, due⟩ := refreshes.asleep down
    refine ⟨waits', by omega, fun up => ?_, fun _ => ?_⟩
    · rw [stillDown] at up
      cases up
    · rw [same, isNow]
      omega
  | woken down up due =>
    obtain ⟨long, -⟩ := refreshes.asleep down
    have := c.tXP_pos
    refine ⟨waits', by omega, fun _ b _ => ?_, fun down' => ?_⟩
    · rw [due, isNow]
      omega
    · rw [up] at down'
      cases down'

/-- The refresh has been issued on the way, or as many cycles less are left. -/
theorem RefreshIn.run (close : ClosePage c) {left : ℕ} (refreshes : RefreshIn c v left)
    (closing : CloseState c v) {actions : List Action}
    (run : Transition.Run (step c) OffersServed v actions v') :
    CloseState c v' ∧ ((∃ early late mid, actions = early ++ late ∧
        Transition.Run (step c) OffersServed v early mid ∧ Refreshes mid) ∨
      RefreshIn c v' (left - cycles actions)) := by
  induction run with
  | start => exact ⟨closing, .inr refreshes⟩
  | @next v₁ v₂ actions action before stepped guarded inductionHypothesis =>
    obtain ⟨closing₁, inductionHypothesis⟩ := inductionHypothesis
    refine ⟨step_served close closing₁ stepped guarded, ?_⟩
    cases inductionHypothesis with
    | inl issued =>
      obtain ⟨early, late, mid, rfl, first, issued⟩ := issued
      exact .inl ⟨early, late ++ [action], mid, List.append_assoc _ _ _, first, issued⟩
    | inr refreshes₁ =>
      cases action with
      | offer packet =>
        obtain rfl := Outcome.pure_eq_ok.mp stepped
        have count : cycles (actions ++ [.offer packet]) = cycles actions := by
          simp [cycles, Action.isCycle]
        rw [count]
        refine .inr ?_
        unfold receiveDown
        split
        · exact ⟨⟨refreshes₁.waits, refreshes₁.free, refreshes₁.closed⟩, refreshes₁.positive,
            refreshes₁.awake, refreshes₁.asleep⟩
        · exact refreshes₁
      | cycle accepts =>
        have count : cycles (actions ++ [.cycle accepts]) = cycles actions + 1 := by
          simp [cycles, Action.isCycle]
        rw [count]
        cases refreshes₁.cycle close closing₁ stepped with
        | inl issued =>
          exact .inl ⟨actions ++ [.cycle accepts], [], v₂, (List.append_nil _).symm,
            before.next stepped guarded, issued⟩
        | inr refreshes₂ => exact .inr (by rw [← Nat.sub_sub]; exact refreshes₂)

/-- A refresh that waits for drained banks is issued, whatever requests arrive in the meantime:
    in a vault that is awake when the banks may be activated again, and else after the banks have
    been woken up. -/
theorem refresh_comes (close : ClosePage c) {id : ℕ} {actions further : List Action}
    (run : Transition.Run (step c) OffersServed (start c id) actions v)
    (waits : v.commandQueue.refreshWaiting = true) (drained : ∀ b < c.numBanks, Drained v b)
    (goesOn : Transition.Run (step c) OffersServed v further v')
    (awake : v.powerDown = false → 0 < cycles further ∧
      ∀ b < c.numBanks, (v.bank b).nextActivate < v.now + cycles further)
    (asleep : v.powerDown = true → c.tCKE + c.tXP < cycles further) :
    ∃ early late mid, further = early ++ late ∧
      Transition.Run (step c) OffersServed v early mid ∧ Refreshes mid := by
  have closing := run_served close run
  have closed : ∀ b < c.numBanks, (v.bank b).currentBankState ≠ .ROW_ACTIVE := by
    intro b inBanks isOpen
    have atRest := (closing.drained inBanks (drained b inBanks)).1
    rw [isOpen] at atRest
    exact absurd atRest (by decide)
  cases onBus : v.cmdBus with
  | some cmd =>
    -- no command for a drained bank is on the bus
    refine ⟨[], further, v, rfl, .start v, cmd, onBus, ?_⟩
    by_contra notRefresh
    have inBanks := (closing.ready cmd onBus).2.1
    have free := (drained cmd.bank inBanks).bus
    simp [busFor, onBus, notRefresh] at free
  | none =>
    have refreshes : RefreshIn c v (cycles further) := {
      waits := waits
      free := onBus
      closed := closed
      positive := by
        cases down : v.powerDown with
        | false => exact (awake down).1
        | true => exact Nat.zero_lt_of_lt (asleep down)
      awake := fun up => (awake up).2
      asleep := fun down => by
        have long := asleep down
        have soon := closing.soon down
        omega }
    obtain ⟨-, issued | left⟩ := refreshes.run close closing goesOn
    · exact issued
    · have := left.positive
      omega

/-- In every run on served requests, an open row has on its way what closes it.  A bank for which
    nothing is left is idle or powered down, and once this holds of all banks nothing keeps a
    refresh waiting but their next activation; if they sleep, they are woken up for it. -/
theorem close_page_closes (close : ClosePage c) {id : ℕ} {actions : List Action}
    (run : Transition.Run (step c) OffersServed (start c id) actions v) :
    (∀ b < c.numBanks, (v.bank b).currentBankState = .ROW_ACTIVE → WillClose c v b) ∧
      (∀ b < c.numBanks, Drained v b → (v.bank b).currentBankState = .IDLE ∨
        (v.bank b).currentBankState = .POWERDOWN) ∧
      (v.commandQueue.refreshWaiting = true → v.powerDown = false →
        (∀ b < c.numBanks, Drained v b ∧ (v.bank b).nextActivate ≤ v.now) →
          ∃ q, v.commandQueue.cmdPop c v.view = .ok (q, some refreshCMD)) ∧
      ∀ further v', v.commandQueue.refreshWaiting = true → (∀ b < c.numBanks, Drained v b) →
        Transition.Run (step c) OffersServed v further v' →
        (v.powerDown = false → 0 < cycles further ∧
          ∀ b < c.numBanks, (v.bank b).nextActivate < v.now + cycles further) →
        (v.powerDown = true → c.tCKE + c.tXP < cycles further) →
          ∃ early late mid, further = early ++ late ∧
            Transition.Run (step c) OffersServed v early mid ∧ Refreshes mid := by
  have closing := run_served close run
  refine ⟨fun b inBanks => closing.willClose inBanks,
    fun b inBanks drained => (closing.drained inBanks drained).1, fun waits isUp drained => ?_,
    fun further v' waits drained => refresh_comes close run waits drained⟩
  refine cmdPop_refresh close.close waits (fun b inBanks => ?_) (closing.awake isUp 0 close.banks)
  obtain ⟨isDrained, due⟩ := drained b inBanks
  obtain ⟨atRest, unlocked⟩ := closing.drained inBanks isDrained
  refine ⟨unlocked, fun (isOpen : (v.bank b).currentBankState = .ROW_ACTIVE) => ?_, due⟩
  rw [isOpen] at atRest
  exact absurd atRest (by decide)

theorem drained_iff : Drained v b ↔ (v.commandQueue.queue b).isEmpty = true ∧
    (v.busFor b).isNone = true ∧ (v.pending b).isEmpty = true ∧
      (v.bank b).stateChangeCountdown = 0 := by
  simp only [List.isEmpty_iff, Option.isNone_iff_eq_none]
  constructor
  · rintro ⟨queue, bus, pending, countdown⟩
    exact ⟨queue, bus, pending, countdown⟩
  · rintro ⟨queue, bus, pending, countdown⟩
    exact ⟨queue, bus, pending, countdown⟩

instance : Decidable (Drained v b) := decidable_of_iff' _ drained_iff

/-- A vault that is refreshed at a certain period. -/
def refreshedEvery (refreshPeriod : ℕ) (c : DRAMConfig) : DRAMConfig :=
  { c with refreshPeriod := refreshPeriod }

/-- The cycles in which a vault is woken up. -/
def wakeLine : List Action := List.replicate 10 (.cycle true)

theorem close_page_closes_readLine : (∃ v,
      Transition.Run (step {}) OffersServed (start {} 0) (serveLine 15) v ∧
        (v.bank 0).currentBankState = .ROW_ACTIVE ∧ WillClose {} v 0) ∧
    ∃ (c : DRAMConfig) (v v' : VaultController),
      Transition.Run (step c) OffersServed (start c 0) (serveLine 46) v ∧ v.powerDown = true ∧
        Transition.Run (step c) OffersServed v wakeLine v' ∧
          ∃ early late mid, wakeLine = early ++ late ∧
            Transition.Run (step c) OffersServed v early mid ∧ Refreshes mid := by
  constructor
  · have executed : (Transition.execute (step {}) OffersServed (start {} 0) (serveLine 15)).map
        (fun v => (v.bank 0).currentBankState) = some .ROW_ACTIVE := by decide +kernel
    obtain ⟨v, run, isOpen⟩ := Transition.execute_reaches executed
    exact ⟨v, run, isOpen, (close_page_closes closePage_default run).1 0 (by decide) isOpen⟩
  · have close : ClosePage (refreshedEvery 1472 {}) := ⟨⟨rfl, by decide, by decide, by decide⟩, rfl⟩
    have executed : (Transition.execute (step (refreshedEvery 1472 {})) OffersServed
        (start (refreshedEvery 1472 {}) 0) (serveLine 46)).any (fun v => v.powerDown &&
          v.commandQueue.refreshWaiting && (List.range 8).all (fun b => decide (Drained v b)) &&
            (Transition.execute (step (refreshedEvery 1472 {})) OffersServed v
              wakeLine).isSome) = true := by decide +kernel
    obtain ⟨v, executed, facts⟩ := (Option.any_eq_true _ _).mp executed
    simp only [Bool.and_eq_true, List.all_eq_true, List.mem_range, decide_eq_true_eq] at facts
    obtain ⟨⟨⟨sleeps, waits⟩, drained⟩, goesOn⟩ := facts
    obtain ⟨v', goesOn⟩ := Option.isSome_iff_exists.mp goesOn
    have run := Transition.execute_run executed
    have further := Transition.execute_run goesOn
    refine ⟨refreshedEvery 1472 {}, v, v', run, sleeps, further,
      (close_page_closes close run).2.2.2 wakeLine v' waits drained further (fun up => ?_)
        fun _ => by decide⟩
    rw [sleeps] at up
    cases up

/-- A comparison, and time for its data to return. -/
def compareLine : List Action :=
  .offer { packetType := .REQUEST, CMD := .EQ8, TAG := 1, reqDataSize := 16 } ::
    List.replicate 60 (.cycle true)

/-- Atomics with one tag, to different banks. -/
def addTwice : List Action :=
  [.offer { packetType := .REQUEST, CMD := .ADD16, TAG := 1, reqDataSize := 16, ADRS := 0x800 },
    .offer { packetType := .REQUEST, CMD := .ADD16, TAG := 1, reqDataSize := 16 }] ++
      List.replicate 320 (.cycle true)

/-- A row is open although no command that closes it is queued: the command has been issued.  The
    row that a comparison has opened stays open, and with a queue for all banks the lock of an
    atomic can be left behind, so that a refresh waits although nothing else is left. -/
theorem close_page_leaves_open : (∃ v,
      Transition.Run (step {}) OffersServed (start {} 0) (serveLine 31) v ∧
        (v.bank 0).currentBankState = .ROW_ACTIVE ∧ v.commandQueue.queue 0 = [] ∧
          v.pending 0 = []) ∧
    (∃ v, Transition.Run (step {}) (fun _ _ _ => True) (start {} 0) compareLine v ∧
      (v.bank 0).currentBankState = .ROW_ACTIVE ∧ Drained v 0) ∧
    ∃ v, Transition.Run (step { quePerBank := false }) OffersServed
        (start { quePerBank := false } 0) addTwice v ∧
      v.commandQueue.refreshWaiting = true ∧ v.commandQueue.atomicLock 0 = true ∧
        v.commandQueue.queue 0 = [] ∧ v.cmdBus = none ∧ v.reading = [] := by
  refine ⟨?_, ?_, ?_⟩
  · have executed : (Transition.execute (step {}) OffersServed (start {} 0) (serveLine 31)).map
        (fun v => ((v.bank 0).currentBankState, (v.commandQueue.queue 0).length,
          (v.pending 0).length)) = some (.ROW_ACTIVE, 0, 0) := by decide +kernel
    obtain ⟨v, run, facts⟩ := Transition.execute_reaches executed
    simp only [Prod.mk.injEq, List.length_eq_zero_iff] at facts
    exact ⟨v, run, facts⟩
  · have executed : (Transition.execute (step {}) (fun _ _ _ => True) (start {} 0) compareLine).map
        (fun v => ((v.bank 0).currentBankState, (v.commandQueue.queue 0).length,
          (v.busFor 0).isNone, (v.pending 0).length, (v.bank 0).stateChangeCountdown)) =
            some (.ROW_ACTIVE, 0, true, 0, 0) := by decide +kernel
    obtain ⟨v, run, facts⟩ := Transition.execute_reaches executed
    simp only [Prod.mk.injEq, List.length_eq_zero_iff, Option.isNone_iff_eq_none] at facts
    obtain ⟨isOpen, queue, bus, pending, countdown⟩ := facts
    exact ⟨v, run, isOpen, queue, bus, pending, countdown⟩
  · have executed : (Transition.execute (step { quePerBank := false }) OffersServed
        (start { quePerBank := false } 0) addTwice).map
        (fun v => (v.commandQueue.refreshWaiting, v.commandQueue.atomicLock 0,
          (v.commandQueue.queue 0).length, v.cmdBus.isNone, v.reading.length)) =
            some (true, true, 0, true, 0) := by decide +kernel
    obtain ⟨v, run, facts⟩ := Transition.execute_reaches executed
    simp only [Prod.mk.injEq, List.length_eq_zero_iff, Option.isNone_iff_eq_none] at facts
    exact ⟨v, run, facts⟩

end VaultController

end ActiveRouting

import ActiveRouting.Vault.RowGroups

/-!
# The way of a read

The reads of a vault on their way from the command bus to the response, and what the stages of a
cycle that only make responses leave alone.
-/

namespace ActiveRouting

open DRAMCommand CommandQueue

namespace VaultController

variable {c : DRAMConfig} {v v' : VaultController}

def now (v : VaultController) : ℕ := v.dram.currentClockCycle

def bank (v : VaultController) (b : ℕ) : BankState := v.dram.bankStates b

/-- The reads on their way, the oldest first. -/
def reading (v : VaultController) : List DRAMCommand :=
  v.atomicCMD.toList ++ v.dram.readData.toList ++ v.dram.readReturn.map Prod.fst ++
    (v.cmdBus.toList.filter fun cmd => cmd.commandType.isRead).map fun cmd =>
      cmd.withType .READ_DATA

/-- The reads behind the atomic in operation. -/
def behind (v : VaultController) : List DRAMCommand :=
  v.dram.readData.toList ++ (v.dram.readReturn.map Prod.fst ++
    (v.cmdBus.toList.filter fun cmd => cmd.commandType.isRead).map fun cmd =>
      cmd.withType .READ_DATA)

theorem reading_eq (v : VaultController) : v.reading = v.atomicCMD.toList ++ v.behind := by
  simp [reading, behind]

theorem mem_behind_of_bus {cmd : DRAMCommand} (onBus : v.cmdBus = some cmd)
    (isRead : cmd.commandType.isRead = true) : cmd.withType .READ_DATA ∈ v.behind := by
  simp [behind, onBus, isRead]

/-! ## Steps aside -/

/-- Only responses and what is promised to them differ. -/
structure Aside (v v' : VaultController) : Prop where
  dram : v'.dram = v.dram
  commandQueue : v'.commandQueue = v.commandQueue
  cmdBus : v'.cmdBus = v.cmdBus
  cmdCyclesLeft : v'.cmdCyclesLeft = v.cmdCyclesLeft
  atomicCMD : v'.atomicCMD = v.atomicCMD
  atomicOperLeft : v'.atomicOperLeft = v.atomicOperLeft
  powerDown : v'.powerDown = v.powerDown
  downBuffers : v'.downBuffers = v.downBuffers
  dataBus : v'.dataBus = v.dataBus
  writeData : v'.writeData = v.writeData
  pendingReadData : v'.pendingReadData = v.pendingReadData

namespace Aside

variable {v v' : VaultController}

theorem refl (v : VaultController) : Aside v v := ⟨rfl, rfl, rfl, rfl, rfl, rfl, rfl, rfl, rfl, rfl, rfl⟩

theorem bank (aside : Aside v v') (b : ℕ) : v'.bank b = v.bank b := by
  rw [VaultController.bank, aside.dram]
  rfl

theorem now (aside : Aside v v') : v'.now = v.now := by
  rw [VaultController.now, aside.dram]
  rfl

theorem reading (aside : Aside v v') : v'.reading = v.reading := by
  simp only [VaultController.reading, aside.dram, aside.cmdBus, aside.atomicCMD]

end Aside

theorem makeRespondPacket_aside {v v' : VaultController} {cmd : DRAMCommand} {consumed : Bool}
    (made : v.makeRespondPacket cmd = .ok (v', consumed)) : Aside v v' := by
  unfold makeRespondPacket at made
  obtain ⟨⟨packet, size⟩, _, made⟩ := Outcome.bind_eq_ok.mp made
  simp only at made
  split at made
  · obtain ⟨rfl, _⟩ := Prod.mk.inj (Outcome.pure_eq_ok.mp made)
    exact ⟨rfl, rfl, rfl, rfl, rfl, rfl, rfl, rfl, rfl, rfl, rfl⟩
  · unfold receiveUp at made
    split at made
    · rename_i received
      split at received
      · obtain rfl := Option.some.inj received
        obtain ⟨rfl, _⟩ := Prod.mk.inj (Outcome.pure_eq_ok.mp made)
        exact ⟨rfl, rfl, rfl, rfl, rfl, rfl, rfl, rfl, rfl, rfl, rfl⟩
      · cases received
    · obtain ⟨rfl, _⟩ := Prod.mk.inj (Outcome.pure_eq_ok.mp made)
      exact ⟨rfl, rfl, rfl, rfl, rfl, rfl, rfl, rfl, rfl, rfl, rfl⟩

theorem respond_aside {v v' : VaultController} {cmd : DRAMCommand}
    (responded : v.respond cmd = .ok v') : Aside v v' := by
  unfold respond at responded
  obtain ⟨⟨v₁, consumed⟩, made, responded⟩ := Outcome.bind_eq_ok.mp responded
  have aside := makeRespondPacket_aside made
  simp only at responded
  split at responded
  · cases responded
  · obtain rfl := Outcome.pure_eq_ok.mp responded
    exact aside

theorem flushPcu_aside (v : VaultController) : Aside v v.flushPcu := by
  unfold flushPcu
  split
  · exact .refl v
  · split
    · unfold receiveUp
      split
      · rename_i received
        split at received
        · obtain rfl := Option.some.inj received
          exact ⟨rfl, rfl, rfl, rfl, rfl, rfl, rfl, rfl, rfl, rfl, rfl⟩
        · cases received
      · exact ⟨rfl, rfl, rfl, rfl, rfl, rfl, rfl, rfl, rfl, rfl, rfl⟩
    · exact .refl v

theorem sendUp_aside (v : VaultController) (accepts : Bool) : Aside v (v.sendUp accepts) := by
  unfold sendUp
  split
  · exact ⟨rfl, rfl, rfl, rfl, rfl, rfl, rfl, rfl, rfl, rfl, rfl⟩
  · exact .refl v

theorem answerWrite_aside {cmd : DRAMCommand} (answered : v.answerWrite cmd = .ok v') :
    Aside v v' := by
  unfold answerWrite at answered
  split at answered
  · exact respond_aside answered
  · exact Outcome.pure_eq_ok.mp answered ▸ .refl v

theorem answerAtomic_aside {cmd : DRAMCommand} (answered : v.answerAtomic cmd = .ok v') :
    Aside v v' := by
  unfold answerAtomic at answered
  split at answered
  · obtain rfl := Outcome.pure_eq_ok.mp answered
    exact .refl v
  · exact respond_aside answered

/-! ## The buses -/

/-- A command that is received moves its read on, and frees the bus. -/
theorem reading_received {dram : DRAM} {cmd : DRAMCommand} (onBus : v.cmdBus = some cmd)
    (received : v.dram.receiveCMD c cmd = .ok dram) :
    (v.freeCmdBus.setDram dram).reading = v.reading := by
  obtain ⟨_, _, readData, _, readReturn⟩ := DRAM.receiveCMD_eq_ok received
  show v.atomicCMD.toList ++ dram.readData.toList ++ dram.readReturn.map Prod.fst ++ [] = _
  rw [reading, readData, readReturn, onBus]
  cases isRead : cmd.commandType.isRead with
  | true => simp [isRead]
  | false => simp [isRead]

theorem receiveCMD_writeData {d d' : DRAM} {cmd : DRAMCommand}
    (isData : cmd.commandType = .WRITE_DATA) (received : d.receiveCMD c cmd = .ok d') : d' = d := by
  simp only [DRAM.receiveCMD, isData, Except.ok.injEq] at received
  rw [← received, DRAM.mapBanks]
  simp only [BankState.receive, isData]

/-! ## Data that returns -/

/-- What the return of data leaves alone. -/
structure Receiving (v v' : VaultController) : Prop where
  bankStates : v'.dram.bankStates = v.dram.bankStates
  clock : v'.dram.currentClockCycle = v.dram.currentClockCycle
  readReturn : v'.dram.readReturn = v.dram.readReturn
  commandQueue : v'.commandQueue = v.commandQueue
  cmdBus : v'.cmdBus = v.cmdBus
  cmdCyclesLeft : v'.cmdCyclesLeft = v.cmdCyclesLeft
  powerDown : v'.powerDown = v.powerDown
  downBuffers : v'.downBuffers = v.downBuffers
  dataBus : v'.dataBus = v.dataBus
  writeData : v'.writeData = v.writeData

/-- What becomes of the data on the bus of the DRAM: it stays, it is returned to the crossbar
    switch, or an atomic operates on it. -/
inductive Returned (v v' : VaultController) : Prop where
  | stays (alone : Receiving v v') (readData : v'.dram.readData = v.dram.readData)
      (dataCyclesLeft : v.dram.readData.isSome = true →
        v'.dram.dataCyclesLeft = v.dram.dataCyclesLeft - 1)
      (due : v.dram.dataCyclesLeft ≤ 1 → ∀ cmd ∈ v.dram.readData, cmd.operates = false)
      (atomicCMD : v'.atomicCMD = v.atomicCMD) (left : v'.atomicOperLeft = v.atomicOperLeft)
  | leaves {cmd : DRAMCommand} (alone : Receiving v v') (was : v.dram.readData = some cmd)
      (readData : v'.dram.readData = none) (earlier : cmd.operates = false)
      (atomicCMD : v'.atomicCMD = v.atomicCMD) (left : v'.atomicOperLeft = v.atomicOperLeft)
  | operates {cmd : DRAMCommand} (alone : Receiving v v') (was : v.dram.readData = some cmd)
      (due : v.dram.dataCyclesLeft ≤ 1) (readData : v'.dram.readData = none)
      (isOperation : cmd.operates = true) (atomicCMD : v'.atomicCMD = some cmd)
      (left : v'.atomicOperLeft = 1)

theorem Receiving.of_aside (aside : Aside v v') : Receiving v v' :=
  ⟨by rw [aside.dram], by rw [aside.dram], by rw [aside.dram], aside.commandQueue, aside.cmdBus,
    aside.cmdCyclesLeft, aside.powerDown, aside.downBuffers, aside.dataBus, aside.writeData⟩

theorem returnData_returned (returned : v.returnData = .ok v') : Returned v v' := by
  unfold returnData at returned
  cases isData : v.dram.readData with
  | none =>
    simp only [isData] at returned
    obtain rfl := Outcome.pure_eq_ok.mp returned
    exact .stays ⟨rfl, rfl, rfl, rfl, rfl, rfl, rfl, rfl, rfl, rfl⟩ rfl
      (fun isSome => by rw [isData] at isSome; cases isSome)
      (fun _ other isOther => by rw [isData] at isOther; cases isOther) rfl rfl
  | some cmd =>
    simp only [isData] at returned
    split at returned
    · rename_i due
      obtain ⟨⟨v₁, consumed⟩, isReturned, returned⟩ := Outcome.bind_eq_ok.mp returned
      unfold returnCommand at isReturned
      split at isReturned
      · cases isReturned
      · split at isReturned
        · cases isLast : cmd.lastCMD with
          | false =>
            simp only [isLast] at isReturned
            obtain ⟨rfl, rfl⟩ := Prod.mk.inj (Outcome.pure_eq_ok.mp isReturned)
            obtain rfl := Outcome.pure_eq_ok.mp returned
            exact .leaves ⟨rfl, rfl, rfl, rfl, rfl, rfl, rfl, rfl, rfl, rfl⟩ isData rfl
              (by rw [DRAMCommand.operates, isLast, Bool.and_false]) rfl rfl
          | true =>
            simp only [isLast, if_true] at isReturned
            cases isAtomic : cmd.atomic with
            | true =>
              simp only [isAtomic, if_true] at isReturned
              obtain ⟨rfl, rfl⟩ := Prod.mk.inj (Outcome.pure_eq_ok.mp isReturned)
              obtain rfl := Outcome.pure_eq_ok.mp returned
              exact .operates ⟨rfl, rfl, rfl, rfl, rfl, rfl, rfl, rfl, rfl, rfl⟩ isData (by omega) rfl
                (by rw [DRAMCommand.operates, isLast, isAtomic]; rfl) rfl rfl
            | false =>
              have earlier : cmd.operates = false := by
                rw [DRAMCommand.operates, isAtomic, Bool.false_and]
              simp only [isAtomic, Bool.false_eq_true, if_false] at isReturned
              obtain ⟨⟨v₂, taken⟩, made, isReturned⟩ := Outcome.bind_eq_ok.mp isReturned
              have aside := makeRespondPacket_aside made
              cases taken with
              | true =>
                obtain ⟨rfl, rfl⟩ := Prod.mk.inj (Outcome.pure_eq_ok.mp isReturned)
                obtain rfl := Outcome.pure_eq_ok.mp returned
                have alone := Receiving.of_aside aside
                exact .leaves ⟨alone.bankStates, alone.clock, alone.readReturn, alone.commandQueue,
                  alone.cmdBus, alone.cmdCyclesLeft, alone.powerDown, alone.downBuffers,
                  alone.dataBus, alone.writeData⟩ isData rfl earlier aside.atomicCMD
                  aside.atomicOperLeft
              | false =>
                obtain ⟨rfl, rfl⟩ := Prod.mk.inj (Outcome.pure_eq_ok.mp isReturned)
                obtain rfl := Outcome.pure_eq_ok.mp returned
                have alone := Receiving.of_aside aside
                refine .stays ⟨alone.bankStates, alone.clock, alone.readReturn, alone.commandQueue,
                  alone.cmdBus, alone.cmdCyclesLeft, alone.powerDown, alone.downBuffers,
                  alone.dataBus, alone.writeData⟩ (by rw [aside.dram]; rfl) (fun _ => by rw [aside.dram]; rfl)
                  (fun _ other isOther => ?_) aside.atomicCMD aside.atomicOperLeft
                obtain rfl := Option.some.inj (isData.symm.trans isOther)
                exact earlier
        · cases isReturned
    · rename_i notDue
      obtain rfl := Outcome.pure_eq_ok.mp returned
      exact .stays ⟨rfl, rfl, rfl, rfl, rfl, rfl, rfl, rfl, rfl, rfl⟩ rfl (fun _ => rfl)
        (fun due => absurd due (by omega)) rfl rfl

theorem Returned.reading_subset (returned : Returned v v') : v'.reading ⊆ v.reading := by
  intro cmd member
  simp only [reading_eq, behind, List.mem_append] at member ⊢
  cases returned with
  | stays alone readData _ _ atomicCMD =>
    rw [atomicCMD, readData, alone.readReturn, alone.cmdBus] at member
    exact member
  | leaves alone was readData _ atomicCMD =>
    rw [atomicCMD, readData, alone.readReturn, alone.cmdBus] at member
    simp only [Option.toList_none, List.not_mem_nil, false_or] at member
    exact member.imp_right .inr
  | operates alone was _ readData _ atomicCMD =>
    rw [atomicCMD, readData, alone.readReturn, alone.cmdBus] at member
    simp only [Option.toList_none, List.not_mem_nil, false_or] at member
    rw [was]
    exact .inr (member.imp_right fun rest => rest)

theorem Returned.receiving (returned : Returned v v') : Receiving v v' := by
  cases returned with
  | stays alone | leaves alone | operates alone => exact alone

/-- The next data takes the bus of the DRAM, in the order in which it is returned. -/
theorem takeBus_cases (d : DRAM) :
    (takeBus c d = d ∧ (d.readData = none → (takeBus c d).readData = none)) ∨
      ∃ cmd rest, d.readData = none ∧ d.readReturn = (cmd, 0) :: rest ∧
        takeBus c d = putOnBus c d cmd rest := by
  unfold takeBus
  split
  · rename_i cmd rest isData isReturn
    exact .inr ⟨cmd, rest, isData, isReturn, rfl⟩
  · exact .inl ⟨rfl, id⟩

theorem reading_takeBus (v : VaultController) :
    (v.setDram (countReturns (takeBus c v.dram)).step).reading = v.reading := by
  have counted : ∀ entries : List (DRAMCommand × ℕ),
      (entries.map fun entry => (entry.1, entry.2 - 1)).map Prod.fst = entries.map Prod.fst := by
    intro entries
    simp
  simp only [reading_eq, behind, setDram, DRAM.step, countReturns, counted]
  obtain ⟨same, _⟩ | ⟨cmd, rest, isData, isReturn, same⟩ := takeBus_cases (c := c) v.dram
  · rw [same]
  · rw [same, isData, isReturn]
    simp [putOnBus]

end VaultController

end ActiveRouting

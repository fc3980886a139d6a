import ActiveRouting.Vault.BankTiming
import ActiveRouting.Vault.QueueStages
import ActiveRouting.Vault.ServiceOrder

/-!
# What is on its way for a bank

With a queue for each bank, what a bank is asked for is read off its lock, its queue, the command
bus and the reads that return.
-/

namespace ActiveRouting

open DRAMCommand CommandQueue

/-- What the description of single banks relies on: a queue for each bank, blocks of 64 bytes at
    least, and a refresh that takes no less than the powered-down state at least does. -/
structure PerBank (c : DRAMConfig) : Prop where
  perBank : c.quePerBank = true
  banks : 0 < c.numBanks
  wide : 2 ≤ c.BL
  powerUp : c.tCKE ≤ c.tRFC

/-- What is on its way for a bank: the lock of an atomic, the queue, a command on the bus, and
    the atomics whose data is being read or operated on. -/
structure Work where
  lock : Option ℕ := none
  queue : List DRAMCommand := []
  bus : Option DRAMCommand := none
  pending : List DRAMCommand := []

namespace Work

def deliver (w : Work) : Work := { w with bus := none }

def enqueue (w : Work) (cmds : List DRAMCommand) : Work := { w with queue := w.queue ++ cmds }

/-- A command that is not taken from the queue is put on the bus. -/
def put (w : Work) (bus : Option DRAMCommand) : Work := { w with bus := bus }

/-- A command of the queue is put on the bus, and `rest` is left. -/
def pop (w : Work) (cmd : DRAMCommand) (rest : List DRAMCommand) : Work where
  lock := lockAfter w.lock cmd
  queue := rest
  bus := some cmd
  pending := w.pending ++
    if cmd.commandType.isRead && cmd.operates then [cmd.withType .READ_DATA] else []

/-- The result of an atomic is put in front of the queue. -/
def writeBack (w : Work) (cmd : DRAMCommand) (rest : List DRAMCommand) : Work :=
  { w with queue := cmd :: w.queue, pending := rest }

/-- An atomic ends without a write back. -/
def forget (w : Work) (rest : List DRAMCommand) : Work := { w with pending := rest }

/-- The atomics that will be written back. -/
def held (w : Work) : List DRAMCommand := w.pending.filter DRAMCommand.locks

theorem held_pop (w : Work) (cmd : DRAMCommand) (rest : List DRAMCommand) :
    (w.pop cmd rest).held = w.held ++
      if cmd.commandType.isRead && cmd.operates && cmd.locks then [cmd.withType .READ_DATA]
      else [] := by
  rw [held, pop, List.filter_append, held]
  congr 1
  cases cmd.commandType.isRead && cmd.operates with
  | false => rfl
  | true =>
    rw [if_pos rfl, List.filter_singleton, Bool.cond_eq_ite, Bool.true_and]
    rfl

end Work

/-! ## Rows -/

/-- The commands after which a row stays open. -/
def staysOpen : DRAMCommandType → Bool
  | .ACTIVATE | .READ | .WRITE => true
  | _ => false

/-- An open row that the bank does not close by itself. -/
structure HoldsOpen (row : ℕ) (s : BankState) : Prop where
  isOpen : s.currentBankState = .ROW_ACTIVE
  row : s.openRowAddress = row
  stays : staysOpen s.lastCommand = true

/-- The parts of a bank that its description depends on are the same. -/
structure SameRow (s s' : BankState) : Prop where
  state : s'.currentBankState = s.currentBankState
  row : s'.openRowAddress = s.openRowAddress
  last : s'.lastCommand = s.lastCommand
  countdown : s'.stateChangeCountdown = s.stateChangeCountdown
  activate : s.nextActivate ≤ s'.nextActivate

theorem HoldsOpen.of_sameRow {row : ℕ} {s s' : BankState} (same : SameRow s s')
    (holds : HoldsOpen row s) : HoldsOpen row s' where
  isOpen := same.state.trans holds.isOpen
  row := same.row.trans holds.row
  stays := same.last ▸ holds.stays

namespace BankState

variable {c : DRAMConfig}

/-- A bank that has received no precharging command counts down. -/
theorem update_stays {s : BankState} (stays : staysOpen s.lastCommand = true) :
    s.update c = s.countDown := by
  unfold update
  split
  · cases last : s.lastCommand <;> rw [last] at stays <;> first | rfl | cases stays
  · rfl

theorem update_quiet {s : BankState} (quiet : s.stateChangeCountdown = 0) :
    s.update c = s.countDown := by
  rw [update, if_neg (by rw [quiet]; decide)]

/-- What a command on the bus leaves alone of another bank. -/
theorem receive_other {now b : ℕ} {cmd : DRAMCommand} (s : BankState) (other : b ≠ cmd.bank)
    (notRefresh : cmd.commandType ≠ .REFRESH) : SameRow s (s.receive c now cmd b) := by
  unfold receive
  cases isType : cmd.commandType with
  | ACTIVATE =>
    simp only [if_neg other]
    exact ⟨rfl, rfl, rfl, rfl, le_max_right _ _⟩
  | READ | READ_P | WRITE | WRITE_P | PRECHARGE =>
    simp only [if_neg other]
    exact ⟨rfl, rfl, rfl, rfl, le_refl _⟩
  | REFRESH => exact absurd isType notRefresh
  | READ_DATA | WRITE_DATA | POWERDOWN_ENTRY | POWERDOWN_EXIT =>
    exact ⟨rfl, rfl, rfl, rfl, le_refl _⟩

/-- No command powers a bank down, or changes when it may be powered up. -/
theorem receive_power (now b : ℕ) (cmd : DRAMCommand) (s : BankState) :
    (s.receive c now cmd b).nextPowerUp = s.nextPowerUp ∧
      ((s.receive c now cmd b).currentBankState = .POWERDOWN →
        s.currentBankState = .POWERDOWN) := by
  unfold receive
  cases cmd.commandType with
  | ACTIVATE | PRECHARGE =>
    simp only
    split
    · exact ⟨rfl, fun h => by cases h⟩
    · exact ⟨rfl, id⟩
  | READ | READ_P | WRITE | WRITE_P =>
    simp only
    split
    · exact ⟨rfl, id⟩
    · exact ⟨rfl, id⟩
  | REFRESH => exact ⟨rfl, fun h => by cases h⟩
  | READ_DATA | WRITE_DATA | POWERDOWN_ENTRY | POWERDOWN_EXIT => exact ⟨rfl, id⟩

/-- A cycle neither opens a row nor powers a bank down. -/
theorem update_power (s : BankState) : (s.update c).nextPowerUp = s.nextPowerUp ∧
    (s.update c).nextActivate = s.nextActivate ∧
    ((s.update c).currentBankState = .POWERDOWN → s.currentBankState = .POWERDOWN) ∧
    ((s.update c).currentBankState = .ROW_ACTIVE → s.currentBankState = .ROW_ACTIVE) := by
  have updated := update_cases (c := c) s
  generalize s.update c = s' at updated
  cases updated with
  | close => exact ⟨rfl, rfl, (fun h => by cases h), fun h => by cases h⟩
  | settle => exact ⟨rfl, rfl, (fun h => by cases h), fun h => by cases h⟩
  | count => exact ⟨rfl, rfl, id, id⟩

end BankState

theorem HoldsOpen.update {c : DRAMConfig} {row : ℕ} {s : BankState} (holds : HoldsOpen row s) :
    HoldsOpen row (s.update c) := by
  rw [BankState.update_stays holds.stays]
  exact ⟨holds.isOpen, holds.row, holds.stays⟩

namespace VaultController

variable {c : DRAMConfig} {v v' : VaultController}

/-- The atomics of a bank whose data is on its way or being operated on. -/
def pending (v : VaultController) (b : ℕ) : List DRAMCommand :=
  v.reading.filter fun cmd => cmd.operates && cmd.bank = b

/-- The command on the bus, if it is for a certain bank. -/
def busFor (v : VaultController) (b : ℕ) : Option DRAMCommand :=
  v.cmdBus.filter fun cmd => cmd.commandType ≠ .REFRESH && cmd.bank = b

def work (v : VaultController) (b : ℕ) : Work where
  lock := v.commandQueue.lockState b
  queue := v.commandQueue.queue b
  bus := v.busFor b
  pending := v.pending b

theorem Aside.pending (aside : Aside v v') (b : ℕ) : v'.pending b = v.pending b := by
  rw [VaultController.pending, aside.reading]
  rfl

theorem Aside.work (aside : Aside v v') (b : ℕ) : v'.work b = v.work b := by
  rw [VaultController.work, aside.pending, busFor, aside.commandQueue, aside.cmdBus]
  rfl

theorem work_bus {cmd : DRAMCommand} (onBus : v.cmdBus = some cmd)
    (notRefresh : cmd.commandType ≠ .REFRESH) : (v.work cmd.bank).bus = some cmd := by
  simp [VaultController.work, busFor, onBus, notRefresh]

theorem work_free (free : v.cmdBus = none) (b : ℕ) : (v.work b).bus = none := by
  simp [VaultController.work, busFor, free]

theorem work_received {dram : DRAM} {cmd : DRAMCommand} (onBus : v.cmdBus = some cmd)
    (received : v.dram.receiveCMD c cmd = .ok dram) (b : ℕ) :
    (v.freeCmdBus.setDram dram).work b = (v.work b).deliver := by
  rw [VaultController.work, VaultController.pending, reading_received onBus received]
  rfl

/-! ## A command is issued -/

/-- The reads on their way once a command has been issued. -/
theorem reading_issue (free : v.cmdBus = none) (q : CommandQueue) (cmd : DRAMCommand) :
    ((v.setQueue q).issue c cmd).reading =
      v.reading ++ if cmd.commandType.isRead then [cmd.withType .READ_DATA] else [] := by
  show v.atomicCMD.toList ++ v.dram.readData.toList ++ v.dram.readReturn.map Prod.fst ++
    ((some cmd).toList.filter fun cmd => cmd.commandType.isRead).map _ = _
  rw [reading, free]
  cases isRead : cmd.commandType.isRead with
  | true => simp [isRead]
  | false => simp [isRead]

theorem pending_issue (free : v.cmdBus = none) (q : CommandQueue) (cmd : DRAMCommand) (b : ℕ) :
    ((v.setQueue q).issue c cmd).pending b = v.pending b ++
      if cmd.commandType.isRead && cmd.operates && cmd.bank = b then [cmd.withType .READ_DATA]
      else [] := by
  rw [VaultController.pending, reading_issue free, List.filter_append, VaultController.pending]
  cases isRead : cmd.commandType.isRead with
  | false => simp
  | true =>
    simp only [Bool.true_and, if_true]
    congr 1
    rw [List.filter_singleton, Bool.cond_eq_ite]
    rfl

theorem work_issue {b : ℕ} {q : CommandQueue} {cmd : DRAMCommand} (free : v.cmdBus = none)
    (leaves : Leaves c v.commandQueue v.view b q cmd) (b' : ℕ) :
    ((v.setQueue q).issue c cmd).work b' =
      if b' = b then (v.work b).pop cmd (q.queue b) else v.work b' := by
  obtain rfl := leaves.bank
  have lock : q.lockState b' = _ := leaves.lock b'
  by_cases own : b' = cmd.bank
  · rw [if_pos own]
    subst own
    rw [if_pos rfl] at lock
    simp only [VaultController.work, Work.pop, Work.mk.injEq]
    refine ⟨lock, rfl, ?_, ?_⟩
    · show (some cmd).filter _ = _
      simp [leaves.notRefresh]
    · rw [pending_issue free]
      simp
  · rw [if_neg own]
    rw [if_neg own] at lock
    have other : cmd.bank ≠ b' := fun same => own same.symm
    simp only [VaultController.work, Work.mk.injEq]
    refine ⟨lock, leaves.others b' own, ?_, ?_⟩
    · show (some cmd).filter _ = v.cmdBus.filter _
      simp [free, other]
    · rw [pending_issue free]
      simp [other]

/-- A command that is made, not taken from a queue, and what is on its way for the banks. -/
theorem work_made {q : CommandQueue} {cmd : DRAMCommand} (free : v.cmdBus = none)
    (queue : q.queue = v.commandQueue.queue)
    (lock : ∀ b, q.lockState b = v.commandQueue.lockState b)
    (notRead : cmd.commandType.isRead = false) (b : ℕ) :
    ((v.setQueue q).issue c cmd).work b = (v.work b).put
      ((some cmd).filter fun cmd => cmd.commandType ≠ .REFRESH && cmd.bank = b) := by
  simp only [VaultController.work, Work.put, Work.mk.injEq]
  refine ⟨lock b, congrFun queue b, rfl, ?_⟩
  rw [pending_issue free, notRead]
  simp

/-! ## An atomic ends -/

/-- The atomic in operation is the first of its bank. -/
theorem pending_operating {cmd : DRAMCommand} (atomic : v.atomicCMD = some cmd)
    (operates : cmd.operates = true) (b : ℕ) : v.pending b =
      (if cmd.bank = b then [cmd] else []) ++
        v.behind.filter fun other => other.operates && other.bank = b := by
  rw [VaultController.pending, reading_eq, atomic, List.filter_append]
  congr 1
  by_cases own : cmd.bank = b
  · simp [operates, own]
  · simp [own]

theorem writeBack_locks {cmd : DRAMCommand} (locks : cmd.locks = true) :
    v.writeBack c cmd = v.setQueue (v.commandQueue.pushFront c cmd.bank (atmRstCMD c cmd)) := by
  rw [DRAMCommand.locks, Bool.and_eq_true] at locks
  apply if_neg
  simpa using locks.2

theorem writeBack_ordinary {cmd : DRAMCommand} (operates : cmd.operates = true)
    (ordinary : cmd.locks = false) : v.writeBack c cmd = v := by
  rw [DRAMCommand.operates, Bool.and_eq_true] at operates
  rw [DRAMCommand.locks, operates.1, Bool.true_and] at ordinary
  apply if_pos
  simpa [or_iff_not_imp_left] using ordinary

/-- The result of an atomic is put in front of the queue of its bank, or dropped. -/
theorem work_endAtomic (perBank : c.quePerBank = true) {cmd : DRAMCommand}
    (atomic : v.atomicCMD = some cmd) (operates : cmd.operates = true) (b : ℕ) :
    (v.writeBack c cmd).endAtomic.work b =
      if b = cmd.bank then
        if cmd.locks then (v.work b).writeBack (atmRstCMD c cmd)
          (v.behind.filter fun other => other.operates && other.bank = b)
        else (v.work b).forget
          (v.behind.filter fun other => other.operates && other.bank = b)
      else v.work b := by
  have atBank : index c cmd.bank = cmd.bank := if_pos perBank
  have others : cmd.bank ≠ b → v.endAtomic.pending b = v.pending b := fun other => by
    rw [pending_operating atomic operates, if_neg other]
    simp [VaultController.pending, reading_eq, endAtomic, behind]
  cases locks : cmd.locks with
  | true =>
    rw [writeBack_locks locks]
    by_cases own : b = cmd.bank
    · subst own
      simp only [if_true, VaultController.work, Work.writeBack, Work.mk.injEq]
      refine ⟨rfl, ?_, rfl, ?_⟩
      · simp [endAtomic, setQueue, pushFront, setQue, accessQue, atBank]
      · simp [VaultController.pending, reading_eq, endAtomic, behind, setQueue]
    · rw [if_neg own]
      simp only [VaultController.work, Work.mk.injEq]
      refine ⟨rfl, ?_, rfl, others fun same => own same.symm⟩
      simp [endAtomic, setQueue, pushFront, setQue, atBank, Function.update_of_ne own]
  | false =>
    rw [writeBack_ordinary operates locks]
    by_cases own : b = cmd.bank
    · subst own
      simp only [if_true, Bool.false_eq_true, if_false, VaultController.work, Work.forget,
        Work.mk.injEq]
      refine ⟨rfl, rfl, rfl, ?_⟩
      simp [VaultController.pending, reading_eq, endAtomic, behind]
    · rw [if_neg own]
      simp only [VaultController.work, Work.mk.injEq]
      exact ⟨rfl, rfl, rfl, others fun same => own same.symm⟩

end VaultController

end ActiveRouting

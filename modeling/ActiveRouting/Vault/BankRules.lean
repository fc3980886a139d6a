import ActiveRouting.Library.Run
import ActiveRouting.Vault.BankWork

/-!
# Descriptions of the banks

A description says of each bank, at each time, what state it is in and what is on its way for it.
The rules are what it has to survive; with them it holds in every state between two cycles, under
either page policy.
-/

namespace ActiveRouting

open DRAMCommand CommandQueue VaultController

/-- What a description of single banks survives: each thing that happens to a bank, or to what is
    on its way for it. -/
structure BankRules (c : DRAMConfig) (serves : Packet → Prop)
    (describes : ℕ → ℕ → BankState → Work → Prop) : Prop where
  start (b : ℕ) : describes 0 b {} {}
  sameRow {now b : ℕ} {s s' : BankState} {w : Work} (same : SameRow s s') :
    describes now b s w → describes now b s' w
  receive {now b : ℕ} {s : BankState} {w : Work} {cmd : DRAMCommand} (bus : w.bus = some cmd)
    (bank : cmd.bank = b) : describes now b s w → describes now b (s.receive c now cmd b) w.deliver
  refresh {now b : ℕ} {s : BankState} {w : Work} (closed : s.currentBankState ≠ .ROW_ACTIVE)
    (bus : w.bus = none) : describes now b s w → describes now b (s.refresh c now) w
  update {now b : ℕ} {s : BankState} {w : Work} :
    describes now b s w → describes (now + 1) b (s.update c) w
  enqueue {now b : ℕ} {s : BankState} {w : Work} {packet : Packet} {kind : RequestKind}
    (asked : serves packet) (isKind : requestKind c packet.CMD = some kind)
    (bank : (addressMapping c packet.ADRS).1 = b) :
    describes now b s w → describes now b s (w.enqueue (commands c packet kind))
  powerDown {now b : ℕ} {s : BankState} {w : Work} (idle : s.currentBankState = .IDLE)
    (empty : w.queue = []) : describes now b s w → describes now b (s.powerDown c now) w
  powerUp {now b : ℕ} {s : BankState} {w : Work} (closed : s.currentBankState ≠ .ROW_ACTIVE)
    (bus : ∀ cmd ∈ w.bus, cmd.commandType ≠ .ACTIVATE) :
    describes now b s w → describes now b (s.powerUp c now) w
  /-- A read of the same bank on the bus comes behind the atomic in operation. -/
  writeBack {now b : ℕ} {s : BankState} {w : Work} {cmd : DRAMCommand} {rest : List DRAMCommand}
    (pending : w.pending = cmd :: rest) (bank : cmd.bank = b) (locks : cmd.locks = true)
    (behind : ∀ cmd ∈ w.bus, cmd.commandType = .READ → cmd.operates = true → rest ≠ []) :
    describes now b s w → describes now b s (w.writeBack (atmRstCMD c cmd) rest)
  forget {now b : ℕ} {s : BankState} {w : Work} {cmd : DRAMCommand} {rest : List DRAMCommand}
    (pending : w.pending = cmd :: rest) (ordinary : cmd.locks = false) :
    describes now b s w → describes now b s (w.forget rest)
  /-- A bank that is powered down waits for no change of its state. -/
  quiet {now b : ℕ} {s : BankState} {w : Work} (down : s.currentBankState = .POWERDOWN) :
    describes now b s w → s.stateChangeCountdown = 0
  /-- A bank whose row is not open is not locked. -/
  unlocked {now b : ℕ} {s : BankState} {w : Work} (closed : s.currentBankState ≠ .ROW_ACTIVE)
    (bus : w.bus = none) : describes now b s w → w.lock = none
  /-- A command on the bus has its row open, or its request in the queue. -/
  free {now b : ℕ} {s : BankState} {w : Work} (idle : s.currentBankState = .IDLE)
    (empty : w.queue = []) : describes now b s w → w.bus = none
  /-- At most one atomic of a bank waits for its write back, and it holds the bank. -/
  held {now b : ℕ} {s : BankState} {w : Work} :
    describes now b s w → w.held.length ≤ 1 ∧ (w.lock = none → w.held = [])
  /-- While an atomic waits for its write back the row is open. -/
  isOpen {now b : ℕ} {s : BankState} {w : Work} {cmd : DRAMCommand} (member : cmd ∈ w.held) :
    describes now b s w → s.currentBankState = .ROW_ACTIVE

namespace VaultController

variable {c : DRAMConfig} {serves : Packet → Prop}
  {describes : ℕ → ℕ → BankState → Work → Prop} {v v' : VaultController}

/-! ## The invariant -/

/-- The banks and what is on its way for them, at time `t`. -/
structure Phases (c : DRAMConfig) (serves : Packet → Prop)
    (describes : ℕ → ℕ → BankState → Work → Prop) (t : ℕ) (v : VaultController) : Prop where
  phase : ∀ b < c.numBanks, describes t b (v.bank b) (v.work b)
  packets : ∀ packet ∈ v.downBuffers, serves packet
  issued : v.commandQueue.issuedBank < c.numBanks
  writes : ∀ cmd ∈ v.dataBus.toList ++ v.writeData.map Prod.fst, cmd.commandType = .WRITE_DATA
  operates : ∀ cmd ∈ v.atomicCMD, cmd.operates = true
  inBanks : ∀ cmd ∈ v.reading, cmd.bank < c.numBanks
  capacity : ∀ b < c.numBanks, (v.work b).queue.length + (v.work b).held.length ≤ maxCmdQue

/-- The banks of a vault that is powered down, or has been refreshed since. -/
structure Power (c : DRAMConfig) (v : VaultController) : Prop where
  used : v.powerDown = true → c.useLowPower = true
  awake : v.powerDown = false → ∀ b < c.numBanks, (v.bank b).currentBankState ≠ .POWERDOWN
  closed : v.powerDown = true → ∀ b < c.numBanks, (v.bank b).currentBankState ≠ .ROW_ACTIVE
  bus : v.powerDown = true → ∀ cmd ∈ v.cmdBus, cmd.commandType = .REFRESH
  together : v.powerDown = true → ∀ b < c.numBanks, (v.bank b).nextPowerUp = (v.bank 0).nextPowerUp
  refreshed : v.powerDown = true → ∀ b < c.numBanks, (v.bank b).currentBankState = .POWERDOWN ∨
    (v.bank b).nextPowerUp < (v.bank b).nextActivate

/-- A refresh on the bus meets closed rows. -/
def BusReady (c : DRAMConfig) (v : VaultController) : Prop :=
  ∀ cmd ∈ v.cmdBus, v.cmdCyclesLeft = 1 ∧ cmd.bank < c.numBanks ∧
    (cmd.commandType = .REFRESH → ∀ b < c.numBanks, (v.bank b).currentBankState ≠ .ROW_ACTIVE)

/-- Read data on the bus comes only after the atomic in operation has ended. -/
def Paced (slack : ℕ) (v : VaultController) : Prop :=
  v.atomicCMD.isSome = true → v.atomicOperLeft + slack ≤ 1 ∧
    (v.dram.readData.isSome = true → v.atomicOperLeft + slack < v.dram.dataCyclesLeft)

/-- The state in the middle of a cycle. -/
structure Middle (c : DRAMConfig) (serves : Packet → Prop)
    (describes : ℕ → ℕ → BankState → Work → Prop) (v : VaultController) : Prop extends
    Phases c serves describes v.now v, Power c v where
  paced : Paced 0 v
  soon : v.powerDown = true → (v.bank 0).nextPowerUp < v.now + c.tCKE
  late : v.powerDown = true → ∀ b < c.numBanks, v.commandQueue.queue b ≠ [] →
    v.commandQueue.bufPopDelayPerBank b = 0 → v.now ≤ (v.bank 0).nextPowerUp

/-- A vault that is powered down although there is work cannot be powered up before `t`. -/
def Asleep (c : DRAMConfig) (t : ℕ) (v : VaultController) : Prop :=
  v.powerDown = true → v.commandQueue.refreshWaiting = true ∨
    (∃ b < c.numBanks, v.commandQueue.queue b ≠ []) → t ≤ (v.bank 0).nextPowerUp

/-- The state after `VaultController::Update`, before the banks pass through the cycle. -/
structure Evening (c : DRAMConfig) (serves : Packet → Prop)
    (describes : ℕ → ℕ → BankState → Work → Prop) (v : VaultController) : Prop extends
    Phases c serves describes v.now v, Power c v where
  paced : Paced 1 v
  ready : BusReady c v
  soon : v.powerDown = true → (v.bank 0).nextPowerUp ≤ v.now + c.tCKE
  asleep : Asleep c (v.now + 1) v

/-- The state between two cycles. -/
structure Closing (c : DRAMConfig) (serves : Packet → Prop)
    (describes : ℕ → ℕ → BankState → Work → Prop) (v : VaultController) : Prop extends
    Middle c serves describes v where
  ready : BusReady c v

namespace Aside

theorem phases {t : ℕ} (aside : Aside v v') (phases : Phases c serves describes t v) :
    Phases c serves describes t v' where
  phase b inBanks := by
    rw [aside.bank, aside.work]
    exact phases.phase b inBanks
  packets := aside.downBuffers ▸ phases.packets
  issued := aside.commandQueue ▸ phases.issued
  writes := by
    rw [aside.dataBus, aside.writeData]
    exact phases.writes
  operates := aside.atomicCMD ▸ phases.operates
  inBanks := by
    rw [aside.reading]
    exact phases.inBanks
  capacity b inBanks := by
    rw [aside.work]
    exact phases.capacity b inBanks

theorem power (aside : Aside v v') (power : Power c v) : Power c v' where
  used := aside.powerDown ▸ power.used
  awake := by
    simp only [aside.powerDown, aside.bank]
    exact power.awake
  closed := by
    simp only [aside.powerDown, aside.bank]
    exact power.closed
  bus := by
    simp only [aside.powerDown, aside.cmdBus]
    exact power.bus
  together := by
    simp only [aside.powerDown, aside.bank]
    exact power.together
  refreshed := by
    simp only [aside.powerDown, aside.bank]
    exact power.refreshed

theorem middle (aside : Aside v v') (middle : Middle c serves describes v) :
    Middle c serves describes v' where
  toPhases := aside.now ▸ aside.phases middle.toPhases
  toPower := aside.power middle.toPower
  paced := by
    simp only [Paced, aside.atomicCMD, aside.atomicOperLeft, aside.dram]
    exact middle.paced
  soon := by
    simp only [aside.powerDown, aside.bank, aside.now]
    exact middle.soon
  late := by
    simp only [aside.powerDown, aside.bank, aside.now, aside.commandQueue]
    exact middle.late

theorem closing (aside : Aside v v') (closing : Closing c serves describes v) :
    Closing c serves describes v' where
  toMiddle := aside.middle closing.toMiddle
  ready cmd onBus := by
    rw [aside.cmdBus] at onBus
    simp only [aside.cmdCyclesLeft, aside.bank]
    exact closing.ready cmd onBus

end Aside

end VaultController

end ActiveRouting

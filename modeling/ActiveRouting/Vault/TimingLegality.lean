import ActiveRouting.Library.Run
import ActiveRouting.Vault.BankTiming

/-!
# Timing legality of a DRAM

A DRAM between the command bus of its vault and the power-down switch, driven by
any commands that the command queue may issue and any power-downs and power-ups.
A log keeps what was issued and received when, and when a precharge began.
-/

namespace ActiveRouting

/-- What the log of a DRAM records, with the time and the banks at that time. -/
inductive TimingEvent where
  | issued (time : ℕ) (cmd : DRAMCommand) (banks : ℕ → BankState)
  | received (time : ℕ) (cmd : DRAMCommand) (banks : ℕ → BankState)
  | precharging (time : ℕ) (bank : ℕ)

/-- A DRAM, the command bus to it and the flag of `EnablePowerdown`. -/
structure DramSystem where
  dram : DRAM := {}
  cmdBus : Option DRAMCommand := none
  powerDown : Bool := false
  log : List TimingEvent := []

/-- A command that a queue issues, with the spaces that it looks at. -/
structure Issue where
  queue : CommandQueue := {}
  pendingDataSize : ℕ := 0
  upBufferMax : ℕ := 32
  upBuffersSize : ℕ := 0
  cmd : DRAMCommand

/-- What `EnablePowerdown` attempts in a cycle. -/
inductive PowerSwitch where
  | leave | down | up
  deriving DecidableEq

namespace DramSystem

variable (c : DRAMConfig)

def now (s : DramSystem) : ℕ := s.dram.currentClockCycle

def bank (s : DramSystem) (b : ℕ) : BankState := s.dram.bankStates b

/-! ## A cycle -/

def record (cmd : DRAMCommand) (s : DramSystem) (dram : DRAM) : DramSystem :=
  { s with
    dram := dram
    cmdBus := none
    log := (if cmd.commandType = .PRECHARGE then [.precharging s.now cmd.bank] else []) ++
      .received s.now cmd s.dram.bankStates :: s.log }

/-- The command on the bus is received. -/
def deliver (s : DramSystem) : Except VaultError DramSystem :=
  match s.cmdBus with
  | none => pure s
  | some cmd => do
    let dram ← s.dram.receiveCMD c cmd
    pure (s.record cmd dram)

/-- What the queue sees of the vault. -/
def view (s : DramSystem) (issue : Issue) : VaultView where
  bankStates := s.dram.bankStates
  currentClockCycle := s.now
  pendingDataSize := issue.pendingDataSize
  upBufferMax := issue.upBufferMax
  upBuffersSize := issue.upBuffersSize

/-- The queue may issue a command: it is issuable, a refresh that no bank stands in
    the way of, or the precharge of an open row. -/
def mayIssue (s : DramSystem) (issue : Issue) : Bool :=
  issue.cmd.bank < c.numBanks &&
    match issue.cmd.commandType with
    | .REFRESH =>
      ((List.range c.numBanks).all fun b => (s.bank b).currentBankState ≠ .ROW_ACTIVE &&
        (s.bank b).nextActivate ≤ s.now) && (s.bank 0).currentBankState ≠ .POWERDOWN
    | .PRECHARGE =>
      (s.bank issue.cmd.bank).currentBankState = .ROW_ACTIVE &&
        (s.bank issue.cmd.bank).nextPrecharge ≤ s.now
    | _ =>
      match issue.queue.isIssuable c (s.view issue) issue.cmd with
      | .ok issuable => issuable
      | .error _ => false

def putOnBus (s : DramSystem) (cmd : DRAMCommand) : DramSystem :=
  { s with
    cmdBus := some cmd
    log := .issued s.now cmd s.dram.bankStates :: s.log }

def issue (s : DramSystem) : Option Issue → Except VaultError DramSystem
  | none => pure s
  | some issue => if s.mayIssue c issue then pure (s.putOnBus issue.cmd) else throw .assertion

def setPower (s : DramSystem) (dram : DRAM) (powerDown : Bool) : DramSystem :=
  { s with dram := dram, powerDown := powerDown }

/-- The two branches of `EnablePowerdown`. -/
def switchPower (s : DramSystem) : PowerSwitch → DramSystem
  | .leave => s
  | .down =>
    match s.dram.powerDown c with
    | (dram, true) => s.setPower dram true
    | (_, false) => s
  | .up =>
    if s.powerDown && (s.bank 0).nextPowerUp ≤ s.now then s.setPower (s.dram.powerUp c) false
    else s

/-- The bank begins to precharge by itself. -/
def closesItself (s : BankState) : Bool :=
  s.stateChangeCountdown = 1 && (s.lastCommand = .READ_P || s.lastCommand = .WRITE_P)

/-- `DRAM::Update`, as far as it concerns the banks. -/
def tick (s : DramSystem) : DramSystem :=
  { s with
    dram := (s.dram.updateBanks c).step
    log := ((List.range c.numBanks).filter fun b => closesItself (s.bank b)).map
      (.precharging s.now) ++ s.log }

/-- A cycle: the bus, the queue, the power-down switch and the banks. -/
def step (s : DramSystem) (action : Option Issue × PowerSwitch) :
    Except VaultError DramSystem := do
  let s ← s.deliver c
  let s ← s.issue c action.1
  pure ((s.switchPower c action.2).tick c)

/-! ## Legality -/

/-- A command is for its bank, and a refresh for all. -/
def Targets (cmd : DRAMCommand) (b : ℕ) : Prop := cmd.commandType = .REFRESH ∨ b = cmd.bank

/-- No bank that a command is for is refreshing or powered down. -/
def AllAwake (cmd : DRAMCommand) (banks : ℕ → BankState) : Prop :=
  ∀ b < c.numBanks, Targets cmd b →
    (banks b).currentBankState ≠ .REFRESHING ∧ (banks b).currentBankState ≠ .POWERDOWN

/-- The distance that an activation keeps from an earlier one. -/
def activateDistance (earlier later : DRAMCommand) : ℕ :=
  if earlier.bank = later.bank then c.tRC else c.tRRD

/-- What an event has to respect of those before it. -/
def Allowed : TimingEvent → List TimingEvent → Prop
  | .issued _ cmd banks, _ => AllAwake c cmd banks
  | .received time cmd banks, earlier =>
    AllAwake c cmd banks ∧
      ∀ event ∈ earlier, match event with
        | .received before other _ => other.commandType = .ACTIVATE →
          (cmd.commandType = .ACTIVATE → before + activateDistance c other cmd ≤ time) ∧
          (cmd.commandType.isRead = true ∨ cmd.commandType.isWrite = true →
            other.bank = cmd.bank → before + c.tRCD ≤ time)
        | .precharging start b => cmd.commandType = .ACTIVATE → b = cmd.bank →
          start + c.tRP ≤ time
        | .issued _ _ _ => True
  | .precharging _ _, _ => True

/-- Every event of a log respects those before it. -/
def Legal : List TimingEvent → Prop
  | [] => True
  | event :: earlier => Allowed c event earlier ∧ Legal earlier

/-- No time of a bank is earlier in the second state. -/
def TimesKept (s s' : DramSystem) : Prop :=
  ∀ b < c.numBanks, BankState.Later (s.bank b) (s'.bank b)

/-! ## What the DRAM relies on -/

/-- The banks once the command on the bus has been received. -/
def bankNext (s : DramSystem) (b : ℕ) : BankState :=
  match s.cmdBus with
  | none => s.bank b
  | some cmd => (s.bank b).receive c s.now cmd b

/-- The condition on a cycle: a closing read or write does not lower the column
    times of its bank, a refresh is issued to idle banks, the banks are not powered
    down while a command is on its way, and they are not powered up before their
    next activation is due. -/
def Respects (s : DramSystem) (action : Option Issue × PowerSwitch) (_ : DramSystem) : Prop :=
  (∀ cmd ∈ s.cmdBus, BankState.InTime c s.now cmd (s.bank cmd.bank)) ∧
  (∀ issue ∈ action.1, issue.cmd.commandType = .REFRESH →
    ∀ b < c.numBanks, (bankNext c s b).currentBankState = .IDLE) ∧
  (action.2 = .down → (∀ b < c.numBanks, (bankNext c s b).currentBankState = .IDLE) →
    action.1 = none) ∧
  (action.2 = .up → s.powerDown = true →
    ∀ b < c.numBanks, (s.bank b).nextActivate ≤ s.now + c.tXP)

instance (s s' : DramSystem) (action : Option Issue × PowerSwitch) :
    Decidable (Respects c s action s') := by
  unfold Respects
  infer_instance

/-! ## The invariant -/

variable {c}

/-- What the bank of a command is in when it is issued. -/
def Opens (cmd : DRAMCommand) (s : BankState) : Prop :=
  if cmd.commandType = .ACTIVATE ∨ cmd.commandType = .REFRESH then s.currentBankState = .IDLE
  else s.currentBankState = .ROW_ACTIVE

/-- A command on the bus meets banks in a certain state, at a time when it is allowed. -/
structure Ready (c : DRAMConfig) (meets : DRAMCommand → BankState → Prop) (s : DramSystem)
    (cmd : DRAMCommand) : Prop where
  bound : cmd.bank < c.numBanks
  meets : ∀ b < c.numBanks, Targets cmd b → meets cmd (s.bank b)
  activate : ∀ b < c.numBanks, Targets cmd b →
    cmd.commandType = .ACTIVATE ∨ cmd.commandType = .REFRESH → (s.bank b).nextActivate ≤ s.now
  read : cmd.commandType.isRead = true → (s.bank cmd.bank).nextRead ≤ s.now
  write : cmd.commandType.isWrite = true → (s.bank cmd.bank).nextWrite ≤ s.now

/-- What an activation at time `before` keeps the banks from. -/
def Holds (c : DRAMConfig) (before : ℕ) (cmd : DRAMCommand) (b : ℕ) (s : BankState) : Prop :=
  if b = cmd.bank then
    before + c.tRC ≤ s.nextActivate ∧ before + c.tRCD ≤ s.nextRead ∧
      before + c.tRCD ≤ s.nextWrite
  else before + c.tRRD ≤ s.nextActivate

theorem Holds.later {before b : ℕ} {cmd : DRAMCommand} {s s' : BankState}
    (holds : Holds c before cmd b s) (later : BankState.Later s s') : Holds c before cmd b s' := by
  unfold Holds at holds ⊢
  split
  · rename_i own
    rw [if_pos own] at holds
    exact ⟨holds.1.trans later.nextActivate, holds.2.1.trans later.nextRead,
      holds.2.2.trans later.nextWrite⟩
  · rename_i other
    rw [if_neg other] at holds
    exact holds.trans later.nextActivate

/-- The invariant of the system. -/
structure Timed (c : DRAMConfig) (meets : DRAMCommand → BankState → Prop) (s : DramSystem) :
    Prop where
  sound : ∀ b < c.numBanks, BankState.Sound c s.now (s.bank b)
  held : ∀ before cmd banks, .received before cmd banks ∈ s.log → cmd.commandType = .ACTIVATE →
    ∀ b < c.numBanks, Holds c before cmd b (s.bank b)
  precharged : ∀ start b, .precharging start b ∈ s.log → b < c.numBanks →
    start ≤ s.now ∧ BankState.Precharged c s.now start (s.bank b)
  legal : Legal c s.log
  asleep : s.powerDown = true → s.cmdBus = none ∧
    ∀ b < c.numBanks, (s.bank b).currentBankState = .POWERDOWN
  awake : s.powerDown = false → ∀ b < c.numBanks, (s.bank b).currentBankState ≠ .POWERDOWN
  bus : ∀ cmd ∈ s.cmdBus, Ready c meets s cmd

/-! ## The command on the bus -/

theorem receive_awake {now b : ℕ} {cmd : DRAMCommand} {s : BankState}
    (awake : s.currentBankState ≠ .POWERDOWN) :
    (s.receive c now cmd b).currentBankState ≠ .POWERDOWN := by
  unfold BankState.receive
  cases cmd.commandType with
  | ACTIVATE =>
    simp only
    split
    · exact fun h => nomatch h
    · exact awake
  | READ | READ_P | WRITE | WRITE_P =>
    simp only
    split <;> exact awake
  | PRECHARGE =>
    simp only
    split
    · exact fun h => nomatch h
    · exact awake
  | REFRESH => exact fun h => nomatch h
  | READ_DATA | WRITE_DATA | POWERDOWN_ENTRY | POWERDOWN_EXIT => exact awake

/-- A command is not issued to a bank that refreshes or sleeps. -/
theorem Ready.allAwake {s : DramSystem} {cmd : DRAMCommand}
    (ready : Ready c BankState.Meets s cmd) : AllAwake c cmd s.dram.bankStates := by
  intro b bound targets
  have meets := ready.meets b bound targets
  unfold BankState.Meets at meets
  change (s.bank b).currentBankState ≠ _ ∧ (s.bank b).currentBankState ≠ _
  split at meets
  · rw [meets]
    decide
  · cases meets with
    | inl isOpen => rw [isOpen]; decide
    | inr closing => rw [closing]; decide

/-- An activation, once received, holds the banks back. -/
theorem receive_holds {now b : ℕ} {cmd : DRAMCommand} (isActivate : cmd.commandType = .ACTIVATE)
    (s : BankState) : Holds c now cmd b (s.receive c now cmd b) := by
  unfold Holds BankState.receive
  rw [isActivate]
  simp only
  split
  · exact ⟨le_max_left _ _, le_max_left _ _, le_max_left _ _⟩
  · exact le_max_left _ _

/-- A command that is ready respects all earlier events. -/
theorem Ready.allowed {s : DramSystem} {cmd : DRAMCommand} (timed : Timed c BankState.Meets s)
    (ready : Ready c BankState.Meets s cmd) :
    Allowed c (.received s.now cmd s.dram.bankStates) s.log := by
  refine ⟨ready.allAwake, fun event member => ?_⟩
  have own : Targets cmd cmd.bank := .inr rfl
  cases event with
  | issued => trivial
  | received before other banks =>
    intro isActivate
    have holds := timed.held before other banks member isActivate cmd.bank ready.bound
    unfold Holds at holds
    constructor
    · intro activates
      have due := ready.activate cmd.bank ready.bound own (.inl activates)
      unfold activateDistance
      by_cases sameBank : cmd.bank = other.bank
      · rw [if_pos sameBank] at holds
        rw [if_pos sameBank.symm]
        exact holds.1.trans due
      · rw [if_neg sameBank] at holds
        rw [if_neg (Ne.symm sameBank)]
        exact holds.trans due
    · intro column sameBank
      rw [if_pos sameBank.symm] at holds
      cases column with
      | inl isRead => exact holds.2.1.trans (ready.read isRead)
      | inr isWrite => exact holds.2.2.trans (ready.write isWrite)
  | precharging start b =>
    intro activates sameBank
    have precharged := (timed.precharged start b member (sameBank ▸ ready.bound)).2
    have meets := ready.meets cmd.bank ready.bound own
    unfold BankState.Meets at meets
    rw [if_pos (.inl activates), ← sameBank] at meets
    exact precharged.ended (by rw [meets]; decide)

/-- The precharge that a command starts, if it does. -/
theorem record_log (cmd : DRAMCommand) (s : DramSystem) (dram : DRAM) (event : TimingEvent) :
    event ∈ (s.record cmd dram).log ↔
      cmd.commandType = .PRECHARGE ∧ event = .precharging s.now cmd.bank ∨
        event = .received s.now cmd s.dram.bankStates ∨ event ∈ s.log := by
  unfold record
  simp only [List.mem_append, List.mem_cons]
  split
  · rename_i isPrecharge
    simp [isPrecharge]
  · rename_i notPrecharge
    simp [notPrecharge]

/-- With nothing on the bus, what a command would meet does not matter. -/
theorem Timed.of_free {meets meets' : DRAMCommand → BankState → Prop} {s : DramSystem}
    (timed : Timed c meets s) (free : s.cmdBus = none) : Timed c meets' s :=
  { timed with bus := fun cmd onBus => by rw [free] at onBus; cases onBus }

/-- What a command does to the banks keeps their times. -/
theorem Ready.later {s : DramSystem} {cmd : DRAMCommand} (ready : Ready c BankState.Meets s cmd)
    (inTime : BankState.InTime c s.now cmd (s.bank cmd.bank)) {b : ℕ} (bound : b < c.numBanks) :
    BankState.Later (s.bank b) ((s.bank b).receive c s.now cmd b) := by
  apply BankState.receive_later
  · intro own
    rw [own]
    exact inTime
  · intro isRefresh
    exact ready.activate b bound (.inl isRefresh) (.inr isRefresh)

/-- Receiving a command keeps the invariant, and the bus is free afterwards. -/
theorem record_timed {s : DramSystem} {cmd : DRAMCommand} {dram : DRAM}
    (timed : Timed c BankState.Meets s) (onBus : s.cmdBus = some cmd)
    (inTime : BankState.InTime c s.now cmd (s.bank cmd.bank))
    (received : s.dram.receiveCMD c cmd = .ok dram) :
    Timed c Opens (s.record cmd dram) := by
  have ready := timed.bus cmd onBus
  obtain ⟨banks, sameClock, _⟩ := DRAM.receiveCMD_eq_ok received
  have bank : ∀ b, (s.record cmd dram).bank b = (s.bank b).receive c s.now cmd b := fun b =>
    congrFun banks b
  have clock : (s.record cmd dram).now = s.now := sameClock
  have meets : ∀ b < c.numBanks, b = cmd.bank ∨ cmd.commandType = .REFRESH →
      BankState.Meets cmd (s.bank b) := fun b bound own => ready.meets b bound own.symm
  have isAwake : s.powerDown = false := by
    cases down : s.powerDown with
    | false => rfl
    | true =>
      have free := (timed.asleep down).1
      rw [onBus] at free
      cases free
  refine {
    sound := fun b bound => ?_
    held := fun before other banks member isActivate b bound => ?_
    precharged := fun start b member bound => ?_
    legal := ?_
    asleep := fun down => absurd (isAwake ▸ down) Bool.false_ne_true
    awake := fun _ b bound => ?_
    bus := fun _ member => (nomatch member) }
  · rw [bank, clock]
    exact BankState.receive_sound (timed.sound b bound) (meets b bound)
  · rw [bank]
    rcases (record_log cmd s dram _).mp member with ⟨_, isPrecharge⟩ | isThis | earlier
    · cases isPrecharge
    · cases isThis
      exact receive_holds isActivate (s.bank b)
    · exact (timed.held before other banks earlier isActivate b bound).later
        (ready.later inTime bound)
  · rw [bank, clock]
    rcases (record_log cmd s dram _).mp member with ⟨isPrecharge, isThis⟩ | isReceived | earlier
    · cases isThis
      refine ⟨le_refl _, .inr ?_⟩
      unfold BankState.receive
      rw [isPrecharge]
      simp only [if_true]
      exact ⟨rfl, (fun h => nomatch h), (fun h => nomatch h), fun _ => le_refl _⟩
    · cases isReceived
    · obtain ⟨before, precharged⟩ := timed.precharged start b earlier bound
      exact ⟨before, BankState.receive_precharged precharged before (meets b bound)⟩
  · have legal : Legal c (.received s.now cmd s.dram.bankStates :: s.log) :=
      ⟨ready.allowed timed, timed.legal⟩
    unfold record
    simp only
    split
    · exact ⟨trivial, legal⟩
    · exact legal
  · rw [bank]
    exact receive_awake (timed.awake isAwake b bound)

/-- The first part of a cycle. -/
theorem deliver_timed {s s' : DramSystem} (timed : Timed c BankState.Meets s)
    (inTime : ∀ cmd ∈ s.cmdBus, BankState.InTime c s.now cmd (s.bank cmd.bank))
    (delivered : s.deliver c = .ok s') :
    Timed c Opens s' ∧ s'.cmdBus = none ∧ TimesKept c s s' ∧ s'.now = s.now ∧
      s'.powerDown = s.powerDown ∧ ∀ b, s'.bank b = bankNext c s b := by
  unfold deliver at delivered
  unfold bankNext
  cases onBus : s.cmdBus with
  | none =>
    rw [onBus] at delivered
    obtain rfl := Outcome.pure_eq_ok.mp delivered
    exact ⟨timed.of_free onBus, onBus, fun b _ => .refl _, rfl, rfl, fun b => rfl⟩
  | some cmd =>
    simp only [onBus] at delivered
    obtain ⟨dram, received, delivered⟩ := Outcome.bind_eq_ok.mp delivered
    obtain rfl := Outcome.pure_eq_ok.mp delivered
    have ready := timed.bus cmd onBus
    obtain ⟨banks, sameClock, _⟩ := DRAM.receiveCMD_eq_ok received
    have bank : ∀ b, (s.record cmd dram).bank b = (s.bank b).receive c s.now cmd b := fun b =>
      congrFun banks b
    refine ⟨record_timed timed onBus (inTime cmd onBus) received, rfl, fun b bound => ?_,
      sameClock, rfl, bank⟩
    rw [bank]
    exact ready.later (inTime cmd onBus) bound

/-! ## The queue -/

/-- What `CmdPop` takes from its queues, the system may issue. -/
theorem mayIssue_of_cmdPop {s : DramSystem} {issue : Issue} {q' : CommandQueue}
    (bound : issue.cmd.bank < c.numBanks)
    (popped : issue.queue.cmdPop c (s.view issue) = .ok (q', some issue.cmd)) :
    s.mayIssue c { issue with queue := issue.queue.countTFAW } = true := by
  obtain ⟨_, chosen⟩ := CommandQueue.cmdPop_eq_some popped
  unfold mayIssue
  rw [Bool.and_eq_true, decide_eq_true_iff]
  refine ⟨bound, ?_⟩
  generalize issue.cmd = cmd at chosen
  cases chosen with
  | queued i member issuable =>
    cases isType : cmd.commandType with
    | REFRESH =>
      rw [CommandQueue.isIssuable, isType] at issuable
      cases issuable
    | PRECHARGE =>
      rw [CommandQueue.isIssuable, isType] at issuable
      exact Except.ok.inj issuable
    | ACTIVATE | READ | READ_P | WRITE | WRITE_P | READ_DATA | WRITE_DATA | POWERDOWN_ENTRY
    | POWERDOWN_EXIT =>
      show (match issue.queue.countTFAW.isIssuable c (s.view issue) cmd with
        | .ok issuable => issuable
        | .error _ => false) = true
      rw [issuable]
  | refresh _ closed awake =>
    simp only [CommandQueue.refreshCMD, Bool.and_eq_true, List.all_eq_true, List.mem_range,
      decide_eq_true_iff]
    exact ⟨closed, awake⟩
  | precharge b isOpen due =>
    simp only [CommandQueue.prechargeCMD, Bool.and_eq_true]
    exact ⟨decide_eq_true isOpen, decide_eq_true due⟩

/-- What the queue may issue is ready, if a refresh finds all banks idle. -/
theorem mayIssue_ready {s : DramSystem} {issue : Issue} (timed : Timed c Opens s)
    (may : s.mayIssue c issue = true)
    (refresh : issue.cmd.commandType = .REFRESH →
      ∀ b < c.numBanks, (s.bank b).currentBankState = .IDLE) : Ready c Opens s issue.cmd := by
  unfold mayIssue at may
  rw [Bool.and_eq_true, decide_eq_true_iff] at may
  obtain ⟨bound, may⟩ := may
  have own : ∀ {b}, issue.cmd.commandType ≠ .REFRESH → Targets issue.cmd b → b = issue.cmd.bank :=
    fun notRefresh targets => targets.resolve_left notRefresh
  cases isType : issue.cmd.commandType with
  | REFRESH =>
    simp only [isType, Bool.and_eq_true, List.all_eq_true, List.mem_range, decide_eq_true_iff]
      at may
    exact {
      bound := bound
      meets := fun b bounded _ => by
        unfold Opens
        rw [if_pos (.inr isType)]
        exact refresh isType b bounded
      activate := fun b bounded _ _ => (may.1 b bounded).2
      read := fun isRead => by rw [isType] at isRead; cases isRead
      write := fun isWrite => by rw [isType] at isWrite; cases isWrite }
  | PRECHARGE =>
    simp only [isType, Bool.and_eq_true, decide_eq_true_iff] at may
    exact {
      bound := bound
      meets := fun b bounded targets => by
        obtain rfl := own (by rw [isType]; decide) targets
        unfold Opens
        rw [if_neg (by rw [isType]; decide)]
        exact may.1
      activate := fun b bounded _ activates => by
        rw [isType] at activates
        cases activates with
        | inl h => cases h
        | inr h => cases h
      read := fun isRead => by rw [isType] at isRead; cases isRead
      write := fun isWrite => by rw [isType] at isWrite; cases isWrite }
  | ACTIVATE =>
    simp only [isType, CommandQueue.isIssuable, Bool.and_eq_true, Bool.or_eq_true,
      decide_eq_true_iff] at may
    have due : (s.bank issue.cmd.bank).nextActivate ≤ s.now := may.1.2
    have idle : (s.bank issue.cmd.bank).currentBankState = .IDLE := by
      cases may.1.1 with
      | inl idle => exact idle
      | inr refreshing =>
        obtain ⟨_, positive, before⟩ := (timed.sound _ bound).refreshing refreshing
        omega
    exact {
      bound := bound
      meets := fun b bounded targets => by
        obtain rfl := own (by rw [isType]; decide) targets
        unfold Opens
        rw [if_pos (.inl isType)]
        exact idle
      activate := fun b bounded targets _ => by
        obtain rfl := own (by rw [isType]; decide) targets
        exact due
      read := fun isRead => by rw [isType] at isRead; cases isRead
      write := fun isWrite => by rw [isType] at isWrite; cases isWrite }
  | READ | READ_P =>
    simp only [isType, CommandQueue.isIssuable, Bool.and_eq_true, decide_eq_true_iff] at may
    exact {
      bound := bound
      meets := fun b bounded targets => by
        obtain rfl := own (by rw [isType]; decide) targets
        unfold Opens
        rw [if_neg (by rw [isType]; decide)]
        exact may.1.1.1.1
      activate := fun b bounded _ activates => by
        rw [isType] at activates
        cases activates with
        | inl h => cases h
        | inr h => cases h
      read := fun _ => may.1.1.1.2
      write := fun isWrite => by rw [isType] at isWrite; cases isWrite }
  | WRITE | WRITE_P =>
    simp only [isType, CommandQueue.isIssuable, Bool.and_eq_true, decide_eq_true_iff] at may
    exact {
      bound := bound
      meets := fun b bounded targets => by
        obtain rfl := own (by rw [isType]; decide) targets
        unfold Opens
        rw [if_neg (by rw [isType]; decide)]
        exact may.1.1.1.1
      activate := fun b bounded _ activates => by
        rw [isType] at activates
        cases activates with
        | inl h => cases h
        | inr h => cases h
      read := fun isRead => by rw [isType] at isRead; cases isRead
      write := fun _ => may.1.1.1.2 }
  | READ_DATA | WRITE_DATA | POWERDOWN_ENTRY | POWERDOWN_EXIT =>
    simp only [isType, CommandQueue.isIssuable] at may
    cases may

/-- A command that is issued finds its banks awake. -/
theorem Ready.opens_awake {s : DramSystem} {cmd : DRAMCommand} (ready : Ready c Opens s cmd) :
    AllAwake c cmd s.dram.bankStates := by
  intro b bound targets
  have opens := ready.meets b bound targets
  unfold Opens at opens
  change (s.bank b).currentBankState ≠ _ ∧ (s.bank b).currentBankState ≠ _
  split at opens <;> (rw [opens]; decide)

/-- The second part of a cycle. -/
theorem issue_timed {s s' : DramSystem} {action : Option Issue} (timed : Timed c Opens s)
    (free : s.cmdBus = none)
    (refresh : ∀ issue ∈ action, issue.cmd.commandType = .REFRESH →
      ∀ b < c.numBanks, (s.bank b).currentBankState = .IDLE)
    (issued : s.issue c action = .ok s') :
    Timed c Opens s' ∧ s'.dram = s.dram ∧ s'.powerDown = s.powerDown ∧
      (action = none → s'.cmdBus = none) := by
  cases action with
  | none =>
    obtain rfl := Outcome.pure_eq_ok.mp issued
    exact ⟨timed, rfl, rfl, fun _ => free⟩
  | some issue =>
    unfold DramSystem.issue at issued
    simp only at issued
    split at issued
    · rename_i may
      obtain rfl := Outcome.pure_eq_ok.mp issued
      have ready := mayIssue_ready timed may (refresh issue rfl)
      have own : Targets issue.cmd issue.cmd.bank := .inr rfl
      refine ⟨?_, rfl, rfl, fun isNone => (nomatch isNone)⟩
      refine { timed with
        held := fun before cmd banks member isActivate => ?_
        precharged := fun start b member => ?_
        legal := ⟨ready.opens_awake, timed.legal⟩
        asleep := fun down => ?_
        bus := fun cmd onBus => ?_ }
      · cases List.mem_cons.mp member with
        | inl isIssued => cases isIssued
        | inr earlier => exact timed.held before cmd banks earlier isActivate
      · cases List.mem_cons.mp member with
        | inl isIssued => cases isIssued
        | inr earlier => exact timed.precharged start b earlier
      · have asleep := (ready.opens_awake _ ready.bound own).2
        exact absurd ((timed.asleep down).2 _ ready.bound) asleep
      · cases onBus
        exact ⟨ready.bound, ready.meets, ready.activate, ready.read, ready.write⟩
    · cases issued

/-! ## The power-down switch -/

theorem powerDown_eq_true {d dram : DRAM} (down : d.powerDown c = (dram, true)) :
    (∀ b < c.numBanks, (d.bankStates b).currentBankState = .IDLE) ∧
      dram = d.mapBanks fun _ => BankState.powerDown c d.currentClockCycle := by
  unfold DRAM.powerDown at down
  split at down
  · rename_i idle
    cases down
    simp only [DRAM.allBanks, List.all_eq_true, List.mem_range, decide_eq_true_iff] at idle
    exact ⟨idle, rfl⟩
  · cases down

/-- Powering down keeps the invariant when nothing is on the bus. -/
theorem down_timed {s : DramSystem} {dram : DRAM} (timed : Timed c Opens s)
    (down : s.dram.powerDown c = (dram, true)) (free : s.cmdBus = none) :
    Timed c Opens (s.setPower dram true) ∧ TimesKept c s (s.setPower dram true) := by
  obtain ⟨idle, rfl⟩ := powerDown_eq_true down
  constructor
  · exact {
      sound := fun b bound => BankState.powerDown_sound (timed.sound b bound) (idle b bound)
      held := fun before cmd banks member isActivate b bound =>
        (timed.held before cmd banks member isActivate b bound).later
          (BankState.powerDown_later (timed.sound b bound).powerUp)
      precharged := fun start b member bound => by
        obtain ⟨before, precharged⟩ := timed.precharged start b member bound
        have idle : (s.bank b).currentBankState = .IDLE := idle b bound
        exact ⟨before, .inl (precharged.ended (by rw [idle]; decide))⟩
      legal := timed.legal
      asleep := fun _ => ⟨free, fun b bound => rfl⟩
      awake := fun isAwake => (nomatch isAwake)
      bus := fun cmd onBus => by
        change cmd ∈ s.cmdBus at onBus
        rw [free] at onBus
        cases onBus }
  · exact fun b bound => BankState.powerDown_later (timed.sound b bound).powerUp

/-- Powering up keeps the invariant when no activation is due later. -/
theorem up_timed {s : DramSystem} (timed : Timed c Opens s) (down : s.powerDown = true)
    (due : ∀ b < c.numBanks, (s.bank b).nextActivate ≤ s.now + c.tXP) :
    Timed c Opens (s.setPower (s.dram.powerUp c) false) ∧
      TimesKept c s (s.setPower (s.dram.powerUp c) false) := by
  obtain ⟨free, asleep⟩ := timed.asleep down
  constructor
  · exact {
      sound := fun b bound => BankState.powerUp_sound (timed.sound b bound)
      held := fun before cmd banks member isActivate b bound =>
        (timed.held before cmd banks member isActivate b bound).later
          (BankState.powerUp_later (due b bound))
      precharged := fun start b member bound => by
        obtain ⟨before, precharged⟩ := timed.precharged start b member bound
        exact ⟨before, .inl (precharged.ended (by rw [asleep b bound]; decide))⟩
      legal := timed.legal
      asleep := fun isAsleep => (nomatch isAsleep)
      awake := fun _ b bound isDown => (nomatch isDown)
      bus := fun cmd onBus => by
        change cmd ∈ s.cmdBus at onBus
        rw [free] at onBus
        cases onBus }
  · exact fun b bound => BankState.powerUp_later (due b bound)

/-- The third part of a cycle. -/
theorem switchPower_timed {s : DramSystem} {power : PowerSwitch} (timed : Timed c Opens s)
    (down : power = .down → (∀ b < c.numBanks, (s.bank b).currentBankState = .IDLE) →
      s.cmdBus = none)
    (up : power = .up → s.powerDown = true →
      ∀ b < c.numBanks, (s.bank b).nextActivate ≤ s.now + c.tXP) :
    Timed c Opens (s.switchPower c power) ∧ TimesKept c s (s.switchPower c power) := by
  have same : TimesKept c s s := fun b _ => .refl _
  unfold switchPower
  cases power with
  | leave => exact ⟨timed, same⟩
  | down =>
    simp only
    cases attempted : s.dram.powerDown c with
    | mk dram done =>
      cases done with
      | true => exact down_timed timed attempted (down rfl (powerDown_eq_true attempted).1)
      | false => exact ⟨timed, same⟩
  | up =>
    simp only
    split
    · rename_i wakes
      rw [Bool.and_eq_true] at wakes
      exact up_timed timed wakes.1 (up rfl wakes.1)
    · exact ⟨timed, same⟩

/-! ## The banks -/

/-- An open row stays open, or begins to close. -/
theorem Ready.tick {s : DramSystem} {cmd : DRAMCommand} (timed : Timed c Opens s)
    (ready : Ready c Opens s cmd) : Ready c BankState.Meets (s.tick c) cmd where
  bound := ready.bound
  meets b bound targets := by
    have states := BankState.update_state (timed.sound b bound)
    have opens := ready.meets b bound targets
    unfold Opens at opens
    unfold BankState.Meets
    split
    · rename_i idles
      rw [if_pos idles] at opens
      exact states.1 opens
    · rename_i column
      rw [if_neg column] at opens
      exact states.2.2 opens
  activate b bound targets activates := by
    have kept := (ready.activate b bound targets activates)
    have same : ((s.tick c).bank b).nextActivate = (s.bank b).nextActivate :=
      (BankState.update_times (s.bank b)).1
    rw [same]
    exact kept.trans (Nat.le_succ s.now)
  read isRead := by
    have same : ((s.tick c).bank cmd.bank).nextRead = (s.bank cmd.bank).nextRead :=
      (BankState.update_times (s.bank cmd.bank)).2.1
    rw [same]
    exact (ready.read isRead).trans (Nat.le_succ s.now)
  write isWrite := by
    have same : ((s.tick c).bank cmd.bank).nextWrite = (s.bank cmd.bank).nextWrite :=
      (BankState.update_times (s.bank cmd.bank)).2.2
    rw [same]
    exact (ready.write isWrite).trans (Nat.le_succ s.now)

theorem mem_tick_log {s : DramSystem} {event : TimingEvent} (member : event ∈ (s.tick c).log) :
    (∃ b, b < c.numBanks ∧ closesItself (s.bank b) = true ∧ event = .precharging s.now b) ∨
      event ∈ s.log := by
  cases List.mem_append.mp member with
  | inl new =>
    obtain ⟨b, closes, rfl⟩ := List.mem_map.mp new
    rw [List.mem_filter, List.mem_range] at closes
    exact .inl ⟨b, closes.1, closes.2, rfl⟩
  | inr earlier => exact .inr earlier

/-- A bank that begins to precharge by itself has all of the precharge ahead. -/
theorem closesItself_precharged {s : BankState} {now : ℕ} (closes : closesItself s = true) :
    BankState.Precharged c (now + 1) now (s.update c) := by
  simp only [closesItself, Bool.and_eq_true, Bool.or_eq_true, decide_eq_true_iff] at closes
  have left : now + c.tRP ≤ now + 1 + c.tRP := by omega
  have updated : s.update c = s.startPrecharging c := by
    unfold BankState.update
    rw [if_pos closes.1]
    cases closes.2 with
    | inl isLast => rw [isLast]
    | inr isLast => rw [isLast]
  rw [updated]
  exact .inr ⟨rfl, (fun h => nomatch h), (fun h => nomatch h), fun _ => left⟩

theorem legal_precharging {banks : List ℕ} {time : ℕ} {log : List TimingEvent}
    (legal : Legal c log) : Legal c (banks.map (.precharging time) ++ log) := by
  induction banks with
  | nil => exact legal
  | cons b banks inductionHypothesis => exact ⟨trivial, inductionHypothesis⟩

/-- The last part of a cycle. -/
theorem tick_timed {s : DramSystem} (timed : Timed c Opens s) :
    Timed c BankState.Meets (s.tick c) ∧ TimesKept c s (s.tick c) := by
  have later : ∀ b, BankState.Later (s.bank b) ((s.tick c).bank b) := fun b =>
    BankState.update_later (s.bank b)
  have states : ∀ b < c.numBanks, ((s.bank b).currentBankState = .POWERDOWN ↔
      ((s.tick c).bank b).currentBankState = .POWERDOWN) := fun b bound =>
    (BankState.update_state (timed.sound b bound)).2.1
  refine ⟨?_, fun b _ => later b⟩
  exact {
    sound := fun b bound => BankState.update_sound (timed.sound b bound)
    held := fun before cmd banks member isActivate b bound => by
      obtain ⟨_, _, _, isNew⟩ | earlier := mem_tick_log member
      · cases isNew
      · exact (timed.held before cmd banks earlier isActivate b bound).later (later b)
    precharged := fun start b member bound => by
      obtain ⟨_, _, closes, isNew⟩ | earlier := mem_tick_log member
      · cases isNew
        exact ⟨Nat.le_succ s.now, closesItself_precharged closes⟩
      · obtain ⟨before, precharged⟩ := timed.precharged start b earlier bound
        exact ⟨before.trans (Nat.le_succ s.now), BankState.update_precharged precharged before⟩
    legal := legal_precharging timed.legal
    asleep := fun down =>
      have asleep := timed.asleep down
      ⟨asleep.1, fun b bound => (states b bound).mp (asleep.2 b bound)⟩
    awake := fun isAwake b bound down =>
      timed.awake isAwake b bound ((states b bound).mpr down)
    bus := fun cmd onBus => (timed.bus cmd onBus).tick timed }

/-! ## Runs -/

/-- A cycle keeps the invariant, and moves no time backwards. -/
theorem step_timed {s s' : DramSystem} {action : Option Issue × PowerSwitch}
    (timed : Timed c BankState.Meets s) (stepped : s.step c action = .ok s')
    (respects : Respects c s action s') :
    Timed c BankState.Meets s' ∧ TimesKept c s s' := by
  obtain ⟨inTime, refresh, down, up⟩ := respects
  obtain ⟨s₁, delivered, stepped⟩ := Outcome.bind_eq_ok.mp stepped
  obtain ⟨s₂, issued, stepped⟩ := Outcome.bind_eq_ok.mp stepped
  obtain rfl := Outcome.pure_eq_ok.mp stepped
  obtain ⟨timed₁, free, kept₁, clock, flag, bank⟩ := deliver_timed timed inTime delivered
  obtain ⟨timed₂, sameDram, sameFlag, stillFree⟩ := issue_timed timed₁ free
    (fun issue member isRefresh b bound => by
      rw [bank]
      exact refresh issue member isRefresh b bound) issued
  have bank₂ : ∀ b, s₂.bank b = bankNext c s b := fun b => by
    rw [← bank]
    exact congrArg (fun dram : DRAM => dram.bankStates b) sameDram
  have clock₂ : s₂.now = s.now := (congrArg DRAM.currentClockCycle sameDram).trans clock
  have due : action.2 = .up → s₂.powerDown = true →
      ∀ b < c.numBanks, (s₂.bank b).nextActivate ≤ s₂.now + c.tXP := fun isUp isDown b bound => by
    have asleep : s.powerDown = true := flag ▸ sameFlag ▸ isDown
    have same : bankNext c s b = s.bank b := by
      unfold bankNext
      rw [(timed.asleep asleep).1]
    rw [bank₂, clock₂, same]
    exact up isUp asleep b bound
  obtain ⟨timed₃, kept₃⟩ := switchPower_timed timed₂
    (fun isDown idle => stillFree (down isDown fun b bound => bank₂ b ▸ idle b bound)) due
  obtain ⟨timed₄, kept₄⟩ := tick_timed timed₃
  refine ⟨timed₄, fun b bound => ?_⟩
  have kept₂ : BankState.Later (s₁.bank b) (s₂.bank b) := by
    rw [bank₂, ← bank]
    exact .refl _
  exact (((kept₁ b bound).trans kept₂).trans (kept₃ b bound)).trans (kept₄ b bound)

theorem start_timed : Timed c BankState.Meets {} where
  sound _ _ := ⟨fun h => (nomatch h), fun _ => rfl, fun h => (nomatch h), Nat.zero_le _⟩
  held _ _ _ member := nomatch member
  precharged _ _ member := nomatch member
  legal := trivial
  asleep down := nomatch down
  awake _ _ _ down := nomatch down
  bus _ member := nomatch member

/-- A state that is timed, with no time moved backwards since an earlier one. -/
def TimedSince (c : DRAMConfig) (s s' : DramSystem) : Prop :=
  Timed c BankState.Meets s' ∧ TimesKept c s s'

theorem TimedSince.step {s s₁ s₂ : DramSystem} {action : Option Issue × PowerSwitch}
    (before : TimedSince c s s₁) (stepped : s₁.step c action = .ok s₂)
    (respects : Respects c s₁ action s₂) : TimedSince c s s₂ := by
  obtain ⟨timed, kept⟩ := step_timed before.1 stepped respects
  exact ⟨timed, fun b bound => (before.2 b bound).trans (kept b bound)⟩

/-- In every run that respects the condition, the log is legal, and from there on
    no time of a bank is ever moved backwards. -/
theorem run_legal {first : List (Option Issue × PowerSwitch)} {s : DramSystem}
    (run : Transition.Run (step c) (Respects c) {} first s) :
    Legal c s.log ∧ ∀ {further : List (Option Issue × PowerSwitch)} {s' : DramSystem},
      Transition.Run (step c) (Respects c) s further s' → TimesKept c s s' := by
  have timed : Timed c BankState.Meets s := run.invariant start_timed fun _ _ _ timed stepped
    respects => (step_timed timed stepped respects).1
  refine ⟨timed.legal, fun onward => ?_⟩
  have since : TimedSince c s s := ⟨timed, fun b _ => .refl _⟩
  exact (onward.invariant since fun _ _ _ before stepped respects =>
    before.step stepped respects).2

/-- The activations of a log, with their times and banks. -/
def activations : List TimingEvent → List (ℕ × ℕ)
  | [] => []
  | .received time cmd _ :: earlier =>
    if cmd.commandType = .ACTIVATE then (time, cmd.bank) :: activations earlier
    else activations earlier
  | .issued _ _ _ :: earlier | .precharging _ _ :: earlier => activations earlier

theorem mem_activations {time b : ℕ} : ∀ {log : List TimingEvent}, (time, b) ∈ activations log →
    ∃ cmd banks, .received time cmd banks ∈ log ∧ cmd.commandType = .ACTIVATE ∧ cmd.bank = b
  | .received before cmd banks :: earlier, member => by
    unfold activations at member
    split at member
    · rename_i isActivate
      cases List.mem_cons.mp member with
      | inl isThis =>
        cases isThis
        exact ⟨cmd, banks, List.mem_cons_self, isActivate, rfl⟩
      | inr inEarlier =>
        obtain ⟨cmd, banks, isIn, facts⟩ := mem_activations inEarlier
        exact ⟨cmd, banks, List.mem_cons_of_mem _ isIn, facts⟩
    · obtain ⟨cmd, banks, isIn, facts⟩ := mem_activations member
      exact ⟨cmd, banks, List.mem_cons_of_mem _ isIn, facts⟩
  | .issued _ _ _ :: earlier, member | .precharging _ _ :: earlier, member => by
    change (time, b) ∈ activations earlier at member
    obtain ⟨cmd, banks, isIn, facts⟩ := mem_activations member
    exact ⟨cmd, banks, List.mem_cons_of_mem _ isIn, facts⟩

/-- In a legal log, two activations of a bank are `tRC` apart, and those of two
    banks `tRRD`. -/
theorem Legal.activations : ∀ {log : List TimingEvent}, Legal c log →
    (activations log).Pairwise fun later earlier =>
      earlier.1 + (if earlier.2 = later.2 then c.tRC else c.tRRD) ≤ later.1
  | [], _ => .nil
  | .received time cmd banks :: earlier, legal => by
    unfold DramSystem.activations
    split
    · rename_i isActivate
      refine List.Pairwise.cons (fun ⟨before, b⟩ member => ?_) legal.2.activations
      obtain ⟨other, banks', isIn, otherActivates, rfl⟩ := mem_activations member
      have respected := legal.1.2 _ isIn otherActivates
      exact respected.1 isActivate
    · exact legal.2.activations
  | .issued _ _ _ :: earlier, legal | .precharging _ _ :: earlier, legal =>
    legal.2.activations

/-- A cycle that issues a command, or nothing. -/
def issues (cmd : DRAMCommand) : Option Issue × PowerSwitch := (some { cmd := cmd }, .leave)

def waits (cycles : ℕ) : List (Option Issue × PowerSwitch) := List.replicate cycles (none, .leave)

/-- A row is opened, read and closed. -/
def readRow : List (Option Issue × PowerSwitch) :=
  [issues { commandType := .ACTIVATE, row := 5 }] ++ waits 13 ++
    [issues { commandType := .READ_P, row := 5 }] ++ waits 14

/-- After a row has been read, the banks sleep for as short as they may, and the
    row is opened again. -/
def readAndSleep : List (Option Issue × PowerSwitch) :=
  readRow ++ [(none, .down)] ++ waits 4 ++ [(none, .up)] ++ waits 3 ++
    [issues { commandType := .ACTIVATE, row := 6 }] ++ waits 1

theorem run_legal_readRow : ∃ s, Transition.Run (step {}) (Respects {}) {} readRow s ∧
    activations s.log = [(1, 0)] ∧ Legal {} s.log ∧
      ∀ {further : List (Option Issue × PowerSwitch)} {s' : DramSystem},
        Transition.Run (step {}) (Respects {}) s further s' → TimesKept {} s s' := by
  have executed : (Transition.execute (step {}) (Respects {}) {} readRow).map
      (fun s => activations s.log) = some [(1, 0)] := by decide +kernel
  obtain ⟨s, executed, isLog⟩ := Option.map_eq_some_iff.mp executed
  have run := Transition.execute_run executed
  exact ⟨s, run, isLog, run_legal run⟩

/-- Powering up brings the next activation of a bank forward. -/
theorem readAndSleep_not_legal : ∃ s,
    Transition.Run (step {}) (fun _ _ _ => True) {} readAndSleep s ∧ ¬ Legal {} s.log := by
  have executed : (Transition.execute (step {}) (fun _ _ _ => True) {} readAndSleep).map
      (fun s => activations s.log) = some [(39, 0), (1, 0)] := by decide +kernel
  obtain ⟨s, executed, isLog⟩ := Option.map_eq_some_iff.mp executed
  refine ⟨s, Transition.execute_run executed, fun legal => ?_⟩
  have apart := legal.activations
  rw [isLog] at apart
  exact absurd apart (by decide)

end DramSystem

end ActiveRouting

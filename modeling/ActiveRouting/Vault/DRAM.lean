import ActiveRouting.Vault.DRAMCommand

/-!
# DRAM

`DRAM.cpp`: the states of the banks of a vault.  What a command does to a bank
is a function of the bank; the loops over all banks apply it to each.
-/

namespace ActiveRouting

/-- `DRAM`.  `readReturn` pairs `readReturnDATA` with `readReturnCountdown`. -/
structure DRAM where
  bankStates : ℕ → BankState := fun _ => {}
  readData : Option DRAMCommand := none
  dataCyclesLeft : ℕ := 0
  readReturn : List (DRAMCommand × ℕ) := []
  currentClockCycle : ℕ := 0

namespace BankState

variable (c : DRAMConfig)

def activate (now row : ℕ) (s : BankState) : BankState :=
  { s with
    currentBankState := .ROW_ACTIVE
    lastCommand := .ACTIVATE
    openRowAddress := row
    nextActivate := max (now + c.tRC) s.nextActivate
    nextPrecharge := max (now + c.tRAS) s.nextPrecharge
    nextRead := max (now + (c.tRCD - DRAMConfig.AL)) s.nextRead
    nextWrite := max (now + (c.tRCD - DRAMConfig.AL)) s.nextWrite }

/-- Another bank has been activated. -/
def otherActivated (now : ℕ) (s : BankState) : BankState :=
  { s with nextActivate := max (now + c.tRRD) s.nextActivate }

/-- Any bank has been read. -/
def someRead (now : ℕ) (s : BankState) : BankState :=
  { s with
    nextRead := max (now + max c.tCCD c.BL) s.nextRead
    nextWrite := max (now + c.READ_TO_WRITE_DELAY) s.nextWrite }

/-- Any bank has been written. -/
def someWritten (now : ℕ) (s : BankState) : BankState :=
  { s with
    nextWrite := max (now + max c.BL c.tCCD) s.nextWrite
    nextRead := max (now + c.WRITE_TO_READ_DELAY_B) s.nextRead }

def read (now : ℕ) (s : BankState) : BankState :=
  { s.someRead c now with
    nextPrecharge := max (now + c.READ_TO_PRE_DELAY) s.nextPrecharge
    lastCommand := .READ }

/-- The row is to be closed after `delay` cycles, and activated from `nextActivate` on. -/
def autoPrecharge (nextActivate delay : ℕ) (lastCommand : DRAMCommandType) (s : BankState) :
    BankState :=
  { s with
    nextActivate := nextActivate
    lastCommand := lastCommand
    stateChangeCountdown := delay
    nextRead := nextActivate
    nextWrite := nextActivate }

def readP (now : ℕ) (s : BankState) : BankState :=
  (s.someRead c now).autoPrecharge (max (now + c.READ_AUTOPRE_DELAY) s.nextActivate)
    c.READ_TO_PRE_DELAY .READ_P

def write (now : ℕ) (s : BankState) : BankState :=
  { s.someWritten c now with
    nextPrecharge := max (now + c.WRITE_TO_PRE_DELAY) s.nextPrecharge
    lastCommand := .WRITE }

def writeP (now : ℕ) (s : BankState) : BankState :=
  (s.someWritten c now).autoPrecharge (max (now + c.WRITE_AUTOPRE_DELAY) s.nextActivate)
    c.WRITE_TO_PRE_DELAY .WRITE_P

def precharge (now : ℕ) (s : BankState) : BankState :=
  { s with
    currentBankState := .PRECHARGING
    lastCommand := .PRECHARGE
    openRowAddress := 0
    stateChangeCountdown := c.tRP
    nextActivate := max (now + c.tRP) s.nextActivate }

def refresh (now : ℕ) (s : BankState) : BankState :=
  { s with
    nextActivate := now + c.tRFC
    currentBankState := .REFRESHING
    lastCommand := .REFRESH
    stateChangeCountdown := c.tRFC }

/-- What a command that is received at time `now` does to bank `b`. -/
def receive (now : ℕ) (cmd : DRAMCommand) (b : ℕ) (s : BankState) : BankState :=
  match cmd.commandType with
  | .ACTIVATE => if b = cmd.bank then s.activate c now cmd.row else s.otherActivated c now
  | .READ => if b = cmd.bank then s.read c now else s.someRead c now
  | .READ_P => if b = cmd.bank then s.readP c now else s.someRead c now
  | .WRITE => if b = cmd.bank then s.write c now else s.someWritten c now
  | .WRITE_P => if b = cmd.bank then s.writeP c now else s.someWritten c now
  | .PRECHARGE => if b = cmd.bank then s.precharge c now else s
  | .REFRESH => s.refresh c now
  | .READ_DATA | .WRITE_DATA | .POWERDOWN_ENTRY | .POWERDOWN_EXIT => s

def powerDown (now : ℕ) (s : BankState) : BankState :=
  { s with currentBankState := .POWERDOWN, nextPowerUp := now + c.tCKE }

def powerUp (now : ℕ) (s : BankState) : BankState :=
  { s with
    lastCommand := .POWERDOWN_EXIT
    currentBankState := .AWAKING
    stateChangeCountdown := c.tXP
    nextActivate := now + c.tXP }

def startPrecharging (s : BankState) : BankState :=
  { s with
    currentBankState := .PRECHARGING
    lastCommand := .PRECHARGE
    stateChangeCountdown := c.tRP }

def becomeIdle (s : BankState) : BankState :=
  { s with currentBankState := .IDLE, stateChangeCountdown := 0 }

def countDown (s : BankState) : BankState :=
  { s with stateChangeCountdown := s.stateChangeCountdown - 1 }

/-- One cycle of a bank: only some commands have an implicit state change. -/
def update (s : BankState) : BankState :=
  if s.stateChangeCountdown = 1 then
    match s.lastCommand with
    | .WRITE_P | .READ_P => s.startPrecharging c
    | .REFRESH | .PRECHARGE | .POWERDOWN_EXIT => s.becomeIdle
    | _ => s.countDown
  else s.countDown

end BankState

namespace DRAM

variable (c : DRAMConfig)

def mapBanks (d : DRAM) (f : ℕ → BankState → BankState) : DRAM :=
  { d with bankStates := fun b => f b (d.bankStates b) }

/-- Read data is returned after `RL` cycles. -/
def returnLater (d : DRAM) (cmd : DRAMCommand) : DRAM :=
  { d with readReturn := d.readReturn ++ [(cmd.withType .READ_DATA, c.RL)] }

/-- `receiveCMD`. -/
def receiveCMD (d : DRAM) (recvCMD : DRAMCommand) : Except VaultError DRAM :=
  match recvCMD.commandType with
  | .READ | .READ_P =>
    .ok ((d.mapBanks (BankState.receive c d.currentClockCycle recvCMD)).returnLater c recvCMD)
  | .ACTIVATE | .WRITE | .WRITE_P | .WRITE_DATA | .PRECHARGE | .REFRESH =>
    .ok (d.mapBanks (BankState.receive c d.currentClockCycle recvCMD))
  | .READ_DATA | .POWERDOWN_ENTRY | .POWERDOWN_EXIT => .error .wrongCommand

/-- Whether all banks are in a state. -/
def allBanks (d : DRAM) (state : BankStateType) : Bool :=
  (List.range c.numBanks).all fun b => (d.bankStates b).currentBankState = state

/-- `powerDown`, and whether the banks have been powered down. -/
def powerDown (d : DRAM) : DRAM × Bool :=
  if d.allBanks c .IDLE then
    (d.mapBanks fun _ => BankState.powerDown c d.currentClockCycle, true)
  else (d, false)

/-- `powerUp`. -/
def powerUp (d : DRAM) : DRAM := d.mapBanks fun _ => BankState.powerUp c d.currentClockCycle

/-- The loop of `Update` over the banks. -/
def updateBanks (d : DRAM) : DRAM := d.mapBanks fun _ => BankState.update c

/-- `Step`. -/
def step (d : DRAM) : DRAM := { d with currentClockCycle := d.currentClockCycle + 1 }

@[simp] theorem mapBanks_bankStates (d : DRAM) (f : ℕ → BankState → BankState) (b : ℕ) :
    (d.mapBanks f).bankStates b = f b (d.bankStates b) := rfl

@[simp] theorem mapBanks_currentClockCycle (d : DRAM) (f : ℕ → BankState → BankState) :
    (d.mapBanks f).currentClockCycle = d.currentClockCycle := rfl

@[simp] theorem returnLater_bankStates (d : DRAM) (cmd : DRAMCommand) :
    (d.returnLater c cmd).bankStates = d.bankStates := rfl

@[simp] theorem returnLater_currentClockCycle (d : DRAM) (cmd : DRAMCommand) :
    (d.returnLater c cmd).currentClockCycle = d.currentClockCycle := rfl

variable {c}

/-- Every command acts on the banks alike; only reads return data. -/
theorem receiveCMD_eq_ok {d d' : DRAM} {cmd : DRAMCommand} (received : d.receiveCMD c cmd = .ok d') :
    d'.bankStates = (fun b => BankState.receive c d.currentClockCycle cmd b (d.bankStates b)) ∧
      d'.currentClockCycle = d.currentClockCycle ∧ d'.readData = d.readData ∧
      d'.dataCyclesLeft = d.dataCyclesLeft ∧
      d'.readReturn = d.readReturn ++
        if cmd.commandType.isRead then [(cmd.withType .READ_DATA, c.RL)] else [] := by
  cases isType : cmd.commandType <;> simp only [receiveCMD, isType] at received <;>
    cases received <;> simp [mapBanks, returnLater, DRAMCommandType.isRead]

end DRAM

end ActiveRouting

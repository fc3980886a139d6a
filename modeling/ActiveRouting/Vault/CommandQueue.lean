import ActiveRouting.Vault.DRAM
import Mathlib.Logic.Function.Basic

/-!
# Command queue

`CommandQueue.cpp`: which command of a vault is issued next.
-/

namespace ActiveRouting

/-- What the command queue reads of its vault: the banks, the space that is
    promised to responses, and the space of the upstream buffer. -/
structure VaultView where
  bankStates : ℕ → BankState
  currentClockCycle : ℕ
  pendingDataSize : ℕ
  upBufferMax : ℕ
  upBuffersSize : ℕ

/-- `CommandQueue`. -/
structure CommandQueue where
  queue : ℕ → List DRAMCommand := fun _ => []
  atomicLock : ℕ → Bool := fun _ => false
  atomicLockTag : ℕ → ℕ := fun _ => 0
  bufPopDelayPerBank : ℕ → ℕ := fun _ => 0
  tFAWCountdown : List ℕ := []
  rowAccessCounter : ℕ → ℕ := fun _ => 0
  refreshWaiting : Bool := false
  issuedBank : ℕ := 0

/-- A command of an atomic whose result is written back. -/
def DRAMCommand.locks (cmd : DRAMCommand) : Bool :=
  cmd.atomic && !(cmd.packetCMD = .EQ16 || cmd.packetCMD = .EQ8)

namespace CommandQueue

variable (c : DRAMConfig)

/-- The index of `ACCESSQUE(b)` and `POPCYCLE(b)`. -/
def index (b : ℕ) : ℕ := if c.quePerBank then b else 0

def accessQue (q : CommandQueue) (b : ℕ) : List DRAMCommand := q.queue (index c b)
def popCycle (q : CommandQueue) (b : ℕ) : ℕ := q.bufPopDelayPerBank (index c b)

def setQue (q : CommandQueue) (b : ℕ) (cmds : List DRAMCommand) : CommandQueue :=
  { q with queue := Function.update q.queue (index c b) cmds }

/-- `MAX_CMD_QUE`. -/
def maxCmdQue : ℕ := 16

/-- `AvailableSpace`. -/
def availableSpace (q : CommandQueue) (bank cmdN : ℕ) : Bool :=
  (q.accessQue c bank).length + (if q.atomicLock bank then cmdN + 1 else cmdN) ≤ maxCmdQue

/-- `Enqueue`. -/
def enqueue (q : CommandQueue) (bank : ℕ) (enqCMD : DRAMCommand) : CommandQueue :=
  { q with
    bufPopDelayPerBank :=
      if q.accessQue c bank = [] then
        Function.update q.bufPopDelayPerBank (index c bank) (max (q.popCycle c bank) 1)
      else q.bufPopDelayPerBank
    queue := Function.update q.queue (index c bank) (q.accessQue c bank ++ [enqCMD]) }

/-- A write back is put before the other commands. -/
def pushFront (q : CommandQueue) (bank : ℕ) (cmd : DRAMCommand) : CommandQueue :=
  q.setQue c bank (cmd :: q.accessQue c bank)

/-- `isEmpty`. -/
def isEmpty (q : CommandQueue) : Bool :=
  (List.range c.numBanks).all fun b => (q.accessQue c b).isEmpty

/-- There is space for the response of a command. -/
def hasSpace (v : VaultView) (cmd : DRAMCommand) : Bool :=
  v.pendingDataSize + cmd.dataSize / 16 + 1 ≤ v.upBufferMax - v.upBuffersSize

/-- `isIssuable`; another type ends the simulation. -/
def isIssuable (q : CommandQueue) (v : VaultView) (cmd : DRAMCommand) : Except VaultError Bool :=
  match cmd.commandType with
  | .REFRESH => .ok false
  | .ACTIVATE => .ok
      (((v.bankStates cmd.bank).currentBankState = .IDLE ||
          (v.bankStates cmd.bank).currentBankState = .REFRESHING) &&
        (v.bankStates cmd.bank).nextActivate ≤ v.currentClockCycle &&
        q.tFAWCountdown.length < 4)
  | .WRITE | .WRITE_P => .ok
      ((v.bankStates cmd.bank).currentBankState = .ROW_ACTIVE &&
        (v.bankStates cmd.bank).nextWrite ≤ v.currentClockCycle &&
        (v.bankStates cmd.bank).openRowAddress = cmd.row &&
        !(!cmd.atomic && c.maxRowAccesses ≤ q.rowAccessCounter cmd.bank) &&
        (cmd.atomic || cmd.posted || hasSpace v cmd))
  | .READ | .READ_P => .ok
      ((v.bankStates cmd.bank).currentBankState = .ROW_ACTIVE &&
        (v.bankStates cmd.bank).nextRead ≤ v.currentClockCycle &&
        (v.bankStates cmd.bank).openRowAddress = cmd.row &&
        q.rowAccessCounter cmd.bank < c.maxRowAccesses &&
        hasSpace v cmd)
  | .PRECHARGE => .ok
      ((v.bankStates cmd.bank).currentBankState = .ROW_ACTIVE &&
        (v.bankStates cmd.bank).nextPrecharge ≤ v.currentClockCycle)
  | .READ_DATA | .WRITE_DATA | .POWERDOWN_ENTRY | .POWERDOWN_EXIT => .error .wrongCommand

/-! ## Taking a command from a queue -/

def lockFor (q : CommandQueue) (bank : ℕ) (cmd : DRAMCommand) : CommandQueue :=
  if cmd.locks then
    { q with
      atomicLock := Function.update q.atomicLock bank true
      atomicLockTag := Function.update q.atomicLockTag bank cmd.packetTAG }
  else q

def unlockAfter (q : CommandQueue) (bank : ℕ) (cmd : DRAMCommand) : CommandQueue :=
  if cmd.commandType.isWrite then
    { q with
      atomicLock := Function.update q.atomicLock bank false
      atomicLockTag := Function.update q.atomicLockTag bank 0 }
  else q

/-- The first command for the locked bank, if it is one of the atomic that holds
    the lock; the write back ends it. -/
def popLocked (q : CommandQueue) (v : VaultView) (b : ℕ) (onlyAtomic : Bool) :
    Except VaultError (Option (CommandQueue × DRAMCommand)) :=
  match q.accessQue c b with
  | [] => .ok none
  | cmd :: rest =>
    if (onlyAtomic → cmd.atomic) ∧ cmd.packetTAG = q.atomicLockTag b then do
      if ← q.isIssuable c v cmd then
        pure (some ((q.unlockAfter b cmd).setQue c b rest, cmd))
      else pure none
    else .ok none

/-- The first command with a property, with those before and after it. -/
def splitFirst (p : DRAMCommand → Bool) :
    List DRAMCommand → Option (List DRAMCommand × DRAMCommand × List DRAMCommand)
  | [] => none
  | cmd :: rest =>
    if p cmd then some ([], cmd, rest)
    else (splitFirst p rest).map fun (before, found, after) => (cmd :: before, found, after)

/-- The first command to the row that is open in bank `b`. -/
def firstToOpenRow (q : CommandQueue) (v : VaultView) (b : ℕ) :
    Option (List DRAMCommand × DRAMCommand × List DRAMCommand) :=
  splitFirst (fun cmd => b = cmd.bank && (v.bankStates b).openRowAddress = cmd.row)
    (q.accessQue c b)

/-- Before a refresh, the first command to the row that is open in bank `b`. -/
def popOpenRow (q : CommandQueue) (v : VaultView) (b : ℕ) :
    Except VaultError (Option (CommandQueue × DRAMCommand)) :=
  match q.firstToOpenRow c v b with
  | none => .ok none
  | some (before, cmd, after) =>
    if cmd.commandType = .ACTIVATE then .ok none
    else do
      if ← q.isIssuable c v cmd then
        pure (some ((q.lockFor cmd.bank cmd).setQue c b (before ++ after), cmd))
      else pure none

/-- The first issuable command that does not depend on one before it. -/
def firstIssuable (q : CommandQueue) (v : VaultView)
    (depends : List DRAMCommand → DRAMCommand → Bool) : List DRAMCommand → List DRAMCommand →
      Except VaultError (Option (List DRAMCommand × DRAMCommand × List DRAMCommand))
  | _, [] => .ok none
  | before, cmd :: after => do
    if (← q.isIssuable c v cmd) && !depends before cmd then pure (some (before, cmd, after))
    else firstIssuable q v depends (before ++ [cmd]) after

/-- A refresh command. -/
def refreshCMD : DRAMCommand := { commandType := .REFRESH }

def prechargeCMD (bank : ℕ) : DRAMCommand := { commandType := .PRECHARGE, bank := bank }

def advance (q : CommandQueue) : CommandQueue :=
  { q with issuedBank := if q.issuedBank < c.numBanks - 1 then q.issuedBank + 1 else 0 }

/-! ## Close page -/

/-- The loop over the banks while a refresh waits: whether it is possible, and
    the command that is issued before it. -/
def refreshScanClose (q : CommandQueue) (v : VaultView) :
    List ℕ → Except VaultError (Bool × Option (CommandQueue × DRAMCommand))
  | [] => .ok (true, none)
  | b :: banks =>
    if q.atomicLock b then
      if q.popCycle c q.issuedBank = 0 then do
        let popped ← q.popLocked c v b false
        pure (false, popped)
      else .ok (false, none)
    else if (v.bankStates b).currentBankState = .ROW_ACTIVE then do
      let popped ← q.popOpenRow c v b
      pure (false, popped)
    else if v.currentClockCycle < (v.bankStates b).nextActivate then .ok (false, none)
    else refreshScanClose q v banks

def refreshClose (q : CommandQueue) (v : VaultView) :
    Except VaultError (CommandQueue × Option DRAMCommand) := do
  match ← q.refreshScanClose c v (List.range c.numBanks) with
  | (_, some (q', cmd)) => pure (q', some cmd)
  | (refreshPossible, none) =>
    if refreshPossible && (v.bankStates 0).currentBankState ≠ .POWERDOWN then
      pure ({ q with refreshWaiting := false }, some refreshCMD)
    else pure (q, none)

/-- A command depends on the activation of its packet. -/
def dependsClose (before : List DRAMCommand) (cmd : DRAMCommand) : Bool :=
  before.any fun prev => prev.commandType = .ACTIVATE && prev.packetTAG = cmd.packetTAG

def searchClose (q : CommandQueue) (v : VaultView) :
    Except VaultError (Option (CommandQueue × DRAMCommand)) := do
  match ← q.firstIssuable c v dependsClose [] (q.accessQue c q.issuedBank) with
  | none => pure none
  | some (before, cmd, after) =>
    pure (some ((q.lockFor cmd.bank cmd).setQue c q.issuedBank (before ++ after), cmd))

/-- The loop over the banks from the issued one on; a locked bank ends it. -/
def scheduleClose (v : VaultView) :
    ℕ → CommandQueue → Except VaultError (CommandQueue × Option DRAMCommand)
  | 0, q => .ok (q, none)
  | banks + 1, q =>
    if q.popCycle c q.issuedBank = 0 then
      if q.atomicLock q.issuedBank then do
        match ← q.popLocked c v q.issuedBank true with
        | some (q', cmd) => pure (q', some cmd)
        | none => pure (q, none)
      else do
        match ← q.searchClose c v with
        | some (q', cmd) => pure (q'.advance c, some cmd)
        | none => scheduleClose v banks (q.advance c)
    else scheduleClose v banks (q.advance c)

/-! ## Open page -/

/-- The row of bank `b` is to be closed for a refresh. -/
def closeRow (q : CommandQueue) (v : VaultView) (b : ℕ) : Bool :=
  match q.firstToOpenRow c v b with
  | none => true
  | some (_, cmd, _) => cmd.commandType = .ACTIVATE

def prechargeBank (q : CommandQueue) (b : ℕ) : CommandQueue × DRAMCommand :=
  ({ q with rowAccessCounter := Function.update q.rowAccessCounter b 0 }, prechargeCMD b)

def refreshScanOpen (q : CommandQueue) (v : VaultView) :
    List ℕ → Except VaultError (Bool × Option (CommandQueue × DRAMCommand))
  | [] => .ok (true, none)
  | b :: banks =>
    if q.atomicLock b then
      if q.popCycle c q.issuedBank = 0 then do
        let popped ← q.popLocked c v b false
        pure (false, popped)
      else .ok (false, none)
    else if (v.bankStates b).currentBankState = .ROW_ACTIVE then
      if q.closeRow c v b then
        if (v.bankStates b).nextPrecharge ≤ v.currentClockCycle then
          .ok (false, some (q.prechargeBank b))
        else .ok (false, none)
      else do
        let popped ← q.popOpenRow c v b
        pure (false, popped)
    else if v.currentClockCycle < (v.bankStates b).nextActivate then .ok (false, none)
    else refreshScanOpen q v banks

def refreshOpen (q : CommandQueue) (v : VaultView) :
    Except VaultError (CommandQueue × Option DRAMCommand) := do
  match ← q.refreshScanOpen c v (List.range c.numBanks) with
  | (_, some (q', cmd)) => pure (q', some cmd)
  | (refreshPossible, none) =>
    if refreshPossible && (v.bankStates 0).currentBankState ≠ .POWERDOWN then
      pure ({ q with refreshWaiting := false }, some refreshCMD)
    else pure (q, none)

/-- A command depends on those before it to its bank and row. -/
def dependsOpen (before : List DRAMCommand) (cmd : DRAMCommand) : Bool :=
  before.any fun prev =>
    prev.commandType ≠ .ACTIVATE && prev.bank = cmd.bank && prev.row = cmd.row

/-- The activation right before a command is removed with it. -/
def takeOpen (q : CommandQueue) (before after : List DRAMCommand) : CommandQueue :=
  if before.getLast?.any fun prev => prev.commandType = .ACTIVATE then
    { q with rowAccessCounter :=
        Function.update q.rowAccessCounter q.issuedBank (q.rowAccessCounter q.issuedBank + 1) }
      |>.setQue c q.issuedBank (before.dropLast ++ after)
  else q.setQue c q.issuedBank (before ++ after)

def searchOpen (q : CommandQueue) (v : VaultView) :
    Except VaultError (Option (CommandQueue × DRAMCommand)) := do
  match ← q.firstIssuable c v dependsOpen [] (q.accessQue c q.issuedBank) with
  | none => pure none
  | some (before, cmd, after) =>
    pure (some ((q.lockFor q.issuedBank cmd).takeOpen c before after, cmd))

def popBankOpen (q : CommandQueue) (v : VaultView) :
    Except VaultError (Option (CommandQueue × DRAMCommand)) :=
  if q.atomicLock q.issuedBank then q.popLocked c v q.issuedBank true else q.searchOpen c v

def scheduleOpen (v : VaultView) :
    ℕ → CommandQueue → Except VaultError (CommandQueue × Option DRAMCommand)
  | 0, q => .ok (q, none)
  | banks + 1, q =>
    if q.popCycle c q.issuedBank = 0 then do
      match ← q.popBankOpen c v with
      | some (q', cmd) => pure (q'.advance c, some cmd)
      | none => scheduleOpen v banks (q.advance c)
    else scheduleOpen v banks (q.advance c)

/-- The row of bank `b` is open, nothing in the queue is for it or too many
    accesses have been, and it can be closed. -/
def canPrecharge (q : CommandQueue) (v : VaultView) (b : ℕ) : Bool :=
  (v.bankStates b).currentBankState = .ROW_ACTIVE && !q.atomicLock b &&
    (!((q.accessQue c b).any fun cmd =>
        cmd.bank = b && cmd.row = (v.bankStates b).openRowAddress) ||
      c.maxRowAccesses ≤ q.rowAccessCounter b) &&
    (v.bankStates b).nextPrecharge ≤ v.currentClockCycle

def prechargeAny (q : CommandQueue) (v : VaultView) : CommandQueue × Option DRAMCommand :=
  match (List.range c.numBanks).find? (q.canPrecharge c v) with
  | none => (q, none)
  | some b => ((q.prechargeBank b).1, some (q.prechargeBank b).2)

def normalOpen (q : CommandQueue) (v : VaultView) :
    Except VaultError (CommandQueue × Option DRAMCommand) := do
  match ← scheduleOpen c v c.numBanks q with
  | (q', some cmd) => pure (q', some cmd)
  | (q', none) => pure (q'.prechargeAny c v)

/-! ## `CmdPop` -/

/-- `--` of an `unsigned`. -/
def predUnsigned (n : ℕ) : ℕ := if n = 0 then 2 ^ 32 - 1 else n - 1

/-- The counters of the last four activations. -/
def countTFAW (q : CommandQueue) : CommandQueue :=
  let counters := q.tFAWCountdown.map predUnsigned
  { q with tFAWCountdown := if counters.head? = some 0 then counters.tail else counters }

def noteActivate (q : CommandQueue) (cmd : DRAMCommand) : CommandQueue :=
  if cmd.commandType = .ACTIVATE then { q with tFAWCountdown := q.tFAWCountdown ++ [c.tFAW] } else q

/-- `CmdPop`, up to the counter of an activation. -/
def select (q : CommandQueue) (v : VaultView) :
    Except VaultError (CommandQueue × Option DRAMCommand) :=
  if c.openPage then
    if q.refreshWaiting then do
      match ← q.refreshOpen c v with
      | (q', some cmd) => pure (q', some cmd)
      | (q', none) => q'.normalOpen c v
    else q.normalOpen c v
  else if q.refreshWaiting then q.refreshClose c v
  else scheduleClose c v c.numBanks q

/-- `CmdPop`. -/
def cmdPop (q : CommandQueue) (v : VaultView) :
    Except VaultError (CommandQueue × Option DRAMCommand) := do
  match ← q.countTFAW.select c v with
  | (q', some cmd) => pure (q'.noteActivate c cmd, some cmd)
  | (q', none) => pure (q', none)

/-- `Update`: the delays of the queues. -/
def update (q : CommandQueue) : CommandQueue :=
  { q with bufPopDelayPerBank := fun b => q.bufPopDelayPerBank b - 1 }

end CommandQueue

end ActiveRouting

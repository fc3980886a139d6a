import ActiveRouting.Library.Unsigned
import ActiveRouting.Packet

/-!
# DRAM commands and timing

`DRAMConfig.h`, `DRAMCommand.h` and `BankState.h`.
-/

namespace ActiveRouting

/-- `MAPPING_SCHEME`: the bytes of a block. -/
inductive MappingScheme where
  | MAX_BLOCK_32B | MAX_BLOCK_64B | MAX_BLOCK_128B | MAX_BLOCK_256B
  deriving DecidableEq, Repr

def MappingScheme.bytes : MappingScheme → ℕ
  | MAX_BLOCK_32B => 32
  | MAX_BLOCK_64B => 64
  | MAX_BLOCK_128B => 128
  | MAX_BLOCK_256B => 256

/-- The configuration of the DRAM of a vault.  The timing parameters are counted
    in clock cycles; a positive time makes at least one. -/
structure DRAMConfig where
  /-- `NUM_BANKS`, `NUM_ROWS` and `NUM_COLS`. -/
  numBanks : ℕ := 8
  numRows : ℕ := 16384
  numCols : ℕ := 1024
  /-- `ADDRESS_MAPPING`. -/
  mappingScheme : MappingScheme := .MAX_BLOCK_64B
  /-- `QUE_PER_BANK`, `OPEN_PAGE`, `MAX_ROW_ACCESSES` and `USE_LOW_POWER`. -/
  quePerBank : Bool := true
  openPage : Bool := false
  maxRowAccesses : ℕ := 8
  useLowPower : Bool := true
  /-- `REFRESH_PERIOD / tCK`. -/
  refreshPeriod : ℕ := 9750
  CWL : ℕ := 3
  CL : ℕ := 13
  tRAS : ℕ := 27
  tRCD : ℕ := 13
  tRRD : ℕ := 4
  tRC : ℕ := 40
  tRP : ℕ := 10
  tCCD : ℕ := 4
  tRTP : ℕ := 7
  tWTR : ℕ := 7
  tWR : ℕ := 10
  tRFC : ℕ := 74
  tFAW : ℕ := 24
  tCKE : ℕ := 5
  tXP : ℕ := 4
  tRRD_pos : 0 < tRRD := by decide
  tRC_pos : 0 < tRC := by decide
  tRP_pos : 0 < tRP := by decide
  tRFC_pos : 0 < tRFC := by decide
  tXP_pos : 0 < tXP := by decide

namespace DRAMConfig

variable (c : DRAMConfig)

/-- The bytes of a block. -/
def addressMapping : ℕ := c.mappingScheme.bytes

/-- `ceil(0/tCK)`, the additive latency. -/
def AL : ℕ := 0

/-- `ceil(tCK/tCK)`, the cycles of a command on the bus. -/
def tCMD : ℕ := 1

def RL : ℕ := AL + c.CL
def WL : ℕ := AL + c.CWL
def BL : ℕ := c.addressMapping / 32

def READ_TO_PRE_DELAY : ℕ := AL + c.BL / 2 + max c.tRTP c.tCCD - c.tCCD
def WRITE_TO_PRE_DELAY : ℕ := c.WL + c.BL / 2 + c.tWR
def READ_TO_WRITE_DELAY : ℕ := unsignedSub (c.RL + c.tCCD + 2) c.WL
def READ_AUTOPRE_DELAY : ℕ := AL + c.tRTP + c.tRP
def WRITE_AUTOPRE_DELAY : ℕ := c.WL + c.BL / 2 + c.tWR + c.tRP
def WRITE_TO_READ_DELAY_B : ℕ := c.WL + c.BL / 2 + c.tWTR

end DRAMConfig

/-- `DRAMCommandType`. -/
inductive DRAMCommandType where
  | ACTIVATE | READ | READ_P | WRITE | WRITE_P | READ_DATA | WRITE_DATA | PRECHARGE | REFRESH
  | POWERDOWN_ENTRY | POWERDOWN_EXIT
  deriving DecidableEq, Repr

namespace DRAMCommandType

/-- `WRITE` or `WRITE_P`. -/
def isWrite : DRAMCommandType → Bool
  | WRITE | WRITE_P => true
  | _ => false

/-- `READ` or `READ_P`. -/
def isRead : DRAMCommandType → Bool
  | READ | READ_P => true
  | _ => false

end DRAMCommandType

/-- `DRAMCommand`, without its trace. -/
structure DRAMCommand where
  commandType : DRAMCommandType
  packetTAG : ℕ := 0
  bank : ℕ := 0
  column : ℕ := 0
  row : ℕ := 0
  dataSize : ℕ := 0
  posted : Bool := false
  lastCMD : Bool := true
  packetCMD : PacketCommandType := .NULL_
  atomic : Bool := false
  segment : Bool := false
  tran_tag : ℕ := 0
  addr : BitVec 64 := 0
  destAddr : BitVec 64 := 0
  srcAddr1 : BitVec 64 := 0
  srcAddr2 : BitVec 64 := 0
  operandBufID : ℤ := -1
  src_cube : ℤ := 0
  dest_cube : ℤ := 0
  deriving DecidableEq, Repr

/-- The same command of another type. -/
def DRAMCommand.withType (cmd : DRAMCommand) (commandType : DRAMCommandType) : DRAMCommand :=
  { cmd with commandType := commandType }

/-- `BankStateType`. -/
inductive BankStateType where
  | IDLE | ROW_ACTIVE | PRECHARGING | REFRESHING | POWERDOWN | AWAKING
  deriving DecidableEq, Repr

/-- `BankState`. -/
structure BankState where
  currentBankState : BankStateType := .IDLE
  openRowAddress : ℕ := 0
  nextActivate : ℕ := 0
  nextRead : ℕ := 0
  nextWrite : ℕ := 0
  nextPrecharge : ℕ := 0
  nextPowerUp : ℕ := 0
  lastCommand : DRAMCommandType := .PRECHARGE
  stateChangeCountdown : ℕ := 0
  deriving DecidableEq, Repr

/-- The ways in which a vault stops the simulation. -/
inductive VaultError where
  /-- The DRAM receives a command that it does not know. -/
  | wrongCommand
  /-- A request packet whose command is not one of a vault. -/
  | wrongPacket
  /-- Two commands or two data transfers meet on a bus. -/
  | busCollision
  /-- Read data returns for which no request waits. -/
  | noMatch
  /-- A response is built for a command that has none. -/
  | unknownResponse
  | assertion
  deriving DecidableEq, Repr

end ActiveRouting

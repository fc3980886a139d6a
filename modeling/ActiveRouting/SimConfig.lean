/-!
# Simulation constants

The compile-time configuration of the memory network, from `SimConfig.h`.
-/

namespace ActiveRouting

/-- `NUM_LINKS`: the links of a cube. -/
def numLinks : Nat := 4

/-- `LEFT_LINK`, `TOP_LINK`, `RIGHT_LINK` and `BOT_LINK`: the mesh names of the
    links of a cube. -/
def leftLink : Nat := 0
def topLink : Nat := 1
def rightLink : Nat := 2
def botLink : Nat := 3

/-- `MAX_LINK_BUF`: the packet buffers of a link master and of a link slave. -/
def maxLinkBuf : Nat := 32

/-- `MAX_RETRY_BUF`: the slots of a retry buffer. -/
def maxRetryBuf : Nat := 32

/-- `MAX_REQ_BUF`: the transactions that an HMC controller can hold. -/
def maxReqBuf : Nat := 4

/-- `_log2(ADDRESS_MAPPING)`, with blocks of 64 bytes. -/
def maxBlockBit : Nat := 6

/-- `NUM_OF_IRTRY`: how often an init-retry packet is sent. -/
def numOfIrtry : Nat := 2

/-- `RETRY_ATTEMPT_LIMIT`. -/
def retryAttemptLimit : Nat := 2

/-- `LINK_WIDTH`: bits that a link moves in one cycle. -/
def linkWidth : Nat := 16

/-- `ceil(CRC_CAL_CYCLE * lng)`, with `CRC_CAL_CYCLE` one hundredth of a cycle. -/
def crcCalCycles (lng : Nat) : Nat := (lng + 99) / 100

/-- `LinkState`. -/
inductive LinkState where
  | NORMAL | START_RETRY | LINK_RETRY
  deriving DecidableEq, Repr

/-- `LINK_PRIORITY_SCHEME`. -/
inductive LinkPriorityScheme where
  | ROUND_ROBIN | BUFFER_AWARE
  deriving DecidableEq, Repr

end ActiveRouting

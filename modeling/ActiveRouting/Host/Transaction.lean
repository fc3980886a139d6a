import ActiveRouting.Packet
import ActiveRouting.SimConfig

/-!
# Transactions

`Transaction.h`, and the conversion of a transaction into a request packet
(`HMCController::ConvTranIntoPacket`).
-/

namespace ActiveRouting

/-- `TransactionType`. -/
inductive TransactionType where
  | DATA_READ | DATA_WRITE | RETURN_DATA
  -- atomics
  | ATM_2ADD8 | ATM_ADD16 | ATM_P_2ADD8 | ATM_P_ADD16 | ATM_2ADDS8R | ATM_ADDS16R | ATM_INC8
  | ATM_P_INC8
  | ATM_XOR16 | ATM_OR16 | ATM_NOR16 | ATM_AND16 | ATM_NAND16
  | ATM_CASGT8 | ATM_CASLT8 | ATM_CASGT16 | ATM_CASLT16 | ATM_CASEQ8 | ATM_CASZERO16 | ATM_EQ16
  | ATM_EQ8
  | ATM_BWR | ATM_P_BWR | ATM_BWR8R | ATM_SWAP16
  -- active requests
  | ACTIVE_GET | ACTIVE_ADD | ACTIVE_MULT | ACTIVE_DOT | PIM_DOT | PIM_ATOMIC
  deriving DecidableEq, Repr

/-- `Transaction`, without its trace.  `-1` stands for no cube and no thread count. -/
structure Transaction where
  transactionType : TransactionType
  address : BitVec 64 := 0
  dataSize : ℕ
  transactionID : ℕ := 0
  LNG : ℕ := 1
  dest_address : BitVec 64 := 0
  src_address1 : BitVec 64 := 0
  src_address2 : BitVec 64 := 0
  lines : ℕ := 0
  src_cube : ℤ := -1
  dest_cube1 : ℤ := -1
  dest_cube2 : ℤ := -1
  nthreads : ℤ := -1
  deriving DecidableEq, Repr

namespace Transaction

/-- The read command of a data size; other sizes end the simulation. -/
def readCommand : ℕ → Option PacketCommandType
  | 16 => some .RD16
  | 32 => some .RD32
  | 48 => some .RD48
  | 64 => some .RD64
  | 80 => some .RD80
  | 96 => some .RD96
  | 112 => some .RD112
  | 128 => some .RD128
  | 256 => some .RD256
  | _ => none

def writeCommand : ℕ → Option PacketCommandType
  | 16 => some .WR16
  | 32 => some .WR32
  | 48 => some .WR48
  | 64 => some .WR64
  | 80 => some .WR80
  | 96 => some .WR96
  | 112 => some .WR112
  | 128 => some .WR128
  | 256 => some .WR256
  | _ => none

/-- The command of a transaction, with the length of its packet. -/
def command (tran : Transaction) : Option (PacketCommandType × ℕ) :=
  match tran.transactionType with
  | .DATA_READ => (readCommand tran.dataSize).map (·, 1)
  | .DATA_WRITE => (writeCommand tran.dataSize).map (·, tran.dataSize / 16 + 1)
  | .RETURN_DATA => none
  | .ATM_2ADD8 => some (._2ADD8, 2)
  | .ATM_ADD16 => some (.ADD16, 2)
  | .ATM_P_2ADD8 => some (.P_2ADD8, 2)
  | .ATM_P_ADD16 => some (.P_ADD16, 2)
  | .ATM_2ADDS8R => some (._2ADDS8R, 2)
  | .ATM_ADDS16R => some (.ADDS16R, 2)
  | .ATM_INC8 => some (.INC8, 1)
  | .ATM_P_INC8 => some (.P_INC8, 1)
  | .ATM_XOR16 => some (.XOR16, 2)
  | .ATM_OR16 => some (.OR16, 2)
  | .ATM_NOR16 => some (.NOR16, 2)
  | .ATM_AND16 => some (.AND16, 2)
  | .ATM_NAND16 => some (.NAND16, 2)
  | .ATM_CASGT8 => some (.CASGT8, 2)
  | .ATM_CASLT8 => some (.CASLT8, 2)
  | .ATM_CASGT16 => some (.CASGT16, 2)
  | .ATM_CASLT16 => some (.CASLT16, 2)
  | .ATM_CASEQ8 => some (.CASEQ8, 2)
  | .ATM_CASZERO16 => some (.CASZERO16, 2)
  | .ATM_EQ16 => some (.EQ16, 2)
  | .ATM_EQ8 => some (.EQ8, 2)
  | .ATM_BWR => some (.BWR, 2)
  | .ATM_P_BWR => some (.P_BWR, 2)
  | .ATM_BWR8R => some (.BWR8R, 2)
  | .ATM_SWAP16 => some (.SWAP16, 2)
  | .ACTIVE_GET => some (.ACT_GET, 1)
  | .ACTIVE_ADD => some (.ACT_ADD, 1)
  | .ACTIVE_MULT => some (.ACT_MULT, 1)
  | .ACTIVE_DOT => some (.ACT_DOT, 1 + tran.dataSize / 16)
  | .PIM_DOT => some (.PEI_DOT, 1 + tran.dataSize / 16)
  | .PIM_ATOMIC => some (.PEI_ATOMIC, 1 + tran.dataSize / 16)

/-- `reqDataSize`: atomics ask for the minimum of 16 bytes. -/
def reqDataSize (tran : Transaction) : ℕ :=
  match tran.transactionType with
  | .DATA_READ | .DATA_WRITE | .ACTIVE_GET | .ACTIVE_ADD | .ACTIVE_MULT | .ACTIVE_DOT | .PIM_DOT
  | .PIM_ATOMIC => tran.dataSize
  | _ => 16

/-- An address is 34 bits long: `(address << 30) >> 30`. -/
def address34 (address : BitVec 64) : BitVec 64 := (address <<< 30) >>> 30

/-- The packet of a transaction, as its constructor and the assignments after
    it leave it, without its tag. -/
def newPacket (tran : Transaction) (cmdtype : PacketCommandType) (packetLength : ℕ) : Packet :=
  let packet : Packet :=
    { packetType := .REQUEST, CMD := cmdtype, LNG := packetLength
      SRCCUB := tran.src_cube, DESTCUB := tran.dest_cube1
      reqDataSize := tran.reqDataSize, orig_addr := tran.address, tran_tag := tran.transactionID }
  match tran.transactionType with
  | .ACTIVE_GET =>
    { packet with DESTADRS := tran.dest_address, SRCADRS1 := tran.src_address1, LINES := 1 }
  | .ACTIVE_ADD =>
    { packet with
      DESTADRS := tran.dest_address, SRCADRS1 := tran.src_address1, LINES := tran.lines
      ADRS := address34 tran.src_address1 }
  | .ACTIVE_DOT =>
    { packet with
      DESTADRS := tran.dest_address, SRCADRS1 := tran.src_address1, LINES := 1
      ADRS := address34 tran.src_address1 }
  | .ACTIVE_MULT =>
    { packet with
      DESTADRS := tran.dest_address, SRCADRS1 := tran.src_address1
      SRCADRS2 := tran.src_address2, LINES := tran.lines
      DESTCUB1 := tran.dest_cube1, DESTCUB2 := tran.dest_cube2
      ADRS := address34 tran.src_address1 }
  | _ => { packet with ADRS := address34 tran.address }

/-- `ConvTranIntoPacket`. -/
def convTranIntoPacket (tran : Transaction) : Option Packet :=
  tran.command.map fun (cmdtype, packetLength) => tran.newPacket cmdtype packetLength

theorem newPacket_CMD (tran : Transaction) (cmdtype : PacketCommandType) (packetLength : ℕ) :
    (tran.newPacket cmdtype packetLength).CMD = cmdtype := by
  rw [newPacket]
  split <;> rfl

/-- `ACT_GET` is the command of `ACTIVE_GET` alone. -/
theorem command_get {tran : Transaction} {cmdtype : PacketCommandType} {packetLength : ℕ}
    (command : tran.command = some (cmdtype, packetLength)) :
    cmdtype = .ACT_GET ↔ tran.transactionType = .ACTIVE_GET := by
  have read : ∀ size cmdtype, readCommand size = some cmdtype → cmdtype ≠ .ACT_GET := by
    intro size cmdtype found
    unfold readCommand at found
    split at found <;> cases found <;> decide
  have write : ∀ size cmdtype, writeCommand size = some cmdtype → cmdtype ≠ .ACT_GET := by
    intro size cmdtype found
    unfold writeCommand at found
    split at found <;> cases found <;> decide
  cases transactionType : tran.transactionType with
  | DATA_READ =>
    simp only [Transaction.command, transactionType, Option.map_eq_some_iff] at command
    obtain ⟨cmd, found, same⟩ := command
    obtain ⟨rfl, -⟩ := Prod.mk.inj same
    exact iff_of_false (read _ _ found) (by decide)
  | DATA_WRITE =>
    simp only [Transaction.command, transactionType, Option.map_eq_some_iff] at command
    obtain ⟨cmd, found, same⟩ := command
    obtain ⟨rfl, -⟩ := Prod.mk.inj same
    exact iff_of_false (write _ _ found) (by decide)
  | _ =>
    simp only [Transaction.command, transactionType] at command
    cases command <;> decide

theorem convTranIntoPacket_get {tran : Transaction} {packet : Packet}
    (converted : tran.convTranIntoPacket = some packet) :
    packet.CMD = .ACT_GET ↔ tran.transactionType = .ACTIVE_GET := by
  obtain ⟨⟨cmdtype, packetLength⟩, command, rfl⟩ := Option.map_eq_some_iff.mp converted
  rw [newPacket_CMD]
  exact command_get command

theorem convTranIntoPacket_dest {tran : Transaction} {packet : Packet}
    (converted : tran.convTranIntoPacket = some packet)
    (get : tran.transactionType = .ACTIVE_GET) : packet.DESTADRS = tran.dest_address := by
  obtain ⟨⟨cmdtype, packetLength⟩, command, rfl⟩ := Option.map_eq_some_iff.mp converted
  simp only [newPacket, get]

end Transaction

end ActiveRouting

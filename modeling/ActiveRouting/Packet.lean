import Mathlib.Data.BitVec

/-!
# Packets

`Packet.h` and `Packet.cpp`: the packet types and commands, the fields that
the modelled components read, and the CRC over a packet's header, payload and
tail.
-/

namespace ActiveRouting

/-- `PacketType`. -/
inductive PacketType where
  | REQUEST | RESPONSE | FLOW
  deriving DecidableEq, Repr

/-- `PacketCommandType`, in the groups of the source. -/
inductive PacketCommandType where
  -- write requests
  | WR16 | WR32 | WR48 | WR64 | WR80 | WR96 | WR112 | WR128 | MD_WR | WR256
  -- posted write requests
  | P_WR16 | P_WR32 | P_WR48 | P_WR64 | P_WR80 | P_WR96 | P_WR112 | P_WR128 | P_WR256
  -- read requests
  | RD16 | RD32 | RD48 | RD64 | RD80 | RD96 | RD112 | RD128 | RD256 | MD_RD
  -- arithmetic atomics
  | _2ADD8 | ADD16 | P_2ADD8 | P_ADD16 | _2ADDS8R | ADDS16R | INC8 | P_INC8
  -- boolean atomics
  | XOR16 | OR16 | NOR16 | AND16 | NAND16
  -- comparison atomics
  | CASGT8 | CASLT8 | CASGT16 | CASLT16 | CASEQ8 | CASZERO16 | EQ16 | EQ8
  -- bitwise atomics
  | BWR | P_BWR | BWR8R | SWAP16
  -- flow commands
  | NULL_ | PRET | TRET | IRTRY
  -- responses
  | RD_RS | WR_RS | MD_RD_RS | MD_WR_RS | ERROR
  -- active commands
  | ACT_GET | ACT_ADD | ACT_MULT | ACT_DOT | PEI_DOT | PEI_ATOMIC
  deriving DecidableEq, Repr

/-- The enumerator values. -/
def PacketCommandType.value : PacketCommandType → ℕ
  | WR16 => 8 | WR32 => 9 | WR48 => 10 | WR64 => 11 | WR80 => 12 | WR96 => 13 | WR112 => 14
  | WR128 => 15 | MD_WR => 16 | WR256 => 79
  | P_WR16 => 24 | P_WR32 => 25 | P_WR48 => 26 | P_WR64 => 27 | P_WR80 => 28 | P_WR96 => 29
  | P_WR112 => 30 | P_WR128 => 31 | P_WR256 => 95
  | RD16 => 48 | RD32 => 49 | RD48 => 50 | RD64 => 51 | RD80 => 52 | RD96 => 53 | RD112 => 54
  | RD128 => 55 | RD256 => 119 | MD_RD => 40
  | _2ADD8 => 18 | ADD16 => 19 | P_2ADD8 => 34 | P_ADD16 => 35 | _2ADDS8R => 82 | ADDS16R => 83
  | INC8 => 80 | P_INC8 => 84
  | XOR16 => 64 | OR16 => 65 | NOR16 => 66 | AND16 => 67 | NAND16 => 68
  | CASGT8 => 96 | CASLT8 => 97 | CASGT16 => 98 | CASLT16 => 99 | CASEQ8 => 100
  | CASZERO16 => 101 | EQ16 => 104 | EQ8 => 105
  | BWR => 17 | P_BWR => 33 | BWR8R => 81 | SWAP16 => 106
  | NULL_ => 0 | PRET => 1 | TRET => 2 | IRTRY => 3
  | RD_RS => 56 | WR_RS => 57 | MD_RD_RS => 58 | MD_WR_RS => 59 | ERROR => 62
  | ACT_GET => 108 | ACT_ADD => 109 | ACT_MULT => 110 | ACT_DOT => 111 | PEI_DOT => 112
  | PEI_ATOMIC => 113

/-- `Packet`, without the fields that only statistics and tracing read.  Cube
    ids and operand buffer ids are `int` in the source, with `-1` for none. -/
structure Packet where
  packetType : PacketType
  CMD : PacketCommandType
  TAG : ℕ := 0
  LNG : ℕ := 1
  CUB : ℕ := 0
  ADRS : BitVec 64 := 0
  -- tail fields
  CRC : BitVec 32 := 0
  SLID : ℕ := 0
  SEQ : ℕ := 0
  FRP : ℕ := 0
  RRP : ℕ := 0
  Pb : ℕ := 0
  AF : ℕ := 0
  ERRSTAT : ℕ := 0
  DINV : ℕ := 0
  RTC : ℕ := 0
  URTC : ℕ := 0
  DRTC : ℕ := 0
  DATA : List (BitVec 64) := []
  -- simulation state of the packet
  bufPopDelay : ℕ := 1
  chkCRC : Bool := false
  chkRRP : Bool := false
  segment : Bool := false
  reqDataSize : ℕ := 16
  -- active requests
  DESTADRS : BitVec 64 := 0
  SRCADRS1 : BitVec 64 := 0
  SRCADRS2 : BitVec 64 := 0
  LINES : ℕ := 0
  halfPkt1 : Bool := false
  halfPkt2 : Bool := false
  SRCCUB : ℤ := -1
  DESTCUB : ℤ := -1
  DESTCUB1 : ℤ := -1
  DESTCUB2 : ℤ := -1
  operandBufID : ℤ := -1
  -- what the response reports to the host
  orig_addr : BitVec 64 := 0
  tran_tag : ℕ := 0
  deriving DecidableEq, Repr

namespace Packet

/-- A flow packet as the link masters build it: `Packet(FLOW, cmd, 0, 0, 1, NULL, 0, 0)`. -/
def flow (cmd : PacketCommandType) (tag : ℕ) : Packet :=
  { packetType := .FLOW, CMD := cmd, TAG := tag, SRCCUB := 0, DESTCUB := 0 }

/-- One cycle of the packet's buffer delay. -/
def tick (p : Packet) : Packet := { p with bufPopDelay := p.bufPopDelay - 1 }

/-- `bufPopDelay = delay`. -/
def withDelay (p : Packet) (delay : ℕ) : Packet := { p with bufPopDelay := delay }

/-- What a component resets on a packet that it passes on to a link master. -/
def resetLinkFields (p : Packet) : Packet :=
  { p with RTC := 0, URTC := 0, DRTC := 0, chkCRC := false, RRP := 0, chkRRP := false }

@[simp] theorem withDelay_packetType (p : Packet) (delay : ℕ) : (p.withDelay delay).packetType = p.packetType := rfl
@[simp] theorem withDelay_CMD (p : Packet) (delay : ℕ) : (p.withDelay delay).CMD = p.CMD := rfl
@[simp] theorem withDelay_LNG (p : Packet) (delay : ℕ) : (p.withDelay delay).LNG = p.LNG := rfl
@[simp] theorem withDelay_URTC (p : Packet) (delay : ℕ) : (p.withDelay delay).URTC = p.URTC := rfl
@[simp] theorem withDelay_DRTC (p : Packet) (delay : ℕ) : (p.withDelay delay).DRTC = p.DRTC := rfl
@[simp] theorem withDelay_SEQ (p : Packet) (delay : ℕ) : (p.withDelay delay).SEQ = p.SEQ := rfl
@[simp] theorem withDelay_FRP (p : Packet) (delay : ℕ) : (p.withDelay delay).FRP = p.FRP := rfl
@[simp] theorem withDelay_RRP (p : Packet) (delay : ℕ) : (p.withDelay delay).RRP = p.RRP := rfl
@[simp] theorem withDelay_CRC (p : Packet) (delay : ℕ) : (p.withDelay delay).CRC = p.CRC := rfl

@[simp] theorem tick_LNG (p : Packet) : p.tick.LNG = p.LNG := rfl
@[simp] theorem tick_CMD (p : Packet) : p.tick.CMD = p.CMD := rfl
@[simp] theorem tick_packetType (p : Packet) : p.tick.packetType = p.packetType := rfl
@[simp] theorem tick_URTC (p : Packet) : p.tick.URTC = p.URTC := rfl
@[simp] theorem tick_DRTC (p : Packet) : p.tick.DRTC = p.DRTC := rfl
@[simp] theorem tick_SEQ (p : Packet) : p.tick.SEQ = p.SEQ := rfl
@[simp] theorem tick_FRP (p : Packet) : p.tick.FRP = p.FRP := rfl
@[simp] theorem tick_RRP (p : Packet) : p.tick.RRP = p.RRP := rfl

/-! ## CRC -/

/-- One entry of the table that `MakeCRCtable` makes. -/
def makeCRCtable (id : BitVec 32) (i : BitVec 8) : BitVec 32 :=
  (List.range 8).foldl (fun k _ => if k.getLsbD 0 then (k >>> 1) ^^^ id else k >>> 1)
    (i.setWidth 32)

/-- `CalcCRC`.  The table is indexed by a byte. -/
def calcCRC (mem : List (BitVec 8)) (crc : BitVec 32) (table : BitVec 8 → BitVec 32) : BitVec 32 :=
  ~~~ mem.foldl (fun crc byte =>
    table ((crc ^^^ byte.setWidth 32).setWidth 8) ^^^ (crc >>> 8)) (~~~ crc)

/-- The polynomial handed to `MakeCRCtable`. -/
def crcPolynomial : BitVec 32 := 0xEB31D82E#32

/-- Shift fields, given by width and value, into a word from the right. -/
def packFields (word : BitVec 64) (fields : List (ℕ × ℕ)) : BitVec 64 :=
  fields.foldl (fun word field => (word <<< field.1) ||| BitVec.ofNat 64 (field.2 % 2 ^ field.1))
    word

/-- The fields of the header word of `GetCRC`; `RES` is zero. -/
def crcHeader (p : Packet) : List (ℕ × ℕ) :=
  if p.packetType = .REQUEST then
    [(3, p.CUB), (3, 0), (34, p.ADRS.toNat), (1, 0), (11, p.TAG), (5, p.LNG), (7, p.CMD.value)]
  else
    [(3, p.CUB), (19, 0), (3, p.SLID), (5, 0), (1, p.AF), (10, 0), (11, p.TAG), (5, p.LNG),
      (7, p.CMD.value)]

/-- The fields of the tail word of `GetCRC`, with zero in place of the CRC. -/
def crcTail (p : Packet) : List (ℕ × ℕ) :=
  if p.packetType = .REQUEST then
    [(32, 0), (3, p.URTC + p.DRTC), (3, p.SLID), (4, 0), (1, p.Pb), (3, p.SEQ), (9, p.FRP),
      (9, p.RRP)]
  else
    [(32, 0), (3, p.URTC + p.DRTC), (7, p.ERRSTAT), (1, p.DINV), (3, p.SEQ), (9, p.FRP),
      (9, p.RRP)]

/-- The words of `DATA` that belong to the packet's length. -/
def payload (p : Packet) : List (BitVec 64) := p.DATA.take ((p.LNG - 1) * 2)

/-- `packetData`.  The fields are shifted into words that are not initialised before: `memory`
    says what the first and the last one hold. -/
def packetData (memory : BitVec 64 × BitVec 64) (p : Packet) : List (BitVec 64) :=
  [packFields memory.1 p.crcHeader] ++ p.payload ++ [packFields memory.2 p.crcTail]

/-- `buf`, the bytes of a word from the lowest one. -/
def buf (word : BitVec 64) : List (BitVec 8) :=
  (List.range 8).map fun i => (word >>> (8 * i)).setWidth 8

/-- `GetCRC` of a packet whose words were not initialised. -/
def getCRCOf (memory : BitVec 64 × BitVec 64) (p : Packet) : BitVec 32 :=
  (packetData memory p).foldl
    (fun crc word => calcCRC (buf word) crc (makeCRCtable crcPolynomial)) 0

/-- `Packet::GetCRC`. -/
def getCRC (p : Packet) : BitVec 32 := getCRCOf (0, 0) p

/-- `CRC = GetCRC()`. -/
def setCRC (p : Packet) : Packet := { p with CRC := p.getCRC }

@[simp] theorem setCRC_CRC (p : Packet) : p.setCRC.CRC = p.getCRC := rfl

/-- The CRC field is not covered by the CRC. -/
@[simp] theorem getCRC_setCRC (p : Packet) : p.setCRC.getCRC = p.getCRC := rfl

@[simp] theorem setCRC_packetType (p : Packet) : p.setCRC.packetType = p.packetType := rfl
@[simp] theorem setCRC_CMD (p : Packet) : p.setCRC.CMD = p.CMD := rfl
@[simp] theorem setCRC_LNG (p : Packet) : p.setCRC.LNG = p.LNG := rfl
@[simp] theorem setCRC_URTC (p : Packet) : p.setCRC.URTC = p.URTC := rfl
@[simp] theorem setCRC_DRTC (p : Packet) : p.setCRC.DRTC = p.DRTC := rfl
@[simp] theorem setCRC_SEQ (p : Packet) : p.setCRC.SEQ = p.SEQ := rfl
@[simp] theorem setCRC_FRP (p : Packet) : p.setCRC.FRP = p.FRP := rfl
@[simp] theorem setCRC_RRP (p : Packet) : p.setCRC.RRP = p.RRP := rfl

@[simp] theorem getCRC_withDelay (p : Packet) (delay : ℕ) :
    (p.withDelay delay).getCRC = p.getCRC := rfl

end Packet

end ActiveRouting

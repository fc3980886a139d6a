import ActiveRouting.Library.InputStream
import ActiveRouting.Library.Numerals
import Mathlib.Algebra.Order.BigOperators.Group.List
import Mathlib.Data.Rat.Defs
import Mathlib.Algebra.Order.Ring.Rat

/-!
# Replaying a trace

`PthreadScheduler::PlayTraces`: the compressed blocks of a trace file are read
one after the other, and the instructions of each block go to `process_ins`.
-/

namespace ActiveRouting

open Library.Numerals

/-- A byte of a file. -/
abbrev TraceByte := Fin 256

@[irreducible] def instr_group_size : ℕ := 100000

theorem instr_group_size_pos : 0 < instr_group_size := by
  unfold instr_group_size
  decide

structure PTSInstrTrace where
  waddr : ℕ := 0
  wlen : ℕ := 0
  raddr : ℕ := 0
  raddr2 : ℕ := 0
  rlen : ℕ := 0
  ip : ℕ := 0
  category : ℕ := 0
  isbranch : Bool := false
  isbranchtaken : Bool := false
  rr0 : ℕ := 0
  rr1 : ℕ := 0
  rr2 : ℕ := 0
  rr3 : ℕ := 0
  rw0 : ℕ := 0
  rw1 : ℕ := 0
  rw2 : ℕ := 0
  rw3 : ℕ := 0
  deriving DecidableEq, Repr

/-- The compression library, on records of a trace instead of their bytes. -/
structure Snappy where
  RawCompress : List PTSInstrTrace → List TraceByte
  /-- `none` for data that are corrupted. -/
  RawUncompress : List TraceByte → Option (List PTSInstrTrace)
  /-- `MaxCompressedLength` of a full group. -/
  maxCompressedLength : ℕ

structure TraceConfig where
  page_sz_log2 : ℕ := 12
  agile_bank_th : ℚ := 0

/-! ## Addresses of agile banks -/

namespace TraceConfig

/-- `addr_perc`: the rank of a page among those of the page access file.  The source divides
    `double`s, here the quotient is exact. -/
def addr_perc (c : TraceConfig) (pages : List ℕ) (page : ℕ) : Option ℚ :=
  (pages.findIdx? fun addr => addr / 2 ^ c.page_sz_log2 = page).map fun first =>
    (first + 1 : ℚ) / pages.length

/-- An address of an agile bank has bit 63 set. -/
def markAddress (addr : ℕ) : ℕ := if addr ≠ 0 then addr ||| 2 ^ 63 else addr

def markFrequent (c : TraceConfig) (pages : List ℕ) (addr : ℕ) : ℕ :=
  match c.addr_perc pages (addr / 2 ^ c.page_sz_log2) with
  | some perc => if perc < c.agile_bank_th then markAddress addr else addr
  | none => addr

/-- What the loop does to `curr_instr`. -/
def markInstr (c : TraceConfig) (pages : List ℕ) (instr : PTSInstrTrace) : PTSInstrTrace :=
  if 1 ≤ c.agile_bank_th then
    { instr with
      raddr := markAddress instr.raddr
      raddr2 := markAddress instr.raddr2
      waddr := markAddress instr.waddr }
  else if 0 < c.agile_bank_th then
    { instr with
      raddr := c.markFrequent pages instr.raddr
      raddr2 := c.markFrequent pages instr.raddr2
      waddr := c.markFrequent pages instr.waddr
      ip := c.markFrequent pages instr.ip }
  else instr

end TraceConfig

/-! ## The loop -/

/-- The bytes of a `size_t`, the least significant one first. -/
def sizeBytes (size : ℕ) : List TraceByte := (digits 8 size).reverse

def sizeOfBytes (bytes : List TraceByte) : ℕ := number bytes.reverse

/-- The local variables of `PlayTraces`, and the instructions that were passed to
    `process_ins`.  A file is too short for `num_sent_instrs` to overflow. -/
structure TracePlayer where
  trace_file : InputStream TraceByte
  instrs : List PTSInstrTrace
  compressed_length : List TraceByte
  compressed : List TraceByte
  num_sent_instrs : ℕ := 0
  processed : List PTSInstrTrace := []

/-- How `PlayTraces` ends. -/
inductive PlayEnd where
  | finished
  | failedToOpen
  | corrupted
  /-- A block is longer than the buffer it is written to. -/
  | overflow
  deriving DecidableEq, Repr

namespace TracePlayer

variable (c : TraceConfig) (z : Snappy) (pages : List ℕ) (trace_skip_first : ℕ)

def playInstr (p : TracePlayer) (instr : PTSInstrTrace) : TracePlayer :=
  { p with
    num_sent_instrs := p.num_sent_instrs + 1
    processed :=
      if trace_skip_first ≤ p.num_sent_instrs then p.processed ++ [instr] else p.processed }

/-- The loop over the group. -/
def playGroup (p : TracePlayer) (instrs : List PTSInstrTrace) : TracePlayer :=
  instrs.foldl (playInstr trace_skip_first) { p with instrs := instrs }

/-- The two reads of an iteration. -/
def readBlock (p : TracePlayer) : TracePlayer :=
  let (trace_file, compressed_length) := p.trace_file.read 8 p.compressed_length
  let (trace_file, compressed) := trace_file.read (sizeOfBytes compressed_length) p.compressed
  { p with trace_file, compressed_length, compressed }

/-- What is in the buffer, as far as its length says. -/
def message (p : TracePlayer) : List TraceByte :=
  p.compressed.take (sizeOfBytes p.compressed_length)

/-- What has been read is uncompressed over the last group, and played. -/
def playMessage (p : TracePlayer) : Except PlayEnd TracePlayer :=
  if z.maxCompressedLength < sizeOfBytes p.compressed_length then .error .overflow
  else match z.RawUncompress p.message with
  | none => .error .corrupted
  | some instrs =>
    if instr_group_size < instrs.length then .error .overflow
    else .ok (p.playGroup trace_skip_first
      ((instrs ++ p.instrs.drop instrs.length).map (c.markInstr pages)))

/-- One iteration of the loop. -/
def playBlock (p : TracePlayer) : Except PlayEnd TracePlayer :=
  p.readBlock.playMessage c z pages trace_skip_first

variable {c z pages trace_skip_first}

@[simp] theorem foldl_playInstr_trace_file (instrs : List PTSInstrTrace) (p : TracePlayer) :
    (instrs.foldl (playInstr trace_skip_first) p).trace_file = p.trace_file := by
  induction instrs generalizing p with
  | nil => rfl
  | cons instr instrs inductionHypothesis => exact inductionHypothesis _

theorem playBlock_trace_file {p p' : TracePlayer}
    (played : p.playBlock c z pages trace_skip_first = .ok p') :
    p'.trace_file = p.readBlock.trace_file := by
  simp only [playBlock, playMessage] at played
  split at played
  · cases played
  · split at played
    · cases played
    · split at played
      · cases played
      · cases played
        simp [playGroup]

theorem left_playBlock {p p' : TracePlayer} (more : p.trace_file.eof = false)
    (played : p.playBlock c z pages trace_skip_first = .ok p') :
    p'.trace_file.left < p.trace_file.left := by
  rw [playBlock_trace_file played]
  have first := InputStream.left_read_lt more (by decide : 0 < 8) p.compressed_length
  exact Nat.lt_of_le_of_lt (InputStream.left_read_le _ _ _) first

variable (c z pages trace_skip_first)

/-- The loop `while (trace_file.eof() == false)`. -/
def playLoop (p : TracePlayer) : PlayEnd × TracePlayer :=
  if _more : p.trace_file.eof = true then (.finished, p)
  else match _played : p.playBlock c z pages trace_skip_first with
  | .error ended => (ended, p)
  | .ok p' => playLoop p'
termination_by p.trace_file.left
decreasing_by exact left_playBlock (Bool.eq_false_iff.mpr _more) _played

end TracePlayer

variable (c : TraceConfig) (z : Snappy)

/-- `PlayTraces` with `repeat_playing` off.  `memory` is what `new` leaves in the
    buffer of the group, and `none` a file that cannot be opened. -/
def PlayTraces (memory : ℕ → PTSInstrTrace) (trace_file : Option (List TraceByte))
    (page_acc_file : Option (List ℕ)) (trace_skip_first : ℕ) : PlayEnd × List PTSInstrTrace :=
  match trace_file with
  | none => (.failedToOpen, [])
  | some rest =>
    let play (pages : List ℕ) : PlayEnd × List PTSInstrTrace :=
      let (ended, p) := TracePlayer.playLoop c z pages trace_skip_first {
        trace_file := { rest }
        instrs := (List.range instr_group_size).map memory
        compressed_length := sizeBytes 0
        compressed := [] }
      (ended, p.processed)
    if 0 < c.agile_bank_th ∧ c.agile_bank_th < 1 then
      match page_acc_file with
      | none => (.failedToOpen, [])
      | some pages => play pages
    else play []

/-! ## Files of complete blocks -/

/-- What the trace generator writes for one group of instructions. -/
def blockBytes (block : List PTSInstrTrace) : List TraceByte :=
  sizeBytes (z.RawCompress block).length ++ z.RawCompress block

def traceBytes (blocks : List (List PTSInstrTrace)) : List TraceByte :=
  blocks.flatMap (blockBytes z)

/-- What the compression library promises for the blocks of a file. -/
structure Snappy.Inverts (z : Snappy) (blocks : List (List PTSInstrTrace)) : Prop where
  uncompress : ∀ block ∈ blocks, z.RawUncompress (z.RawCompress block) = some block
  length_le : ∀ block ∈ blocks, (z.RawCompress block).length ≤ z.maxCompressedLength
  addressable : z.maxCompressedLength < 2 ^ 64
  /-- No data are no message. -/
  nothing : z.RawUncompress [] = none

variable {c z}

theorem Snappy.Inverts.tail {block : List PTSInstrTrace} {blocks : List (List PTSInstrTrace)}
    (inverts : z.Inverts (block :: blocks)) : z.Inverts blocks where
  uncompress other member := inverts.uncompress other (List.mem_cons_of_mem _ member)
  length_le other member := inverts.length_le other (List.mem_cons_of_mem _ member)
  addressable := inverts.addressable
  nothing := inverts.nothing

@[simp] theorem length_sizeBytes (size : ℕ) : (sizeBytes size).length = 8 := by
  simp [sizeBytes]

theorem sizeOfBytes_sizeBytes {size : ℕ} (addressable : size < 2 ^ 64) :
    sizeOfBytes (sizeBytes size) = size := by
  have inRange : size < 256 ^ 8 := by
    calc size < 2 ^ 64 := addressable
      _ = 256 ^ 8 := by norm_num
  rw [sizeOfBytes, sizeBytes, List.reverse_reverse, number_digits inRange]

namespace TracePlayer

variable {pages : List ℕ} {trace_skip_first : ℕ} {p p' : TracePlayer}
  {block : List PTSInstrTrace} {blocks : List (List PTSInstrTrace)}

theorem foldl_playInstr (instrs : List PTSInstrTrace) (p : TracePlayer) :
    instrs.foldl (playInstr trace_skip_first) p =
      { p with
        num_sent_instrs := p.num_sent_instrs + instrs.length
        processed := p.processed ++ instrs.drop (trace_skip_first - p.num_sent_instrs) } := by
  induction instrs generalizing p with
  | nil => simp
  | cons instr instrs inductionHypothesis =>
    rw [List.foldl_cons, inductionHypothesis]
    simp only [playInstr, List.length_cons, mk.injEq, true_and]
    refine ⟨by omega, ?_⟩
    by_cases skipped : trace_skip_first ≤ p.num_sent_instrs
    · have before : trace_skip_first - (p.num_sent_instrs + 1) = 0 := by omega
      have now : trace_skip_first - p.num_sent_instrs = 0 := by omega
      simp [skipped, before, now]
    · have more : trace_skip_first - p.num_sent_instrs =
          trace_skip_first - (p.num_sent_instrs + 1) + 1 := by omega
      simp [skipped, more]

/-- The buffers have their sizes. -/
structure Allocated (p : TracePlayer) : Prop where
  instrs : p.instrs.length = instr_group_size
  compressed_length : p.compressed_length.length = 8

/-- The buffer holds a compressed block. -/
structure Holds (z : Snappy) (p : TracePlayer) (block : List PTSInstrTrace) : Prop where
  fits : sizeOfBytes p.compressed_length ≤ z.maxCompressedLength
  uncompress : z.RawUncompress p.message = some block

/-- The group of an iteration: a short block leaves the rest of the last group. -/
def group (c : TraceConfig) (pages : List ℕ) (instrs block : List PTSInstrTrace) :
    List PTSInstrTrace :=
  (block ++ instrs.drop block.length).map (c.markInstr pages)

@[simp] theorem length_group {instrs : List PTSInstrTrace}
    (short : block.length ≤ instrs.length) :
    (group c pages instrs block).length = instrs.length := by
  simp [group, short]

/-- A read that succeeds leaves the block in the buffer. -/
theorem readBlock_block {others : List TraceByte} (allocated : Allocated p)
    (inverts : z.Inverts (block :: blocks))
    (next : p.trace_file = { rest := blockBytes z block ++ others }) :
    Holds z p.readBlock block ∧ p.readBlock = { p with
      trace_file := { rest := others }
      compressed_length := sizeBytes (z.RawCompress block).length
      compressed := z.RawCompress block ++
        p.compressed.drop (z.RawCompress block).length } := by
  have isBlock := inverts.length_le block List.mem_cons_self
  have size := sizeOfBytes_sizeBytes (Nat.lt_of_le_of_lt isBlock inverts.addressable)
  have readSize := InputStream.read_append (sizeBytes (z.RawCompress block).length)
    (z.RawCompress block ++ others) p.compressed_length
  rw [length_sizeBytes, List.drop_eq_nil_of_le (Nat.le_of_eq allocated.compressed_length),
    List.append_nil] at readSize
  have isRead : p.readBlock = { p with
      trace_file := { rest := others }
      compressed_length := sizeBytes (z.RawCompress block).length
      compressed := z.RawCompress block ++
        p.compressed.drop (z.RawCompress block).length } := by
    simp only [readBlock, next, blockBytes, List.append_assoc, readSize, size,
      InputStream.read_append]
  refine ⟨⟨?_, ?_⟩, isRead⟩
  · rw [isRead, size]
    exact isBlock
  · rw [isRead, message, size, List.take_left]
    exact inverts.uncompress block List.mem_cons_self

/-- At the end of the file the reads leave the last block in the buffer. -/
theorem readBlock_end (atEnd : p.trace_file = { rest := [] }) :
    p.readBlock = { p with trace_file := { rest := [], eof := true } } := by
  have readSize : p.trace_file.read 8 p.compressed_length =
      ({ rest := [], eof := true }, p.compressed_length) := by
    apply InputStream.read_of_lt
    · simp [atEnd]
    · simp [atEnd]
  simp [readBlock, readSize]

/-- The groups of all iterations. -/
def groups (c : TraceConfig) (pages : List ℕ) :
    List PTSInstrTrace → List (List PTSInstrTrace) → List PTSInstrTrace
  | _, [] => []
  | instrs, block :: blocks =>
    group c pages instrs block ++ groups c pages (group c pages instrs block) blocks

theorem length_groups (grouped : ∀ block ∈ blocks, block.length ≤ instr_group_size) :
    ∀ {instrs : List PTSInstrTrace}, instrs.length = instr_group_size →
      (groups c pages instrs blocks).length = blocks.length * instr_group_size := by
  induction blocks with
  | nil => simp [groups]
  | cons block blocks inductionHypothesis =>
    intro instrs allocated
    obtain ⟨short, others⟩ := List.forall_mem_cons.mp grouped
    have isGroup : (group c pages instrs block).length = instr_group_size := by
      rw [length_group (allocated ▸ short), allocated]
    rw [groups, List.length_append, inductionHypothesis others isGroup, isGroup,
      List.length_cons, Nat.succ_mul, Nat.add_comm]

theorem playLoop_ok (more : p.trace_file.eof = false)
    (played : p.playBlock c z pages trace_skip_first = .ok p') :
    p.playLoop c z pages trace_skip_first = p'.playLoop c z pages trace_skip_first := by
  rw [playLoop, dif_neg (Bool.eq_false_iff.mp more)]
  split
  · rename_i ended isEnd
    rw [played] at isEnd
    cases isEnd
  · rename_i next isNext
    rw [played] at isNext
    cases isNext
    rfl

theorem playLoop_error {ended : PlayEnd} (more : p.trace_file.eof = false)
    (played : p.playBlock c z pages trace_skip_first = .error ended) :
    p.playLoop c z pages trace_skip_first = (ended, p) := by
  rw [playLoop, dif_neg (Bool.eq_false_iff.mp more)]
  split
  · rename_i isEnd
    rw [played] at isEnd
    cases isEnd
    rfl
  · rename_i isNext
    rw [played] at isNext
    cases isNext

theorem playLoop_eof (atEnd : p.trace_file.eof = true) :
    p.playLoop c z pages trace_skip_first = (.finished, p) := by
  rw [playLoop, dif_pos atEnd]

theorem playGroup_eq (p : TracePlayer) (instrs : List PTSInstrTrace) :
    p.playGroup trace_skip_first instrs = { p with
      instrs
      num_sent_instrs := p.num_sent_instrs + instrs.length
      processed := p.processed ++ instrs.drop (trace_skip_first - p.num_sent_instrs) } :=
  foldl_playInstr instrs _

/-- An iteration plays the block that its reads leave in the buffer. -/
structure Plays (c : TraceConfig) (z : Snappy) (pages : List ℕ) (trace_skip_first : ℕ)
    (p : TracePlayer) (block : List PTSInstrTrace) (p' : TracePlayer) : Prop where
  stepped : p.playBlock c z pages trace_skip_first = .ok p'
  trace_file : p'.trace_file = p.readBlock.trace_file
  instrs : p'.instrs = group c pages p.instrs block
  compressed_length : p'.compressed_length = p.readBlock.compressed_length
  holds : Holds z p' block
  num_sent_instrs : p'.num_sent_instrs = p.num_sent_instrs + p'.instrs.length
  processed : p'.processed = p.processed ++
    (group c pages p.instrs block).drop (trace_skip_first - p.num_sent_instrs)

theorem exists_plays (c : TraceConfig) (pages : List ℕ) (trace_skip_first : ℕ)
    (holds : Holds z p.readBlock block) (grouped : block.length ≤ instr_group_size) :
    ∃ p', Plays c z pages trace_skip_first p block p' := by
  have stepped : p.playBlock c z pages trace_skip_first =
      .ok (p.readBlock.playGroup trace_skip_first (group c pages p.instrs block)) := by
    rw [playBlock, playMessage, if_neg (Nat.not_lt.mpr holds.fits), holds.uncompress]
    exact if_neg (Nat.not_lt.mpr grouped)
  rw [playGroup_eq] at stepped
  exact ⟨_, stepped, rfl, rfl, rfl, ⟨holds.fits, holds.uncompress⟩, rfl, rfl⟩

theorem Plays.allocated {p' : TracePlayer} (plays : Plays c z pages trace_skip_first p block p')
    (allocated : Allocated p) (grouped : block.length ≤ instr_group_size)
    (sized : p.readBlock.compressed_length.length = 8) : Allocated p' where
  instrs := by rw [plays.instrs, length_group (allocated.instrs ▸ grouped), allocated.instrs]
  compressed_length := plays.compressed_length ▸ sized

/-- The file has been read to its end, but the flag is not set: one more iteration. -/
theorem playLoop_end (holds : Holds z p block) (grouped : block.length ≤ instr_group_size)
    (atEnd : p.trace_file = { rest := [] }) :
    ∃ p', p.playLoop c z pages trace_skip_first = (.finished, p') ∧
      p'.processed = p.processed ++
        (group c pages p.instrs block).drop (trace_skip_first - p.num_sent_instrs) := by
  have readLast := readBlock_end atEnd
  have holdsLast : Holds z p.readBlock block := by
    rw [readLast]
    exact ⟨holds.fits, holds.uncompress⟩
  obtain ⟨p', plays⟩ := exists_plays c pages trace_skip_first holdsLast grouped
  have isEnd : p'.trace_file.eof = true := by rw [plays.trace_file, readLast]
  exact ⟨p', (playLoop_ok (by rw [atEnd]) plays.stepped).trans (playLoop_eof isEnd),
    plays.processed⟩

/-- All blocks are played, and then the last one once more. -/
theorem playLoop_blocks (c : TraceConfig) (pages : List ℕ) (trace_skip_first : ℕ) :
    ∀ (blocks : List (List PTSInstrTrace)) {block : List PTSInstrTrace} {p : TracePlayer},
      Allocated p → z.Inverts (block :: blocks) →
      (∀ other ∈ block :: blocks, other.length ≤ instr_group_size) →
      p.trace_file = { rest := traceBytes z (block :: blocks) } →
      ∃ p', p.playLoop c z pages trace_skip_first = (.finished, p') ∧
        p'.processed = p.processed ++
          (groups c pages p.instrs (block :: blocks ++ [blocks.getLastD block])).drop
            (trace_skip_first - p.num_sent_instrs)
  | blocks, block, p, allocated, inverts, grouped, isFile => by
    obtain ⟨isShort, others⟩ := List.forall_mem_cons.mp grouped
    obtain ⟨holds, isRead⟩ := readBlock_block allocated inverts isFile
    obtain ⟨p', plays⟩ := exists_plays c pages trace_skip_first holds isShort
    have rest : p'.trace_file = { rest := traceBytes z blocks } := by
      rw [plays.trace_file, isRead]
      rfl
    have allocated' := plays.allocated allocated isShort (by rw [isRead, length_sizeBytes])
    have continues := playLoop_ok (by rw [isFile]) plays.stepped
    -- what the others skip is what this one has not skipped yet
    have skips : ∀ later, (groups c pages p.instrs (block :: later)).drop
        (trace_skip_first - p.num_sent_instrs) =
          (group c pages p.instrs block).drop (trace_skip_first - p.num_sent_instrs) ++
            (groups c pages p'.instrs later).drop (trace_skip_first - p'.num_sent_instrs) := by
      intro later
      rw [groups, List.drop_append, plays.num_sent_instrs, ← plays.instrs, Nat.sub_sub]
    match blocks with
    | [] =>
      obtain ⟨p'', ended, processed⟩ := playLoop_end plays.holds isShort rest
      refine ⟨p'', continues.trans ended, ?_⟩
      rw [processed, plays.processed, List.append_assoc]
      congr 1
      have isLast : groups c pages p'.instrs [block] = group c pages p'.instrs block :=
        List.append_nil _
      rw [← isLast]
      exact (skips [block]).symm
    | next :: blocks =>
      obtain ⟨p'', ended, processed⟩ :=
        playLoop_blocks c pages trace_skip_first blocks allocated' inverts.tail others rest
      refine ⟨p'', continues.trans ended, ?_⟩
      rw [processed, plays.processed, List.append_assoc]
      congr 1
      rw [List.getLastD_cons]
      exact (skips _).symm

end TracePlayer

/-! ## What is played -/

section Replay

open TracePlayer

variable {memory : ℕ → PTSInstrTrace} {pages : List ℕ} {trace_skip_first : ℕ}
  {block : List PTSInstrTrace} {blocks : List (List PTSInstrTrace)}

/-- The page access file is read where it is used. -/
theorem markInstr_unused (unused : ¬ (0 < c.agile_bank_th ∧ c.agile_bank_th < 1)) :
    c.markInstr pages = c.markInstr [] := by
  funext instr
  unfold TraceConfig.markInstr
  split
  · rfl
  · rename_i small
    rw [if_neg fun positive => unused ⟨positive, not_le.mp small⟩,
      if_neg fun positive => unused ⟨positive, not_le.mp small⟩]

/-- The groups depend on the page access file where it is used. -/
theorem groups_unused (unused : ¬ (0 < c.agile_bank_th ∧ c.agile_bank_th < 1))
    (instrs : List PTSInstrTrace) : groups c pages instrs blocks = groups c [] instrs blocks := by
  induction blocks generalizing instrs with
  | nil => rfl
  | cons block blocks inductionHypothesis =>
    have same : group c pages instrs block = group c [] instrs block := by
      rw [group, group, markInstr_unused unused]
    rw [groups, groups, same, inductionHypothesis]

/-- A file with a block: the blocks are played, and then the last one once more. -/
theorem PlayTraces_cons (inverts : z.Inverts (block :: blocks))
    (grouped : ∀ other ∈ block :: blocks, other.length ≤ instr_group_size) :
    PlayTraces c z memory (some (traceBytes z (block :: blocks))) (some pages) trace_skip_first =
      (.finished, (groups c pages ((List.range instr_group_size).map memory)
        (block :: blocks ++ [blocks.getLastD block])).drop trace_skip_first) := by
  have play : ∀ pages, ∃ p', playLoop c z pages trace_skip_first {
      trace_file := { rest := traceBytes z (block :: blocks) }
      instrs := (List.range instr_group_size).map memory
      compressed_length := sizeBytes 0
      compressed := [] } = (.finished, p') ∧ p'.processed =
        (groups c pages ((List.range instr_group_size).map memory)
          (block :: blocks ++ [blocks.getLastD block])).drop trace_skip_first := by
    intro pages
    have allocated : Allocated {
        trace_file := { rest := traceBytes z (block :: blocks) }
        instrs := (List.range instr_group_size).map memory
        compressed_length := sizeBytes 0
        compressed := [] } := ⟨by simp, length_sizeBytes 0⟩
    obtain ⟨p', ended, processed⟩ :=
      playLoop_blocks c pages trace_skip_first blocks allocated inverts grouped rfl
    exact ⟨p', ended, by simpa using processed⟩
  unfold PlayTraces
  by_cases isUsed : 0 < c.agile_bank_th ∧ c.agile_bank_th < 1
  · obtain ⟨p', ended, processed⟩ := play pages
    simp only [isUsed, and_self, if_true, ended, processed]
  · obtain ⟨p', ended, processed⟩ := play []
    simp only [isUsed, if_false, ended, processed, groups_unused isUsed]

/-- A file without a block is taken for a corrupted one. -/
theorem PlayTraces_nil (nothing : z.RawUncompress [] = none) :
    PlayTraces c z memory (some (traceBytes z [])) (some pages) trace_skip_first =
      (.corrupted, []) := by
  have noSize : sizeOfBytes (sizeBytes 0) = 0 := sizeOfBytes_sizeBytes (by norm_num)
  have play : ∀ pages (p : TracePlayer), p.trace_file = { rest := [] } →
      p.compressed_length = sizeBytes 0 →
        playLoop c z pages trace_skip_first p = (.corrupted, p) := by
    intro pages p atEnd isSize
    apply playLoop_error (by rw [atEnd])
    rw [playBlock, readBlock_end atEnd, playMessage]
    simp [message, isSize, noSize, nothing]
  unfold PlayTraces
  simp [traceBytes, play]

theorem length_replayed (c : TraceConfig) (memory : ℕ → PTSInstrTrace) (pages : List ℕ)
    (trace_skip_first : ℕ)
    (grouped : ∀ other ∈ block :: blocks, other.length ≤ instr_group_size) :
    ((groups c pages ((List.range instr_group_size).map memory)
      (block :: blocks ++ [blocks.getLastD block])).drop trace_skip_first).length =
        ((block :: blocks).length + 1) * instr_group_size - trace_skip_first := by
  have isGrouped : ∀ other ∈ block :: blocks ++ [blocks.getLastD block],
      other.length ≤ instr_group_size := by
    intro other member
    cases List.mem_append.mp member with
    | inl before => exact grouped other before
    | inr again =>
      rw [List.mem_singleton.mp again]
      apply grouped
      rw [List.getLastD_eq_getLast?]
      cases isLast : blocks.getLast? with
      | none => exact List.mem_cons_self
      | some last => exact List.mem_cons_of_mem _ (List.mem_of_getLast? isLast)
  rw [List.length_drop, length_groups isGrouped (by simp), List.length_append, List.length_singleton]

theorem length_flatten_le (grouped : ∀ other ∈ blocks, other.length ≤ instr_group_size) :
    blocks.flatten.length ≤ blocks.length * instr_group_size := by
  rw [List.length_flatten]
  have bounded := List.sum_le_card_nsmul (blocks.map List.length) instr_group_size ?_
  · simpa using bounded
  · intro size member
    obtain ⟨other, isBlock, rfl⟩ := List.mem_map.mp member
    exact grouped other isBlock

/-- Each traced instruction after the skip count is played once and in order exactly where the
    file has no block, or the skip count is beyond all groups and one more. -/
theorem play_traces_exact (c : TraceConfig) (z : Snappy) (memory : ℕ → PTSInstrTrace)
    (pages : List ℕ) (blocks : List (List PTSInstrTrace)) (trace_skip_first : ℕ)
    (inverts : z.Inverts blocks) (grouped : ∀ block ∈ blocks, block.length ≤ instr_group_size) :
    (PlayTraces c z memory (some (traceBytes z blocks)) (some pages) trace_skip_first).2 =
        (blocks.flatten.map (c.markInstr pages)).drop trace_skip_first ↔
      blocks = [] ∨ (blocks.length + 1) * instr_group_size ≤ trace_skip_first := by
  match blocks with
  | [] => simp [PlayTraces_nil inverts.nothing]
  | block :: blocks =>
    have replayed := length_replayed c memory pages trace_skip_first grouped
    have traced := length_flatten_le grouped
    have more : (block :: blocks).length * instr_group_size + instr_group_size =
        ((block :: blocks).length + 1) * instr_group_size := (Nat.succ_mul _ _).symm
    rw [PlayTraces_cons inverts grouped]
    constructor
    · -- one group too many, of which only the skip count can leave nothing
      intro same
      have sameLength := congrArg List.length same
      rw [replayed, List.length_drop, List.length_map] at sameLength
      have positive := instr_group_size_pos
      right
      omega
    · rintro (isEmpty | skipped)
      · cases isEmpty
      · have nothing : ((block :: blocks).flatten.map (c.markInstr pages)).drop trace_skip_first =
            [] := List.drop_eq_nil_of_le (by rw [List.length_map]; omega)
        rw [nothing]
        apply List.eq_nil_of_length_eq_zero
        rw [replayed]
        omega

/-! A group of which all 8,800,000 bytes are zero.  It is compressed in fragments of 64 KiB, each
a literal byte and copies of 64 bytes with offset 1. -/

def zeroGroup : List PTSInstrTrace := List.replicate instr_group_size {}

def zeroFragment (copies : ℕ) : List TraceByte :=
  [0, 0] ++ (List.replicate copies [254, 1, 0]).flatten ++ [250, 1, 0]

@[irreducible] def zeroBytes : List TraceByte :=
  [128, 142, 153, 4] ++ (List.replicate 134 (zeroFragment 1023)).flatten ++ zeroFragment 283

/-- The compression library on this group. -/
def zeroSnappy : Snappy where
  RawCompress _ := zeroBytes
  RawUncompress bytes := if bytes = zeroBytes then some zeroGroup else none
  maxCompressedLength := 10266698

theorem length_zeroFragment (copies : ℕ) : (zeroFragment copies).length = 3 * copies + 5 := by
  simp [zeroFragment]
  omega

theorem length_zeroBytes : zeroBytes.length = 412774 := by
  have fragments : (List.replicate 134 (zeroFragment 1023)).flatten.length = 134 * 3074 := by
    rw [List.length_flatten, List.map_replicate, List.sum_replicate_nat, length_zeroFragment]
  have isBytes : zeroBytes = [128, 142, 153, 4] ++
      (List.replicate 134 (zeroFragment 1023)).flatten ++ zeroFragment 283 := by
    unfold zeroBytes
    rfl
  have varint : ([128, 142, 153, 4] : List TraceByte).length = 4 := rfl
  rw [isBytes, List.length_append, List.length_append, varint, fragments, length_zeroFragment]

theorem zeroSnappy_inverts : zeroSnappy.Inverts [zeroGroup] where
  uncompress block member := by
    rw [List.mem_singleton.mp member]
    exact if_pos rfl
  length_le block _ := by
    have isLength : (zeroSnappy.RawCompress block).length = 412774 := length_zeroBytes
    have isLimit : zeroSnappy.maxCompressedLength = 10266698 := rfl
    omega
  addressable := by
    have isLimit : zeroSnappy.maxCompressedLength = 10266698 := rfl
    omega
  nothing := by
    apply if_neg
    intro isEmpty
    have isLength := length_zeroBytes
    rw [← isEmpty] at isLength
    cases isLength

theorem zeroGroup_grouped : ∀ block ∈ [zeroGroup], block.length ≤ instr_group_size := by
  intro block member
  rw [List.mem_singleton.mp member, zeroGroup, List.length_replicate]

theorem play_traces_exact_skipping :
    (PlayTraces {} zeroSnappy (fun _ => {}) (some (traceBytes zeroSnappy [zeroGroup])) (some [])
      (2 * instr_group_size)).2 =
        ([zeroGroup].flatten.map (TraceConfig.markInstr {} [])).drop (2 * instr_group_size) :=
  (play_traces_exact {} zeroSnappy (fun _ => {}) [] [zeroGroup] (2 * instr_group_size)
    zeroSnappy_inverts zeroGroup_grouped).mpr (.inr (Nat.le_refl _))

/-- Of a file with one group every instruction is played twice. -/
theorem play_traces_replays_group :
    (PlayTraces {} zeroSnappy (fun _ => {}) (some (traceBytes zeroSnappy [zeroGroup])) (some [])
      0).2.length = 2 * instr_group_size ∧
    (PlayTraces {} zeroSnappy (fun _ => {}) (some (traceBytes zeroSnappy [zeroGroup])) (some [])
      0).2 ≠ ([zeroGroup].flatten.map (TraceConfig.markInstr {} [])).drop 0 := by
  have played : (PlayTraces {} zeroSnappy (fun _ => {})
      (some (traceBytes zeroSnappy [zeroGroup])) (some []) 0).2.length = 2 * instr_group_size := by
    rw [PlayTraces_cons zeroSnappy_inverts zeroGroup_grouped,
      length_replayed _ _ _ _ zeroGroup_grouped]
    rfl
  refine ⟨played, fun same => ?_⟩
  rw [same, List.drop_zero, List.length_map, List.flatten_singleton, zeroGroup,
    List.length_replicate] at played
  have positive := instr_group_size_pos
  omega

end Replay

end ActiveRouting

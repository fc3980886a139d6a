import ActiveRouting.Vault.Scheduling
import ActiveRouting.Vault.VaultController

/-!
# Requests to a row under the close-page policy

The queue of a bank holds what is left of the request whose row is open, and behind it whole
requests, each with its activation first.  Such a queue is served in order.
-/

namespace ActiveRouting

namespace DRAMCommand

/-- A read or write after which the bank closes its row by itself. -/
def precharges (cmd : DRAMCommand) : Bool :=
  cmd.commandType = .READ_P || cmd.commandType = .WRITE_P

/-- The last read of an atomic. -/
def operates (cmd : DRAMCommand) : Bool := cmd.atomic && cmd.lastCMD

/-- A read or write that leaves its row open for the next one. -/
structure KeepsOpen (cmd : DRAMCommand) : Prop where
  column : cmd.commandType = .READ ∨ cmd.commandType = .WRITE
  earlier : cmd.operates = false
  ordinary : cmd.commandType = .WRITE → cmd.locks = false

/-- The last command of a request: it closes the row, or a write back will. -/
inductive Closes (cmd : DRAMCommand) : Prop where
  | read (isType : cmd.commandType = .READ_P) (ordinary : cmd.atomic = false)
  | write (isType : cmd.commandType = .WRITE_P) (writesBack : cmd.atomic = true → cmd.locks = true)
  | operate (isType : cmd.commandType = .READ) (isLast : cmd.lastCMD = true)
      (writesBack : cmd.locks = true)

/-- The last read of a comparison: nothing is written back, and the row stays open. -/
structure Compares (cmd : DRAMCommand) : Prop where
  isType : cmd.commandType = .READ
  isLast : cmd.lastCMD = true
  atomic : cmd.atomic = true
  ordinary : cmd.locks = false

/-- The last command of a request, where comparisons may be among the requests. -/
inductive Ends (eqs : Prop) (cmd : DRAMCommand) : Prop where
  | closes (closes : cmd.Closes)
  | compares (allowed : eqs) (compares : cmd.Compares)

/-- Two commands of one request for data. -/
structure Like (cmd last : DRAMCommand) : Prop where
  bank : cmd.bank = last.bank
  row : cmd.row = last.row
  tag : cmd.packetTAG = last.packetTAG
  atomic : cmd.atomic = last.atomic
  locks : cmd.locks = last.locks
  posted : cmd.posted = last.posted
  dataSize : cmd.dataSize = last.dataSize
  isRead : cmd.commandType.isRead = last.commandType.isRead
  isWrite : cmd.commandType.isWrite = last.commandType.isWrite

/-- The activation of the request that ends with `last`. -/
structure Activates (act last : DRAMCommand) : Prop where
  isType : act.commandType = .ACTIVATE
  bank : act.bank = last.bank
  row : act.row = last.row
  tag : act.packetTAG = last.packetTAG
  locks : act.locks = last.locks

theorem Closes.column {cmd : DRAMCommand} (closes : cmd.Closes) :
    cmd.commandType.isRead = true ∨ cmd.commandType.isWrite = true := by
  cases closes with
  | read isType | operate isType => exact .inl (by rw [isType]; rfl)
  | write isType => exact .inr (by rw [isType]; rfl)

theorem Closes.locks_iff {cmd : DRAMCommand} (closes : cmd.Closes) : cmd.locks = cmd.atomic := by
  cases closes with
  | read isType ordinary => rw [locks, ordinary, Bool.false_and]
  | write isType writesBack =>
    cases atomic : cmd.atomic with
    | false => rw [locks, atomic, Bool.false_and]
    | true => exact writesBack atomic
  | operate isType isLast writesBack =>
    rw [writesBack]
    rw [locks, Bool.and_eq_true] at writesBack
    exact writesBack.1.symm

theorem Ends.column {eqs : Prop} {cmd : DRAMCommand} (ends : cmd.Ends eqs) :
    cmd.commandType.isRead = true ∨ cmd.commandType.isWrite = true := by
  cases ends with
  | closes closes => exact closes.column
  | compares _ compares => exact .inl (by rw [compares.isType]; rfl)

end DRAMCommand

open DRAMCommand

/-- What is left of a request, up to its last command. -/
inductive Tail (eqs : Prop) (last : DRAMCommand) : List DRAMCommand → Prop where
  | last (ends : last.Ends eqs) : Tail eqs last [last]
  | next {cmd : DRAMCommand} {cmds : List DRAMCommand} (like : Like cmd last)
      (keeps : cmd.KeepsOpen) (tail : Tail eqs last cmds) : Tail eqs last (cmd :: cmds)

/-- Whole requests to a bank. -/
inductive Groups (eqs : Prop) (b : ℕ) : List DRAMCommand → Prop where
  | nil : Groups eqs b []
  | cons {act last : DRAMCommand} {tail groups : List DRAMCommand} (bank : last.bank = b)
      (activates : act.Activates last) (isTail : Tail eqs last tail) (rest : Groups eqs b groups) :
      Groups eqs b (act :: (tail ++ groups))

namespace Tail

variable {eqs : Prop} {last : DRAMCommand}

theorem of_append {early : List DRAMCommand} (ends : last.Ends eqs)
    (earlier : ∀ cmd ∈ early, Like cmd last ∧ cmd.KeepsOpen) : Tail eqs last (early ++ [last]) := by
  induction early with
  | nil => exact .last ends
  | cons cmd early inductionHypothesis =>
    obtain ⟨like, keeps⟩ := earlier cmd List.mem_cons_self
    exact .next like keeps
      (inductionHypothesis fun cmd member => earlier cmd (List.mem_cons_of_mem _ member))

theorem ends {cmds : List DRAMCommand} (tail : Tail eqs last cmds) : last.Ends eqs := by
  induction tail with
  | last ends => exact ends
  | next _ _ _ inductionHypothesis => exact inductionHypothesis

theorem last_mem {cmds : List DRAMCommand} (tail : Tail eqs last cmds) : last ∈ cmds := by
  induction tail with
  | last => exact List.mem_singleton_self last
  | next _ _ _ inductionHypothesis => exact List.mem_cons_of_mem _ inductionHypothesis

theorem like {cmds : List DRAMCommand} (tail : Tail eqs last cmds) :
    ∀ cmd ∈ cmds, Like cmd last := by
  induction tail with
  | last =>
    intro cmd member
    obtain rfl := List.mem_singleton.mp member
    exact ⟨rfl, rfl, rfl, rfl, rfl, rfl, rfl, rfl, rfl⟩
  | next like _ _ inductionHypothesis =>
    intro cmd member
    cases List.mem_cons.mp member with
    | inl same => exact same ▸ like
    | inr inRest => exact inductionHypothesis cmd inRest

theorem head_mem {cmds groups rest : List DRAMCommand} {head : DRAMCommand}
    (tail : Tail eqs last cmds) (isFront : cmds ++ groups = head :: rest) : head ∈ cmds := by
  cases tail with
  | last | next =>
    obtain ⟨rfl, -⟩ := List.cons.inj isFront
    exact List.mem_cons_self

theorem column {cmds : List DRAMCommand} (tail : Tail eqs last cmds) :
    ∀ cmd ∈ cmds, cmd.commandType.isRead = true ∨ cmd.commandType.isWrite = true := by
  intro cmd member
  have like := tail.like cmd member
  rw [like.isRead, like.isWrite]
  exact tail.ends.column

end Tail

namespace Groups

variable {eqs : Prop} {b : ℕ}

theorem append {cmds more : List DRAMCommand} (first : Groups eqs b cmds)
    (second : Groups eqs b more) : Groups eqs b (cmds ++ more) := by
  induction first with
  | nil => exact second
  | cons bank activates isTail _ inductionHypothesis =>
    rw [List.cons_append, List.append_assoc]
    exact .cons bank activates isTail inductionHypothesis

/-- A command of whole requests is an activation, or its own activation is before it. -/
theorem split {cmds : List DRAMCommand} (groups : Groups eqs b cmds) :
    ∀ {before after : List DRAMCommand} {cmd : DRAMCommand}, cmds = before ++ cmd :: after →
      cmd.bank = b ∧ (cmd.commandType = .ACTIVATE ∨
        ∃ act ∈ before, act.commandType = .ACTIVATE ∧ act.bank = b ∧ act.row = cmd.row ∧
          act.packetTAG = cmd.packetTAG) := by
  induction groups with
  | nil => exact fun none => absurd none (by simp)
  | @cons act last tail groups bank activates isTail _ inductionHypothesis =>
    intro before after cmd isSplit
    cases before with
    | nil =>
      obtain ⟨rfl, -⟩ := List.cons.inj isSplit
      exact ⟨activates.bank.trans bank, .inl activates.isType⟩
    | cons first before =>
      obtain ⟨rfl, restSplit⟩ := List.cons.inj isSplit
      rcases List.append_eq_append_iff.mp restSplit with ⟨passed, rfl, inGroups⟩ |
        ⟨left, rfl, inTail⟩
      · obtain ⟨inBank, found⟩ := inductionHypothesis inGroups
        refine ⟨inBank, found.imp_right ?_⟩
        rintro ⟨own, member, facts⟩
        exact ⟨own, List.mem_cons_of_mem _ (List.mem_append_right _ member), facts⟩
      · cases left with
        | nil =>
          have atFront : groups = [] ++ cmd :: after := inTail.symm
          obtain ⟨inBank, found⟩ := inductionHypothesis atFront
          refine ⟨inBank, found.imp_right ?_⟩
          rintro ⟨own, member, _⟩
          exact (nomatch member)
        | cons head left =>
          obtain ⟨rfl, -⟩ := List.cons.inj inTail
          have like := isTail.like cmd (List.mem_append_right _ List.mem_cons_self)
          exact ⟨like.bank.trans bank, .inr ⟨act, List.mem_cons_self, activates.isType,
            activates.bank.trans bank, activates.row.trans like.row.symm,
            activates.tag.trans like.tag.symm⟩⟩

theorem front {cmds rest : List DRAMCommand} {cmd : DRAMCommand} (groups : Groups eqs b cmds)
    (isFront : cmds = cmd :: rest) : cmd.commandType = .ACTIVATE := by
  cases groups with
  | nil => cases isFront
  | cons _ activates =>
    obtain ⟨rfl, -⟩ := List.cons.inj isFront
    exact activates.isType

theorem bank {cmds : List DRAMCommand} (groups : Groups eqs b cmds) {cmd : DRAMCommand}
    (member : cmd ∈ cmds) : cmd.bank = b := by
  obtain ⟨before, after, isSplit⟩ := List.append_of_mem member
  exact (groups.split isSplit).1

end Groups

namespace VaultController

variable {c : DRAMConfig}

/-- A request for data whose row is closed by its own commands: the comparisons `EQ8` and `EQ16`
    are atomics without a write back. -/
structure Served (packet : Packet) : Prop where
  data : 0 < packet.reqDataSize
  notEQ8 : packet.CMD ≠ .EQ8
  notEQ16 : packet.CMD ≠ .EQ16

instance : DecidablePred Served := fun packet =>
  decidable_of_iff (0 < packet.reqDataSize ∧ packet.CMD ≠ .EQ8 ∧ packet.CMD ≠ .EQ16)
    ⟨fun ⟨data, notEQ8, notEQ16⟩ => ⟨data, notEQ8, notEQ16⟩,
      fun served => ⟨served.data, served.notEQ8, served.notEQ16⟩⟩

theorem Served.locks {packet : Packet} (served : Served packet) {cmd : DRAMCommand}
    (isPacket : cmd.packetCMD = packet.CMD) : cmd.locks = cmd.atomic := by
  rw [DRAMCommand.locks, isPacket]
  simp [served.notEQ8, served.notEQ16]

/-- A request for data, where comparisons may be among the requests. -/
structure Asks (eqs : Prop) (packet : Packet) : Prop where
  data : 0 < packet.reqDataSize
  compares : eqs ∨ Served packet

theorem Served.asks {eqs : Prop} {packet : Packet} (served : Served packet) : Asks eqs packet :=
  ⟨served.data, .inr served⟩

theorem earlier_like {packet : Packet} {kind : RequestKind}
    (isKind : requestKind c packet.CMD = some kind) (close : c.openPage = false) {i : ℕ}
    (earlier : i < blocks packet - 1) :
    Like (rwCMD c packet kind i) (rwCMD c packet kind (blocks packet - 1)) ∧
      (rwCMD c packet kind i).KeepsOpen := by
  have isLast : decide (blocks packet - 1 < blocks packet - 1) = false := by simp
  obtain ⟨posted, rfl⟩ | rfl | ⟨posted, rfl⟩ := requestKind_cases isKind
  all_goals
    simp only [rwCMD, writeKind, readKind, atomicKind, close, earlier, isLast, decide_true,
      Bool.not_true, Bool.not_false, Bool.false_eq_true, if_true, if_false, earlierType]
  · exact ⟨⟨rfl, rfl, rfl, rfl, rfl, rfl, rfl, rfl, rfl⟩, ⟨.inr rfl, rfl, fun _ => rfl⟩⟩
  · exact ⟨⟨rfl, rfl, rfl, rfl, rfl, rfl, rfl, rfl, rfl⟩, ⟨.inl rfl, rfl, fun h => nomatch h⟩⟩
  · exact ⟨⟨rfl, rfl, rfl, rfl, rfl, rfl, rfl, rfl, rfl⟩, ⟨.inl rfl, rfl, fun h => nomatch h⟩⟩

theorem last_ends {eqs : Prop} {packet : Packet} {kind : RequestKind} (asks : Asks eqs packet)
    (isKind : requestKind c packet.CMD = some kind) (close : c.openPage = false) :
    (rwCMD c packet kind (blocks packet - 1)).Ends eqs := by
  have isLast : (rwCMD c packet kind (blocks packet - 1)).lastCMD = true := by simp [rwCMD]
  obtain ⟨posted, rfl⟩ | rfl | ⟨posted, rfl⟩ := requestKind_cases isKind
  · refine .closes (.write ?_ fun isAtomic => by cases isAtomic)
    simp [rwCMD, writeKind, close]
  · refine .closes (.read ?_ rfl)
    simp [rwCMD, readKind, close]
  · have isType : (rwCMD c packet (atomicKind posted) (blocks packet - 1)).commandType = .READ := by
      simp [rwCMD, atomicKind]
    cases isLock : (rwCMD c packet (atomicKind posted) (blocks packet - 1)).locks with
    | true => exact .closes (.operate isType isLast isLock)
    | false =>
      -- an atomic that takes no lock is a comparison
      cases asks.compares with
      | inl allowed => exact .compares allowed ⟨isType, isLast, rfl, isLock⟩
      | inr served =>
        rw [served.locks rfl] at isLock
        cases isLock

/-- The commands of a request are its activation and a tail. -/
theorem commands_group {eqs : Prop} {packet : Packet} {kind : RequestKind}
    (asks : Asks eqs packet) (isKind : requestKind c packet.CMD = some kind)
    (close : c.openPage = false) :
    Groups eqs (addressMapping c packet.ADRS).1 (commands c packet kind) := by
  have positive : 0 < blocks packet := by
    have := asks.data
    unfold blocks
    omega
  have tail : Tail eqs (rwCMD c packet kind (blocks packet - 1))
      ((List.range (blocks packet)).map (rwCMD c packet kind)) := by
    have range : List.range (blocks packet) =
        List.range (blocks packet - 1) ++ [blocks packet - 1] := by
      rw [← List.range_succ]
      exact congrArg List.range (Nat.succ_pred_eq_of_pos positive).symm
    rw [range, List.map_append]
    refine Tail.of_append (last_ends asks isKind close) fun cmd member => ?_
    obtain ⟨i, inRange, rfl⟩ := List.mem_map.mp member
    exact earlier_like isKind close (List.mem_range.mp inRange)
  have activates : (actCMD c packet kind).Activates
      (rwCMD c packet kind (blocks packet - 1)) := ⟨rfl, rfl, rfl, rfl, rfl⟩
  have group := Groups.cons (b := (addressMapping c packet.ADRS).1) rfl activates tail .nil
  rwa [List.append_nil] at group

end VaultController

end ActiveRouting

import ActiveRouting.Vault.BankStages
import ActiveRouting.Vault.OpenOrder

/-!
# Open-page banks

Under the open-page policy a row stays open until it is precharged.  While an atomic waits for its
write back, its row is open, its bank is locked, and the front of the queue cannot be issued.
-/

namespace ActiveRouting

open DRAMCommand CommandQueue

/-- An atomic has been read, and will be written back. -/
structure WaitsFor (read : DRAMCommand) (s : BankState) (w : Work) : Prop where
  held : w.held = [read]
  locked : w.lock ≠ none
  isOpen : s.currentBankState = .ROW_ACTIVE
  row : s.openRowAddress = read.row
  bus : ∀ cmd ∈ w.bus, cmd.commandType = .READ
  fresh : Fresh read.row w.queue

/-- A bank under the open-page policy and what is on its way for it. -/
structure OpenBank (b : ℕ) (s : BankState) (w : Work) : Prop where
  queued : ∀ cmd ∈ w.queue, cmd.bank = b ∧ isRequest cmd.commandType = true
  headed : Headed w.queue
  apart : Apart w.queue
  quiet : s.currentBankState = .IDLE ∨ s.currentBankState = .POWERDOWN →
    s.stateChangeCountdown = 0
  stays : s.currentBankState = .ROW_ACTIVE → staysOpen s.lastCommand = true
  bus : ∀ cmd ∈ w.bus, cmd.commandType = .ACTIVATE ∧ w.queue ≠ [] ∨
    s.currentBankState = .ROW_ACTIVE ∧ (cmd.commandType = .READ ∨ cmd.commandType = .WRITE ∨
      cmd.commandType = .PRECHARGE)
  locked : w.lock ≠ none → (∃ cmd ∈ w.bus, cmd.commandType = .ACTIVATE) ∨
    s.currentBankState = .ROW_ACTIVE ∧ ∀ cmd ∈ w.bus, cmd.commandType ≠ .PRECHARGE
  held : w.held = [] ∨ ∃ read, WaitsFor read s w

namespace OpenBank

variable {c : DRAMConfig} {now b : ℕ} {s s' : BankState} {w : Work}

theorem start (b : ℕ) : OpenBank b {} {} where
  queued _ member := by cases member
  headed := .of_columns fun _ member => by cases member
  apart := trivial
  quiet _ := rfl
  stays isOpen := by cases isOpen
  bus _ member := by cases member
  locked isLocked := absurd rfl isLocked
  held := .inl rfl

/-! ## The bank -/

/-- The bank passes into another state, in which its row is open if it was. -/
theorem of_bank (bank : OpenBank b s w)
    (quiet : s'.currentBankState = .IDLE ∨ s'.currentBankState = .POWERDOWN →
      s'.stateChangeCountdown = 0)
    (stays : s'.currentBankState = .ROW_ACTIVE → staysOpen s'.lastCommand = true)
    (isOpen : s.currentBankState = .ROW_ACTIVE →
      s'.currentBankState = .ROW_ACTIVE ∧ s'.openRowAddress = s.openRowAddress) :
    OpenBank b s' w where
  queued := bank.queued
  headed := bank.headed
  apart := bank.apart
  quiet := quiet
  stays := stays
  bus cmd onBus := (bank.bus cmd onBus).imp_right fun column => ⟨(isOpen column.1).1, column.2⟩
  locked isLocked := (bank.locked isLocked).imp_right fun holds => ⟨(isOpen holds.1).1, holds.2⟩
  held := bank.held.imp_right <| Exists.imp fun _ waits => { waits with
    isOpen := (isOpen waits.isOpen).1
    row := (isOpen waits.isOpen).2.trans waits.row }

theorem of_sameRow (same : SameRow s s') (bank : OpenBank b s w) : OpenBank b s' w := by
  refine bank.of_bank ?_ ?_ fun isOpen => ⟨same.state.trans isOpen, same.row⟩
  · rw [same.state, same.countdown]
    exact bank.quiet
  · rw [same.state, same.last]
    exact bank.stays

theorem update (bank : OpenBank b s w) : OpenBank b (s.update c) w := by
  -- an open row has received no precharging command, so the countdown leaves it open
  by_cases isOpen : s.currentBankState = .ROW_ACTIVE
  · rw [BankState.update_stays (bank.stays isOpen)]
    refine bank.of_bank (fun state => ?_) bank.stays fun isOpen => ⟨isOpen, rfl⟩
    show s.stateChangeCountdown - 1 = 0
    rw [bank.quiet state]
  · refine bank.of_bank (fun state => ?_) (fun opened => ?_) fun opened => absurd opened isOpen
    · have updated := BankState.update_cases (c := c) s
      generalize s.update c = s' at updated state ⊢
      cases updated with
      | close => cases state <;> contradiction
      | settle => rfl
      | count =>
        show s.stateChangeCountdown - 1 = 0
        rw [bank.quiet state]
    · exact absurd ((BankState.update_power s).2.2.2 opened) isOpen

/-- While no row is open and no command is on the bus, nothing is begun. -/
theorem resting (bank : OpenBank b s w) (closed : s.currentBankState ≠ .ROW_ACTIVE)
    (bus : ∀ cmd ∈ w.bus, cmd.commandType ≠ .ACTIVATE) :
    w.bus = none ∧ w.lock = none ∧ w.held = [] := by
  refine ⟨?_, ?_, ?_⟩
  · cases onBus : w.bus with
    | none => rfl
    | some cmd =>
      cases bank.bus cmd onBus with
      | inl activates => exact absurd activates.1 (bus cmd onBus)
      | inr column => exact absurd column.1 closed
  · by_contra isLocked
    cases bank.locked isLocked with
    | inl activates =>
      obtain ⟨cmd, onBus, activates⟩ := activates
      exact bus cmd onBus activates
    | inr holds => exact closed holds.1
  · cases bank.held with
    | inl none => exact none
    | inr waits =>
      obtain ⟨read, waits⟩ := waits
      exact absurd waits.isOpen closed

/-- The bus is free again. -/
theorem of_delivered (bank : OpenBank b s w)
    (quiet : s'.currentBankState = .IDLE ∨ s'.currentBankState = .POWERDOWN →
      s'.stateChangeCountdown = 0)
    (stays : s'.currentBankState = .ROW_ACTIVE → staysOpen s'.lastCommand = true)
    (locked : w.lock ≠ none → s'.currentBankState = .ROW_ACTIVE)
    (held : ∀ read, WaitsFor read s w →
      s'.currentBankState = .ROW_ACTIVE ∧ s'.openRowAddress = s.openRowAddress) :
    OpenBank b s' w.deliver where
  queued := bank.queued
  headed := bank.headed
  apart := bank.apart
  quiet := quiet
  stays := stays
  bus _ member := by cases member
  locked isLocked := .inr ⟨locked isLocked, fun _ member => by cases member⟩
  held := bank.held.imp_right <| Exists.imp fun read waits => {
    held := waits.held
    locked := waits.locked
    isOpen := (held read waits).1
    row := (held read waits).2.trans waits.row
    bus := fun _ member => by cases member
    fresh := waits.fresh }

/-- The command on the bus reaches its bank. -/
theorem receive {cmd : DRAMCommand} (bank : OpenBank b s w) (onBus : w.bus = some cmd)
    (own : cmd.bank = b) : OpenBank b (s.receive c now cmd b) w.deliver := by
  have own : b = cmd.bank := own.symm
  have isRead : ∀ read, WaitsFor read s w → cmd.commandType = .READ := fun _ waits =>
    waits.bus cmd onBus
  rw [BankState.receive]
  rcases bank.bus cmd onBus with ⟨activate, -⟩ | ⟨isOpen, read | write | precharge⟩
  · -- no atomic of the bank waits while its row is being opened
    rw [activate]
    simp only [if_pos own]
    refine bank.of_delivered (fun state => by cases state <;> contradiction) (fun _ => rfl)
      (fun _ => rfl) fun read waits => ?_
    rw [isRead read waits] at activate
    cases activate
  · rw [read]
    simp only [if_pos own]
    exact bank.of_delivered bank.quiet (fun _ => rfl) (fun _ => isOpen) fun _ _ => ⟨isOpen, rfl⟩
  · rw [write]
    simp only [if_pos own]
    exact bank.of_delivered bank.quiet (fun _ => rfl) (fun _ => isOpen) fun _ _ => ⟨isOpen, rfl⟩
  · rw [precharge]
    simp only [if_pos own]
    refine bank.of_delivered (fun state => by cases state <;> contradiction)
      (fun opened => by cases opened) (fun isLocked => ?_) fun read waits => ?_
    · -- the row of a locked bank is not closed
      rcases bank.locked isLocked with ⟨other, isOther, activate⟩ | ⟨-, kept⟩
      · obtain rfl := Option.some.inj (onBus.symm.trans isOther)
        rw [precharge] at activate
        cases activate
      · exact absurd precharge (kept cmd onBus)
    · rw [isRead read waits] at precharge
      cases precharge

/-! ## What is on its way -/

/-- The commands of a request, under the open-page policy. -/
theorem commands_open {packet : Packet} {kind : VaultController.RequestKind}
    (data : 0 < packet.reqDataSize) (isOpen : c.openPage = true)
    (isKind : VaultController.requestKind c packet.CMD = some kind) :
    ∃ cols last, VaultController.commands c packet kind =
        VaultController.actCMD c packet kind :: (cols ++ [last]) ∧
      (∀ cmd ∈ cols, cmd.lastCMD = false) ∧
      ∀ cmd ∈ cols ++ [last], isRequest cmd.commandType = true ∧ cmd.commandType ≠ .ACTIVATE ∧
        cmd.bank = (VaultController.addressMapping c packet.ADRS).1 ∧
          cmd.row = (VaultController.actCMD c packet kind).row := by
  have positive : 0 < VaultController.blocks packet := by
    unfold VaultController.blocks
    omega
  have range : List.range (VaultController.blocks packet) =
      List.range (VaultController.blocks packet - 1) ++ [VaultController.blocks packet - 1] := by
    rw [← List.range_succ]
    exact congrArg List.range (Nat.succ_pred_eq_of_pos positive).symm
  have columns : ∀ i, isRequest (VaultController.rwCMD c packet kind i).commandType = true ∧
      (VaultController.rwCMD c packet kind i).commandType ≠ .ACTIVATE := by
    intro i
    obtain ⟨posted, rfl⟩ | rfl | ⟨posted, rfl⟩ := VaultController.requestKind_cases isKind
    all_goals
      simp only [VaultController.rwCMD, VaultController.writeKind, VaultController.readKind,
        VaultController.atomicKind, isOpen, if_true, VaultController.earlierType, ite_self]
      exact ⟨rfl, by decide⟩
  refine ⟨(List.range (VaultController.blocks packet - 1)).map
    (VaultController.rwCMD c packet kind), VaultController.rwCMD c packet kind
      (VaultController.blocks packet - 1), ?_, fun cmd member => ?_, fun cmd member => ?_⟩
  · rw [VaultController.commands, range, List.map_append]
    rfl
  · obtain ⟨i, inRange, rfl⟩ := List.mem_map.mp member
    simp [VaultController.rwCMD, List.mem_range.mp inRange]
  · have isColumn : ∃ i, VaultController.rwCMD c packet kind i = cmd := by
      cases List.mem_append.mp member with
      | inl early =>
        obtain ⟨i, -, same⟩ := List.mem_map.mp early
        exact ⟨i, same⟩
      | inr last => exact ⟨_, (List.mem_singleton.mp last).symm⟩
    obtain ⟨i, rfl⟩ := isColumn
    exact ⟨(columns i).1, (columns i).2, rfl, rfl⟩

theorem enqueue {packet : Packet} {kind : VaultController.RequestKind}
    (bank : OpenBank b s w) (data : 0 < packet.reqDataSize) (isOpen : c.openPage = true)
    (isKind : VaultController.requestKind c packet.CMD = some kind)
    (own : (VaultController.addressMapping c packet.ADRS).1 = b) :
    OpenBank b s (w.enqueue (VaultController.commands c packet kind)) := by
  obtain ⟨cols, last, isCommands, early, columns⟩ := commands_open data isOpen isKind
  rw [isCommands]
  have notLast : ∀ cmd ∈ cols ++ [last], cmd.commandType ≠ .ACTIVATE := fun cmd member =>
    (columns cmd member).2.1
  have fresh : ∀ row, Fresh row (VaultController.actCMD c packet kind :: (cols ++ [last])) := by
    intro row
    rw [Fresh]
    split
    · rfl
    · rename_i other
      refine List.append_nil (cols ++ [last]) ▸ Fresh.of_activations (fun cmd member same => ?_)
        trivial
      exact absurd ((columns cmd member).2.2.2.symm.trans same) other
  have apart : Apart (VaultController.actCMD c packet kind :: (cols ++ [last])) :=
    ⟨fun column => absurd rfl column, .of_early early⟩
  exact {
    queued := fun cmd member => by
      cases List.mem_append.mp member with
      | inl before => exact bank.queued cmd before
      | inr new =>
        cases List.mem_cons.mp new with
        | inl isActivate => exact isActivate ▸ ⟨own, rfl⟩
        | inr isColumn =>
          obtain ⟨isCommand, -, isBank, -⟩ := columns cmd isColumn
          exact ⟨isBank.trans own, isCommand⟩
    headed := bank.headed.append (.of_activation
      (fun cmd member => ⟨notLast cmd member, (columns cmd member).2.2.2⟩) (by simp))
    apart := bank.apart.append apart fresh
    quiet := bank.quiet
    stays := bank.stays
    bus := fun cmd onBus => (bank.bus cmd onBus).imp_left fun activates =>
      ⟨activates.1, by simp [Work.enqueue]⟩
    locked := bank.locked
    held := bank.held.imp_right <| Exists.imp fun read waits => { waits with
      fresh := waits.fresh.append (fresh read.row) } }

/-- A row that is precharged is not held by an atomic. -/
theorem precharge (bank : OpenBank b s w) (isOpen : s.currentBankState = .ROW_ACTIVE)
    (unlocked : w.lock = none) : OpenBank b s (w.put (some (prechargeCMD b))) where
  queued := bank.queued
  headed := bank.headed
  apart := bank.apart
  quiet := bank.quiet
  stays := bank.stays
  bus cmd onBus := by
    obtain rfl := Option.some.inj onBus
    exact .inr ⟨isOpen, .inr (.inr rfl)⟩
  locked isLocked := absurd unlocked isLocked
  held := bank.held.imp_right <| Exists.imp fun _ waits => absurd unlocked waits.locked

/-- While an atomic waits for its write back, the front of the queue cannot be issued. -/
theorem front_waits {v : VaultView} {read cmd : DRAMCommand} {rest : List DRAMCommand}
    (waits : WaitsFor read s w) (front : w.queue = cmd :: rest)
    (bankState : v.bankStates cmd.bank = s) (finds : Finds v cmd) : False := by
  have fresh := waits.fresh
  rw [front, Fresh] at fresh
  unfold Finds at finds
  rw [bankState] at finds
  split at finds
  · rw [waits.isOpen] at finds
    cases finds.1 <;> contradiction
  · rename_i column
    rw [if_pos (finds.2.symm.trans waits.row)] at fresh
    exact column fresh

/-- A command is issued. -/
theorem pop {v : VaultView} {cmd : DRAMCommand} {rest : List DRAMCommand} (bank : OpenBank b s w)
    (taken : Taken cmd w.queue rest) (front : w.lock ≠ none → w.queue = cmd :: rest)
    (bankState : v.bankStates cmd.bank = s) (finds : Finds v cmd) :
    OpenBank b s (w.pop cmd rest) := by
  have isCommand := (bank.queued cmd taken.mem).2
  have isOpen : cmd.commandType ≠ .ACTIVATE →
      s.currentBankState = .ROW_ACTIVE ∧ s.openRowAddress = cmd.row := fun column => by
    rw [Finds, if_neg column, bankState] at finds
    exact finds
  have kinds : cmd.commandType = .ACTIVATE ∨ cmd.commandType = .READ ∨
      cmd.commandType = .WRITE := by
    cases isType : cmd.commandType <;> rw [isType] at isCommand <;> first
      | exact .inl rfl
      | exact .inr (.inl rfl)
      | exact .inr (.inr rfl)
      | cases isCommand
  exact {
    queued := fun other member => bank.queued other (taken.sublist.subset member)
    headed := taken.headed bank.headed
    apart := taken.apart bank.headed bank.apart
    quiet := bank.quiet
    stays := bank.stays
    bus := fun other onBus => by
      obtain rfl := Option.some.inj onBus
      rcases kinds with activate | column
      · exact .inl ⟨activate, taken.rest_ne_nil bank.headed activate⟩
      · refine .inr ⟨(isOpen ?_).1, column.imp_right .inl⟩
        rcases column with isType | isType <;> rw [isType] <;> decide
    locked := fun _ => by
      by_cases activate : cmd.commandType = .ACTIVATE
      · exact .inl ⟨cmd, rfl, activate⟩
      · refine .inr ⟨(isOpen activate).1, fun other onBus precharge => ?_⟩
        obtain rfl := Option.some.inj onBus
        rw [precharge] at isCommand
        cases isCommand
    held := by
      rw [Work.held_pop]
      cases bank.held with
      | inr waits =>
        -- the atomic that waits has locked the bank, so this is the front
        obtain ⟨read, waits⟩ := waits
        exact (front_waits waits (front waits.locked) bankState finds).elim
      | inl none =>
        rw [none, List.nil_append]
        split
        · rename_i operates
          rw [Bool.and_eq_true, Bool.and_eq_true] at operates
          obtain ⟨⟨isRead, operates⟩, locks⟩ := operates
          have isType : cmd.commandType = .READ := by
            rcases kinds with isType | isType | isType
            · rw [isType] at isRead
              cases isRead
            · exact isType
            · rw [isType] at isRead
              cases isRead
          have column : cmd.commandType ≠ .ACTIVATE := by
            rw [isType]
            decide
          have isLast : cmd.lastCMD = true := by
            rw [DRAMCommand.operates, Bool.and_eq_true] at operates
            exact operates.2
          refine .inr ⟨cmd.withType .READ_DATA, {
            held := by rw [Work.held_pop, none, isRead, operates, locks]; rfl
            locked := ?_
            isOpen := (isOpen column).1
            row := (isOpen column).2
            bus := fun other onBus => Option.some.inj onBus ▸ isType
            fresh := taken.fresh bank.apart column isLast }⟩
          show lockAfter w.lock cmd ≠ Option.none
          cases lock : w.lock with
          | none => simp [lockAfter, locks]
          | some tag => simp [lockAfter, isType, DRAMCommandType.isWrite]
        · exact .inl rfl }

/-- The result of an atomic is put in front of the queue. -/
theorem writeBack {cmd : DRAMCommand} {rest : List DRAMCommand} (bank : OpenBank b s w)
    (isOpen : c.openPage = true) (pending : w.pending = cmd :: rest) (own : cmd.bank = b)
    (locks : cmd.locks = true) :
    OpenBank b s (w.writeBack (VaultController.atmRstCMD c cmd) rest) := by
  have isHeld : w.held = cmd :: rest.filter DRAMCommand.locks := by
    rw [Work.held, pending, List.filter_cons_of_pos locks]
  cases bank.held with
  | inl none =>
    rw [isHeld] at none
    cases none
  | inr waits =>
    obtain ⟨read, waits⟩ := waits
    obtain ⟨rfl, others⟩ := List.cons.inj (isHeld.symm.trans waits.held)
    have isType : (VaultController.atmRstCMD c cmd).commandType = .WRITE := by
      simp [VaultController.atmRstCMD, isOpen]
    have column : (VaultController.atmRstCMD c cmd).commandType ≠ .ACTIVATE := by
      rw [isType]
      decide
    have result : Headed [VaultController.atmRstCMD c cmd] := .of_columns fun other member =>
      List.mem_singleton.mp member ▸ column
    exact {
      queued := fun other member => by
        cases List.mem_cons.mp member with
        | inl isResult => exact isResult ▸ ⟨own, by rw [isType]; rfl⟩
        | inr before => exact bank.queued other before
      headed := result.append bank.headed
      -- the write back is the last command of its request
      apart := ⟨fun _ _ => waits.fresh, bank.apart⟩
      quiet := bank.quiet
      stays := bank.stays
      bus := fun other onBus => (bank.bus other onBus).imp_left fun activates =>
        ⟨activates.1, List.cons_ne_nil _ _⟩
      locked := bank.locked
      held := .inl others }

/-- A comparison ends. -/
theorem forget {cmd : DRAMCommand} {rest : List DRAMCommand} (bank : OpenBank b s w)
    (pending : w.pending = cmd :: rest) (ordinary : cmd.locks = false) :
    OpenBank b s (w.forget rest) := by
  have sameHeld : (w.forget rest).held = w.held := by
    rw [Work.held, Work.held, pending, List.filter_cons_of_neg (by rw [ordinary]; decide)]
    rfl
  exact { bank with
    held := by
      rw [sameHeld]
      exact bank.held.imp_right <| Exists.imp fun read waits => { waits with
        held := sameHeld.trans waits.held } }

end OpenBank

namespace VaultController

variable {c : DRAMConfig} {v v' : VaultController}

end VaultController

end ActiveRouting

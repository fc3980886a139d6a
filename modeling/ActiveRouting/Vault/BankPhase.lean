import ActiveRouting.Vault.BankWork

/-!
# The phases of a bank under the close-page policy

A bank rests, opens a row for a request, serves it, waits for the result of an atomic, or
closes the row again.  Only a comparison leaves its row open for good.
-/

namespace ActiveRouting

open DRAMCommand CommandQueue

/-- The delay after which a row is closed at the latest. -/
def DRAMConfig.closeDelay (c : DRAMConfig) : ℕ := max c.READ_TO_PRE_DELAY c.WRITE_TO_PRE_DELAY

/-- Nothing has been begun. -/
structure Work.Idle (eqs : Prop) (b : ℕ) (w : Work) : Prop where
  lock : w.lock = none
  queue : Groups eqs b w.queue
  bus : w.bus = none
  pending : w.pending = []

/-- A bank without an open row: its countdown runs as long as it is not idle or powered down. -/
structure Resting (c : DRAMConfig) (now : ℕ) (s : BankState) : Prop where
  closed : s.currentBankState ≠ .ROW_ACTIVE
  quiet : s.currentBankState = .IDLE ∨ s.currentBankState = .POWERDOWN →
    s.stateChangeCountdown = 0
  refreshing : s.currentBankState = .REFRESHING → s.lastCommand = .REFRESH ∧
    0 < s.stateChangeCountdown ∧ now + s.stateChangeCountdown ≤ s.nextActivate
  precharging : s.currentBankState = .PRECHARGING → s.lastCommand = .PRECHARGE ∧
    0 < s.stateChangeCountdown ∧ s.stateChangeCountdown ≤ c.tRP
  awaking : s.currentBankState = .AWAKING → s.lastCommand = .POWERDOWN_EXIT ∧
    0 < s.stateChangeCountdown

/-- The lock that a request takes. -/
def lockOf (last : DRAMCommand) : Option ℕ := if last.locks then some last.packetTAG else none

inductive Phase (eqs : Prop) (c : DRAMConfig) (now b : ℕ) (s : BankState) (w : Work) : Prop where
  /-- No row is open. -/
  | closed (resting : Resting c now s) (idle : w.Idle eqs b)
  /-- An activation is on the bus. -/
  | opening {act last : DRAMCommand} {tail groups : List DRAMCommand}
      (state : s.currentBankState = .IDLE) (quiet : s.stateChangeCountdown = 0)
      (bus : w.bus = some act) (activates : act.Activates last) (bank : last.bank = b)
      (isTail : Tail eqs last tail) (isGroups : Groups eqs b groups)
      (queue : w.queue = tail ++ groups) (lock : w.lock = lockOf last) (pending : w.pending = [])
  /-- Commands for the open row are in the queue. -/
  | opened {last : DRAMCommand} {tail groups : List DRAMCommand} (holds : HoldsOpen last.row s)
      (bus : ∀ cmd ∈ w.bus, cmd.KeepsOpen) (bank : last.bank = b)
      (isTail : Tail eqs last tail) (isGroups : Groups eqs b groups)
      (queue : w.queue = tail ++ groups) (lock : w.lock = lockOf last) (pending : w.pending = [])
  /-- The last command of a request is on the bus. -/
  | lastIssued {last : DRAMCommand} (holds : HoldsOpen last.row s) (bus : w.bus = some last)
      (precharges : last.precharges = true) (isGroups : Groups eqs b w.queue) (lock : w.lock = none)
      (pending : w.pending = [])
  /-- The bank is about to close the row. -/
  | closing (isOpen : s.currentBankState = .ROW_ACTIVE)
      (last : s.lastCommand = .READ_P ∨ s.lastCommand = .WRITE_P)
      (positive : 0 < s.stateChangeCountdown) (bounded : s.stateChangeCountdown ≤ c.closeDelay)
      (idle : w.Idle eqs b)
  /-- An atomic is in operation; its result will be written back to the open row. -/
  | operating {read : DRAMCommand} (holds : HoldsOpen read.row s)
      (bus : ∀ cmd ∈ w.bus, cmd.commandType = .READ ∧ cmd.operates = true)
      (isGroups : Groups eqs b w.queue) (lock : w.lock = some read.packetTAG)
      (pending : w.pending = [read]) (bank : read.bank = b) (writesBack : read.locks = true)
  /-- A comparison has left its row open. -/
  | stuck {row : ℕ} (allowed : eqs) (holds : HoldsOpen row s)
      (bus : ∀ cmd ∈ w.bus, cmd.commandType = .READ) (isGroups : Groups eqs b w.queue)
      (lock : w.lock = none) (pending : w.held = [])

theorem Resting.of_sameRow {c : DRAMConfig} {now : ℕ} {s s' : BankState} (same : SameRow s s')
    (resting : Resting c now s) : Resting c now s' where
  closed := same.state ▸ resting.closed
  quiet := by
    rw [same.state, same.countdown]
    exact resting.quiet
  refreshing state := by
    rw [same.state] at state
    rw [same.last, same.countdown]
    obtain ⟨last, positive, before⟩ := resting.refreshing state
    exact ⟨last, positive, before.trans same.activate⟩
  precharging := by
    rw [same.state, same.last, same.countdown]
    exact resting.precharging
  awaking := by
    rw [same.state, same.last, same.countdown]
    exact resting.awaking

theorem Resting.update {c : DRAMConfig} {now : ℕ} {s : BankState} (resting : Resting c now s) :
    Resting c (now + 1) (s.update c) := by
  have updated := BankState.update_cases (c := c) s
  generalize s.update c = s' at updated
  cases updated with
  | close due closing =>
    -- no bank at rest waits to precharge
    exfalso
    cases state : s.currentBankState with
    | ROW_ACTIVE => exact resting.closed state
    | IDLE =>
      have := resting.quiet (.inl state)
      omega
    | POWERDOWN =>
      have := resting.quiet (.inr state)
      omega
    | REFRESHING =>
      rw [(resting.refreshing state).1] at closing
      cases closing <;> contradiction
    | PRECHARGING =>
      rw [(resting.precharging state).1] at closing
      cases closing <;> contradiction
    | AWAKING =>
      rw [(resting.awaking state).1] at closing
      cases closing <;> contradiction
  | settle => exact ⟨(fun h => nomatch h), fun _ => rfl, (fun h => nomatch h), (fun h => nomatch h),
      fun h => nomatch h⟩
  | count busy =>
    have counts : ∀ {last : DRAMCommandType}, s.lastCommand = last →
        BankState.settles last = true → 0 < s.stateChangeCountdown →
          0 < s.stateChangeCountdown - 1 := by
      intro last isLast settles positive
      have := busy (by rw [isLast, settles])
      omega
    exact {
      closed := resting.closed
      quiet := fun state => by
        show s.stateChangeCountdown - 1 = 0
        rw [resting.quiet state]
      refreshing := fun state => by
        obtain ⟨last, positive, before⟩ := resting.refreshing state
        refine ⟨last, counts last rfl positive, ?_⟩
        show now + 1 + (s.stateChangeCountdown - 1) ≤ s.nextActivate
        omega
      precharging := fun state => by
        obtain ⟨last, positive, bounded⟩ := resting.precharging state
        exact ⟨last, counts last rfl positive, (Nat.sub_le _ _).trans bounded⟩
      awaking := fun state => by
        obtain ⟨last, positive⟩ := resting.awaking state
        exact ⟨last, counts last rfl positive⟩ }

theorem Resting.refresh {c : DRAMConfig} (now : ℕ) (s : BankState) :
    Resting c now (s.refresh c now) where
  closed state := nomatch state
  quiet state := by cases state <;> contradiction
  refreshing _ := ⟨rfl, c.tRFC_pos, le_refl _⟩
  precharging state := nomatch state
  awaking state := nomatch state

theorem Resting.powerUp {c : DRAMConfig} (now : ℕ) (s : BankState) :
    Resting c now (s.powerUp c now) where
  closed state := nomatch state
  quiet state := by cases state <;> contradiction
  refreshing state := nomatch state
  precharging state := nomatch state
  awaking _ := ⟨rfl, c.tXP_pos⟩

theorem Resting.powerDown {c : DRAMConfig} {now : ℕ} {s : BankState} (resting : Resting c now s)
    (idle : s.currentBankState = .IDLE) : Resting c now (s.powerDown c now) where
  closed state := nomatch state
  quiet _ := resting.quiet (.inl idle)
  refreshing state := nomatch state
  precharging state := nomatch state
  awaking state := nomatch state

theorem Tail.ne_nil {eqs : Prop} {last : DRAMCommand} {tail : List DRAMCommand}
    (isTail : Tail eqs last tail) : tail ≠ [] := by
  cases isTail with
  | last | next => exact List.cons_ne_nil _ _

namespace Phase

variable {eqs : Prop} {c : DRAMConfig} {now b : ℕ} {s s' : BankState} {w : Work}

theorem start (b : ℕ) : Phase eqs c 0 b {} {} :=
  .closed ⟨(fun h => by cases h), fun _ => rfl, (fun h => by cases h), (fun h => by cases h),
    fun h => by cases h⟩ ⟨rfl, .nil, rfl, rfl⟩

theorem of_sameRow (same : SameRow s s') (phase : Phase eqs c now b s w) :
    Phase eqs c now b s' w := by
  cases phase with
  | closed resting idle => exact .closed (resting.of_sameRow same) idle
  | opening state quiet bus activates bank isTail isGroups queue lock pending =>
    exact .opening (same.state.trans state) (same.countdown.trans quiet) bus activates bank isTail
      isGroups queue lock pending
  | opened holds bus bank isTail isGroups queue lock pending =>
    exact .opened (holds.of_sameRow same) bus bank isTail isGroups queue lock pending
  | lastIssued holds bus precharges isGroups lock pending =>
    exact .lastIssued (holds.of_sameRow same) bus precharges isGroups lock pending
  | closing isOpen last positive bounded idle =>
    refine .closing (same.state.trans isOpen) ?_ ?_ ?_ idle
    · rwa [same.last]
    · rwa [same.countdown]
    · rwa [same.countdown]
  | operating holds bus isGroups lock pending bank writesBack =>
    exact .operating (holds.of_sameRow same) bus isGroups lock pending bank writesBack
  | stuck allowed holds bus isGroups lock pending =>
    exact .stuck allowed (holds.of_sameRow same) bus isGroups lock pending

/-- The command on the bus reaches its bank. -/
theorem receive_own {cmd : DRAMCommand} (wide : 2 ≤ c.BL) (phase : Phase eqs c now b s w)
    (bus : w.bus = some cmd) (bank : cmd.bank = b) :
    Phase eqs c now b (s.receive c now cmd b) w.deliver := by
  have own : b = cmd.bank := bank.symm
  cases phase with
  | closed resting idle =>
    rw [idle.bus] at bus
    cases bus
  | opening state quiet isBus activates lastBank isTail isGroups queue lock pending =>
    obtain rfl := Option.some.inj (isBus.symm.trans bus)
    rw [BankState.receive, activates.isType]
    simp only [if_pos own]
    exact .opened ⟨rfl, activates.row, rfl⟩ (fun _ member => by cases member) lastBank isTail
      isGroups queue lock pending
  | @opened last _ _ holds keeps lastBank isTail isGroups queue lock pending =>
    have received : HoldsOpen last.row (s.receive c now cmd b) := by
      rw [BankState.receive]
      cases (keeps cmd bus).column with
      | inl isRead =>
        rw [isRead]
        simp only [if_pos own]
        exact ⟨holds.isOpen, holds.row, rfl⟩
      | inr isWrite =>
        rw [isWrite]
        simp only [if_pos own]
        exact ⟨holds.isOpen, holds.row, rfl⟩
    exact .opened received (fun _ member => by cases member) lastBank isTail isGroups queue lock
      pending
  | lastIssued holds isBus precharges isGroups lock pending =>
    obtain rfl := Option.some.inj (isBus.symm.trans bus)
    have half : 1 ≤ c.BL / 2 := (Nat.le_div_iff_mul_le (by decide)).mpr wide
    rw [BankState.receive]
    rw [DRAMCommand.precharges, Bool.or_eq_true, decide_eq_true_iff, decide_eq_true_iff]
      at precharges
    cases precharges with
    | inl isRead =>
      rw [isRead]
      simp only [if_pos own]
      refine .closing holds.isOpen (.inl rfl) ?_ (le_max_left _ _) ⟨lock, isGroups, rfl, pending⟩
      show 0 < DRAMConfig.AL + c.BL / 2 + max c.tRTP c.tCCD - c.tCCD
      have := le_max_right c.tRTP c.tCCD
      omega
    | inr isWrite =>
      rw [isWrite]
      simp only [if_pos own]
      refine .closing holds.isOpen (.inr rfl) ?_ (le_max_right _ _) ⟨lock, isGroups, rfl, pending⟩
      show 0 < c.WL + c.BL / 2 + c.tWR
      omega
  | closing _ _ _ _ idle =>
    rw [idle.bus] at bus
    cases bus
  | operating holds isBus isGroups lock pending readBank writesBack =>
    rw [BankState.receive, (isBus cmd bus).1]
    simp only [if_pos own]
    exact .operating ⟨holds.isOpen, holds.row, rfl⟩ (fun _ member => by cases member) isGroups lock
      pending readBank writesBack
  | stuck allowed holds isBus isGroups lock pending =>
    rw [BankState.receive, isBus cmd bus]
    simp only [if_pos own]
    exact .stuck allowed ⟨holds.isOpen, holds.row, rfl⟩ (fun _ member => by cases member) isGroups
      lock pending

/-- A refresh reaches a bank whose row is not open. -/
theorem refresh (phase : Phase eqs c now b s w) (closed : s.currentBankState ≠ .ROW_ACTIVE)
    (bus : w.bus = none) : Phase eqs c now b (s.refresh c now) w := by
  cases phase with
  | closed _ idle => exact .closed (.refresh now s) idle
  | opening _ _ isBus =>
    rw [bus] at isBus
    cases isBus
  | opened holds | lastIssued holds | operating holds | stuck _ holds =>
    exact absurd holds.isOpen closed
  | closing isOpen => exact absurd isOpen closed

theorem update (phase : Phase eqs c now b s w) : Phase eqs c (now + 1) b (s.update c) w := by
  cases phase with
  | closed resting idle => exact .closed resting.update idle
  | opening state quiet bus activates bank isTail isGroups queue lock pending =>
    have same : s.update c = s.countDown := by
      rw [BankState.update, if_neg (by rw [quiet]; decide)]
    rw [same]
    refine .opening state ?_ bus activates bank isTail isGroups queue lock pending
    show s.stateChangeCountdown - 1 = 0
    rw [quiet]
  | opened holds bus bank isTail isGroups queue lock pending =>
    exact .opened holds.update bus bank isTail isGroups queue lock pending
  | lastIssued holds bus precharges isGroups lock pending =>
    exact .lastIssued holds.update bus precharges isGroups lock pending
  | closing isOpen last positive bounded idle =>
    by_cases due : s.stateChangeCountdown = 1
    · have closes : s.update c = s.startPrecharging c := by
        rw [BankState.update, if_pos due]
        cases last with
        | inl last => rw [last]
        | inr last => rw [last]
      rw [closes]
      refine .closed ⟨(fun h => by cases h), ?_, (fun h => by cases h),
        fun _ => ⟨rfl, c.tRP_pos, le_refl _⟩, (fun h => by cases h)⟩ idle
      intro state
      cases state <;> contradiction
    · have counts : s.update c = s.countDown := by rw [BankState.update, if_neg due]
      rw [counts]
      refine .closing isOpen last ?_ ((Nat.sub_le _ _).trans bounded) idle
      show 0 < s.stateChangeCountdown - 1
      omega
  | operating holds bus isGroups lock pending bank writesBack =>
    exact .operating holds.update bus isGroups lock pending bank writesBack
  | stuck allowed holds bus isGroups lock pending =>
    exact .stuck allowed holds.update bus isGroups lock pending

theorem enqueue {cmds : List DRAMCommand} (groups : Groups eqs b cmds)
    (phase : Phase eqs c now b s w) : Phase eqs c now b s (w.enqueue cmds) := by
  cases phase with
  | closed resting idle =>
    exact .closed resting ⟨idle.lock, idle.queue.append groups, idle.bus, idle.pending⟩
  | opening state quiet bus activates bank isTail isGroups queue lock pending =>
    refine .opening state quiet bus activates bank isTail (isGroups.append groups) ?_ lock pending
    rw [Work.enqueue, queue, List.append_assoc]
  | opened holds bus bank isTail isGroups queue lock pending =>
    refine .opened holds bus bank isTail (isGroups.append groups) ?_ lock pending
    rw [Work.enqueue, queue, List.append_assoc]
  | lastIssued holds bus precharges isGroups lock pending =>
    exact .lastIssued holds bus precharges (isGroups.append groups) lock pending
  | closing isOpen last positive bounded idle =>
    exact .closing isOpen last positive bounded
      ⟨idle.lock, idle.queue.append groups, idle.bus, idle.pending⟩
  | operating holds bus isGroups lock pending bank writesBack =>
    exact .operating holds bus (isGroups.append groups) lock pending bank writesBack
  | stuck allowed holds bus isGroups lock pending =>
    exact .stuck allowed holds bus (isGroups.append groups) lock pending

/-- What the scheduler finds when the bus is free. -/
theorem lane (phase : Phase eqs c now b s w) (free : w.bus = none) : Lane eqs b s w.queue := by
  cases phase with
  | closed _ idle | closing _ _ _ _ idle => exact .waiting idle.queue
  | opening _ _ bus =>
    rw [free] at bus
    cases bus
  | opened holds _ bank isTail isGroups queue =>
    exact .opened holds.isOpen holds.row bank isTail isGroups queue
  | lastIssued _ _ _ isGroups => exact .waiting isGroups
  | operating _ _ isGroups | stuck _ _ _ isGroups => exact .waiting isGroups

theorem powerDown (phase : Phase eqs c now b s w) (idle : s.currentBankState = .IDLE)
    (empty : w.queue = []) : Phase eqs c now b (s.powerDown c now) w := by
  cases phase with
  | closed resting isIdle => exact .closed (resting.powerDown idle) isIdle
  | opening _ _ _ _ _ isTail _ queue =>
    rw [empty] at queue
    exact absurd (List.append_eq_nil_iff.mp queue.symm).1 isTail.ne_nil
  | opened holds | lastIssued holds | operating holds | stuck _ holds =>
    exact absurd holds.isOpen (by rw [idle]; decide)
  | closing isOpen => exact absurd isOpen (by rw [idle]; decide)

theorem powerUp (phase : Phase eqs c now b s w) (closed : s.currentBankState ≠ .ROW_ACTIVE)
    (bus : ∀ cmd ∈ w.bus, cmd.commandType ≠ .ACTIVATE) : Phase eqs c now b (s.powerUp c now) w := by
  cases phase with
  | closed _ idle => exact .closed (.powerUp now s) idle
  | opening _ _ isBus activates => exact absurd activates.isType (bus _ isBus)
  | opened holds | lastIssued holds | operating holds | stuck _ holds =>
    exact absurd holds.isOpen closed
  | closing isOpen => exact absurd isOpen closed

/-- The front of the queue is issued. -/
theorem pop {v : VaultView} {cmd : DRAMCommand} {rest : List DRAMCommand}
    (phase : Phase eqs c now b s w) (free : w.bus = none) (queue : w.queue = cmd :: rest)
    (bankState : v.bankStates cmd.bank = s) (clock : v.currentClockCycle = now)
    (finds : Finds v cmd) : Phase eqs c now b s (w.pop cmd rest) := by
  have waits : ∀ {groups : List DRAMCommand}, Groups eqs b groups → groups = cmd :: rest →
      s.currentBankState = .ROW_ACTIVE → False := by
    intro groups isGroups isFront isOpen
    rw [Finds, if_pos (isGroups.front isFront), bankState, isOpen] at finds
    cases finds.1 <;> contradiction
  cases phase with
  | closed resting idle =>
    obtain ⟨lock, isGroups, _, pending⟩ := idle
    rw [queue] at isGroups
    rw [Finds, if_pos (isGroups.front rfl), bankState, clock] at finds
    have idle : s.currentBankState = .IDLE := by
      cases finds.1 with
      | inl idle => exact idle
      | inr refreshing =>
        have := resting.refreshing refreshing
        omega
    cases isGroups with
    | cons bank activates isTail isRest =>
      refine .opening idle (resting.quiet (.inl idle)) rfl activates bank isTail isRest rfl ?_ ?_
      · rw [Work.pop, lock, lockOf, ← activates.locks, ← activates.tag]
        rfl
      · rw [Work.pop, pending, activates.isType]
        rfl
  | opening _ _ bus =>
    rw [free] at bus
    cases bus
  | @opened last tail groups holds _ bank isTail isGroups isQueue lock pending =>
    rw [queue] at isQueue
    cases isTail with
    | last ends =>
      obtain ⟨rfl, rfl⟩ := List.cons.inj isQueue
      cases ends with
      | closes closes =>
        have locks := closes.locks_iff
        cases closes with
        | read isType ordinary =>
          refine .lastIssued holds rfl (by rw [DRAMCommand.precharges, isType]; rfl) isGroups ?_ ?_
          · rw [Work.pop, lock, lockOf, locks, ordinary]
            simp [lockAfter, locks, ordinary]
          · rw [Work.pop, pending, DRAMCommand.operates, ordinary]
            simp
        | write isType =>
          refine .lastIssued holds rfl (by rw [DRAMCommand.precharges, isType]; rfl) isGroups ?_ ?_
          · rw [Work.pop, lock, lockOf]
            cases isLock : cmd.locks with
            | false => simp [lockAfter, isLock]
            | true => simp [lockAfter, isType, DRAMCommandType.isWrite]
          · rw [Work.pop, pending, isType]
            rfl
        | operate isType isLast writesBack =>
          have operates : cmd.operates = true := by
            rw [DRAMCommand.operates, isLast, ← locks, writesBack]
            rfl
          have holdsData : HoldsOpen (cmd.withType .READ_DATA).row s := holds
          refine .operating holdsData ?_ isGroups ?_ ?_ bank writesBack
          · intro other isOther
            obtain rfl := Option.some.inj isOther
            exact ⟨isType, operates⟩
          · rw [Work.pop, lock, lockOf, writesBack]
            simp [lockAfter, isType, DRAMCommandType.isWrite, DRAMCommand.withType]
          · rw [Work.pop, pending, isType, operates]
            rfl
      | compares allowed compares =>
        refine .stuck allowed holds ?_ isGroups ?_ ?_
        · intro other isOther
          obtain rfl := Option.some.inj isOther
          exact compares.isType
        · rw [Work.pop, lock, lockOf, compares.ordinary]
          simp [lockAfter, compares.ordinary]
        · rw [Work.held_pop, Work.held, pending, compares.ordinary, Bool.and_false]
          rfl
    | next like keeps isTail =>
      obtain ⟨rfl, rfl⟩ := List.cons.inj isQueue
      refine .opened holds ?_ bank isTail isGroups rfl ?_ ?_
      · intro other isOther
        obtain rfl := Option.some.inj isOther
        exact keeps
      · have locks := like.locks
        have tag := like.tag
        rw [Work.pop, lock, lockOf, ← locks, ← tag]
        cases isLock : cmd.locks with
        | false => simp [lockAfter, isLock]
        | true =>
          have notWrite : cmd.commandType.isWrite = false := by
            cases keeps.column with
            | inl isRead => rw [isRead]; rfl
            | inr isWrite =>
              rw [keeps.ordinary isWrite] at isLock
              cases isLock
          simp [lockAfter, notWrite]
      · rw [Work.pop, pending, keeps.earlier, Bool.and_false]
        rfl
  | lastIssued _ bus =>
    rw [free] at bus
    cases bus
  | closing isOpen _ _ _ idle => exact (waits idle.queue queue isOpen).elim
  | operating holds _ isGroups | stuck _ holds _ isGroups =>
    exact (waits isGroups queue holds.isOpen).elim

/-- The result of an atomic is put in front of the queue. -/
theorem writeBack {cmd : DRAMCommand} {rest : List DRAMCommand} (phase : Phase eqs c now b s w)
    (close : c.openPage = false) (pending : w.pending = cmd :: rest) (locks : cmd.locks = true)
    (behind : ∀ cmd ∈ w.bus, cmd.commandType = .READ → cmd.operates = true → rest ≠ []) :
    Phase eqs c now b s (w.writeBack (VaultController.atmRstCMD c cmd) rest) := by
  cases phase with
  | closed _ idle | closing _ _ _ _ idle =>
    rw [idle.pending] at pending
    cases pending
  | opening _ _ _ _ _ _ _ _ _ none | opened _ _ _ _ _ _ _ none | lastIssued _ _ _ _ _ none =>
    rw [none] at pending
    cases pending
  | @operating read holds bus isGroups lock isPending bank writesBack =>
    obtain ⟨rfl, rfl⟩ := List.cons.inj (isPending.symm.trans pending)
    have closes : (VaultController.atmRstCMD c read).Closes :=
      .write (by simp [VaultController.atmRstCMD, close]) fun _ => writesBack
    have holdsResult : HoldsOpen (VaultController.atmRstCMD c read).row s := holds
    refine .opened holdsResult ?_ bank (.last (.closes closes)) isGroups rfl ?_ rfl
    · intro other isOther
      obtain ⟨isRead, operates⟩ := bus other isOther
      exact absurd rfl (behind other isOther isRead operates)
    · have locks : (VaultController.atmRstCMD c read).locks = true := writesBack
      rw [Work.writeBack, lock, lockOf, locks]
      rfl
  | stuck _ _ _ _ _ none =>
    rw [Work.held, pending, List.filter_cons_of_pos locks] at none
    cases none

/-- A comparison ends. -/
theorem forget {cmd : DRAMCommand} {rest : List DRAMCommand} (phase : Phase eqs c now b s w)
    (pending : w.pending = cmd :: rest) (ordinary : cmd.locks = false) :
    Phase eqs c now b s (w.forget rest) := by
  cases phase with
  | closed _ idle | closing _ _ _ _ idle =>
    rw [idle.pending] at pending
    cases pending
  | opening _ _ _ _ _ _ _ _ _ none | opened _ _ _ _ _ _ _ none | lastIssued _ _ _ _ _ none =>
    rw [none] at pending
    cases pending
  | operating _ _ _ _ isPending _ writesBack =>
    obtain ⟨rfl, -⟩ := List.cons.inj (isPending.symm.trans pending)
    rw [ordinary] at writesBack
    cases writesBack
  | stuck allowed holds bus isGroups lock none =>
    refine .stuck allowed holds bus isGroups lock ?_
    rw [Work.held, pending, List.filter_cons_of_neg (by rw [ordinary]; decide)] at none
    exact none

/-- A bank with nothing in its queue and no atomic in operation is not locked. -/
theorem drained (phase : Phase False c now b s w) (queue : w.queue = []) (pending : w.pending = [])
    (bus : w.bus = none) : w.Idle False b ∧ (Resting c now s ∨
      s.currentBankState = .ROW_ACTIVE ∧ (s.lastCommand = .READ_P ∨ s.lastCommand = .WRITE_P) ∧
        0 < s.stateChangeCountdown ∧ s.stateChangeCountdown ≤ c.closeDelay) := by
  cases phase with
  | closed resting idle => exact ⟨idle, .inl resting⟩
  | opening _ _ isBus | lastIssued _ isBus =>
    rw [bus] at isBus
    cases isBus
  | opened _ _ _ isTail _ isQueue =>
    rw [queue] at isQueue
    exact absurd (List.append_eq_nil_iff.mp isQueue.symm).1 isTail.ne_nil
  | closing isOpen last positive bounded idle =>
    exact ⟨idle, .inr ⟨isOpen, last, positive, bounded⟩⟩
  | operating _ _ _ _ isPending =>
    rw [pending] at isPending
    cases isPending
  | stuck allowed => exact allowed.elim

/-! ## What the phases say together -/

/-- A bank that is powered down waits for no change of its state. -/
theorem poweredDown (phase : Phase eqs c now b s w) (down : s.currentBankState = .POWERDOWN) :
    s.stateChangeCountdown = 0 := by
  cases phase with
  | closed resting => exact resting.quiet (.inr down)
  | opening state quiet => exact quiet
  | opened holds | lastIssued holds | operating holds | stuck _ holds =>
    rw [holds.isOpen] at down
    cases down
  | closing isOpen =>
    rw [isOpen] at down
    cases down

theorem unlocked (phase : Phase eqs c now b s w) (closed : s.currentBankState ≠ .ROW_ACTIVE)
    (bus : w.bus = none) : w.lock = none := by
  cases phase with
  | closed _ idle => exact idle.lock
  | opening _ _ onBus =>
    rw [bus] at onBus
    cases onBus
  | opened holds | lastIssued holds | operating holds | stuck _ holds =>
    exact absurd holds.isOpen closed
  | closing isOpen => exact absurd isOpen closed

/-- A command on the bus has its row open, or its request in the queue. -/
theorem free (phase : Phase eqs c now b s w) (idle : s.currentBankState = .IDLE)
    (empty : w.queue = []) : w.bus = none := by
  cases phase with
  | closed _ isRest | closing _ _ _ _ isRest => exact isRest.bus
  | opening _ _ _ _ _ isTail _ queue =>
    rw [empty] at queue
    exact absurd (List.append_eq_nil_iff.mp queue.symm).1 isTail.ne_nil
  | opened holds | lastIssued holds | operating holds | stuck _ holds =>
    rw [holds.isOpen] at idle
    cases idle

/-- At most one atomic of a bank waits for its write back, and it holds the bank. -/
theorem held_le (phase : Phase eqs c now b s w) :
    w.held.length ≤ 1 ∧ (w.lock = none → w.held = []) := by
  cases phase with
  | closed _ idle | closing _ _ _ _ idle =>
    rw [Work.held, idle.pending]
    exact ⟨Nat.zero_le _, fun _ => rfl⟩
  | opening _ _ _ _ _ _ _ _ _ none | opened _ _ _ _ _ _ _ none | lastIssued _ _ _ _ _ none =>
    rw [Work.held, none]
    exact ⟨Nat.zero_le _, fun _ => rfl⟩
  | operating _ _ _ lock isPending =>
    rw [Work.held, isPending, lock]
    exact ⟨List.length_filter_le _ _, fun isFree => by cases isFree⟩
  | stuck _ _ _ _ _ none =>
    rw [none]
    exact ⟨Nat.zero_le _, fun _ => rfl⟩

/-- While an atomic waits for its write back the row is open. -/
theorem open_of_held {cmd : DRAMCommand} (phase : Phase eqs c now b s w)
    (member : cmd ∈ w.held) : s.currentBankState = .ROW_ACTIVE := by
  cases phase with
  | closed _ idle =>
    rw [Work.held, idle.pending] at member
    cases member
  | opening _ _ _ _ _ _ _ _ _ none =>
    rw [Work.held, none] at member
    cases member
  | opened holds | lastIssued holds | operating holds | stuck _ holds => exact holds.isOpen
  | closing isOpen => exact isOpen

/-- Without comparisons each atomic in operation is written back. -/
theorem held_eq (phase : Phase False c now b s w) : w.held = w.pending := by
  refine List.filter_eq_self.mpr fun cmd member => ?_
  cases phase with
  | closed _ idle | closing _ _ _ _ idle =>
    rw [idle.pending] at member
    cases member
  | opening _ _ _ _ _ _ _ _ _ none | opened _ _ _ _ _ _ _ none | lastIssued _ _ _ _ _ none =>
    rw [none] at member
    cases member
  | operating _ _ _ _ isPending _ writesBack =>
    rw [isPending] at member
    exact List.mem_singleton.mp member ▸ writesBack
  | stuck allowed => exact allowed.elim

end Phase

end ActiveRouting

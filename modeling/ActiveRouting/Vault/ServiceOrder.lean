import ActiveRouting.Vault.RowGroups

/-!
# The order in which a bank is served

Under the close-page policy, with a queue for each bank, `CmdPop` takes the front of a queue
or refreshes.
-/

namespace ActiveRouting

open DRAMCommand

variable {eqs : Prop}

/-- The queue of a bank, with the request to its open row in front. -/
inductive Lane (eqs : Prop) (b : ℕ) (s : BankState) (queue : List DRAMCommand) : Prop where
  | waiting (groups : Groups eqs b queue)
  | opened {last : DRAMCommand} {tail groups : List DRAMCommand}
      (isOpen : s.currentBankState = .ROW_ACTIVE) (row : s.openRowAddress = last.row)
      (bank : last.bank = b) (isTail : Tail eqs last tail) (isGroups : Groups eqs b groups)
      (isQueue : queue = tail ++ groups)

/-- The state of its bank in which a command is issued. -/
def Finds (v : VaultView) (cmd : DRAMCommand) : Prop :=
  if cmd.commandType = .ACTIVATE then
    ((v.bankStates cmd.bank).currentBankState = .IDLE ∨
      (v.bankStates cmd.bank).currentBankState = .REFRESHING) ∧
      (v.bankStates cmd.bank).nextActivate ≤ v.currentClockCycle
  else
    (v.bankStates cmd.bank).currentBankState = .ROW_ACTIVE ∧
      (v.bankStates cmd.bank).openRowAddress = cmd.row

theorem Lane.bank {b : ℕ} {s : BankState} {queue : List DRAMCommand} (lane : Lane eqs b s queue)
    {cmd : DRAMCommand} (member : cmd ∈ queue) : cmd.bank = b := by
  cases lane with
  | waiting groups => exact groups.bank member
  | opened _ _ bank isTail isGroups isQueue =>
    rw [isQueue] at member
    cases List.mem_append.mp member with
    | inl inTail => exact (isTail.like cmd inTail).bank.trans bank
    | inr inGroups => exact isGroups.bank inGroups

/-- An activation or a command to a column. -/
theorem Lane.kind {b : ℕ} {s : BankState} {queue : List DRAMCommand} (lane : Lane eqs b s queue)
    {cmd : DRAMCommand} {rest : List DRAMCommand} (isFront : queue = cmd :: rest) :
    cmd.commandType = .ACTIVATE ∨
      cmd.commandType.isRead = true ∨ cmd.commandType.isWrite = true := by
  cases lane with
  | waiting groups => exact .inl (groups.front isFront)
  | opened _ _ _ isTail _ isQueue =>
    exact .inr (isTail.column cmd (isTail.head_mem (isQueue.symm.trans isFront)))

namespace CommandQueue

variable {c : DRAMConfig}

/-- The tag of the atomic that holds a bank. -/
def lockState (q : CommandQueue) (b : ℕ) : Option ℕ :=
  if q.atomicLock b then some (q.atomicLockTag b) else none

/-- The lock of a bank once one of its commands has been taken. -/
def lockAfter (lock : Option ℕ) (cmd : DRAMCommand) : Option ℕ :=
  match lock with
  | none => if cmd.locks then some cmd.packetTAG else none
  | some tag => if cmd.commandType.isWrite then none else some tag

theorem isIssuable_column {q : CommandQueue} {v : VaultView} {cmd : DRAMCommand}
    (column : cmd.commandType.isRead = true ∨ cmd.commandType.isWrite = true)
    (issuable : q.isIssuable c v cmd = .ok true) : Finds v cmd := by
  have notActivate : cmd.commandType ≠ .ACTIVATE := by
    intro activate
    rw [activate] at column
    cases column with
    | inl isRead => cases isRead
    | inr isWrite => cases isWrite
  rw [Finds, if_neg notActivate]
  unfold isIssuable at issuable
  cases isType : cmd.commandType <;> rw [isType] at column issuable <;>
    simp only [Except.ok.injEq, Bool.and_eq_true, decide_eq_true_eq, reduceCtorEq] at issuable
  case READ | READ_P => exact ⟨issuable.1.1.1.1, issuable.1.1.2⟩
  case WRITE | WRITE_P => exact ⟨issuable.1.1.1.1, issuable.1.1.2⟩
  case ACTIVATE | PRECHARGE =>
    cases column with
    | inl isRead => cases isRead
    | inr isWrite => cases isWrite

theorem isIssuable_activate {q : CommandQueue} {v : VaultView} {cmd : DRAMCommand}
    (activate : cmd.commandType = .ACTIVATE) (issuable : q.isIssuable c v cmd = .ok true) :
    Finds v cmd := by
  rw [Finds, if_pos activate]
  simp only [isIssuable, activate, Except.ok.injEq, Bool.and_eq_true, Bool.or_eq_true,
    decide_eq_true_eq] at issuable
  exact issuable.1

/-- Whether a command can be issued depends on what the commands of a request share. -/
theorem isIssuable_like {q : CommandQueue} {v : VaultView} {cmd last : DRAMCommand}
    (like : Like cmd last)
    (column : cmd.commandType.isRead = true ∨ cmd.commandType.isWrite = true) :
    q.isIssuable c v cmd = q.isIssuable c v last := by
  have isRead := like.isRead
  have isWrite := like.isWrite
  unfold isIssuable hasSpace
  rw [like.bank, like.row, like.atomic, like.posted, like.dataSize]
  cases isType : cmd.commandType <;> cases isLast : last.commandType <;>
    rw [isType] at isRead isWrite column <;> rw [isLast] at isRead isWrite <;>
    first
      | rfl
      | exact absurd isRead (by decide)
      | exact absurd isWrite (by decide)
      | exact absurd column (by decide)

theorem isIssuable_activates {q : CommandQueue} {v : VaultView} {act act' : DRAMCommand}
    (first : act.commandType = .ACTIVATE) (second : act'.commandType = .ACTIVATE)
    (bank : act.bank = act'.bank) : q.isIssuable c v act = q.isIssuable c v act' := by
  simp only [isIssuable, first, second, bank]

/-! ## One attempt -/

/-- A command leaves the front of the queue of its bank. -/
structure Front (c : DRAMConfig) (q : CommandQueue) (v : VaultView) (b : ℕ) (q' : CommandQueue)
    (cmd : DRAMCommand) : Prop where
  inBanks : b < c.numBanks
  bank : cmd.bank = b
  isFront : q.queue b = cmd :: q'.queue b
  others : ∀ b' ≠ b, q'.queue b' = q.queue b'
  finds : Finds v cmd
  lock : ∀ b', q'.lockState b' =
    if b' = b then lockAfter (q.lockState b) cmd else q.lockState b'
  due : cmd.commandType = .ACTIVATE → q.lockState b = none → q.bufPopDelayPerBank b = 0
  refreshWaiting : q'.refreshWaiting = q.refreshWaiting
  issued : q'.issuedBank < c.numBanks

/-- A command leaves the queue of its bank. -/
structure Leaves (c : DRAMConfig) (q : CommandQueue) (v : VaultView) (b : ℕ) (q' : CommandQueue)
    (cmd : DRAMCommand) : Prop where
  inBanks : b < c.numBanks
  bank : cmd.bank = b
  shorter : (q'.queue b).length < (q.queue b).length
  others : ∀ b' ≠ b, q'.queue b' = q.queue b'
  finds : Finds v cmd
  notRefresh : cmd.commandType ≠ .REFRESH
  lock : ∀ b', q'.lockState b' =
    if b' = b then lockAfter (q.lockState b) cmd else q.lockState b'
  due : cmd.commandType = .ACTIVATE → q.lockState b = none → q.bufPopDelayPerBank b = 0
  issued : q'.issuedBank < c.numBanks

theorem lockFor_lockState {q : CommandQueue} {cmd : DRAMCommand}
    (free : q.lockState cmd.bank = none) (b : ℕ) : (q.lockFor cmd.bank cmd).lockState b =
      if b = cmd.bank then lockAfter (q.lockState cmd.bank) cmd else q.lockState b := by
  rw [free]
  by_cases own : b = cmd.bank
  · rw [if_pos own, own]
    unfold lockFor lockAfter
    by_cases locks : cmd.locks = true
    · simp [locks, lockState]
    · simp only [locks, if_false, Bool.false_eq_true]
      exact free
  · rw [if_neg own]
    unfold lockFor lockState
    split
    · simp only [Function.update_of_ne own]
    · rfl

theorem unlockAfter_lockState {q : CommandQueue} {bank : ℕ} {cmd : DRAMCommand}
    (held : q.atomicLock bank = true) (b : ℕ) : (q.unlockAfter bank cmd).lockState b =
      if b = bank then lockAfter (q.lockState bank) cmd else q.lockState b := by
  have isLocked : q.lockState bank = some (q.atomicLockTag bank) := if_pos held
  rw [isLocked]
  by_cases own : b = bank
  · rw [if_pos own, own]
    unfold unlockAfter lockAfter
    by_cases isWrite : cmd.commandType.isWrite = true
    · simp [isWrite, lockState]
    · simp only [isWrite, if_false, Bool.false_eq_true]
      exact isLocked
  · rw [if_neg own]
    unfold unlockAfter lockState
    split
    · simp only [Function.update_of_ne own]
    · rfl

/-- The lanes of all banks, with their queues and the loop over them in range. -/
structure Lanes (eqs : Prop) (c : DRAMConfig) (q : CommandQueue) (v : VaultView) : Prop where
  close : c.openPage = false
  perBank : c.quePerBank = true
  issued : q.issuedBank < c.numBanks
  lane : ∀ b < c.numBanks, Lane eqs b (v.bankStates b) (q.queue b)

theorem Lanes.accessQue {q : CommandQueue} {v : VaultView} (lanes : Lanes eqs c q v)
    (q' : CommandQueue) (b : ℕ) : q'.accessQue c b = q'.queue b := by
  rw [CommandQueue.accessQue, index, if_pos lanes.perBank]

theorem Lanes.setQue_queue {q : CommandQueue} {v : VaultView} (lanes : Lanes eqs c q v)
    (q' : CommandQueue) (b : ℕ) (cmds : List DRAMCommand) :
    (q'.setQue c b cmds).queue = Function.update q'.queue b cmds := by
  rw [setQue, index, if_pos lanes.perBank]

theorem finds_front {b : ℕ} {s : BankState} {q : CommandQueue} {v : VaultView}
    {queue rest : List DRAMCommand} {cmd : DRAMCommand} (lane : Lane eqs b s queue)
    (isFront : queue = cmd :: rest) (issuable : q.isIssuable c v cmd = .ok true) :
    Finds v cmd := by
  cases lane.kind isFront with
  | inl activate => exact isIssuable_activate activate issuable
  | inr column => exact isIssuable_column column issuable

theorem popLocked_front {q q' : CommandQueue} {v : VaultView} {b : ℕ} {onlyAtomic : Bool}
    {cmd : DRAMCommand} (lanes : Lanes eqs c q v) (inBanks : b < c.numBanks)
    (held : q.atomicLock b = true)
    (popped : q.popLocked c v b onlyAtomic = .ok (some (q', cmd))) : Front c q v b q' cmd := by
  have lane := lanes.lane b inBanks
  unfold popLocked at popped
  rw [lanes.accessQue] at popped
  cases queue : q.queue b with
  | nil => rw [queue] at popped; cases popped
  | cons head rest =>
    simp only [queue] at popped
    split at popped
    · obtain ⟨issuable, isIssuable, popped⟩ := Outcome.bind_eq_ok.mp popped
      cases issuable with
      | false => cases popped
      | true =>
        obtain ⟨rfl, rfl⟩ : (q.unlockAfter b head).setQue c b rest = q' ∧ head = cmd := by
          simpa using popped
        have after := lanes.setQue_queue (q.unlockAfter b head) b rest
        rw [unlockAfter_queue] at after
        have issued := lanes.issued
        exact {
          inBanks := inBanks
          bank := lane.bank (queue ▸ List.mem_cons_self)
          isFront := by rw [after, Function.update_self, queue]
          others := fun b' other => by rw [after, Function.update_of_ne other]
          finds := finds_front lane queue isIssuable
          lock := unlockAfter_lockState held
          due := fun _ free => by simp [lockState, held] at free
          refreshWaiting := by
            unfold unlockAfter
            split <;> rfl
          issued := by
            unfold unlockAfter
            split <;> exact issued }
    · cases popped

/-- A command at the front of an unlocked bank is taken. -/
theorem take_front {q : CommandQueue} {v : VaultView} {b : ℕ} {cmd : DRAMCommand}
    {rest : List DRAMCommand} (lanes : Lanes eqs c q v) (inBanks : b < c.numBanks)
    (free : q.atomicLock b = false) (queue : q.queue b = cmd :: rest)
    (issuable : q.isIssuable c v cmd = .ok true)
    (due : cmd.commandType = .ACTIVATE → q.bufPopDelayPerBank b = 0) :
    Front c q v b ((q.lockFor cmd.bank cmd).setQue c b rest) cmd := by
  have lane := lanes.lane b inBanks
  have bank : cmd.bank = b := lane.bank (queue ▸ List.mem_cons_self)
  have after := lanes.setQue_queue (q.lockFor cmd.bank cmd) b rest
  rw [lockFor_queue] at after
  have isFree : q.lockState cmd.bank = none := by rw [bank]; simp [lockState, free]
  have issued := lanes.issued
  exact {
    inBanks := inBanks
    bank := bank
    isFront := by rw [after, Function.update_self, queue]
    others := fun b' other => by rw [after, Function.update_of_ne other]
    finds := finds_front lane queue issuable
    lock := by
      have locks := lockFor_lockState isFree
      rw [bank] at locks
      rw [bank]
      exact locks
    due := fun activate _ => due activate
    refreshWaiting := by
      unfold lockFor
      split <;> rfl
    issued := by
      unfold lockFor
      split <;> exact issued }

theorem popOpenRow_front {q q' : CommandQueue} {v : VaultView} {b : ℕ} {cmd : DRAMCommand}
    (lanes : Lanes eqs c q v) (inBanks : b < c.numBanks) (free : q.atomicLock b = false)
    (popped : q.popOpenRow c v b = .ok (some (q', cmd))) : Front c q v b q' cmd := by
  unfold popOpenRow at popped
  cases found : q.firstToOpenRow c v b with
  | none => rw [found] at popped; cases popped
  | some parts =>
    obtain ⟨before, first, after⟩ := parts
    simp only [found] at popped
    split at popped
    · cases popped
    · rename_i notActivate
      obtain ⟨issuable, isIssuable, popped⟩ := Outcome.bind_eq_ok.mp popped
      cases issuable with
      | false => cases popped
      | true =>
        obtain ⟨rfl, rfl⟩ : (q.lockFor first.bank first).setQue c b (before ++ after) = q' ∧
            first = cmd := by simpa using popped
        unfold firstToOpenRow at found
        rw [lanes.accessQue] at found
        obtain ⟨isSplit, holds, others⟩ := splitFirst_eq_some found
        rw [Bool.and_eq_true, decide_eq_true_iff, decide_eq_true_iff] at holds
        have front : before = [] := by
          cases lanes.lane b inBanks with
          | waiting groups =>
            -- the activation of the request is before its first command
            cases (groups.split isSplit).2 with
            | inl activate => exact absurd activate notActivate
            | inr own =>
              obtain ⟨act, member, _, bank, row, _⟩ := own
              have notOpen := others act member
              rw [bank, row, holds.2] at notOpen
              simp at notOpen
          | opened _ row bank isTail _ isQueue =>
            cases before with
            | nil => rfl
            | cons head before =>
              have notOpen := others head List.mem_cons_self
              have like := isTail.like head (isTail.head_mem (isQueue.symm.trans isSplit))
              rw [like.bank, like.row, bank, row] at notOpen
              simp at notOpen
        subst front
        exact take_front lanes inBanks free isSplit isIssuable fun activate =>
          absurd activate notActivate

/-- Where a command behind the front could be taken, the front can be. -/
theorem front_issuable {q : CommandQueue} {v : VaultView} {b : ℕ} {s : BankState}
    {head cmd : DRAMCommand} {queue mid rest after : List DRAMCommand} (lane : Lane eqs b s queue)
    (bankState : v.bankStates b = s) (isQueue : queue = head :: rest)
    (isSplit : rest = mid ++ cmd :: after) (issuable : q.isIssuable c v cmd = .ok true)
    (independent : dependsClose (head :: mid) cmd = false) :
    q.isIssuable c v head = .ok true := by
  have inGroups : ∀ {passed cmds : List DRAMCommand}, Groups eqs b cmds →
      cmds = passed ++ cmd :: after → (∀ prev ∈ passed, prev ∈ head :: mid) →
      cmd.commandType = .ACTIVATE := by
    intro passed cmds groups isSplit within
    -- a command to a column depends on its own activation
    cases (groups.split isSplit).2 with
    | inl activate => exact activate
    | inr own =>
      obtain ⟨act, member, activate, _, _, tag⟩ := own
      rw [dependsClose, List.any_eq_false] at independent
      have := independent act (within act member)
      simp [activate, tag] at this
  have whole : queue = (head :: mid) ++ cmd :: after := by rw [isQueue, isSplit]; rfl
  have bank : cmd.bank = b := lane.bank (whole ▸ List.mem_append_right _ List.mem_cons_self)
  cases lane with
  | waiting groups =>
    have activate := inGroups groups whole fun prev member => member
    have headActivates := groups.front isQueue
    rw [isIssuable_activates headActivates activate
      ((groups.bank (isQueue ▸ List.mem_cons_self)).trans bank.symm)]
    exact issuable
  | @opened last tail groups isOpen _ lastBank isTail isGroups isParts =>
    have headLike := isTail.like head (isTail.head_mem (isParts.symm.trans isQueue))
    have notActivate : cmd.commandType ≠ .ACTIVATE := by
      intro activate
      have finds := isIssuable_activate activate issuable
      rw [Finds, if_pos activate, bank, bankState, isOpen] at finds
      cases finds.1 with
      | inl idle => cases idle
      | inr refreshing => cases refreshing
    rcases List.append_eq_append_iff.mp (isParts.symm.trans whole) with
      ⟨passed, isHead, isRest⟩ | ⟨left, rfl, isRest⟩
    · refine absurd (inGroups isGroups isRest fun prev member => ?_) notActivate
      rw [isHead]
      exact List.mem_append_right _ member
    · cases left with
      | nil =>
        have atFront : groups = [] ++ cmd :: after := isRest.symm
        exact absurd (inGroups isGroups atFront fun prev member => (nomatch member)) notActivate
      | cons first left =>
        obtain ⟨rfl, -⟩ := List.cons.inj isRest
        have member : cmd ∈ head :: mid ++ cmd :: left :=
          List.mem_append_right _ List.mem_cons_self
        have headMember : head ∈ head :: mid ++ cmd :: left := List.mem_cons_self
        rw [isIssuable_like headLike (isTail.column head headMember),
          ← isIssuable_like (isTail.like cmd member) (isTail.column cmd member)]
        exact issuable

theorem searchClose_front {q q' : CommandQueue} {v : VaultView} {cmd : DRAMCommand}
    (lanes : Lanes eqs c q v) (free : q.atomicLock q.issuedBank = false)
    (due : q.popCycle c q.issuedBank = 0)
    (popped : q.searchClose c v = .ok (some (q', cmd))) : Front c q v q.issuedBank q' cmd := by
  unfold searchClose at popped
  rw [lanes.accessQue] at popped
  obtain ⟨found, isFound, popped⟩ := Outcome.bind_eq_ok.mp popped
  cases found with
  | none => cases popped
  | some parts =>
    obtain ⟨before, first, after⟩ := parts
    obtain ⟨rfl, rfl⟩ : (q.lockFor first.bank first).setQue c q.issuedBank (before ++ after) = q' ∧
        first = cmd := by simpa using popped
    obtain ⟨isSplit, issuable, independent⟩ := firstIssuable_eq_some isFound
    rw [List.nil_append] at isSplit
    have front : before = [] := by
      cases before with
      | nil => rfl
      | cons head before =>
        have headIssuable := front_issuable (lanes.lane q.issuedBank lanes.issued) rfl isSplit rfl
          issuable independent
        rw [isSplit, List.cons_append, firstIssuable, headIssuable] at isFound
        exact absurd isFound (by
          show ¬ (Except.ok (some ([], head, before ++ first :: after)) = _)
          simp)
    subst front
    rw [popCycle, index, if_pos lanes.perBank] at due
    exact take_front lanes lanes.issued free isSplit issuable fun _ => due

/-! ## `CmdPop` -/

/-- No command has been taken. -/
structure Untouched (c : DRAMConfig) (q q' : CommandQueue) : Prop where
  queue : q'.queue = q.queue
  lock : ∀ b, q'.lockState b = q.lockState b
  issued : q'.issuedBank < c.numBanks
  bufPopDelay : q'.bufPopDelayPerBank = q.bufPopDelayPerBank

/-- What `CmdPop` does: nothing, or a command leaves the front of its queue, or a refresh is
    issued that no bank stands in the way of. -/
inductive Served (c : DRAMConfig) (q : CommandQueue) (v : VaultView) :
    CommandQueue → Option DRAMCommand → Prop where
  | nothing {q' : CommandQueue} (same : Untouched c q q')
      (refreshWaiting : q'.refreshWaiting = q.refreshWaiting) : Served c q v q' none
  | front {q' : CommandQueue} {cmd : DRAMCommand} (b : ℕ) (front : Front c q v b q' cmd) :
      Served c q v q' (some cmd)
  | refresh {q' : CommandQueue} (same : Untouched c q q') (waiting : q.refreshWaiting = true)
      (closed : ∀ b < c.numBanks, (v.bankStates b).currentBankState ≠ .ROW_ACTIVE) :
      Served c q v q' (some refreshCMD)

theorem Untouched.refl {q : CommandQueue} (issued : q.issuedBank < c.numBanks) :
    Untouched c q q := ⟨rfl, fun _ => rfl, issued, rfl⟩

/-- A change of what the service of the banks does not depend on. -/
structure Reads (c : DRAMConfig) (q q₁ : CommandQueue) : Prop extends Untouched c q q₁ where
  refreshWaiting : q₁.refreshWaiting = q.refreshWaiting

theorem Reads.lanes {q q₁ : CommandQueue} {v : VaultView} (reads : Reads c q q₁)
    (lanes : Lanes eqs c q v) : Lanes eqs c q₁ v where
  close := lanes.close
  perBank := lanes.perBank
  issued := reads.issued
  lane b inBanks := reads.queue ▸ lanes.lane b inBanks

theorem Front.of_reads {q q₁ q' : CommandQueue} {v : VaultView} {b : ℕ} {cmd : DRAMCommand}
    (reads : Reads c q q₁) (front : Front c q₁ v b q' cmd) : Front c q v b q' cmd where
  inBanks := front.inBanks
  bank := front.bank
  isFront := reads.queue ▸ front.isFront
  others b' other := reads.queue ▸ front.others b' other
  finds := front.finds
  lock b' := by rw [front.lock, reads.lock, reads.lock]
  due activate free := reads.bufPopDelay ▸ front.due activate ((reads.lock b).trans free)
  refreshWaiting := front.refreshWaiting.trans reads.refreshWaiting
  issued := front.issued

theorem Served.of_reads {q q₁ q' : CommandQueue} {v : VaultView} {taken : Option DRAMCommand}
    (reads : Reads c q q₁) (served : Served c q₁ v q' taken) : Served c q v q' taken := by
  cases served with
  | nothing same refreshWaiting =>
    exact .nothing ⟨same.queue.trans reads.queue, fun b => (same.lock b).trans (reads.lock b),
      same.issued, same.bufPopDelay.trans reads.bufPopDelay⟩
      (refreshWaiting.trans reads.refreshWaiting)
  | front b front => exact .front b (front.of_reads reads)
  | refresh same waiting closed =>
    exact .refresh ⟨same.queue.trans reads.queue, fun b => (same.lock b).trans (reads.lock b),
      same.issued, same.bufPopDelay.trans reads.bufPopDelay⟩ (reads.refreshWaiting ▸ waiting) closed

theorem advance_issued {q : CommandQueue} (issued : q.issuedBank < c.numBanks) :
    (q.advance c).issuedBank < c.numBanks := by
  unfold advance
  simp only
  split <;> omega

theorem advance_reads {q : CommandQueue} (issued : q.issuedBank < c.numBanks) :
    Reads c q (q.advance c) :=
  { queue := rfl, lock := fun _ => rfl, issued := advance_issued issued, bufPopDelay := rfl
    refreshWaiting := rfl }

theorem Front.advance {q q' : CommandQueue} {v : VaultView} {b : ℕ} {cmd : DRAMCommand}
    (front : Front c q v b q' cmd) : Front c q v b (q'.advance c) cmd :=
  { front with issued := advance_issued front.issued }

theorem scheduleClose_served {v : VaultView} : ∀ {banks : ℕ} {q : CommandQueue}
    {result : CommandQueue × Option DRAMCommand}, Lanes eqs c q v →
      scheduleClose c v banks q = .ok result → Served c q v result.1 result.2
  | 0, q, result, lanes, popped => by
    obtain rfl := Except.ok.inj popped
    exact .nothing (.refl lanes.issued) rfl
  | banks + 1, q, result, lanes, popped => by
    have reads := advance_reads lanes.issued
    unfold scheduleClose at popped
    split at popped
    · rename_i due
      split at popped
      · rename_i held
        obtain ⟨taken, isTaken, popped⟩ := Outcome.bind_eq_ok.mp popped
        cases taken with
        | none =>
          obtain rfl := Outcome.pure_eq_ok.mp popped
          exact .nothing (.refl lanes.issued) rfl
        | some taken =>
          obtain rfl := Outcome.pure_eq_ok.mp popped
          exact .front _ (popLocked_front lanes lanes.issued held isTaken)
      · rename_i free
        obtain ⟨taken, isTaken, popped⟩ := Outcome.bind_eq_ok.mp popped
        cases taken with
        | none => exact (scheduleClose_served (reads.lanes lanes) popped).of_reads reads
        | some taken =>
          obtain rfl := Outcome.pure_eq_ok.mp popped
          exact .front _ (searchClose_front lanes (Bool.eq_false_iff.mpr free) due isTaken).advance
    · exact (scheduleClose_served (reads.lanes lanes) popped).of_reads reads

/-- What the loop over the banks finds while a refresh waits. -/
def Found (c : DRAMConfig) (q : CommandQueue) (v : VaultView) (banks : List ℕ) :
    Bool × Option (CommandQueue × DRAMCommand) → Prop
  | (_, some (q', cmd)) => ∃ b, Front c q v b q' cmd
  | (false, none) => True
  | (true, none) => ∀ b ∈ banks, (v.bankStates b).currentBankState ≠ .ROW_ACTIVE

theorem Found.of_pop {q : CommandQueue} {v : VaultView} {b : ℕ} {banks : List ℕ}
    {attempt : Except VaultError (Option (CommandQueue × DRAMCommand))}
    {result : Bool × Option (CommandQueue × DRAMCommand)}
    (front : ∀ q' cmd, attempt = .ok (some (q', cmd)) → Front c q v b q' cmd)
    (scanned : (do let popped ← attempt; pure (false, popped)) = .ok result) :
    Found c q v banks result := by
  obtain ⟨popped, isPopped, same⟩ := Outcome.bind_eq_ok.mp scanned
  obtain rfl := Outcome.pure_eq_ok.mp same
  cases popped with
  | none => exact trivial
  | some taken => exact ⟨b, front taken.1 taken.2 isPopped⟩

theorem Found.cons {q : CommandQueue} {v : VaultView} {b : ℕ} {banks : List ℕ}
    {result : Bool × Option (CommandQueue × DRAMCommand)}
    (closed : (v.bankStates b).currentBankState ≠ .ROW_ACTIVE)
    (found : Found c q v banks result) : Found c q v (b :: banks) result :=
  match result, found with
  | (_, some _), found => found
  | (false, none), _ => trivial
  | (true, none), found => fun _ member =>
    (List.mem_cons.mp member).elim (fun same => same ▸ closed) (found _)

theorem refreshScanClose_found {q : CommandQueue} {v : VaultView} (lanes : Lanes eqs c q v) :
    ∀ {banks : List ℕ} {result : Bool × Option (CommandQueue × DRAMCommand)},
      (∀ b ∈ banks, b < c.numBanks) →
      q.refreshScanClose c v banks = .ok result → Found c q v banks result
  | [], result, _, scanned => by
    obtain rfl := Except.ok.inj scanned
    exact fun b member => (nomatch member)
  | b :: banks, result, inBanks, scanned => by
    have inBank := inBanks b List.mem_cons_self
    unfold refreshScanClose at scanned
    split at scanned
    · rename_i held
      split at scanned
      · exact Found.of_pop (fun q' cmd popped => popLocked_front lanes inBank held popped) scanned
      · obtain rfl := Except.ok.inj scanned
        exact trivial
    · rename_i free
      split at scanned
      · exact Found.of_pop (fun q' cmd popped =>
          popOpenRow_front lanes inBank (Bool.eq_false_iff.mpr free) popped) scanned
      · rename_i closed
        split at scanned
        · obtain rfl := Except.ok.inj scanned
          exact trivial
        · exact Found.cons closed (refreshScanClose_found lanes
            (fun b member => inBanks b (List.mem_cons_of_mem _ member)) scanned)

theorem refreshClose_served {q : CommandQueue} {v : VaultView}
    {result : CommandQueue × Option DRAMCommand} (lanes : Lanes eqs c q v)
    (waiting : q.refreshWaiting = true) (popped : q.refreshClose c v = .ok result) :
    Served c q v result.1 result.2 := by
  unfold refreshClose at popped
  obtain ⟨outcome, isOutcome, popped⟩ := Outcome.bind_eq_ok.mp popped
  have found := refreshScanClose_found lanes (fun b member => List.mem_range.mp member) isOutcome
  obtain ⟨refreshPossible, taken⟩ := outcome
  cases taken with
  | some taken =>
    obtain rfl := Outcome.pure_eq_ok.mp popped
    obtain ⟨b, front⟩ := found
    exact .front b front
  | none =>
    simp only at popped
    split at popped
    · rename_i possible
      obtain rfl := Outcome.pure_eq_ok.mp popped
      rw [Bool.and_eq_true] at possible
      obtain ⟨rfl, _⟩ := possible
      exact .refresh ⟨rfl, fun _ => rfl, lanes.issued, rfl⟩ waiting fun b inBanks =>
        found b (List.mem_range.mpr inBanks)
    · obtain rfl := Outcome.pure_eq_ok.mp popped
      exact .nothing (.refl lanes.issued) rfl

theorem noteActivate_served {q q' : CommandQueue} {v : VaultView} {cmd : DRAMCommand}
    (served : Served c q v q' (some cmd)) : Served c q v (q'.noteActivate c cmd) (some cmd) := by
  unfold noteActivate
  split
  · cases served with
    | front b front => exact .front b { front with }
    | refresh same waiting closed => exact .refresh { same with } waiting closed
  · exact served

/-- Under the close-page policy a bank is served from the front of its queue. -/
theorem cmdPop_served {q q' : CommandQueue} {v : VaultView} {taken : Option DRAMCommand}
    (lanes : Lanes eqs c q v) (popped : q.cmdPop c v = .ok (q', taken)) :
    Served c q v q' taken := by
  have reads : Reads c q q.countTFAW :=
    { queue := rfl, lock := fun _ => rfl, issued := lanes.issued, bufPopDelay := rfl
      refreshWaiting := rfl }
  have lanesCounted := reads.lanes lanes
  unfold cmdPop at popped
  obtain ⟨⟨q₁, first⟩, selected, popped⟩ := Outcome.bind_eq_ok.mp popped
  have served : Served c q.countTFAW v q₁ first := by
    unfold select at selected
    rw [if_neg (by rw [lanes.close]; decide)] at selected
    split at selected
    · rename_i waiting
      exact refreshClose_served lanesCounted waiting selected
    · exact scheduleClose_served lanesCounted selected
  cases first with
  | none =>
    obtain ⟨rfl, rfl⟩ : q₁ = q' ∧ none = taken := by simpa using popped
    exact served.of_reads reads
  | some cmd =>
    obtain ⟨rfl, rfl⟩ : q₁.noteActivate c cmd = q' ∧ some cmd = taken := by simpa using popped
    exact (noteActivate_served served).of_reads reads

end CommandQueue

end ActiveRouting

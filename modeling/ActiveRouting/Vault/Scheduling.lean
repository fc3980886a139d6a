import ActiveRouting.Library.Outcome
import ActiveRouting.Vault.CommandQueue

/-!
# What the scheduler issues

`CmdPop` issues a command of the queues that `isIssuable` allows, a refresh when
no bank stands in its way, or the precharge of an open row.
-/

namespace ActiveRouting

namespace CommandQueue

variable (c : DRAMConfig)

/-- No queue holds a command that it has not held before. -/
def Within (q' q : CommandQueue) : Prop := ∀ i, (q'.queue i).Sublist (q.queue i)

/-- What `CmdPop` may issue. -/
inductive Chosen (q : CommandQueue) (v : VaultView) : DRAMCommand → Prop where
  | queued {cmd : DRAMCommand} (i : ℕ) (member : cmd ∈ q.queue i)
      (issuable : q.isIssuable c v cmd = .ok true) : Chosen q v cmd
  | refresh (waiting : q.refreshWaiting = true)
      (closed : ∀ b < c.numBanks, (v.bankStates b).currentBankState ≠ .ROW_ACTIVE ∧
        (v.bankStates b).nextActivate ≤ v.currentClockCycle)
      (awake : (v.bankStates 0).currentBankState ≠ .POWERDOWN) : Chosen q v refreshCMD
  | precharge (b : ℕ) (isOpen : (v.bankStates b).currentBankState = .ROW_ACTIVE)
      (due : (v.bankStates b).nextPrecharge ≤ v.currentClockCycle) : Chosen q v (prechargeCMD b)

namespace Within

theorem of_queue_eq {q q' : CommandQueue} (same : q'.queue = q.queue) : Within q' q :=
  fun i => same ▸ List.Sublist.refl (q.queue i)

theorem of_queue {q q₁ q' : CommandQueue} (within : Within q₁ q) (same : q'.queue = q₁.queue) :
    Within q' q :=
  fun i => same ▸ within i

variable {c}

/-- A queue is replaced by a part of it. -/
theorem setQue {q q₀ : CommandQueue} {b : ℕ} {cmds : List DRAMCommand} (same : q₀.queue = q.queue)
    (part : cmds.Sublist (q.accessQue c b)) : Within (q₀.setQue c b cmds) q := by
  intro i
  show (Function.update q₀.queue (index c b) cmds i).Sublist (q.queue i)
  by_cases isQueue : i = index c b
  · rw [isQueue, Function.update_self]
    exact part
  · rw [Function.update_of_ne isQueue, same]

end Within

theorem lockFor_queue (q : CommandQueue) (b : ℕ) (cmd : DRAMCommand) :
    (q.lockFor b cmd).queue = q.queue := by
  unfold lockFor
  split <;> rfl

theorem unlockAfter_queue (q : CommandQueue) (b : ℕ) (cmd : DRAMCommand) :
    (q.unlockAfter b cmd).queue = q.queue := by
  unfold unlockAfter
  split <;> rfl

theorem lockFor_counters (q : CommandQueue) (b : ℕ) (cmd : DRAMCommand) :
    (q.lockFor b cmd).tFAWCountdown = q.tFAWCountdown := by
  unfold lockFor
  split <;> rfl

theorem unlockAfter_counters (q : CommandQueue) (b : ℕ) (cmd : DRAMCommand) :
    (q.unlockAfter b cmd).tFAWCountdown = q.tFAWCountdown := by
  unfold unlockAfter
  split <;> rfl

/-- Two states of the queue from which the same commands can be issued. -/
structure Alike (v : VaultView) (q' q : CommandQueue) : Prop where
  queue : q'.queue = q.queue
  refreshWaiting : q'.refreshWaiting = q.refreshWaiting
  atomicLock : q'.atomicLock = q.atomicLock
  atomicLockTag : q'.atomicLockTag = q.atomicLockTag
  counters : q'.tFAWCountdown = q.tFAWCountdown
  isIssuable : ∀ cmd, q'.isIssuable c v cmd = q.isIssuable c v cmd

theorem Alike.refl (v : VaultView) (q : CommandQueue) : Alike c v q q :=
  ⟨rfl, rfl, rfl, rfl, rfl, fun _ => rfl⟩

theorem advance_alike (v : VaultView) (q : CommandQueue) : Alike c v (q.advance c) q where
  queue := rfl
  refreshWaiting := rfl
  atomicLock := rfl
  atomicLockTag := rfl
  counters := rfl
  isIssuable cmd := by
    unfold isIssuable
    cases cmd.commandType <;> rfl

/-- The first command with a property splits the list. -/
theorem splitFirst_eq_some {p : DRAMCommand → Bool} {before after : List DRAMCommand}
    {cmd : DRAMCommand} : ∀ {cmds : List DRAMCommand},
      splitFirst p cmds = some (before, cmd, after) →
        cmds = before ++ cmd :: after ∧ p cmd = true ∧ ∀ prev ∈ before, p prev = false
  | [], found => nomatch found
  | head :: rest, found => by
    unfold splitFirst at found
    by_cases holds : p head = true
    · rw [if_pos holds] at found
      obtain ⟨rfl, rfl, rfl⟩ : [] = before ∧ head = cmd ∧ rest = after := by simpa using found
      exact ⟨rfl, holds, fun prev member => (nomatch member)⟩
    · rw [if_neg holds] at found
      obtain ⟨⟨before', cmd', after'⟩, found', same⟩ := Option.map_eq_some_iff.mp found
      obtain ⟨rfl, rfl, rfl⟩ : head :: before' = before ∧ cmd' = cmd ∧ after' = after := by
        simpa using same
      obtain ⟨split, isCmd, others⟩ := splitFirst_eq_some found'
      refine ⟨by rw [split]; rfl, isCmd, ?_⟩
      intro prev member
      cases List.mem_cons.mp member with
      | inl isHead => exact isHead ▸ Bool.eq_false_iff.mpr holds
      | inr inRest => exact others prev inRest

variable {c}

/-- The first issuable command splits the queue, and does not depend on those before it. -/
theorem firstIssuable_eq_some {q : CommandQueue} {v : VaultView}
    {depends : List DRAMCommand → DRAMCommand → Bool} {before after : List DRAMCommand}
    {cmd : DRAMCommand} : ∀ {cmds passed : List DRAMCommand},
      q.firstIssuable c v depends passed cmds = .ok (some (before, cmd, after)) →
        passed ++ cmds = before ++ cmd :: after ∧ q.isIssuable c v cmd = .ok true ∧
          depends before cmd = false
  | [], passed, found => nomatch found
  | head :: rest, passed, found => by
    unfold firstIssuable at found
    obtain ⟨issuable, isIssuable, found⟩ := Outcome.bind_eq_ok.mp found
    by_cases taken : (issuable && !depends passed head) = true
    · rw [if_pos taken] at found
      obtain ⟨rfl, rfl, rfl⟩ : passed = before ∧ head = cmd ∧ rest = after := by
        simpa using found
      rw [Bool.and_eq_true, Bool.not_eq_true'] at taken
      exact ⟨rfl, taken.1 ▸ isIssuable, taken.2⟩
    · rw [if_neg taken] at found
      obtain ⟨split, facts⟩ := firstIssuable_eq_some found
      exact ⟨by rw [← split, List.append_assoc, List.singleton_append], facts⟩

/-- How the lock of bank `b` lets a command be taken from the bank's queue, and what becomes of
    the lock: the atomic that holds it goes on, or nobody holds it. -/
inductive ByLock (q q' : CommandQueue) (b : ℕ) (cmd : DRAMCommand) : Prop where
  | holder (locked : q.atomicLock b = true) (isTag : cmd.packetTAG = q.atomicLockTag b)
      (lock : q'.atomicLock = (q.unlockAfter b cmd).atomicLock)
      (lockTag : q'.atomicLockTag = (q.unlockAfter b cmd).atomicLockTag) : ByLock q q' b cmd
  | free {bank : ℕ} (unlocked : q.atomicLock b = false) (isBank : bank = b ∨ bank = cmd.bank)
      (lock : q'.atomicLock = (q.lockFor bank cmd).atomicLock)
      (lockTag : q'.atomicLockTag = (q.lockFor bank cmd).atomicLockTag) : ByLock q q' b cmd

variable (c) in
/-- How a command leaves the command queue: alone, with the activation right before it, or
    without having been in it. -/
inductive Removed (q q' : CommandQueue) (cmd : DRAMCommand) : Prop where
  | alone {b : ℕ} {before after : List DRAMCommand}
      (split : q.accessQue c b = before ++ cmd :: after)
      (rest : q'.queue = Function.update q.queue (index c b) (before ++ after))
      (byLock : ByLock q q' b cmd) : Removed q q' cmd
  | withActivation {b : ℕ} {before after : List DRAMCommand} {act : DRAMCommand}
      (isOpen : c.openPage = true) (isActivate : act.commandType = .ACTIVATE)
      (split : q.accessQue c b = before ++ act :: cmd :: after)
      (rest : q'.queue = Function.update q.queue (index c b) (before ++ after))
      (byLock : ByLock q q' b cmd) : Removed q q' cmd
  | made (isMade : cmd.commandType = .REFRESH ∨ cmd.commandType = .PRECHARGE)
      (rest : q'.queue = q.queue) (lock : q'.atomicLock = q.atomicLock)
      (lockTag : q'.atomicLockTag = q.atomicLockTag) : Removed q q' cmd

/-- What one attempt of the scheduler may return. -/
structure Takes (q : CommandQueue) (v : VaultView) (q' : CommandQueue) (cmd : DRAMCommand) :
    Prop where
  removed : Removed c q q' cmd
  chosen : Chosen c q v cmd
  counters : q'.tFAWCountdown = q.tFAWCountdown

theorem Removed.within {q q' : CommandQueue} {cmd : DRAMCommand} (removed : Removed c q q' cmd) :
    Within q' q := by
  cases removed with
  | @alone b before after split rest =>
    have part : (before ++ after).Sublist (q.accessQue c b) :=
      split ▸ (List.sublist_cons_self cmd after).append_left before
    exact (Within.setQue rfl part).of_queue rest
  | @withActivation b before after act isOpen isActivate split rest =>
    have part : (before ++ after).Sublist (q.accessQue c b) :=
      split ▸ (((List.sublist_cons_self cmd after).cons act).append_left before)
    exact (Within.setQue rfl part).of_queue rest
  | made isMade rest => exact .of_queue_eq rest

theorem ByLock.of_alike {q q₁ q' : CommandQueue} {v : VaultView} {b : ℕ} {cmd : DRAMCommand}
    (alike : Alike c v q₁ q) (byLock : ByLock q₁ q' b cmd) : ByLock q q' b cmd := by
  cases byLock with
  | holder locked isTag lock lockTag =>
    refine .holder (alike.atomicLock ▸ locked) (alike.atomicLockTag ▸ isTag) ?_ ?_
    · simpa [unlockAfter, apply_ite, alike.atomicLock] using lock
    · simpa [unlockAfter, apply_ite, alike.atomicLockTag] using lockTag
  | free unlocked isBank lock lockTag =>
    refine .free (alike.atomicLock ▸ unlocked) isBank ?_ ?_
    · simpa [lockFor, apply_ite, alike.atomicLock] using lock
    · simpa [lockFor, apply_ite, alike.atomicLockTag] using lockTag

theorem Removed.of_alike {q q₁ q' : CommandQueue} {v : VaultView} {cmd : DRAMCommand}
    (alike : Alike c v q₁ q) (removed : Removed c q₁ q' cmd) : Removed c q q' cmd := by
  have same : q₁.accessQue c = q.accessQue c := by
    funext b
    exact congrFun alike.queue (index c b)
  cases removed with
  | alone split rest byLock =>
    rw [same] at split
    exact .alone split (alike.queue ▸ rest) (byLock.of_alike alike)
  | withActivation isOpen isActivate split rest byLock =>
    rw [same] at split
    exact .withActivation isOpen isActivate split (alike.queue ▸ rest) (byLock.of_alike alike)
  | made isMade rest lock lockTag =>
    exact .made isMade (rest.trans alike.queue) (lock.trans alike.atomicLock)
      (lockTag.trans alike.atomicLockTag)

theorem Chosen.of_split {q : CommandQueue} {v : VaultView} {b : ℕ}
    {before after : List DRAMCommand} {cmd : DRAMCommand}
    (split : q.accessQue c b = before ++ cmd :: after)
    (issuable : q.isIssuable c v cmd = .ok true) : Chosen c q v cmd := by
  have member : cmd ∈ q.queue (index c b) := by
    show cmd ∈ q.accessQue c b
    simp [split]
  exact .queued _ member issuable

/-- The atomic that holds a lock goes on. -/
theorem Takes.of_holder {q : CommandQueue} {v : VaultView} {b : ℕ} {rest : List DRAMCommand}
    {cmd : DRAMCommand} (locked : q.atomicLock b = true) (isTag : cmd.packetTAG = q.atomicLockTag b)
    (queue : q.accessQue c b = cmd :: rest) (issuable : q.isIssuable c v cmd = .ok true) :
    Takes (c := c) q v ((q.unlockAfter b cmd).setQue c b rest) cmd := by
  have split : q.accessQue c b = [] ++ cmd :: rest := queue
  refine ⟨.alone split ?_ (.holder locked isTag rfl rfl), .of_split split issuable,
    unlockAfter_counters q b cmd⟩
  rw [← unlockAfter_queue q b cmd]
  rfl

/-- A command is taken from a queue whose bank is not locked. -/
theorem Takes.of_free {q : CommandQueue} {v : VaultView} {b bank : ℕ}
    {before after : List DRAMCommand} {cmd : DRAMCommand} (unlocked : q.atomicLock b = false)
    (isBank : bank = b ∨ bank = cmd.bank) (split : q.accessQue c b = before ++ cmd :: after)
    (issuable : q.isIssuable c v cmd = .ok true) :
    Takes (c := c) q v ((q.lockFor bank cmd).setQue c b (before ++ after)) cmd := by
  refine ⟨.alone split ?_ (.free unlocked isBank rfl rfl), .of_split split issuable,
    lockFor_counters q bank cmd⟩
  rw [← lockFor_queue q bank cmd]
  rfl

theorem ByLock.congr {q q' q'' : CommandQueue} {b : ℕ} {cmd : DRAMCommand}
    (byLock : ByLock q q' b cmd) (lock : q''.atomicLock = q'.atomicLock)
    (lockTag : q''.atomicLockTag = q'.atomicLockTag) : ByLock q q'' b cmd := by
  cases byLock with
  | holder locked isTag isLock isLockTag =>
    exact .holder locked isTag (lock.trans isLock) (lockTag.trans isLockTag)
  | free unlocked isBank isLock isLockTag =>
    exact .free unlocked isBank (lock.trans isLock) (lockTag.trans isLockTag)

theorem Removed.congr {q q' q'' : CommandQueue} {cmd : DRAMCommand} (removed : Removed c q q' cmd)
    (queue : q''.queue = q'.queue) (lock : q''.atomicLock = q'.atomicLock)
    (lockTag : q''.atomicLockTag = q'.atomicLockTag) : Removed c q q'' cmd := by
  cases removed with
  | alone split rest byLock => exact .alone split (queue.trans rest) (byLock.congr lock lockTag)
  | withActivation isOpen isActivate split rest byLock =>
    exact .withActivation isOpen isActivate split (queue.trans rest) (byLock.congr lock lockTag)
  | made isMade rest isLock isLockTag =>
    exact .made isMade (queue.trans rest) (lock.trans isLock) (lockTag.trans isLockTag)

theorem Takes.advance {q q' : CommandQueue} {v : VaultView} {cmd : DRAMCommand}
    (takes : Takes (c := c) q v q' cmd) : Takes (c := c) q v (q'.advance c) cmd :=
  ⟨takes.removed.congr rfl rfl rfl, takes.chosen, takes.counters⟩

theorem Takes.of_alike {q q₁ q' : CommandQueue} {v : VaultView} {cmd : DRAMCommand}
    (alike : Alike c v q₁ q) (takes : Takes (c := c) q₁ v q' cmd) :
    Takes (c := c) q v q' cmd where
  removed := takes.removed.of_alike alike
  chosen := by
    cases takes.chosen with
    | queued i member issuable =>
      exact .queued i (alike.queue ▸ member) (alike.isIssuable cmd ▸ issuable)
    | refresh waiting closed awake =>
      exact .refresh (alike.refreshWaiting ▸ waiting) closed awake
    | precharge b isOpen due => exact .precharge b isOpen due
  counters := takes.counters.trans alike.counters

theorem popLocked_takes {q q' : CommandQueue} {v : VaultView} {b : ℕ} {onlyAtomic : Bool}
    {cmd : DRAMCommand} (locked : q.atomicLock b = true)
    (popped : q.popLocked c v b onlyAtomic = .ok (some (q', cmd))) :
    Takes (c := c) q v q' cmd := by
  unfold popLocked at popped
  cases queue : q.accessQue c b with
  | nil => rw [queue] at popped; cases popped
  | cons head rest =>
    simp only [queue] at popped
    split at popped
    · rename_i isHolder
      obtain ⟨issuable, isIssuable, popped⟩ := Outcome.bind_eq_ok.mp popped
      cases issuable with
      | false => cases popped
      | true =>
        obtain ⟨rfl, rfl⟩ : (q.unlockAfter b head).setQue c b rest = q' ∧ head = cmd := by
          simpa using popped
        exact .of_holder locked isHolder.2 queue isIssuable
    · cases popped

theorem popOpenRow_takes {q q' : CommandQueue} {v : VaultView} {b : ℕ} {cmd : DRAMCommand}
    (unlocked : q.atomicLock b = false)
    (popped : q.popOpenRow c v b = .ok (some (q', cmd))) : Takes (c := c) q v q' cmd := by
  unfold popOpenRow at popped
  cases found : q.firstToOpenRow c v b with
  | none => rw [found] at popped; cases popped
  | some parts =>
    obtain ⟨before, first, after⟩ := parts
    simp only [found] at popped
    split at popped
    · cases popped
    · obtain ⟨issuable, isIssuable, popped⟩ := Outcome.bind_eq_ok.mp popped
      cases issuable with
      | false => cases popped
      | true =>
        obtain ⟨rfl, rfl⟩ : (q.lockFor first.bank first).setQue c b (before ++ after) = q' ∧
            first = cmd := by simpa using popped
        exact .of_free unlocked (.inr rfl) (splitFirst_eq_some found).1 isIssuable

theorem searchClose_takes {q q' : CommandQueue} {v : VaultView} {cmd : DRAMCommand}
    (unlocked : q.atomicLock q.issuedBank = false)
    (popped : q.searchClose c v = .ok (some (q', cmd))) : Takes (c := c) q v q' cmd := by
  unfold searchClose at popped
  obtain ⟨found, isFound, popped⟩ := Outcome.bind_eq_ok.mp popped
  cases found with
  | none => cases popped
  | some parts =>
    obtain ⟨before, first, after⟩ := parts
    obtain ⟨rfl, rfl⟩ : (q.lockFor first.bank first).setQue c q.issuedBank (before ++ after) = q' ∧
        first = cmd := by simpa using popped
    obtain ⟨split, isIssuable, _⟩ := firstIssuable_eq_some isFound
    exact .of_free unlocked (.inr rfl) split isIssuable

/-- An activation right before a command goes with it. -/
theorem takeOpen_takes {q : CommandQueue} {v : VaultView} {before after : List DRAMCommand}
    {cmd : DRAMCommand} (isOpen : c.openPage = true) (unlocked : q.atomicLock q.issuedBank = false)
    (split : q.accessQue c q.issuedBank = before ++ cmd :: after)
    (issuable : q.isIssuable c v cmd = .ok true) :
    Takes (c := c) q v ((q.lockFor q.issuedBank cmd).takeOpen c before after) cmd := by
  have sameBank : (q.lockFor q.issuedBank cmd).issuedBank = q.issuedBank := by
    unfold lockFor
    split <;> rfl
  unfold takeOpen
  rw [sameBank]
  split
  · rename_i hasActivation
    cases last : before.getLast? with
    | none => simp [last] at hasActivation
    | some act =>
      have isActivate : act.commandType = .ACTIVATE := by simpa [last] using hasActivation
      obtain ⟨earlier, rfl⟩ := List.getLast?_eq_some_iff.mp last
      have chosen : Chosen c q v cmd := .of_split split issuable
      rw [List.append_assoc, List.singleton_append] at split
      refine ⟨.withActivation isOpen isActivate split ?_ (.free unlocked (.inl rfl) rfl rfl),
        chosen, lockFor_counters q _ cmd⟩
      rw [← lockFor_queue q q.issuedBank cmd, List.dropLast_concat]
      rfl
  · exact .of_free unlocked (.inl rfl) split issuable

theorem searchOpen_takes {q q' : CommandQueue} {v : VaultView} {cmd : DRAMCommand}
    (isOpen : c.openPage = true) (unlocked : q.atomicLock q.issuedBank = false)
    (popped : q.searchOpen c v = .ok (some (q', cmd))) : Takes (c := c) q v q' cmd := by
  unfold searchOpen at popped
  obtain ⟨found, isFound, popped⟩ := Outcome.bind_eq_ok.mp popped
  cases found with
  | none => cases popped
  | some parts =>
    obtain ⟨before, first, after⟩ := parts
    obtain ⟨rfl, rfl⟩ : (q.lockFor q.issuedBank first).takeOpen c before after = q' ∧
        first = cmd := by simpa using popped
    obtain ⟨split, isIssuable, _⟩ := firstIssuable_eq_some isFound
    exact takeOpen_takes isOpen unlocked split isIssuable

theorem popBankOpen_takes {q q' : CommandQueue} {v : VaultView} {cmd : DRAMCommand}
    (isOpen : c.openPage = true) (popped : q.popBankOpen c v = .ok (some (q', cmd))) :
    Takes (c := c) q v q' cmd := by
  unfold popBankOpen at popped
  split at popped
  · rename_i locked
    exact popLocked_takes locked popped
  · rename_i unlocked
    exact searchOpen_takes isOpen (Bool.eq_false_iff.mpr unlocked) popped

/-! ## Refresh -/

/-- What the loop over the banks establishes before a refresh. -/
def Scanned (q : CommandQueue) (v : VaultView) (banks : List ℕ) :
    Bool × Option (CommandQueue × DRAMCommand) → Prop
  | (_, some (q', cmd)) => Takes (c := c) q v q' cmd
  | (false, none) => True
  | (true, none) => ∀ b ∈ banks, (v.bankStates b).currentBankState ≠ .ROW_ACTIVE ∧
      (v.bankStates b).nextActivate ≤ v.currentClockCycle

theorem Scanned.of_pop {q : CommandQueue} {v : VaultView} {banks : List ℕ}
    {attempt : Except VaultError (Option (CommandQueue × DRAMCommand))}
    {result : Bool × Option (CommandQueue × DRAMCommand)}
    (takes : ∀ q' cmd, attempt = .ok (some (q', cmd)) → Takes (c := c) q v q' cmd)
    (scanned : (do let popped ← attempt; pure (false, popped)) = .ok result) :
    Scanned (c := c) q v banks result := by
  obtain ⟨popped, isPopped, same⟩ := Outcome.bind_eq_ok.mp scanned
  obtain rfl := Outcome.pure_eq_ok.mp same
  cases popped with
  | none => exact trivial
  | some taken => exact takes taken.1 taken.2 isPopped

theorem Scanned.cons {q : CommandQueue} {v : VaultView} {b : ℕ} {banks : List ℕ}
    {result : Bool × Option (CommandQueue × DRAMCommand)}
    (closed : (v.bankStates b).currentBankState ≠ .ROW_ACTIVE)
    (due : (v.bankStates b).nextActivate ≤ v.currentClockCycle)
    (scanned : Scanned (c := c) q v banks result) : Scanned (c := c) q v (b :: banks) result :=
  match result, scanned with
  | (_, some _), scanned => scanned
  | (false, none), _ => trivial
  | (true, none), scanned => fun _ member =>
    (List.mem_cons.mp member).elim (fun same => same ▸ ⟨closed, due⟩) (scanned _)

theorem refreshScanClose_scanned {q : CommandQueue} {v : VaultView} :
    ∀ {banks : List ℕ} {result : Bool × Option (CommandQueue × DRAMCommand)},
      q.refreshScanClose c v banks = .ok result → Scanned (c := c) q v banks result
  | [], result, scanned => by
    obtain rfl := Except.ok.inj scanned
    exact fun b member => (nomatch member)
  | b :: banks, result, scanned => by
    unfold refreshScanClose at scanned
    split at scanned
    · rename_i locked
      split at scanned
      · exact Scanned.of_pop (fun q' cmd popped => popLocked_takes locked popped) scanned
      · obtain rfl := Except.ok.inj scanned
        exact trivial
    · rename_i unlocked
      have free : q.atomicLock b = false := Bool.eq_false_iff.mpr unlocked
      split at scanned
      · exact Scanned.of_pop (fun q' cmd popped => popOpenRow_takes free popped) scanned
      · rename_i closed
        split at scanned
        · obtain rfl := Except.ok.inj scanned
          exact trivial
        · rename_i due
          exact Scanned.cons closed (not_lt.mp due) (refreshScanClose_scanned scanned)

theorem refreshScanOpen_scanned {q : CommandQueue} {v : VaultView} :
    ∀ {banks : List ℕ} {result : Bool × Option (CommandQueue × DRAMCommand)},
      q.refreshScanOpen c v banks = .ok result → Scanned (c := c) q v banks result
  | [], result, scanned => by
    obtain rfl := Except.ok.inj scanned
    exact fun b member => (nomatch member)
  | b :: banks, result, scanned => by
    unfold refreshScanOpen at scanned
    split at scanned
    · rename_i locked
      split at scanned
      · exact Scanned.of_pop (fun q' cmd popped => popLocked_takes locked popped) scanned
      · obtain rfl := Except.ok.inj scanned
        exact trivial
    · rename_i unlocked
      have free : q.atomicLock b = false := Bool.eq_false_iff.mpr unlocked
      split at scanned
      · rename_i isOpen
        split at scanned
        · split at scanned
          · rename_i due
            obtain rfl := Except.ok.inj scanned
            exact ⟨.made (.inr rfl) rfl rfl rfl, .precharge b isOpen due, rfl⟩
          · obtain rfl := Except.ok.inj scanned
            exact trivial
        · exact Scanned.of_pop (fun q' cmd popped => popOpenRow_takes free popped) scanned
      · rename_i closed
        split at scanned
        · obtain rfl := Except.ok.inj scanned
          exact trivial
        · rename_i due
          exact Scanned.cons closed (not_lt.mp due) (refreshScanOpen_scanned scanned)

/-- What an attempt of `CmdPop` establishes: nothing is added to the queues, and
    only what may be chosen is issued. -/
def Pops (q : CommandQueue) (v : VaultView) : CommandQueue × Option DRAMCommand → Prop
  | (q', none) => Alike c v q' q
  | (q', some cmd) => Takes (c := c) q v q' cmd

/-- The end of both refresh loops. -/
theorem Scanned.pops {q : CommandQueue} {v : VaultView}
    {attempt : Except VaultError (Bool × Option (CommandQueue × DRAMCommand))}
    {result : CommandQueue × Option DRAMCommand} (waiting : q.refreshWaiting = true)
    (scanned : ∀ outcome, attempt = .ok outcome →
      Scanned (c := c) q v (List.range c.numBanks) outcome)
    (popped : (do
      match ← attempt with
      | (_, some (q', cmd)) => pure (q', some cmd)
      | (refreshPossible, none) =>
        if refreshPossible && (v.bankStates 0).currentBankState ≠ BankStateType.POWERDOWN then
          pure ({ q with refreshWaiting := false }, some refreshCMD)
        else pure (q, none)) = .ok result) : Pops (c := c) q v result := by
  obtain ⟨outcome, isOutcome, popped⟩ := Outcome.bind_eq_ok.mp popped
  have facts := scanned outcome isOutcome
  obtain ⟨refreshPossible, taken⟩ := outcome
  cases taken with
  | some taken =>
    obtain rfl := Outcome.pure_eq_ok.mp popped
    exact facts
  | none =>
    simp only at popped
    split at popped
    · rename_i possible
      obtain rfl := Outcome.pure_eq_ok.mp popped
      rw [Bool.and_eq_true, decide_eq_true_iff] at possible
      obtain ⟨rfl, awake⟩ := possible
      exact ⟨.made (.inl rfl) rfl rfl rfl,
        .refresh waiting (fun b bound => facts b (List.mem_range.mpr bound)) awake, rfl⟩
    · obtain rfl := Outcome.pure_eq_ok.mp popped
      exact Alike.refl c v q

/-! ## The loop over the queues -/

theorem Alike.trans {q₂ q₁ q : CommandQueue} {v : VaultView} (first : Alike c v q₁ q)
    (second : Alike c v q₂ q₁) : Alike c v q₂ q where
  queue := second.queue.trans first.queue
  refreshWaiting := second.refreshWaiting.trans first.refreshWaiting
  atomicLock := second.atomicLock.trans first.atomicLock
  atomicLockTag := second.atomicLockTag.trans first.atomicLockTag
  counters := second.counters.trans first.counters
  isIssuable cmd := (second.isIssuable cmd).trans (first.isIssuable cmd)

theorem Pops.of_alike {q q₁ : CommandQueue} {v : VaultView}
    {result : CommandQueue × Option DRAMCommand} (alike : Alike c v q₁ q)
    (pops : Pops (c := c) q₁ v result) : Pops (c := c) q v result :=
  match result, pops with
  | (_, none), pops => alike.trans pops
  | (_, some _), pops => Takes.of_alike alike pops

theorem Pops.of_advance {q : CommandQueue} {v : VaultView}
    {result : CommandQueue × Option DRAMCommand} (pops : Pops (c := c) (q.advance c) v result) :
    Pops (c := c) q v result :=
  pops.of_alike (advance_alike c v q)

theorem scheduleClose_pops {v : VaultView} : ∀ {banks : ℕ} {q : CommandQueue}
    {result : CommandQueue × Option DRAMCommand}, scheduleClose c v banks q = .ok result →
      Pops (c := c) q v result
  | 0, q, result, popped => by
    obtain rfl := Except.ok.inj popped
    exact Alike.refl c v q
  | banks + 1, q, result, popped => by
    unfold scheduleClose at popped
    split at popped
    · split at popped
      · rename_i locked
        obtain ⟨taken, isTaken, popped⟩ := Outcome.bind_eq_ok.mp popped
        cases taken with
        | none =>
          obtain rfl := Outcome.pure_eq_ok.mp popped
          exact Alike.refl c v q
        | some taken =>
          obtain rfl := Outcome.pure_eq_ok.mp popped
          exact popLocked_takes locked isTaken
      · rename_i unlocked
        obtain ⟨taken, isTaken, popped⟩ := Outcome.bind_eq_ok.mp popped
        cases taken with
        | none => exact (scheduleClose_pops popped).of_advance
        | some taken =>
          obtain rfl := Outcome.pure_eq_ok.mp popped
          exact (searchClose_takes (Bool.eq_false_iff.mpr unlocked) isTaken).advance
    · exact (scheduleClose_pops popped).of_advance

theorem scheduleOpen_pops {v : VaultView} (isOpen : c.openPage = true) : ∀ {banks : ℕ} {q : CommandQueue}
    {result : CommandQueue × Option DRAMCommand}, scheduleOpen c v banks q = .ok result →
      Pops (c := c) q v result
  | 0, q, result, popped => by
    obtain rfl := Except.ok.inj popped
    exact Alike.refl c v q
  | banks + 1, q, result, popped => by
    unfold scheduleOpen at popped
    split at popped
    · obtain ⟨taken, isTaken, popped⟩ := Outcome.bind_eq_ok.mp popped
      cases taken with
      | none => exact (scheduleOpen_pops isOpen popped).of_advance
      | some taken =>
        obtain rfl := Outcome.pure_eq_ok.mp popped
        exact (popBankOpen_takes isOpen isTaken).advance
    · exact (scheduleOpen_pops isOpen popped).of_advance

theorem refreshClose_pops {q : CommandQueue} {v : VaultView}
    {result : CommandQueue × Option DRAMCommand} (waiting : q.refreshWaiting = true)
    (popped : q.refreshClose c v = .ok result) : Pops (c := c) q v result :=
  Scanned.pops waiting (fun _ scanned => refreshScanClose_scanned scanned) popped

theorem refreshOpen_pops {q : CommandQueue} {v : VaultView}
    {result : CommandQueue × Option DRAMCommand} (waiting : q.refreshWaiting = true)
    (popped : q.refreshOpen c v = .ok result) : Pops (c := c) q v result :=
  Scanned.pops waiting (fun _ scanned => refreshScanOpen_scanned scanned) popped

/-! ## `CmdPop` -/

theorem prechargeAny_pops (q : CommandQueue) (v : VaultView) :
    Pops (c := c) q v (q.prechargeAny c v) := by
  unfold prechargeAny
  cases found : (List.range c.numBanks).find? (q.canPrecharge c v) with
  | none => exact Alike.refl c v q
  | some b =>
    have closable := List.find?_some found
    simp only [canPrecharge, Bool.and_eq_true, decide_eq_true_iff] at closable
    exact ⟨.made (.inr rfl) rfl rfl rfl, .precharge b closable.1.1.1 closable.2, rfl⟩

theorem normalOpen_pops {q : CommandQueue} {v : VaultView}
    {result : CommandQueue × Option DRAMCommand} (isOpen : c.openPage = true) (popped : q.normalOpen c v = .ok result) :
    Pops (c := c) q v result := by
  unfold normalOpen at popped
  obtain ⟨⟨q', taken⟩, scheduled, popped⟩ := Outcome.bind_eq_ok.mp popped
  have pops := scheduleOpen_pops isOpen scheduled
  cases taken with
  | some cmd =>
    obtain rfl := Outcome.pure_eq_ok.mp popped
    exact pops
  | none =>
    obtain rfl := Outcome.pure_eq_ok.mp popped
    exact (prechargeAny_pops q' v).of_alike pops

theorem select_pops {q : CommandQueue} {v : VaultView}
    {result : CommandQueue × Option DRAMCommand} (popped : q.select c v = .ok result) :
    Pops (c := c) q v result := by
  unfold select at popped
  split at popped
  · rename_i isOpen
    split at popped
    · rename_i waiting
      obtain ⟨⟨q', taken⟩, refreshed, popped⟩ := Outcome.bind_eq_ok.mp popped
      have pops := refreshOpen_pops waiting refreshed
      cases taken with
      | some cmd =>
        obtain rfl := Outcome.pure_eq_ok.mp popped
        exact pops
      | none => exact (normalOpen_pops isOpen popped).of_alike pops
    · exact normalOpen_pops isOpen popped
  · split at popped
    · rename_i waiting
      exact refreshClose_pops waiting popped
    · exact scheduleClose_pops popped

/-- `CmdPop` takes a command out of the queues or makes one, and issues only what may be chosen
    once the activation counters have moved on. -/
theorem cmdPop_takes {q q' : CommandQueue} {v : VaultView} {cmd : DRAMCommand}
    (popped : q.cmdPop c v = .ok (q', some cmd)) :
    ∃ q₁, Takes (c := c) q.countTFAW v q₁ cmd ∧ q' = q₁.noteActivate c cmd := by
  unfold cmdPop at popped
  obtain ⟨⟨q₁, taken⟩, selected, popped⟩ := Outcome.bind_eq_ok.mp popped
  have pops := select_pops selected
  cases taken with
  | none => cases popped
  | some first =>
    obtain ⟨rfl, rfl⟩ : q₁.noteActivate c first = q' ∧ first = cmd := by simpa using popped
    exact ⟨q₁, pops, rfl⟩

theorem cmdPop_alike {q q' : CommandQueue} {v : VaultView}
    (popped : q.cmdPop c v = .ok (q', none)) : Alike c v q' q.countTFAW := by
  unfold cmdPop at popped
  obtain ⟨⟨q₁, taken⟩, selected, popped⟩ := Outcome.bind_eq_ok.mp popped
  have pops := select_pops selected
  cases taken with
  | some first => cases popped
  | none =>
    obtain ⟨rfl, _⟩ : q₁ = q' ∧ True := by simpa using popped
    exact pops

theorem noteActivate_queue (q : CommandQueue) (cmd : DRAMCommand) :
    (q.noteActivate c cmd).queue = q.queue := by
  unfold noteActivate
  split <;> rfl

theorem cmdPop_eq_some {q q' : CommandQueue} {v : VaultView} {cmd : DRAMCommand}
    (popped : q.cmdPop c v = .ok (q', some cmd)) :
    Within q' q ∧ Chosen c q.countTFAW v cmd := by
  obtain ⟨q₁, takes, rfl⟩ := cmdPop_takes popped
  exact ⟨takes.removed.within.of_queue (noteActivate_queue q₁ cmd), takes.chosen⟩

theorem cmdPop_eq_none {q q' : CommandQueue} {v : VaultView}
    (popped : q.cmdPop c v = .ok (q', none)) : q'.queue = q.queue :=
  (cmdPop_alike popped).queue

end CommandQueue

end ActiveRouting

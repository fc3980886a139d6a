import ActiveRouting.Vault.RowOrder
import ActiveRouting.Vault.ServiceOrder

/-!
# The order in which a bank is served under the open-page policy

With a queue for each bank, `CmdPop` takes a command that overtakes none to its row, of a locked
bank the front; or it closes a row that no atomic holds, or refreshes.
-/

namespace ActiveRouting

open DRAMCommand

namespace CommandQueue

variable {c : DRAMConfig} {q q₁ q' : CommandQueue} {v : VaultView} {b : ℕ} {cmd : DRAMCommand}

/-- The commands that requests are made of under the open-page policy. -/
def isRequest : DRAMCommandType → Bool
  | .ACTIVATE | .READ | .WRITE => true
  | _ => false

/-- The queues of all banks, with the loop over them in range. -/
structure OpenQueues (c : DRAMConfig) (q : CommandQueue) : Prop where
  isOpen : c.openPage = true
  perBank : c.quePerBank = true
  issued : q.issuedBank < c.numBanks
  queued : ∀ b < c.numBanks, ∀ cmd ∈ q.queue b,
    cmd.bank = b ∧ isRequest cmd.commandType = true

/-- A command leaves the queue of its bank: the front, if the bank is locked. -/
structure Picks (c : DRAMConfig) (q : CommandQueue) (v : VaultView) (b : ℕ) (q' : CommandQueue)
    (cmd : DRAMCommand) : Prop extends Leaves c q v b q' cmd where
  taken : Taken cmd (q.queue b) (q'.queue b)
  front : q.lockState b ≠ none → q.queue b = cmd :: q'.queue b

/-- What `CmdPop` does: nothing, a command leaves the queue of its bank, or a refresh or a precharge
    is made. -/
inductive OpenServed (c : DRAMConfig) (q : CommandQueue) (v : VaultView) :
    CommandQueue → Option DRAMCommand → Prop where
  | nothing {q' : CommandQueue} (same : Untouched c q q') : OpenServed c q v q' none
  | picks {q' : CommandQueue} {cmd : DRAMCommand} (b : ℕ) (picks : Picks c q v b q' cmd) :
      OpenServed c q v q' (some cmd)
  | refresh {q' : CommandQueue} (same : Untouched c q q')
      (closed : ∀ b < c.numBanks, (v.bankStates b).currentBankState ≠ .ROW_ACTIVE) :
      OpenServed c q v q' (some refreshCMD)
  | precharge {q' : CommandQueue} (b : ℕ) (inBanks : b < c.numBanks) (same : Untouched c q q')
      (isOpen : (v.bankStates b).currentBankState = .ROW_ACTIVE)
      (unlocked : q.lockState b = none) : OpenServed c q v q' (some (prechargeCMD b))

/-! ## What the service does not depend on -/

theorem Untouched.trans (first : Untouched c q q₁) (second : Untouched c q₁ q') :
    Untouched c q q' where
  queue := second.queue.trans first.queue
  lock b := (second.lock b).trans (first.lock b)
  issued := second.issued
  bufPopDelay := second.bufPopDelay.trans first.bufPopDelay

theorem OpenQueues.accessQue (queues : OpenQueues c q) (q₀ : CommandQueue) (b : ℕ) :
    q₀.accessQue c b = q₀.queue b := by
  rw [CommandQueue.accessQue, index, if_pos queues.perBank]

theorem OpenQueues.setQue_queue (queues : OpenQueues c q) (q₀ : CommandQueue) (b : ℕ)
    (cmds : List DRAMCommand) : (q₀.setQue c b cmds).queue = Function.update q₀.queue b cmds := by
  rw [setQue, index, if_pos queues.perBank]

theorem isRequest_finds (isCommand : isRequest cmd.commandType = true)
    (issuable : q.isIssuable c v cmd = .ok true) : Finds v cmd := by
  cases isType : cmd.commandType <;> rw [isType] at isCommand <;> try cases isCommand
  · exact isIssuable_activate isType issuable
  · exact isIssuable_column (.inl (by rw [isType]; rfl)) issuable
  · exact isIssuable_column (.inr (by rw [isType]; rfl)) issuable

/-- A command is taken from the queue of its bank. -/
theorem Picks.of_taken (queues : OpenQueues c q) (inBanks : b < c.numBanks) {q₀ : CommandQueue}
    {rest : List DRAMCommand} (taken : Taken cmd (q.queue b) rest)
    (issuable : q.isIssuable c v cmd = .ok true) (queue : q₀.queue = q.queue)
    (issued : q₀.issuedBank = q.issuedBank)
    (lock : ∀ b', q₀.lockState b' =
      if b' = b then lockAfter (q.lockState b) cmd else q.lockState b')
    (due : cmd.commandType = .ACTIVATE → q.lockState b = none → q.bufPopDelayPerBank b = 0)
    (front : q.lockState b ≠ none → q.queue b = cmd :: rest) :
    Picks c q v b (q₀.setQue c b rest) cmd := by
  obtain ⟨bank, isCommand⟩ := queues.queued b inBanks cmd taken.mem
  have after := queues.setQue_queue q₀ b rest
  rw [queue] at after
  have own : (q₀.setQue c b rest).queue b = rest := by rw [after, Function.update_self]
  exact {
    inBanks := inBanks
    bank := bank
    shorter := by
      rw [own]
      exact taken.shorter
    others := fun b' other => by rw [after, Function.update_of_ne other]
    finds := isRequest_finds isCommand issuable
    notRefresh := fun isRefresh => by
      rw [isRefresh] at isCommand
      cases isCommand
    lock := lock
    due := due
    issued := lt_of_eq_of_lt issued queues.issued
    taken := by
      rw [own]
      exact taken
    front := by
      rw [own]
      exact front }

/-- A command is taken from the queue of a bank that is not locked. -/
theorem Picks.of_free (queues : OpenQueues c q) (inBanks : b < c.numBanks) {q₀ : CommandQueue}
    {rest : List DRAMCommand} (free : q.atomicLock b = false)
    (taken : Taken cmd (q.queue b) rest) (issuable : q.isIssuable c v cmd = .ok true)
    (queue : q₀.queue = q.queue) (issued : q₀.issuedBank = q.issuedBank)
    (lock : ∀ b', q₀.lockState b' = (q.lockFor b cmd).lockState b')
    (due : cmd.commandType = .ACTIVATE → q.bufPopDelayPerBank b = 0) :
    Picks c q v b (q₀.setQue c b rest) cmd := by
  obtain rfl := (queues.queued b inBanks cmd taken.mem).1
  have isFree : q.lockState cmd.bank = none := by simp [lockState, free]
  exact .of_taken queues inBanks taken issuable queue issued
    (fun b' => (lock b').trans (lockFor_lockState isFree b')) (fun activate _ => due activate)
    fun locked => absurd isFree locked

/-- What the loop over the banks finds while a refresh waits. -/
def OpenFound (c : DRAMConfig) (q : CommandQueue) (v : VaultView) (banks : List ℕ) :
    Bool × Option (CommandQueue × DRAMCommand) → Prop
  | (_, some (q', cmd)) => OpenServed c q v q' (some cmd)
  | (false, none) => True
  | (true, none) => ∀ b ∈ banks, (v.bankStates b).currentBankState ≠ .ROW_ACTIVE

theorem OpenFound.of_pop {banks : List ℕ}
    {attempt : Except VaultError (Option (CommandQueue × DRAMCommand))}
    {result : Bool × Option (CommandQueue × DRAMCommand)}
    (picks : ∀ q' cmd, attempt = .ok (some (q', cmd)) → Picks c q v b q' cmd)
    (scanned : (do let popped ← attempt; pure (false, popped)) = .ok result) :
    OpenFound c q v banks result := by
  obtain ⟨popped, isPopped, same⟩ := Outcome.bind_eq_ok.mp scanned
  obtain rfl := Outcome.pure_eq_ok.mp same
  cases popped with
  | none => exact trivial
  | some taken => exact .picks b (picks taken.1 taken.2 isPopped)

theorem OpenFound.cons {banks : List ℕ} {result : Bool × Option (CommandQueue × DRAMCommand)}
    (closed : (v.bankStates b).currentBankState ≠ .ROW_ACTIVE)
    (found : OpenFound c q v banks result) : OpenFound c q v (b :: banks) result :=
  match result, found with
  | (_, some _), found => found
  | (false, none), _ => trivial
  | (true, none), found => fun _ member =>
    (List.mem_cons.mp member).elim (fun same => same ▸ closed) (found _)

theorem Picks.advance (picks : Picks c q v b q' cmd) : Picks c q v b (q'.advance c) cmd :=
  { picks with issued := advance_issued picks.issued }

end CommandQueue

end ActiveRouting

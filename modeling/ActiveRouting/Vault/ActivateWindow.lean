import ActiveRouting.Library.Run
import ActiveRouting.Library.SlidingWindow
import ActiveRouting.Vault.QueueStages
import ActiveRouting.Vault.Reservation

/-!
# The window of four activations

`CmdPop` keeps a counter for each of the last activations, and issues no fifth one in `tFAW` cycles.
-/

namespace ActiveRouting

open SlidingWindow

/-! ## The calls of a command queue -/

/-- A command queue with the cycle that is next and the cycles of the activations so far. -/
structure Activations where
  queue : CommandQueue := {}
  now : ℕ := 0
  times : List ℕ := []

/-- What happens to a command queue: `CmdPop` takes a cycle, which may also pass without it. -/
inductive QueueCall where
  | cmdPop (v : VaultView)
  | pass
  | enqueue (bank : ℕ) (cmd : DRAMCommand)
  | pushFront (bank : ℕ) (cmd : DRAMCommand)
  | waitRefresh
  | update

namespace Activations

variable (c : DRAMConfig)

/-- The cycle ends in which a command has been popped. -/
def endCycle (s : Activations) (queue : CommandQueue) (popped : Option DRAMCommand) :
    Activations where
  queue := queue
  now := s.now + 1
  times := if popped.any fun cmd => cmd.commandType = .ACTIVATE then s.times ++ [s.now] else s.times

def setQueue (s : Activations) (queue : CommandQueue) : Activations := { s with queue := queue }

def step (s : Activations) : QueueCall → Except VaultError Activations
  | .cmdPop v => do
    let (queue, popped) ← s.queue.cmdPop c v
    pure (s.endCycle queue popped)
  | .pass => pure (s.endCycle s.queue none)
  | .enqueue bank cmd => pure (s.setQueue (s.queue.enqueue c bank cmd))
  | .pushFront bank cmd => pure (s.setQueue (s.queue.pushFront c bank cmd))
  | .waitRefresh => pure (s.setQueue (VaultController.waitRefresh s.queue))
  | .update => pure (s.setQueue s.queue.update)

/-- The counters cover the activations, of which no window holds more than four. -/
structure Watched (s : Activations) : Prop where
  covers : Covers c.tFAW s.now s.queue.tFAWCountdown s.times
  limited : Limited 4 c.tFAW s.times

variable {c}

theorem start_watched : Watched c {} := ⟨covers_nil, limited_nil⟩

theorem Watched.setQueue {s : Activations} (watched : s.Watched c) {queue : CommandQueue}
    (same : queue.tFAWCountdown = s.queue.tFAWCountdown) : (s.setQueue queue).Watched c :=
  ⟨same ▸ watched.covers, watched.limited⟩

theorem Watched.lowered {s : Activations} (watched : s.Watched c) :
    Lowered c.tFAW s.now s.queue.countTFAW.tFAWCountdown s.times := by
  have byOne : ∀ counter, counter ≤ CommandQueue.predUnsigned counter + 1 := by
    intro counter
    unfold CommandQueue.predUnsigned
    split <;> omega
  exact (watched.covers.lower byOne).drop

/-- An activation is issued only while there are fewer than four counters. -/
theorem chosen_activate {q : CommandQueue} {v : VaultView} {cmd : DRAMCommand}
    (chosen : CommandQueue.Chosen c q v cmd) (isActivate : cmd.commandType = .ACTIVATE) :
    q.tFAWCountdown.length < 4 := by
  cases chosen with
  | queued i member issuable =>
    simp only [CommandQueue.isIssuable, isActivate, Except.ok.injEq, Bool.and_eq_true,
      decide_eq_true_eq] at issuable
    exact issuable.2
  | refresh => cases isActivate
  | precharge => cases isActivate

theorem Watched.cmdPop {s : Activations} (watched : s.Watched c) {v : VaultView}
    {queue : CommandQueue} {popped : Option DRAMCommand}
    (pops : s.queue.cmdPop c v = .ok (queue, popped)) : (s.endCycle queue popped).Watched c := by
  have lowered := watched.lowered
  cases popped with
  | none =>
    have alike := CommandQueue.cmdPop_alike pops
    exact ⟨alike.counters ▸ lowered.pass, watched.limited⟩
  | some cmd =>
    obtain ⟨q₁, takes, rfl⟩ := CommandQueue.cmdPop_takes pops
    by_cases isActivate : cmd.commandType = .ACTIVATE
    · have room := chosen_activate takes.chosen isActivate
      have times : (s.endCycle (q₁.noteActivate c cmd) (some cmd)).times = s.times ++ [s.now] := by
        simp [endCycle, isActivate]
      have counters : (q₁.noteActivate c cmd).tFAWCountdown =
          s.queue.countTFAW.tFAWCountdown ++ [c.tFAW] := by
        simp [CommandQueue.noteActivate, isActivate, takes.counters]
      exact ⟨times ▸ counters ▸ lowered.event, times ▸ watched.limited.event lowered room⟩
    · have times : (s.endCycle (q₁.noteActivate c cmd) (some cmd)).times = s.times := by
        simp [endCycle, isActivate]
      have counters : (q₁.noteActivate c cmd).tFAWCountdown =
          s.queue.countTFAW.tFAWCountdown := by
        simp [CommandQueue.noteActivate, isActivate, takes.counters]
      exact ⟨times ▸ counters ▸ lowered.pass, times ▸ watched.limited⟩

theorem step_watched {s s' : Activations} {call : QueueCall} (watched : s.Watched c)
    (stepped : s.step c call = .ok s') : s'.Watched c := by
  cases call with
  | cmdPop v =>
    obtain ⟨⟨queue, popped⟩, pops, ended⟩ := Outcome.bind_eq_ok.mp stepped
    obtain rfl := Outcome.pure_eq_ok.mp ended
    exact watched.cmdPop pops
  | pass =>
    obtain rfl := Outcome.pure_eq_ok.mp stepped
    exact ⟨watched.covers.later (Nat.le_succ s.now), watched.limited⟩
  | enqueue bank cmd =>
    obtain rfl := Outcome.pure_eq_ok.mp stepped
    exact watched.setQueue rfl
  | pushFront bank cmd =>
    obtain rfl := Outcome.pure_eq_ok.mp stepped
    exact watched.setQueue rfl
  | waitRefresh =>
    obtain rfl := Outcome.pure_eq_ok.mp stepped
    exact watched.setQueue rfl
  | update =>
    obtain rfl := Outcome.pure_eq_ok.mp stepped
    exact watched.setQueue rfl

end Activations

/-! ## The cycles of a vault -/

namespace VaultController

variable (c : DRAMConfig)

/-- What `CmdPop` issues in a cycle. -/
def issuedIn (v : VaultController) (accepts : Bool) : Except VaultError (Option DRAMCommand) := do
  let v ← v.flushPcu.updateCountdown c
  let v ← v.convert c
  let (_, popped) ← (v.sendUp accepts).commandQueue.cmdPop c (v.sendUp accepts).view
  pure popped

end VaultController

/-- A vault with the number of its cycles and those of its activations. -/
structure VaultActivations where
  vault : VaultController
  now : ℕ := 0
  times : List ℕ := []

namespace VaultActivations

variable (c : DRAMConfig)

/-- The calls of the vault's command queue. -/
def calls (s : VaultActivations) : Activations := ⟨s.vault.commandQueue, s.now, s.times⟩

def start (id : ℕ) : VaultActivations := { vault := .start c id }

def setVault (s : VaultActivations) (vault : VaultController) : VaultActivations :=
  { s with vault := vault }

/-- The cycle ends in which a command has been popped. -/
def endCycle (s : VaultActivations) (vault : VaultController) (popped : Option DRAMCommand) :
    VaultActivations :=
  let calls := s.calls.endCycle vault.commandQueue popped
  { vault := vault, now := calls.now, times := calls.times }

def step (s : VaultActivations) : VaultController.Action → Except VaultError VaultActivations
  | .offer packet => do
    let vault ← s.vault.step c (.offer packet)
    pure (s.setVault vault)
  | .cycle accepts => do
    let popped ← s.vault.issuedIn c accepts
    let vault ← s.vault.cycle c accepts
    pure (s.endCycle vault popped)

variable {c}

theorem foldl_enqueue_counters {bank : ℕ} {cmds : List DRAMCommand} {q : CommandQueue} :
    (cmds.foldl (fun q cmd => q.enqueue c bank cmd) q).tFAWCountdown = q.tFAWCountdown := by
  induction cmds generalizing q with
  | nil => rfl
  | cons cmd cmds inductionHypothesis => exact inductionHypothesis

theorem convert_counters {v v' : VaultController} (converted : v.convert c = .ok v') :
    v'.commandQueue.tFAWCountdown = v.commandQueue.tFAWCountdown := by
  unfold VaultController.convert at converted
  split at converted
  · obtain ⟨⟨v₁, kept⟩, isConverted, converted⟩ := Outcome.bind_eq_ok.mp converted
    rw [← Outcome.pure_eq_ok.mp converted]
    apply VaultController.convertPackets_induct
      (fun v' => v'.commandQueue.tFAWCountdown = v.commandQueue.tFAWCountdown) isConverted rfl
    intro packet _ v₁ v₂ same converts
    obtain ⟨kind, _, _, rfl⟩ := VaultController.convPacketIntoCMDs_eq_some converts
    exact foldl_enqueue_counters.trans same
  · rw [← Outcome.pure_eq_ok.mp converted]

/-- A cycle lowers the counters once, and adds one for an activation. -/
theorem cycle_watched {s : VaultActivations} {accepts : Bool} {popped : Option DRAMCommand}
    {vault : VaultController} (watched : s.calls.Watched c)
    (issued : s.vault.issuedIn c accepts = .ok popped)
    (cycled : s.vault.cycle c accepts = .ok vault) : (s.endCycle vault popped).calls.Watched c := by
  obtain ⟨v₁, counted, issued⟩ := Outcome.bind_eq_ok.mp issued
  obtain ⟨v₂, converted, issued⟩ := Outcome.bind_eq_ok.mp issued
  obtain ⟨⟨queue, taken⟩, pops, isPopped⟩ := Outcome.bind_eq_ok.mp issued
  obtain rfl := Outcome.pure_eq_ok.mp isPopped
  obtain ⟨v₃, updated, returned⟩ := Outcome.bind_eq_ok.mp cycled
  obtain ⟨v₁', counted', updated⟩ := Outcome.bind_eq_ok.mp updated
  obtain rfl := Except.ok.inj (counted.symm.trans counted')
  obtain ⟨v₂', converted', updated⟩ := Outcome.bind_eq_ok.mp updated
  obtain rfl := Except.ok.inj (converted.symm.trans converted')
  obtain ⟨v₄, isPopped, updated⟩ := Outcome.bind_eq_ok.mp updated
  obtain ⟨v₅, operated, updated⟩ := Outcome.bind_eq_ok.mp updated
  obtain rfl := Outcome.pure_eq_ok.mp updated
  -- before `CmdPop` the counters are those of the last cycle
  have before : (v₂.sendUp accepts).commandQueue.tFAWCountdown =
      s.vault.commandQueue.tFAWCountdown := by
    rw [(VaultController.sendUp_aside v₂ accepts).commandQueue, convert_counters converted,
      ← (VaultController.flushPcu_aside s.vault).commandQueue]
    cases VaultController.updateCountdown_commandQueue counted with
    | inl same => rw [same]
    | inr waits => rw [waits]; rfl
  have watches := (watched.setQueue before).cmdPop pops
  -- and after it nobody counts
  have popping : v₄.commandQueue = queue := by
    unfold VaultController.popCommand at isPopped
    rw [pops] at isPopped
    cases taken with
    | none => rw [← Outcome.pure_eq_ok.mp isPopped]; rfl
    | some cmd =>
      simp only [Outcome.ok_bind] at isPopped
      split at isPopped
      · rw [← Outcome.pure_eq_ok.mp isPopped]; rfl
      · cases isPopped
  have after : vault.commandQueue.tFAWCountdown = queue.tFAWCountdown := by
    rw [VaultController.updateDram_commandQueue returned, ← popping]
    show (v₅.enablePowerdown c).commandQueue.update.tFAWCountdown = _
    rw [VaultController.enablePowerdown_commandQueue]
    cases VaultController.atomicOperation_commandQueue operated with
    | inl same => rw [same]; rfl
    | inr writes =>
      obtain ⟨cmd, _, same⟩ := writes
      rw [same]
      rfl
  exact watches.setQueue after

theorem step_watched {s s' : VaultActivations} {action : VaultController.Action}
    (watched : s.calls.Watched c) (stepped : s.step c action = .ok s') : s'.calls.Watched c := by
  cases action with
  | offer packet =>
    obtain ⟨vault, offered, stepped⟩ := Outcome.bind_eq_ok.mp stepped
    obtain rfl := Outcome.pure_eq_ok.mp stepped
    obtain rfl := Outcome.pure_eq_ok.mp offered
    have same : ((s.vault.receiveDown packet).getD s.vault).commandQueue = s.vault.commandQueue := by
      unfold VaultController.receiveDown
      split <;> rfl
    exact watched.setQueue (congrArg CommandQueue.tFAWCountdown same)
  | cycle accepts =>
    obtain ⟨popped, issued, stepped⟩ := Outcome.bind_eq_ok.mp stepped
    obtain ⟨vault, cycled, stepped⟩ := Outcome.bind_eq_ok.mp stepped
    obtain rfl := Outcome.pure_eq_ok.mp stepped
    exact cycle_watched watched issued cycled

end VaultActivations

/-! ## Runs -/

variable {c : DRAMConfig}

theorem Activations.run_watched {calls : List QueueCall} {s : Activations}
    (run : Transition.Run (step c) (fun _ _ _ => True) {} calls s) : s.Watched c :=
  run.invariant start_watched fun _ _ _ watched stepped _ => step_watched watched stepped

theorem VaultActivations.run_watched {id : ℕ} {actions : List VaultController.Action}
    {s : VaultActivations} (run : Transition.Run (step c) (fun _ _ _ => True) (start c id) actions s) :
    s.calls.Watched c :=
  run.invariant Activations.start_watched fun _ _ _ watched stepped _ =>
    step_watched watched stepped

/-- However `CmdPop` is called, a queue issues at most four activations in `tFAW` cycles, and so
    does a vault in every run. -/
theorem activations_limited :
    (∀ calls s, Transition.Run (Activations.step c) (fun _ _ _ => True) {} calls s →
      Limited 4 c.tFAW s.times) ∧
    ∀ id actions s, Transition.Run (VaultActivations.step c) (fun _ _ _ => True)
      (VaultActivations.start c id) actions s → Limited 4 c.tFAW s.times :=
  ⟨fun _ _ run => (Activations.run_watched run).limited,
    fun _ _ _ run => (VaultActivations.run_watched run).limited⟩

/-- Banks that are idle, for five activations. -/
def idleBanks : VaultView := ⟨fun _ => {}, 100, 0, maxVltBuf, 0⟩

def fiveActivations : List QueueCall :=
  (List.range 5).map (fun bank => .enqueue bank { commandType := .ACTIVATE, bank := bank }) ++
    .update :: List.replicate 25 (.cmdPop idleBanks)

/-- The fifth activation waits until the first one has left the window. -/
theorem activations_limited_fiveBanks : (∃ s : Activations, s.times = [0, 1, 2, 3, 24] ∧ Limited 4 24 s.times) ∧
    ∃ s : VaultActivations, s.times = [9] ∧ Limited 4 24 s.times := by
  have queueRun : (Transition.execute (Activations.step {}) (fun _ _ _ => True) {}
      fiveActivations).map Activations.times = some [0, 1, 2, 3, 24] := by decide +kernel
  have vaultRun : (Transition.execute (VaultActivations.step {}) (fun _ _ _ => True)
      (VaultActivations.start {} 0) (VaultController.serve VaultController.readBlock 20)).map
        VaultActivations.times = some [9] := by decide +kernel
  obtain ⟨s, executed, times⟩ := Option.map_eq_some_iff.mp queueRun
  obtain ⟨s', executed', times'⟩ := Option.map_eq_some_iff.mp vaultRun
  exact ⟨⟨s, times, activations_limited.1 _ s (Transition.execute_run executed)⟩,
    ⟨s', times', activations_limited.2 _ _ s' (Transition.execute_run executed')⟩⟩

end ActiveRouting

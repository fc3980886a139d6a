import ActiveRouting.Vault.CloseRun
import ActiveRouting.Vault.CommandLedger
import ActiveRouting.Vault.OpenPage

/-!
# The capacity of the command queues

A request is converted only where there is space for its commands, and the scheduler only takes
commands away.  A write back is put in front of its queue unasked: with a queue for each bank the
lock of the bank has kept the space, but a queue for all banks may have been filled.
-/

namespace ActiveRouting

open DRAMCommand CommandQueue

namespace CommandQueue

variable {c : DRAMConfig} {q q' : CommandQueue}

/-- No queue holds more than `MAX_CMD_QUE` commands. -/
def Bounded (q : CommandQueue) : Prop := ∀ i, (q.queue i).length ≤ maxCmdQue

theorem Bounded.of_queue (bounded : q.Bounded) (same : q'.queue = q.queue) : q'.Bounded := by
  rw [Bounded, same]
  exact bounded

theorem Bounded.update (bounded : q.Bounded) {i : ℕ} {cmds : List DRAMCommand}
    (isUpdate : q'.queue = Function.update q.queue i cmds) (space : cmds.length ≤ maxCmdQue) :
    q'.Bounded := by
  intro j
  rw [isUpdate]
  by_cases isQueue : j = i
  · subst isQueue
    rw [Function.update_self]
    exact space
  · rw [Function.update_of_ne isQueue]
    exact bounded j

theorem Bounded.cmdPop (bounded : q.Bounded) {v : VaultView} {taken : Option DRAMCommand}
    (popped : q.cmdPop c v = .ok (q', taken)) : q'.Bounded := by
  cases taken with
  | none => exact bounded.of_queue (cmdPop_eq_none popped)
  | some cmd =>
    intro i
    exact ((cmdPop_eq_some popped).1 i).length_le.trans (bounded i)

end CommandQueue

namespace VaultController

variable {c : DRAMConfig} {v v' : VaultController}

/-- A write back has been put in front of a queue that was full. -/
structure Overfills (c : DRAMConfig) (v v' : VaultController) (cmd : DRAMCommand) : Prop where
  operated : v.atomicCMD = some cmd
  pushed : v'.commandQueue = v.commandQueue.pushFront c cmd.bank (atmRstCMD c cmd)
  isFull : maxCmdQue ≤ (v.commandQueue.accessQue c cmd.bank).length

end VaultController

namespace VaultLedger

open VaultController

variable {c : DRAMConfig} {s s' : VaultLedger} {id : ℕ} {actions : List Action}

/-- In a cycle of the run, a write back overfills its queue. -/
def Overfilled (c : DRAMConfig) (id : ℕ) (actions : List Action) : Prop :=
  ∃ early accepts late before after counted converted popped operated cmd,
    actions = early ++ .cycle accepts :: late ∧
      Transition.Run (step c) (Offers c) (start c id) early before ∧
        Stages c before after accepts counted converted popped operated ∧
          Overfills c popped operated cmd

theorem Overfilled.append (overfilled : Overfilled c id actions) (more : List Action) :
    Overfilled c id (actions ++ more) := by
  obtain ⟨early, accepts, late, before, after, counted, converted, popped, operated, cmd, rfl,
    happened⟩ := overfilled
  refine ⟨early, accepts, late ++ more, before, after, counted, converted, popped, operated, cmd,
    ?_, happened⟩
  rw [List.append_assoc, List.cons_append]

/-- The vault of the ledger, in a run all of whose steps are permitted. -/
theorem run_vault {guard : VaultController → Action → VaultController → Prop}
    (run : Transition.Run (step c) (Offers c) (start c id) actions s)
    (permitted : ∀ action ∈ actions, ∀ v v', guard v action v') :
    Transition.Run (VaultController.step c) guard (VaultController.start c id) actions s.vault := by
  induction run with
  | start => exact .start _
  | @next s₁ s₂ actions action before stepped guarded inductionHypothesis =>
    refine .next (inductionHypothesis fun earlier member =>
      permitted earlier (List.mem_append_left _ member)) ?_
      (permitted action (List.mem_append_right _ (List.mem_singleton_self _)) _ _)
    rw [← step_vault, stepped]
    rfl

/-- The vault of the ledger, in a run on served requests. -/
theorem run_served (run : Transition.Run (step c) (Offers c) (start c id) actions s)
    (served : ∀ packet, .offer packet ∈ actions → Served packet) :
    Transition.Run (VaultController.step c) OffersServed (VaultController.start c id) actions
      s.vault := by
  refine run_vault run fun action member _ _ => ?_
  cases action with
  | offer packet => exact served packet member
  | cycle accepts => trivial

end VaultLedger

end ActiveRouting

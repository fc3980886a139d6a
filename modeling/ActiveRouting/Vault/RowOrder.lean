import ActiveRouting.Vault.VaultController
import Mathlib.Data.List.Chain

/-!
# The order of a queue under the open-page policy

The open-page policy takes commands from anywhere in a queue, but a command to a row never
overtakes one to the same row.  So what follows the last command of a request in its row begins
with an activation.
-/

namespace ActiveRouting

open DRAMCommand

/-- An activation is followed by a command to its row. -/
def Follows (act cmd : DRAMCommand) : Prop :=
  act.commandType = .ACTIVATE → cmd.commandType ≠ .ACTIVATE ∧ cmd.row = act.row

/-- Each activation of a queue is in front of its request. -/
structure Headed (queue : List DRAMCommand) : Prop where
  chain : queue.IsChain Follows
  last : ∀ cmd ∈ queue.getLast?, cmd.commandType ≠ .ACTIVATE

/-- The first command to a row is an activation. -/
def Fresh (row : ℕ) : List DRAMCommand → Prop
  | [] => True
  | cmd :: rest => if cmd.row = row then cmd.commandType = .ACTIVATE else Fresh row rest

/-- Behind the last command of a request the row is activated again. -/
def Apart : List DRAMCommand → Prop
  | [] => True
  | cmd :: rest =>
    (cmd.commandType ≠ .ACTIVATE → cmd.lastCMD = true → Fresh cmd.row rest) ∧ Apart rest

/-- How a command is taken from a queue and what is left: no command to its row is before it, and
    the activation right before it, if it is for the row, goes with it. -/
inductive Taken (cmd : DRAMCommand) : List DRAMCommand → List DRAMCommand → Prop where
  | alone {before after : List DRAMCommand}
      (independent : ∀ prev ∈ before, prev.row = cmd.row → prev.commandType = .ACTIVATE)
      (last : ∀ prev ∈ before.getLast?, prev.row = cmd.row → prev.commandType ≠ .ACTIVATE) :
      Taken cmd (before ++ cmd :: after) (before ++ after)
  | withActivation {before after : List DRAMCommand} {act : DRAMCommand}
      (isActivate : act.commandType = .ACTIVATE)
      (independent : ∀ prev ∈ before, prev.row = cmd.row → prev.commandType = .ACTIVATE) :
      Taken cmd (before ++ act :: cmd :: after) (before ++ after)

namespace Fresh

variable {row : ℕ}

theorem append {queue more : List DRAMCommand} (first : Fresh row queue) (second : Fresh row more) :
    Fresh row (queue ++ more) := by
  induction queue with
  | nil => exact second
  | cons cmd rest inductionHypothesis =>
    rw [List.cons_append, Fresh]
    rw [Fresh] at first
    split
    · rename_i same
      rwa [if_pos same] at first
    · rename_i other
      rw [if_neg other] at first
      exact inductionHypothesis first

theorem of_activations {before after : List DRAMCommand}
    (activations : ∀ prev ∈ before, prev.row = row → prev.commandType = .ACTIVATE)
    (fresh : Fresh row after) : Fresh row (before ++ after) := by
  refine append ?_ fresh
  induction before with
  | nil => trivial
  | cons cmd rest inductionHypothesis =>
    rw [Fresh]
    split
    · rename_i same
      exact activations cmd List.mem_cons_self same
    · exact inductionHypothesis fun prev member => activations prev (List.mem_cons_of_mem _ member)

/-- A command is taken out that is not an activation of the row. -/
theorem remove {before after : List DRAMCommand} {cmd : DRAMCommand}
    (fresh : Fresh row (before ++ cmd :: after))
    (kept : cmd.commandType = .ACTIVATE → cmd.row ≠ row) : Fresh row (before ++ after) := by
  induction before with
  | nil =>
    rw [List.nil_append, Fresh] at fresh
    split at fresh
    · rename_i same
      exact absurd same (kept fresh)
    · exact fresh
  | cons head rest inductionHypothesis =>
    rw [List.cons_append, Fresh] at fresh ⊢
    split
    · rename_i same
      rwa [if_pos same] at fresh
    · rename_i other
      rw [if_neg other] at fresh
      exact inductionHypothesis fresh

end Fresh

namespace Apart

theorem append {queue more : List DRAMCommand} (first : Apart queue) (second : Apart more)
    (fresh : ∀ row, Fresh row more) : Apart (queue ++ more) := by
  induction queue with
  | nil => exact second
  | cons cmd rest inductionHypothesis =>
    exact ⟨fun column isLast => (first.1 column isLast).append (fresh _),
      inductionHypothesis first.2⟩

/-- Commands before the last one of their request. -/
theorem of_early {early : List DRAMCommand} {last : DRAMCommand}
    (notLast : ∀ cmd ∈ early, cmd.lastCMD = false) : Apart (early ++ [last]) := by
  induction early with
  | nil => exact ⟨fun _ _ => trivial, trivial⟩
  | cons cmd early inductionHypothesis =>
    refine ⟨fun _ isLast => ?_, inductionHypothesis fun other member =>
      notLast other (List.mem_cons_of_mem _ member)⟩
    rw [notLast cmd List.mem_cons_self] at isLast
    cases isLast

theorem fresh {before after : List DRAMCommand} {cmd : DRAMCommand}
    (apart : Apart (before ++ cmd :: after)) (column : cmd.commandType ≠ .ACTIVATE)
    (isLast : cmd.lastCMD = true) : Fresh cmd.row after := by
  induction before with
  | nil => exact apart.1 column isLast
  | cons head rest inductionHypothesis => exact inductionHypothesis apart.2

/-- A command is taken out that overtakes none to its row. -/
theorem remove {before after : List DRAMCommand} {cmd : DRAMCommand}
    (apart : Apart (before ++ cmd :: after))
    (independent : ∀ prev ∈ before, prev.row = cmd.row → prev.commandType = .ACTIVATE) :
    Apart (before ++ after) := by
  induction before with
  | nil => exact apart.2
  | cons head rest inductionHypothesis =>
    refine ⟨fun column isLast => (apart.1 column isLast).remove fun _ same => ?_,
      inductionHypothesis apart.2 fun prev member =>
        independent prev (List.mem_cons_of_mem _ member)⟩
    -- the head is a column, so the command that is taken is not for its row
    exact column (independent head List.mem_cons_self same.symm)

end Apart

namespace Headed

theorem append {queue more : List DRAMCommand} (first : Headed queue) (second : Headed more) :
    Headed (queue ++ more) where
  chain := List.isChain_append.mpr ⟨first.chain, second.chain, fun cmd isLast _ _ activates =>
    absurd activates (first.last cmd isLast)⟩
  last cmd isLast := by
    rw [List.getLast?_append] at isLast
    cases after : more.getLast? with
    | none =>
      rw [after] at isLast
      exact first.last cmd isLast
    | some last =>
      rw [after] at isLast
      exact second.last cmd (after.trans isLast)

/-- Columns without an activation. -/
theorem of_columns {queue : List DRAMCommand}
    (columns : ∀ cmd ∈ queue, cmd.commandType ≠ .ACTIVATE) : Headed queue where
  chain := by
    induction queue with
    | nil => exact .nil
    | cons cmd rest inductionHypothesis =>
      refine List.isChain_cons.mpr ⟨fun _ _ activates =>
        absurd activates (columns cmd List.mem_cons_self), inductionHypothesis fun other member =>
          columns other (List.mem_cons_of_mem _ member)⟩
  last cmd isLast := columns cmd (List.mem_of_getLast? isLast)

/-- An activation, its first command and more commands. -/
theorem of_activation {act : DRAMCommand} {cols : List DRAMCommand}
    (columns : ∀ cmd ∈ cols, cmd.commandType ≠ .ACTIVATE ∧ cmd.row = act.row) (some : cols ≠ []) :
    Headed (act :: cols) where
  chain := by
    have headed := of_columns fun cmd member => (columns cmd member).1
    refine List.isChain_cons.mpr ⟨fun cmd isHead _ => columns cmd (List.mem_of_head? isHead),
      headed.chain⟩
  last cmd isLast := by
    rw [List.getLast?_cons_of_ne_nil some] at isLast
    exact (columns cmd (List.mem_of_getLast? isLast)).1

/-- What is right behind an activation. -/
theorem follows {before after : List DRAMCommand} {act : DRAMCommand}
    (headed : Headed (before ++ act :: after)) (isActivate : act.commandType = .ACTIVATE) :
    ∃ cmd rest, after = cmd :: rest ∧ cmd.commandType ≠ .ACTIVATE ∧ cmd.row = act.row := by
  cases after with
  | nil =>
    refine absurd isActivate (headed.last act ?_)
    simp
  | cons cmd rest =>
    have chain := (List.isChain_append.mp headed.chain).2.1
    have follows := (List.isChain_cons.mp chain).1 cmd rfl isActivate
    exact ⟨cmd, rest, rfl, follows⟩

/-- A command is taken out that is not right behind an activation. -/
theorem remove {before after : List DRAMCommand} {cmd : DRAMCommand}
    (headed : Headed (before ++ cmd :: after))
    (notBehind : ∀ prev ∈ before.getLast?, prev.commandType ≠ .ACTIVATE) :
    Headed (before ++ after) where
  chain := by
    obtain ⟨first, second, -⟩ := List.isChain_append.mp headed.chain
    refine List.isChain_append.mpr ⟨first, (List.isChain_cons.mp second).2, ?_⟩
    exact fun prev isLast _ _ activates => absurd activates (notBehind prev isLast)
  last other isLast := by
    cases after with
    | nil =>
      rw [List.append_nil] at isLast
      exact notBehind other isLast
    | cons head rest =>
      refine headed.last other ?_
      rw [List.getLast?_append_cons] at isLast ⊢
      exact isLast

end Headed

namespace Taken

variable {cmd : DRAMCommand} {queue rest : List DRAMCommand}

theorem front (cmd : DRAMCommand) (rest : List DRAMCommand) : Taken cmd (cmd :: rest) rest := by
  rw [← List.nil_append (cmd :: rest), ← List.nil_append rest]
  exact .alone (fun _ member => by cases member) fun _ member => by cases member

theorem mem (taken : Taken cmd queue rest) : cmd ∈ queue := by
  cases taken with
  | alone => simp
  | withActivation => simp

theorem sublist (taken : Taken cmd queue rest) : rest.Sublist queue := by
  cases taken with
  | alone => exact (List.sublist_cons_self _ _).append_left _
  | withActivation => exact ((List.sublist_cons_self _ _).cons _).append_left _

theorem shorter (taken : Taken cmd queue rest) : rest.length < queue.length := by
  cases taken with
  | alone =>
    rw [List.length_append, List.length_append, List.length_cons]
    omega
  | withActivation =>
    rw [List.length_append, List.length_append, List.length_cons, List.length_cons]
    omega

theorem headed (taken : Taken cmd queue rest) (headed : Headed queue) : Headed rest := by
  cases taken with
  | @alone before after independent last =>
    refine headed.remove fun prev isLast activates => ?_
    -- the activation right before a command is for its row
    have link := (List.isChain_append.mp headed.chain).2.2 prev isLast cmd rfl activates
    exact last prev isLast link.2.symm activates
  | @withActivation before after act isActivate independent =>
    have notBehind : ∀ prev ∈ before.getLast?, prev.commandType ≠ .ACTIVATE := fun prev isLast
        activates => ((List.isChain_append.mp headed.chain).2.2 prev isLast act rfl activates).1
      isActivate
    exact (headed.remove notBehind).remove notBehind

theorem apart (taken : Taken cmd queue rest) (headed : Headed queue) (apart : Apart queue) :
    Apart rest := by
  cases taken with
  | alone independent => exact apart.remove independent
  | @withActivation before after act isActivate independent =>
    obtain ⟨_, _, same, -, row⟩ := headed.follows isActivate
    obtain ⟨rfl, rfl⟩ := List.cons.inj same
    -- the activation goes first, then the command behind it
    have without : Apart (before ++ cmd :: after) := apart.remove (row ▸ independent)
    exact without.remove independent

/-- Behind the last command of a request its row is activated again. -/
theorem fresh (taken : Taken cmd queue rest) (apart : Apart queue)
    (column : cmd.commandType ≠ .ACTIVATE) (isLast : cmd.lastCMD = true) : Fresh cmd.row rest := by
  cases taken with
  | alone independent => exact .of_activations independent (apart.fresh column isLast)
  | @withActivation before after act isActivate independent =>
    rw [← List.singleton_append, ← List.append_assoc] at apart
    exact .of_activations independent (apart.fresh column isLast)

/-- An activation leaves its request in the queue. -/
theorem rest_ne_nil (taken : Taken cmd queue rest) (headed : Headed queue)
    (isActivate : cmd.commandType = .ACTIVATE) : rest ≠ [] := by
  cases taken with
  | alone =>
    obtain ⟨next, more, rfl, -⟩ := headed.follows isActivate
    simp
  | withActivation isAct =>
    obtain ⟨_, _, same, column, -⟩ := headed.follows isAct
    obtain ⟨rfl, rfl⟩ := List.cons.inj same
    exact absurd isActivate column

end Taken

end ActiveRouting

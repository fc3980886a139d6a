import ActiveRouting.Vault.BankPhase
import ActiveRouting.Vault.BankStages

/-!
# Close-page banks

Under the close-page policy the phases describe the banks: every open row has a command on its way
that closes it.
-/

namespace ActiveRouting

open DRAMCommand CommandQueue

/-- What the policy relies on. -/
structure ClosePage (c : DRAMConfig) : Prop extends PerBank c where
  close : c.openPage = false

/-- The configuration of `DRAMConfig.h`. -/
theorem closePage_default : ClosePage {} := ⟨⟨rfl, by decide, by decide, by decide⟩, rfl⟩

namespace VaultController

variable {eqs : Prop} {c : DRAMConfig} {v v' : VaultController}

/-- The phases survive what happens to a bank. -/
theorem closePage_rules (close : ClosePage c) (eqs : Prop) :
    BankRules c (Asks eqs) (Phase eqs c) where
  start := Phase.start
  sameRow same phase := phase.of_sameRow same
  receive bus bank phase := phase.receive_own close.wide bus bank
  refresh closed bus phase := phase.refresh closed bus
  update phase := phase.update
  enqueue asked isKind bank phase := by
    subst bank
    exact phase.enqueue (commands_group asked isKind close.close)
  powerDown idle empty phase := phase.powerDown idle empty
  powerUp closed bus phase := phase.powerUp closed bus
  writeBack pending _ locks behind phase := phase.writeBack close.close pending locks behind
  forget pending ordinary phase := phase.forget pending ordinary
  quiet down phase := phase.poweredDown down
  unlocked closed bus phase := phase.unlocked closed bus
  free idle empty phase := phase.free idle empty
  held phase := phase.held_le
  isOpen member phase := phase.open_of_held member

theorem Middle.lanes (close : ClosePage c) (middle : Middle c (Asks eqs) (Phase eqs c) v)
    (free : v.cmdBus = none) : Lanes eqs c v.commandQueue v.view where
  close := close.close
  perBank := close.perBank
  issued := middle.issued
  lane b inBanks := (middle.phase b inBanks).lane (work_free free b)

/-- The front of a queue leaves it. -/
theorem Middle.leaves (close : ClosePage c) (middle : Middle c (Asks eqs) (Phase eqs c) v)
    (free : v.cmdBus = none) {b : ℕ} {q : CommandQueue} {cmd : DRAMCommand}
    (front : Front c v.commandQueue v.view b q cmd) : Leaves c v.commandQueue v.view b q cmd where
  inBanks := front.inBanks
  bank := front.bank
  shorter := by
    rw [front.isFront]
    exact Nat.lt_succ_self _
  others := front.others
  finds := front.finds
  notRefresh := by
    intro isRefresh
    cases ((middle.lanes close free).lane b front.inBanks).kind front.isFront with
    | inl activate =>
      rw [isRefresh] at activate
      cases activate
    | inr column =>
      rw [isRefresh] at column
      cases column with
      | inl isRead => cases isRead
      | inr isWrite => cases isWrite
  lock := front.lock
  due := front.due
  issued := front.issued

theorem popCommand_middle (close : ClosePage c) (eqs : Prop) :
    PopKeeps c (Asks eqs) (Phase eqs c) := by
  intro v v' middle free popped
  obtain ⟨⟨q, taken⟩, isTaken, popped⟩ := Outcome.bind_eq_ok.mp popped
  cases cmdPop_served (middle.lanes close free) isTaken with
  | nothing same =>
    obtain rfl := Outcome.pure_eq_ok.mp popped
    exact middle.untouched free same
  | front b front =>
    simp only [if_pos free] at popped
    obtain rfl := Outcome.pure_eq_ok.mp popped
    refine middle.issue (closePage_rules close eqs) free (middle.leaves close free front) ?_
    obtain rfl := front.bank
    exact (middle.phase _ front.inBanks).pop (work_free free _) front.isFront rfl rfl front.finds
  | refresh same _ closed =>
    simp only [if_pos free] at popped
    obtain rfl := Outcome.pure_eq_ok.mp popped
    exact middle.refresh close.toPerBank free same closed

theorem run_closePage (close : ClosePage c)
    {guard : VaultController → Action → VaultController → Prop}
    (offers : ∀ v packet v', guard v (.offer packet) v' → Asks eqs packet) {id : ℕ}
    {actions : List Action} (run : Transition.Run (step c) guard (start c id) actions v) :
    Closing c (Asks eqs) (Phase eqs c) v :=
  run_closing close.toPerBank (closePage_rules close eqs) (popCommand_middle close eqs) offers run

/-- The state between two cycles, where no comparison is asked for. -/
abbrev CloseState (c : DRAMConfig) : VaultController → Prop :=
  Closing c (Asks False) (Phase False c)

end VaultController

end ActiveRouting

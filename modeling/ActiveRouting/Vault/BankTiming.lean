import ActiveRouting.Vault.Scheduling

/-!
# The times of a bank

Each bank keeps the times from which on it may be activated, read, written,
precharged and powered up.  Here is what the commands do to them.
-/

namespace ActiveRouting

namespace BankState

variable {c : DRAMConfig}

/-- No next-allowed time of a bank has moved backwards. -/
structure Later (s s' : BankState) : Prop where
  nextActivate : s.nextActivate ≤ s'.nextActivate
  nextRead : s.nextRead ≤ s'.nextRead
  nextWrite : s.nextWrite ≤ s'.nextWrite
  nextPrecharge : s.nextPrecharge ≤ s'.nextPrecharge
  nextPowerUp : s.nextPowerUp ≤ s'.nextPowerUp

theorem Later.refl (s : BankState) : Later s s :=
  ⟨le_refl _, le_refl _, le_refl _, le_refl _, le_refl _⟩

theorem Later.trans {s s' s'' : BankState} (first : Later s s') (second : Later s' s'') :
    Later s s'' where
  nextActivate := first.nextActivate.trans second.nextActivate
  nextRead := first.nextRead.trans second.nextRead
  nextWrite := first.nextWrite.trans second.nextWrite
  nextPrecharge := first.nextPrecharge.trans second.nextPrecharge
  nextPowerUp := first.nextPowerUp.trans second.nextPowerUp

theorem someRead_later (now : ℕ) (s : BankState) : Later s (s.someRead c now) where
  nextActivate := le_refl _
  nextRead := le_max_right _ _
  nextWrite := le_max_right _ _
  nextPrecharge := le_refl _
  nextPowerUp := le_refl _

theorem someWritten_later (now : ℕ) (s : BankState) : Later s (s.someWritten c now) where
  nextActivate := le_refl _
  nextRead := le_max_right _ _
  nextWrite := le_max_right _ _
  nextPrecharge := le_refl _
  nextPowerUp := le_refl _

theorem otherActivated_later (now : ℕ) (s : BankState) : Later s (s.otherActivated c now) where
  nextActivate := le_max_right _ _
  nextRead := le_refl _
  nextWrite := le_refl _
  nextPrecharge := le_refl _
  nextPowerUp := le_refl _

theorem activate_later (now row : ℕ) (s : BankState) : Later s (s.activate c now row) where
  nextActivate := le_max_right _ _
  nextRead := le_max_right _ _
  nextWrite := le_max_right _ _
  nextPrecharge := le_max_right _ _
  nextPowerUp := le_refl _

theorem read_later (now : ℕ) (s : BankState) : Later s (s.read c now) :=
  { someRead_later (c := c) now s with nextPrecharge := le_max_right _ _ }

theorem write_later (now : ℕ) (s : BankState) : Later s (s.write c now) :=
  { someWritten_later (c := c) now s with nextPrecharge := le_max_right _ _ }

theorem precharge_later (now : ℕ) (s : BankState) : Later s (s.precharge c now) where
  nextActivate := le_max_right _ _
  nextRead := le_refl _
  nextWrite := le_refl _
  nextPrecharge := le_refl _
  nextPowerUp := le_refl _

/-- The time of the next activation after a read that closes its row. -/
def afterReadP (c : DRAMConfig) (now : ℕ) (s : BankState) : ℕ :=
  max (now + c.READ_AUTOPRE_DELAY) s.nextActivate

def afterWriteP (c : DRAMConfig) (now : ℕ) (s : BankState) : ℕ :=
  max (now + c.WRITE_AUTOPRE_DELAY) s.nextActivate

/-- A read that closes its row assigns the time of the next activation to the two
    column times. -/
theorem readP_later {now : ℕ} {s : BankState} (read : s.nextRead ≤ afterReadP c now s)
    (write : s.nextWrite ≤ afterReadP c now s) : Later s (s.readP c now) where
  nextActivate := le_max_right _ _
  nextRead := read
  nextWrite := write
  nextPrecharge := le_refl _
  nextPowerUp := le_refl _

theorem writeP_later {now : ℕ} {s : BankState} (read : s.nextRead ≤ afterWriteP c now s)
    (write : s.nextWrite ≤ afterWriteP c now s) : Later s (s.writeP c now) where
  nextActivate := le_max_right _ _
  nextRead := read
  nextWrite := write
  nextPrecharge := le_refl _
  nextPowerUp := le_refl _

theorem refresh_later {now : ℕ} {s : BankState} (due : s.nextActivate ≤ now) :
    Later s (s.refresh c now) where
  nextActivate := due.trans (Nat.le_add_right now c.tRFC)
  nextRead := le_refl _
  nextWrite := le_refl _
  nextPrecharge := le_refl _
  nextPowerUp := le_refl _

theorem powerDown_later {now : ℕ} {s : BankState} (before : s.nextPowerUp ≤ now + c.tCKE) :
    Later s (s.powerDown c now) where
  nextActivate := le_refl _
  nextRead := le_refl _
  nextWrite := le_refl _
  nextPrecharge := le_refl _
  nextPowerUp := before

/-- Powering up assigns the time of the next activation. -/
theorem powerUp_later {now : ℕ} {s : BankState} (before : s.nextActivate ≤ now + c.tXP) :
    Later s (s.powerUp c now) where
  nextActivate := before
  nextRead := le_refl _
  nextWrite := le_refl _
  nextPrecharge := le_refl _
  nextPowerUp := le_refl _

/-- A cycle changes no time. -/
theorem update_later (s : BankState) : Later s (s.update c) := by
  unfold update
  split
  · cases s.lastCommand <;> exact ⟨le_refl _, le_refl _, le_refl _, le_refl _, le_refl _⟩
  · exact ⟨le_refl _, le_refl _, le_refl _, le_refl _, le_refl _⟩

theorem update_times (s : BankState) : (s.update c).nextActivate = s.nextActivate ∧
    (s.update c).nextRead = s.nextRead ∧ (s.update c).nextWrite = s.nextWrite := by
  unfold update
  split
  · cases s.lastCommand <;> exact ⟨rfl, rfl, rfl⟩
  · exact ⟨rfl, rfl, rfl⟩

/-- The column times of a bank do not exceed the time that a command of the two
    closing types assigns to them. -/
def InTime (c : DRAMConfig) (now : ℕ) (cmd : DRAMCommand) (s : BankState) : Prop :=
  (cmd.commandType = .READ_P →
    s.nextRead ≤ afterReadP c now s ∧ s.nextWrite ≤ afterReadP c now s) ∧
  (cmd.commandType = .WRITE_P →
    s.nextRead ≤ afterWriteP c now s ∧ s.nextWrite ≤ afterWriteP c now s)

instance (now : ℕ) (cmd : DRAMCommand) (s : BankState) : Decidable (InTime c now cmd s) := by
  unfold InTime
  infer_instance

/-- A command moves no time backwards. -/
theorem receive_later {now b : ℕ} {cmd : DRAMCommand} {s : BankState}
    (inTime : b = cmd.bank → InTime c now cmd s)
    (refreshed : cmd.commandType = .REFRESH → s.nextActivate ≤ now) :
    Later s (s.receive c now cmd b) := by
  unfold receive
  cases isType : cmd.commandType with
  | ACTIVATE =>
    simp only
    split
    · exact activate_later now cmd.row s
    · exact otherActivated_later now s
  | READ =>
    simp only
    split
    · exact read_later now s
    · exact someRead_later now s
  | READ_P =>
    simp only
    split
    · rename_i own
      have times := (inTime own).1 isType
      exact readP_later times.1 times.2
    · exact someRead_later now s
  | WRITE =>
    simp only
    split
    · exact write_later now s
    · exact someWritten_later now s
  | WRITE_P =>
    simp only
    split
    · rename_i own
      have times := (inTime own).2 isType
      exact writeP_later times.1 times.2
    · exact someWritten_later now s
  | PRECHARGE =>
    simp only
    split
    · exact precharge_later now s
    · exact .refl s
  | REFRESH => exact refresh_later (refreshed isType)
  | READ_DATA | WRITE_DATA | POWERDOWN_ENTRY | POWERDOWN_EXIT => exact .refl s

/-! ## The states of a bank -/

/-- The commands after whose countdown a bank is idle. -/
def settles : DRAMCommandType → Bool
  | .REFRESH | .PRECHARGE | .POWERDOWN_EXIT => true
  | _ => false

/-- The state of a bank and its countdown agree. -/
structure Sound (c : DRAMConfig) (now : ℕ) (s : BankState) : Prop where
  refreshing : s.currentBankState = .REFRESHING →
    s.lastCommand = .REFRESH ∧ 0 < s.stateChangeCountdown ∧
      now + s.stateChangeCountdown ≤ s.nextActivate
  quiet : s.currentBankState = .IDLE ∨ s.currentBankState = .POWERDOWN →
    s.stateChangeCountdown = 0
  opened : s.currentBankState = .ROW_ACTIVE → settles s.lastCommand = false
  powerUp : s.nextPowerUp ≤ now + c.tCKE

/-- What a command finds at the bank that it is for: a row that was open when it
    was issued may have begun to close. -/
def Meets (cmd : DRAMCommand) (s : BankState) : Prop :=
  if cmd.commandType = .ACTIVATE ∨ cmd.commandType = .REFRESH then s.currentBankState = .IDLE
  else s.currentBankState = .ROW_ACTIVE ∨ s.currentBankState = .PRECHARGING

/-- A bank whose state and countdown do not change stays sound. -/
theorem Sound.of_times {now : ℕ} {s s' : BankState} (sound : Sound c now s)
    (state : s'.currentBankState = s.currentBankState) (last : s'.lastCommand = s.lastCommand)
    (countdown : s'.stateChangeCountdown = s.stateChangeCountdown)
    (activate : s.nextActivate ≤ s'.nextActivate) (powerUp : s'.nextPowerUp = s.nextPowerUp) :
    Sound c now s' where
  refreshing isState := by
    rw [state] at isState
    rw [last, countdown]
    obtain ⟨isRefresh, positive, before⟩ := sound.refreshing isState
    exact ⟨isRefresh, positive, before.trans activate⟩
  quiet isState := by
    rw [state] at isState
    rw [countdown]
    exact sound.quiet isState
  opened isState := by
    rw [state] at isState
    rw [last]
    exact sound.opened isState
  powerUp := powerUp ▸ sound.powerUp

/-- A bank that is open or closing is sound whatever its countdown. -/
theorem Sound.of_open {now : ℕ} {s : BankState}
    (state : s.currentBankState = .ROW_ACTIVE ∨ s.currentBankState = .PRECHARGING)
    (opened : s.currentBankState = .ROW_ACTIVE → settles s.lastCommand = false)
    (powerUp : s.nextPowerUp ≤ now + c.tCKE) : Sound c now s where
  refreshing isState := by
    rw [isState] at state
    cases state with
    | inl state => cases state
    | inr state => cases state
  quiet isState := by
    cases state with
    | inl state => rw [state] at isState; cases isState with
      | inl isState => cases isState
      | inr isState => cases isState
    | inr state => rw [state] at isState; cases isState with
      | inl isState => cases isState
      | inr isState => cases isState
  opened := opened
  powerUp := powerUp

theorem receive_sound {now b : ℕ} {cmd : DRAMCommand} {s : BankState} (sound : Sound c now s)
    (meets : b = cmd.bank ∨ cmd.commandType = .REFRESH → Meets cmd s) :
    Sound c now (s.receive c now cmd b) := by
  unfold receive
  unfold Meets at meets
  cases isType : cmd.commandType with
  | ACTIVATE =>
    simp only
    split
    · exact .of_open (.inl rfl) (fun _ => rfl) sound.powerUp
    · exact sound.of_times rfl rfl rfl (le_max_right _ _) rfl
  | READ =>
    simp only
    split
    · rename_i own
      rw [if_neg (by rw [isType]; decide)] at meets
      exact .of_open (meets (.inl own)) (fun _ => rfl) sound.powerUp
    · exact sound.of_times rfl rfl rfl (le_refl _) rfl
  | READ_P =>
    simp only
    split
    · rename_i own
      rw [if_neg (by rw [isType]; decide)] at meets
      exact .of_open (meets (.inl own)) (fun _ => rfl) sound.powerUp
    · exact sound.of_times rfl rfl rfl (le_refl _) rfl
  | WRITE =>
    simp only
    split
    · rename_i own
      rw [if_neg (by rw [isType]; decide)] at meets
      exact .of_open (meets (.inl own)) (fun _ => rfl) sound.powerUp
    · exact sound.of_times rfl rfl rfl (le_refl _) rfl
  | WRITE_P =>
    simp only
    split
    · rename_i own
      rw [if_neg (by rw [isType]; decide)] at meets
      exact .of_open (meets (.inl own)) (fun _ => rfl) sound.powerUp
    · exact sound.of_times rfl rfl rfl (le_refl _) rfl
  | PRECHARGE =>
    simp only
    split
    · exact .of_open (.inr rfl) (fun isOpen => (nomatch isOpen)) sound.powerUp
    · exact sound
  | REFRESH =>
    exact {
      refreshing := fun _ => ⟨rfl, c.tRFC_pos, le_refl _⟩
      quiet := fun isState => by cases isState with
        | inl isState => cases isState
        | inr isState => cases isState
      opened := fun isState => (nomatch isState)
      powerUp := sound.powerUp }
  | READ_DATA | WRITE_DATA | POWERDOWN_ENTRY | POWERDOWN_EXIT => exact sound

theorem powerDown_sound {now : ℕ} {s : BankState} (sound : Sound c now s)
    (idle : s.currentBankState = .IDLE) : Sound c now (s.powerDown c now) where
  refreshing isState := nomatch isState
  quiet _ := sound.quiet (.inl idle)
  opened isState := nomatch isState
  powerUp := le_refl _

theorem powerUp_sound {now : ℕ} {s : BankState} (sound : Sound c now s) :
    Sound c now (s.powerUp c now) where
  refreshing isState := nomatch isState
  quiet isState := by cases isState with
    | inl isState => cases isState
    | inr isState => cases isState
  opened isState := nomatch isState
  powerUp := sound.powerUp

/-- What a cycle does to a bank. -/
inductive Updated (s : BankState) : BankState → Prop where
  | close (due : s.stateChangeCountdown = 1)
      (closing : s.lastCommand = .READ_P ∨ s.lastCommand = .WRITE_P) :
      Updated s (s.startPrecharging c)
  | settle (due : s.stateChangeCountdown = 1) (settling : settles s.lastCommand = true) :
      Updated s s.becomeIdle
  | count (busy : settles s.lastCommand = true → s.stateChangeCountdown ≠ 1) :
      Updated s s.countDown

theorem update_cases (s : BankState) : Updated (c := c) s (s.update c) := by
  unfold update
  split
  · rename_i due
    cases last : s.lastCommand with
    | READ_P => exact .close due (.inl last)
    | WRITE_P => exact .close due (.inr last)
    | REFRESH | PRECHARGE | POWERDOWN_EXIT => exact .settle due (by rw [last]; rfl)
    | ACTIVATE | READ | WRITE | READ_DATA | WRITE_DATA | POWERDOWN_ENTRY =>
      exact .count (by rw [last]; exact fun settling => (nomatch settling))
  · rename_i notDue
    exact .count fun _ => notDue

theorem update_sound {now : ℕ} {s : BankState} (sound : Sound c now s) :
    Sound c (now + 1) (s.update c) := by
  have powerUp : s.nextPowerUp ≤ now + 1 + c.tCKE := by
    have := sound.powerUp
    omega
  have updated := update_cases (c := c) s
  generalize s.update c = s' at updated
  cases updated with
  | close => exact .of_open (.inr rfl) (fun isOpen => (nomatch isOpen)) powerUp
  | settle =>
    exact {
      refreshing := fun isState => (nomatch isState)
      quiet := fun _ => rfl
      opened := fun isState => (nomatch isState)
      powerUp := powerUp }
  | count busy =>
    exact {
      refreshing := fun isState => by
        obtain ⟨last, positive, before⟩ := sound.refreshing isState
        have notDue := busy (by rw [last]; rfl)
        refine ⟨last, ?_, ?_⟩
        · show 0 < s.stateChangeCountdown - 1
          omega
        · show now + 1 + (s.stateChangeCountdown - 1) ≤ s.nextActivate
          omega
      quiet := fun isState => by
        show s.stateChangeCountdown - 1 = 0
        rw [sound.quiet isState]
      opened := sound.opened
      powerUp := powerUp }

/-- A cycle neither wakes a bank nor puts it to sleep, and an open row stays open
    or begins to close. -/
theorem update_state {now : ℕ} {s : BankState} (sound : Sound c now s) :
    (s.currentBankState = .IDLE → (s.update c).currentBankState = .IDLE) ∧
      (s.currentBankState = .POWERDOWN ↔ (s.update c).currentBankState = .POWERDOWN) ∧
      (s.currentBankState = .ROW_ACTIVE →
        (s.update c).currentBankState = .ROW_ACTIVE ∨
          (s.update c).currentBankState = .PRECHARGING) := by
  have updated := update_cases (c := c) s
  generalize s.update c = s' at updated
  cases updated with
  | close due =>
    have busy : ¬ (s.currentBankState = .IDLE ∨ s.currentBankState = .POWERDOWN) := fun quiet => by
      have := sound.quiet quiet
      omega
    rw [not_or] at busy
    exact ⟨fun idle => absurd idle busy.1, ⟨fun down => absurd down busy.2, fun h => (nomatch h)⟩,
      fun _ => .inr rfl⟩
  | settle due settling =>
    have busy : ¬ (s.currentBankState = .IDLE ∨ s.currentBankState = .POWERDOWN) := fun quiet => by
      have := sound.quiet quiet
      omega
    rw [not_or] at busy
    refine ⟨fun _ => rfl, ⟨fun down => absurd down busy.2, fun h => (nomatch h)⟩, fun isOpen => ?_⟩
    rw [sound.opened isOpen] at settling
    cases settling
  | count => exact ⟨id, Iff.rfl, .inl⟩

/-! ## Precharging -/

/-- The precharge of a bank that began at time `start` is over, or the bank is
    still in it. -/
def Precharged (c : DRAMConfig) (now start : ℕ) (s : BankState) : Prop :=
  start + c.tRP ≤ now ∨
    (s.currentBankState = .PRECHARGING ∧ s.lastCommand ≠ .REFRESH ∧
      s.lastCommand ≠ .POWERDOWN_EXIT ∧
      (s.lastCommand = .PRECHARGE → start + c.tRP ≤ now + s.stateChangeCountdown))

/-- A bank that is not precharging has been precharged. -/
theorem Precharged.ended {now start : ℕ} {s : BankState} (precharged : Precharged c now start s)
    (state : s.currentBankState ≠ .PRECHARGING) : start + c.tRP ≤ now :=
  precharged.elim id fun precharging => absurd precharging.1 state

/-- A column command that comes when its row closes does not end the precharge. -/
theorem Precharged.of_column {now start : ℕ} {s s' : BankState}
    (precharged : Precharged c now start s) (state : s'.currentBankState = s.currentBankState)
    (last : settles s'.lastCommand = false) : Precharged c now start s' := by
  cases precharged with
  | inl ended => exact .inl ended
  | inr precharging =>
    refine .inr ⟨state.trans precharging.1, ?_, ?_, ?_⟩
    · exact fun isLast => by rw [isLast] at last; cases last
    · exact fun isLast => by rw [isLast] at last; cases last
    · exact fun isLast => by rw [isLast] at last; cases last

theorem Precharged.of_times {now start : ℕ} {s s' : BankState}
    (precharged : Precharged c now start s) (state : s'.currentBankState = s.currentBankState)
    (last : s'.lastCommand = s.lastCommand)
    (countdown : s'.stateChangeCountdown = s.stateChangeCountdown) :
    Precharged c now start s' := by
  unfold Precharged
  rw [state, last, countdown]
  exact precharged

theorem receive_precharged {now start b : ℕ} {cmd : DRAMCommand} {s : BankState}
    (precharged : Precharged c now start s) (before : start ≤ now)
    (meets : b = cmd.bank ∨ cmd.commandType = .REFRESH → Meets cmd s) :
    Precharged c now start (s.receive c now cmd b) := by
  unfold receive
  unfold Meets at meets
  cases isType : cmd.commandType with
  | ACTIVATE =>
    simp only
    split
    · rename_i own
      rw [if_pos (.inl isType)] at meets
      exact .inl (precharged.ended (by rw [meets (.inl own)]; decide))
    · exact precharged.of_times rfl rfl rfl
  | READ =>
    simp only
    split
    · exact precharged.of_column rfl rfl
    · exact precharged.of_times rfl rfl rfl
  | READ_P =>
    simp only
    split
    · exact precharged.of_column rfl rfl
    · exact precharged.of_times rfl rfl rfl
  | WRITE =>
    simp only
    split
    · exact precharged.of_column rfl rfl
    · exact precharged.of_times rfl rfl rfl
  | WRITE_P =>
    simp only
    split
    · exact precharged.of_column rfl rfl
    · exact precharged.of_times rfl rfl rfl
  | PRECHARGE =>
    simp only
    split
    · have : start + c.tRP ≤ now + c.tRP := by omega
      exact .inr ⟨rfl, (fun h => nomatch h), (fun h => nomatch h), fun _ => this⟩
    · exact precharged
  | REFRESH =>
    rw [if_pos (.inr isType)] at meets
    exact .inl (precharged.ended (by rw [meets (.inr isType)]; decide))
  | READ_DATA | WRITE_DATA | POWERDOWN_ENTRY | POWERDOWN_EXIT => exact precharged

theorem update_precharged {now start : ℕ} {s : BankState} (precharged : Precharged c now start s)
    (before : start ≤ now) : Precharged c (now + 1) start (s.update c) := by
  cases precharged with
  | inl ended => exact .inl (by omega)
  | inr precharging =>
    obtain ⟨state, notRefresh, notExit, left⟩ := precharging
    have updated := update_cases (c := c) s
    generalize s.update c = s' at updated
    cases updated with
    | close =>
      have : start + c.tRP ≤ now + 1 + c.tRP := by omega
      exact .inr ⟨rfl, (fun h => nomatch h), (fun h => nomatch h), fun _ => this⟩
    | settle due settling =>
      have isPrecharge : s.lastCommand = .PRECHARGE := by
        cases last : s.lastCommand <;> rw [last] at settling notRefresh notExit <;>
          first | rfl | exact absurd rfl notRefresh | exact absurd rfl notExit | cases settling
      have := left isPrecharge
      exact .inl (by omega)
    | count busy =>
      by_cases isPrecharge : s.lastCommand = .PRECHARGE
      · have left := left isPrecharge
        have notDue := busy (by rw [isPrecharge]; rfl)
        by_cases ended : start + c.tRP ≤ now + 1
        · exact .inl ended
        · refine .inr ⟨state, notRefresh, notExit, fun _ => ?_⟩
          show start + c.tRP ≤ now + 1 + (s.stateChangeCountdown - 1)
          omega
      · exact .inr ⟨state, notRefresh, notExit, fun isLast => absurd isLast isPrecharge⟩

end BankState

end ActiveRouting

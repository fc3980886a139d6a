import ActiveRouting.Vault.ReadTags

/-!
# A ledger of a vault

The requests that a vault has converted, the write backs that it has queued, the commands that it
has issued and the responses that have been taken, written down beside the vault itself.
-/

namespace ActiveRouting

open DRAMCommand CommandQueue

/-- A vault with the record of what has gone in and out. -/
structure VaultLedger where
  vault : VaultController
  requests : List Packet := []
  writeBacks : List DRAMCommand := []
  issued : List DRAMCommand := []
  responses : List Packet := []

namespace VaultLedger

open VaultController

variable (c : DRAMConfig)

/-- The write back that ends an atomic operation in this cycle. -/
def writesBack (v : VaultController) : List DRAMCommand :=
  (v.atomicCMD.toList.filter fun cmd => v.atomicOperLeft = 0 &&
    !(cmd.packetCMD = .EQ16 || cmd.packetCMD = .EQ8)).map (atmRstCMD c)

/-- The response that the crossbar switch takes. -/
def taken (v : VaultController) (accepts : Bool) : List Packet :=
  if accepts then v.upBuffers.head?.toList else []

/-- A cycle of the vault, written down stage by stage. -/
def cycle (s : VaultLedger) (accepts : Bool) : Except VaultError VaultLedger := do
  let counted ← s.vault.flushPcu.updateCountdown c
  let converted ← counted.convert c
  let popped ← (converted.sendUp accepts).popCommand c
  let operated ← popped.atomicOperation c
  let vault ← (operated.enablePowerdown c).countDelays.updateDram c
  pure {
    vault := vault
    requests := s.requests ++ counted.downBuffers.diff converted.downBuffers
    writeBacks := s.writeBacks ++ writesBack c popped
    issued := s.issued ++ popped.cmdBus.toList.filter requested
    responses := s.responses ++ taken converted accepts }

def step (s : VaultLedger) : Action → Except VaultError VaultLedger
  | .offer packet => pure { s with vault := (s.vault.receiveDown packet).getD s.vault }
  | .cycle accepts => s.cycle c accepts

def start (id : ℕ) : VaultLedger := { vault := VaultController.start c id }

variable {c}

/-- The vault of the ledger runs as the vault alone does. -/
theorem step_vault (s : VaultLedger) (action : Action) :
    (s.step c action).map vault = s.vault.step c action := by
  cases action with
  | offer packet => rfl
  | cycle accepts =>
    show (s.cycle c accepts).map vault = s.vault.cycle c accepts
    unfold cycle VaultController.cycle VaultController.update
    cases s.vault.flushPcu.updateCountdown c with
    | error e => rfl
    | ok counted =>
      simp only [Outcome.ok_bind]
      cases counted.convert c with
      | error e => rfl
      | ok converted =>
        simp only [Outcome.ok_bind]
        cases (converted.sendUp accepts).popCommand c with
        | error e => rfl
        | ok popped =>
          simp only [Outcome.ok_bind]
          cases popped.atomicOperation c with
          | error e => rfl
          | ok operated =>
            simp only [Outcome.ok_bind]
            show (Except.map _ (_ >>= _)) = (operated.enablePowerdown c).countDelays.updateDram c
            cases (operated.enablePowerdown c).countDelays.updateDram c with
            | error e => rfl
            | ok v => rfl

/-- The commands that a request is converted into. -/
def requestCommands (c : DRAMConfig) (packet : Packet) : List DRAMCommand :=
  match requestKind c packet.CMD with
  | none => []
  | some kind => commands c packet kind

/-! ## The stages -/

/-- The states that a vault passes through in a cycle. -/
structure Stages (c : DRAMConfig) (s s' : VaultLedger) (accepts : Bool)
    (counted converted popped operated : VaultController) : Prop where
  counts : s.vault.flushPcu.updateCountdown c = .ok counted
  converts : counted.convert c = .ok converted
  pops : (converted.sendUp accepts).popCommand c = .ok popped
  operates : popped.atomicOperation c = .ok operated
  returns : (operated.enablePowerdown c).countDelays.updateDram c = .ok s'.vault
  requests : s'.requests = s.requests ++ counted.downBuffers.diff converted.downBuffers
  writeBacks : s'.writeBacks = s.writeBacks ++ writesBack c popped
  issued : s'.issued = s.issued ++ popped.cmdBus.toList.filter requested
  responses : s'.responses = s.responses ++ taken converted accepts

theorem cycle_stages {s s' : VaultLedger} {accepts : Bool} (cycled : s.cycle c accepts = .ok s') :
    ∃ counted converted popped operated, Stages c s s' accepts counted converted popped operated := by
  obtain ⟨counted, counts, cycled⟩ := Outcome.bind_eq_ok.mp cycled
  obtain ⟨converted, converts, cycled⟩ := Outcome.bind_eq_ok.mp cycled
  obtain ⟨popped, pops, cycled⟩ := Outcome.bind_eq_ok.mp cycled
  obtain ⟨operated, operates, cycled⟩ := Outcome.bind_eq_ok.mp cycled
  obtain ⟨vault, returns, cycled⟩ := Outcome.bind_eq_ok.mp cycled
  obtain rfl := Outcome.pure_eq_ok.mp cycled
  exact ⟨counted, converted, popped, operated, counts, converts, pops, operates, returns, rfl, rfl,
    rfl, rfl⟩

/-- What is left when the packets that stay are taken away has been converted. -/
theorem diff_perm {packets gone kept : List Packet} (split : packets.Perm (gone ++ kept)) :
    (packets.diff kept).Perm gone := by
  rw [List.perm_iff_count] at split ⊢
  intro packet
  have := split packet
  rw [List.count_append] at this
  rw [List.count_diff]
  omega

/-- The conversion of packets, with the commands that it queues. -/
theorem convert_moves (banks : 0 < c.numBanks) {v v' : VaultController}
    (stored : Stored c v.commandQueue) (converted : v.convert c = .ok v') :
    ∃ gone : List (Packet × RequestKind),
      (∀ request ∈ gone, requestKind c request.1.CMD = some request.2) ∧
      (v.downBuffers.diff v'.downBuffers).Perm (gone.map Prod.fst) ∧
      (queued c v'.commandQueue).Perm
        ((gone.flatMap fun request => commands c request.1 request.2) ++
          queued c v.commandQueue) := by
  unfold convert at converted
  split at converted
  · obtain ⟨⟨v₁, kept⟩, isConverted, converted⟩ := Outcome.bind_eq_ok.mp converted
    obtain rfl := Outcome.pure_eq_ok.mp converted
    obtain ⟨gone, converts, split⟩ := convertPackets_converts isConverted
    exact ⟨gone, converts.isKind, diff_perm split, (converts.stored banks stored).2⟩
  · obtain rfl := Outcome.pure_eq_ok.mp converted
    refine ⟨[], (fun _ none => by cases none), diff_perm (.refl _), .refl _⟩

/-- The write back of the atomic that ends. -/
theorem atomicOperation_moves {v v' : VaultController} (tracked : Tracked c v)
    (operated : v.atomicOperation c = .ok v') :
    (queued c v'.commandQueue).Perm (writesBack c v ++ queued c v.commandQueue) := by
  unfold atomicOperation at operated
  cases atomic : v.atomicCMD with
  | none =>
    simp only [atomic] at operated
    obtain rfl := Outcome.pure_eq_ok.mp operated
    rw [writesBack, atomic]
    exact .refl _
  | some cmd =>
    simp only [atomic] at operated
    split at operated
    · rename_i ended
      obtain ⟨v₁, answered, operated⟩ := Outcome.bind_eq_ok.mp operated
      obtain rfl := Outcome.pure_eq_ok.mp operated
      show (queued c v₁.commandQueue).Perm _
      rw [(answerAtomic_aside answered).commandQueue, writesBack, atomic]
      unfold writeBack
      by_cases compares : cmd.packetCMD = .EQ16 ∨ cmd.packetCMD = .EQ8
      · rw [if_pos compares]
        cases compares with
        | inl isEQ16 => simp [ended, isEQ16]
        | inr isEQ8 => simp [ended, isEQ8]
      · rw [if_neg compares]
        have member : cmd ∈ v.reading := by
          rw [reading_eq, atomic]
          exact List.mem_append_left _ (List.mem_singleton_self cmd)
        have isWrite : (atmRstCMD c cmd).requested = true := by
          cases close : c.openPage <;>
            simp [atmRstCMD, close, requested, DRAMCommandType.isRead, DRAMCommandType.isWrite]
        have inBanks : (atmRstCMD c cmd).bank < c.numBanks := (tracked.reading cmd member).2.1
        have pushed := (tracked.stored.pushFront inBanks isWrite).2
        rw [not_or] at compares
        simp only [Option.toList_some, ended, compares.1, compares.2, decide_true, decide_false,
          Bool.or_false, Bool.not_false, Bool.and_true, List.filter_cons_of_pos, List.filter_nil,
          List.map_cons, List.map_nil, List.singleton_append]
        exact pushed
    · rename_i goesOn
      obtain rfl := Outcome.pure_eq_ok.mp operated
      simp only [writesBack, atomic, goesOn, decide_false, Bool.false_and]
      exact .refl _

/-- A command on the bus after `CmdPop` has just been taken from the queues, or made. -/
theorem popCommand_moves {v v' : VaultController} (tracked : Tracked c v) (free : v.cmdBus = none)
    (popped : v.popCommand c = .ok v') : ∃ dropped : List DRAMCommand,
      (∀ act ∈ dropped, act.commandType = .ACTIVATE ∧ c.openPage = true) ∧
        (queued c v.commandQueue).Perm
          (v'.cmdBus.toList.filter requested ++ dropped ++ queued c v'.commandQueue) := by
  obtain ⟨⟨q, popTaken⟩, isPopped, popped⟩ := Outcome.bind_eq_ok.mp popped
  obtain ⟨_, dropped, isDropped, moved⟩ := tracked.stored.cmdPop isPopped
  refine ⟨dropped, isDropped, ?_⟩
  cases popTaken with
  | none =>
    obtain rfl := Outcome.pure_eq_ok.mp popped
    show (queued c v.commandQueue).Perm (v.cmdBus.toList.filter requested ++ dropped ++ queued c q)
    rw [free]
    exact moved
  | some cmd =>
    simp only [free, if_true] at popped
    obtain rfl := Outcome.pure_eq_ok.mp popped
    exact moved

theorem enablePowerdown_queued (v : VaultController) :
    queued c (v.enablePowerdown c).countDelays.commandQueue = queued c v.commandQueue :=
  queued_of_queue (enablePowerdown_same v).queue

theorem flatMap_requestCommands {gone : List (Packet × RequestKind)}
    (isKind : ∀ request ∈ gone, requestKind c request.1.CMD = some request.2) :
    (gone.map Prod.fst).flatMap (requestCommands c) =
      gone.flatMap fun request => commands c request.1 request.2 := by
  rw [List.flatMap_map]
  refine List.flatMap_congr fun request member => ?_
  rw [requestCommands, isKind request member]

/-- Every command that has been queued has been issued or is still queued, and only once.  Under
    the open-page policy some activations have been dropped. -/
structure Balanced (c : DRAMConfig) (s : VaultLedger) : Prop where
  tracked : Tracked c s.vault
  commands : ∃ dropped : List DRAMCommand,
    (∀ act ∈ dropped, act.commandType = .ACTIVATE ∧ c.openPage = true) ∧
      (s.requests.flatMap (requestCommands c) ++ s.writeBacks).Perm
        (s.issued ++ dropped ++ queued c s.vault.commandQueue)

theorem cycle_balanced (banks : 0 < c.numBanks) {s s' : VaultLedger} (balanced : Balanced c s)
    {accepts : Bool} (cycled : s.cycle c accepts = .ok s') : Balanced c s' := by
  obtain ⟨tracked, dropped, isDropped, before⟩ := balanced
  obtain ⟨counted, converted, popped, operated, stages⟩ := cycle_stages cycled
  have flushed := flushPcu_aside s.vault
  obtain ⟨tracked₁, free₁⟩ := (updateCountdown_tracked
    ((SameReads.of_aside flushed).tracked tracked)).holds stages.counts
  have queued₁ : queued c counted.commandQueue = queued c s.vault.commandQueue := by
    rw [← flushed.commandQueue]
    cases updateCountdown_commandQueue stages.counts with
    | inl same => rw [same]
    | inr waits => rw [waits]; rfl
  obtain ⟨tracked₂, free₂⟩ := (convert_tracked banks tracked₁ free₁).holds stages.converts
  obtain ⟨gone, isKind, requests, moved₂⟩ := convert_moves banks tracked₁.stored stages.converts
  have sent := sendUp_aside converted accepts
  have tracked₂' := (SameReads.of_aside sent).tracked tracked₂
  have free₂' := sent.cmdBus.trans free₂
  have tracked₃ := (popCommand_tracked tracked₂' free₂').holds stages.pops
  obtain ⟨more, isMore, moved₃⟩ := popCommand_moves tracked₂' free₂' stages.pops
  rw [sent.commandQueue] at moved₃
  have tracked₄ := (atomicOperation_tracked tracked₃).holds stages.operates
  have moved₄ := atomicOperation_moves tracked₃ stages.operates
  have tracked₅ := (enablePowerdown_same (c := c) operated).tracked tracked₄
  have queued₅ : queued c s'.vault.commandQueue = queued c operated.commandQueue := by
    rw [updateDram_commandQueue stages.returns, enablePowerdown_queued]
  refine ⟨(updateDram_tracked tracked₅).holds stages.returns, dropped ++ more, ?_, ?_⟩
  · intro act member
    exact (List.mem_append.mp member).elim (isDropped act) (isMore act)
  · have asked : ((counted.downBuffers.diff converted.downBuffers).flatMap
        (requestCommands c)).Perm (gone.flatMap fun request => commands c request.1 request.2) :=
      (requests.flatMap_right _).trans (by rw [flatMap_requestCommands isKind])
    rw [stages.requests, stages.writeBacks, stages.issued, queued₅, List.flatMap_append]
    rw [queued₁] at moved₂
    rw [List.perm_iff_count] at before moved₂ moved₃ moved₄ asked ⊢
    intro cmd
    have before := before cmd
    have moved₂ := moved₂ cmd
    have moved₃ := moved₃ cmd
    have moved₄ := moved₄ cmd
    have asked := asked cmd
    simp only [List.count_append] at before moved₂ moved₃ moved₄ asked ⊢
    omega

theorem step_balanced (banks : 0 < c.numBanks) {s s' : VaultLedger} {action : Action}
    (balanced : Balanced c s) (stepped : s.step c action = .ok s')
    (acceptable : OffersAcceptable c s.vault action s'.vault) : Balanced c s' := by
  cases action with
  | offer packet =>
    obtain rfl := Outcome.pure_eq_ok.mp stepped
    have offered : s.vault.step c (.offer packet) =
        .ok ((s.vault.receiveDown packet).getD s.vault) := rfl
    refine ⟨step_tracked banks balanced.tracked offered acceptable, ?_⟩
    have same : ((s.vault.receiveDown packet).getD s.vault).commandQueue =
        s.vault.commandQueue := by
      unfold receiveDown
      split <;> rfl
    obtain ⟨dropped, isDropped, moved⟩ := balanced.commands
    refine ⟨dropped, isDropped, ?_⟩
    rw [show queued c _ = queued c s.vault.commandQueue from congrArg (queued c) same]
    exact moved
  | cycle accepts => exact cycle_balanced banks balanced stepped

/-- The guard of the vault, for its ledger. -/
def Offers (c : DRAMConfig) (s : VaultLedger) (action : Action) (s' : VaultLedger) : Prop :=
  OffersAcceptable c s.vault action s'.vault

instance (s : VaultLedger) (action : Action) (s' : VaultLedger) :
    Decidable (Offers c s action s') :=
  inferInstanceAs (Decidable (OffersAcceptable c s.vault action s'.vault))

theorem start_balanced (id : ℕ) : Balanced c (start c id) where
  tracked := start_tracked id
  commands := by
    refine ⟨[], (fun _ none => by cases none), ?_⟩
    have empty : queued c (start c id).vault.commandQueue = [] :=
      List.flatMap_eq_nil_iff.mpr fun _ _ => rfl
    rw [empty]
    exact .refl _

/-- In every run, the commands of the converted requests and the write backs of their atomics are
    those that have been issued and those that are still queued: under the close-page policy none
    is lost or issued twice, in either organisation of the queues, and under the open-page policy
    only activations are dropped. -/
theorem run_commands (banks : 0 < c.numBanks) {id : ℕ} {actions : List Action} {s : VaultLedger}
    (run : Transition.Run (step c) (Offers c) (start c id) actions s) :
    ∃ dropped : List DRAMCommand,
      (∀ act ∈ dropped, act.commandType = .ACTIVATE ∧ c.openPage = true) ∧
        (s.requests.flatMap (requestCommands c) ++ s.writeBacks).Perm
          (s.issued ++ dropped ++ queued c s.vault.commandQueue) := by
  have balanced : Balanced c s := run.invariant (start_balanced id) fun _ _ _ balanced =>
    step_balanced banks balanced
  exact balanced.commands

/-- A write and an atomic to the same bank. -/
def addAfterWrite (cycles : ℕ) : List Action :=
  [.offer { packetType := .REQUEST, CMD := .WR64, TAG := 1, reqDataSize := 64 },
    .offer { packetType := .REQUEST, CMD := .ADD16, TAG := 2, reqDataSize := 32 }] ++
      List.replicate cycles (.cycle true)

theorem run_commands_addAfterWrite : ∃ s,
    Transition.Run (step {}) (Offers {}) (start {} 0) (addAfterWrite 100) s ∧
      s.issued.length = 6 ∧
      ∃ dropped : List DRAMCommand,
        (∀ act ∈ dropped, act.commandType = .ACTIVATE ∧ DRAMConfig.openPage {} = true) ∧
          (s.requests.flatMap (requestCommands {}) ++ s.writeBacks).Perm
            (s.issued ++ dropped ++ queued {} s.vault.commandQueue) := by
  have executed : (Transition.execute (step {}) (Offers {}) (start {} 0)
      (addAfterWrite 100)).map (fun s => s.issued.length) = some 6 := by decide +kernel
  obtain ⟨s, executed, length⟩ := Option.map_eq_some_iff.mp executed
  have run := Transition.execute_run executed
  exact ⟨s, run, length, run_commands (by decide) run⟩

end VaultLedger

end ActiveRouting

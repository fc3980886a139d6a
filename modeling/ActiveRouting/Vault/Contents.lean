import ActiveRouting.Library.Bins
import ActiveRouting.Vault.QueueStages

/-!
# The contents of the command queue

What the queues of a vault hold together, in either organisation, and how the conversion of
packets, `CmdPop` and the write back of an atomic change it.
-/

namespace ActiveRouting

open DRAMCommand CommandQueue

/-- A command of a request, and none that the scheduler makes. -/
def DRAMCommand.requested (cmd : DRAMCommand) : Bool :=
  cmd.commandType = .ACTIVATE || cmd.commandType.isRead || cmd.commandType.isWrite

theorem DRAMCommand.not_requested {cmd : DRAMCommand}
    (made : cmd.commandType = .REFRESH ∨ cmd.commandType = .PRECHARGE) : cmd.requested = false := by
  cases made with
  | inl isType | inr isType => simp [requested, isType, DRAMCommandType.isRead,
      DRAMCommandType.isWrite]

namespace CommandQueue

variable (c : DRAMConfig)

/-- The commands of all queues. -/
def queued (q : CommandQueue) : List DRAMCommand := Bins.contents c.numBanks q.queue

/-- The queues of the vault hold commands of requests to its banks, and the others nothing. -/
structure Stored (q : CommandQueue) : Prop where
  outside : ∀ i, c.numBanks ≤ i → q.queue i = []
  inBanks : ∀ i, ∀ cmd ∈ q.queue i, cmd.bank < c.numBanks
  requested : ∀ i, ∀ cmd ∈ q.queue i, cmd.requested = true

variable {c} {q q' : CommandQueue} {b : ℕ} {cmd : DRAMCommand}

theorem index_lt (inBanks : b < c.numBanks) : index c b < c.numBanks := by
  unfold index
  split
  · exact inBanks
  · exact Nat.zero_lt_of_lt inBanks

theorem Stored.of_queue (stored : Stored c q) (same : q'.queue = q.queue) : Stored c q' where
  outside := same ▸ stored.outside
  inBanks := same ▸ stored.inBanks
  requested := same ▸ stored.requested

theorem queued_of_queue (same : q'.queue = q.queue) : queued c q' = queued c q := by
  rw [queued, queued, same]

/-- A queue that holds something is one of the vault. -/
theorem Stored.lt_of_mem (stored : Stored c q) {i : ℕ} (member : cmd ∈ q.queue i) :
    i < c.numBanks := by
  by_contra beyond
  rw [stored.outside i (not_lt.mp beyond)] at member
  cases member

/-- One queue holds other commands, which are for the banks of the vault. -/
theorem Stored.update (stored : Stored c q) {i : ℕ} {cmds : List DRAMCommand}
    (inRange : i < c.numBanks) (queue : q'.queue = Function.update q.queue i cmds)
    (fits : ∀ cmd ∈ cmds, cmd.bank < c.numBanks ∧ cmd.requested = true) : Stored c q' where
  outside j beyond := by
    rw [queue, Function.update_of_ne (by omega), stored.outside j beyond]
  inBanks j cmd member := by
    rw [queue] at member
    by_cases same : j = i
    · rw [same, Function.update_self] at member
      exact (fits cmd member).1
    · rw [Function.update_of_ne same] at member
      exact stored.inBanks j cmd member
  requested j cmd member := by
    rw [queue] at member
    by_cases same : j = i
    · rw [same, Function.update_self] at member
      exact (fits cmd member).2
    · rw [Function.update_of_ne same] at member
      exact stored.requested j cmd member

/-- What is taken out of a queue. -/
theorem queued_take {i : ℕ} {before taken after : List DRAMCommand} (inRange : i < c.numBanks)
    (split : q.queue i = before ++ taken ++ after)
    (rest : q'.queue = Function.update q.queue i (before ++ after)) :
    (queued c q).Perm (taken ++ queued c q') := by
  have moved := Bins.contents_update inRange q.queue (before ++ after)
  rw [← rest, split] at moved
  have front : (before ++ taken ++ after ++ queued c q').Perm
      ((before ++ after) ++ (taken ++ queued c q')) := by
    rw [List.perm_iff_count]
    intro other
    simp only [List.count_append]
    omega
  exact List.perm_append_left_iff _ |>.mp (moved.symm.trans front)

/-- What is put into a queue. -/
theorem queued_put {i : ℕ} {cmds added : List DRAMCommand} (inRange : i < c.numBanks)
    (put : q'.queue = Function.update q.queue i cmds) (isPut : cmds.Perm (added ++ q.queue i)) :
    (queued c q').Perm (added ++ queued c q) := by
  have moved := Bins.contents_update inRange q.queue cmds
  rw [← put] at moved
  have front : (cmds ++ queued c q).Perm (q.queue i ++ (added ++ queued c q)) := by
    refine (isPut.append_right _).trans ?_
    rw [List.perm_iff_count]
    intro other
    simp only [List.count_append]
    omega
  exact List.perm_append_left_iff _ |>.mp (moved.trans front)

/-! ## The scheduler -/

/-- A command leaves its queue, under the open-page policy together with an activation that has
    become needless. -/
theorem Stored.removed (stored : Stored c q) (removed : Removed c q q' cmd) :
    Stored c q' ∧ ∃ dropped : List DRAMCommand,
      (∀ act ∈ dropped, act.commandType = .ACTIVATE ∧ c.openPage = true) ∧
        (queued c q).Perm ([cmd].filter DRAMCommand.requested ++ dropped ++ queued c q') := by
  cases removed with
  | @alone b before after split rest =>
    have member : cmd ∈ q.queue (index c b) := by
      rw [show q.queue (index c b) = _ from split]
      simp
    have inRange := stored.lt_of_mem member
    have isSplit : q.queue (index c b) = before ++ [cmd] ++ after := by
      rw [show q.queue (index c b) = _ from split]
      simp
    refine ⟨stored.update inRange rest fun other inRest => ?_, [], (fun _ none => by cases none),
      ?_⟩
    · have inQueue : other ∈ q.queue (index c b) := by
        rw [isSplit]
        simp only [List.mem_append, List.mem_singleton] at inRest ⊢
        tauto
      exact ⟨stored.inBanks _ _ inQueue, stored.requested _ _ inQueue⟩
    · rw [List.append_nil, List.filter_cons_of_pos (stored.requested _ cmd member)]
      exact queued_take inRange isSplit rest
  | @withActivation b before after act isOpen isActivate split rest =>
    have member : cmd ∈ q.queue (index c b) := by
      rw [show q.queue (index c b) = _ from split]
      simp
    have inRange := stored.lt_of_mem member
    have isSplit : q.queue (index c b) = before ++ [act, cmd] ++ after := by
      rw [show q.queue (index c b) = _ from split]
      simp
    refine ⟨stored.update inRange rest fun other inRest => ?_, [act], ?_, ?_⟩
    · have inQueue : other ∈ q.queue (index c b) := by
        rw [isSplit]
        simp only [List.mem_append] at inRest ⊢
        tauto
      exact ⟨stored.inBanks _ _ inQueue, stored.requested _ _ inQueue⟩
    · intro other isAct
      exact List.mem_singleton.mp isAct ▸ ⟨isActivate, isOpen⟩
    · rw [List.filter_cons_of_pos (stored.requested _ cmd member)]
      refine (queued_take inRange isSplit rest).trans ?_
      exact (List.Perm.swap cmd act []).append_right _
  | made isMade rest =>
    refine ⟨stored.of_queue rest, [], (fun _ none => by cases none), ?_⟩
    rw [queued_of_queue rest, List.filter_cons_of_neg (by rw [not_requested isMade]; decide)]
    exact .refl _

theorem Stored.cmdPop (stored : Stored c q) {v : VaultView} {taken : Option DRAMCommand}
    (popped : q.cmdPop c v = .ok (q', taken)) :
    Stored c q' ∧ ∃ dropped : List DRAMCommand,
      (∀ act ∈ dropped, act.commandType = .ACTIVATE ∧ c.openPage = true) ∧
        (queued c q).Perm (taken.toList.filter DRAMCommand.requested ++ dropped ++ queued c q') := by
  cases taken with
  | none =>
    have same := cmdPop_eq_none popped
    refine ⟨stored.of_queue same, [], (fun _ none => by cases none), ?_⟩
    rw [queued_of_queue same]
    exact .refl _
  | some cmd =>
    obtain ⟨q₁, takes, rfl⟩ := cmdPop_takes popped
    have same := noteActivate_queue (c := c) q₁ cmd
    have counted : Stored c q.countTFAW := stored.of_queue rfl
    obtain ⟨stored₁, dropped, isDropped, moved⟩ := counted.removed takes.removed
    refine ⟨stored₁.of_queue same, dropped, isDropped, ?_⟩
    rw [queued_of_queue same]
    exact moved

/-! ## New commands -/

theorem foldl_enqueue_queue (bank : ℕ) : ∀ (cmds : List DRAMCommand) (q : CommandQueue),
    (cmds.foldl (fun q cmd => q.enqueue c bank cmd) q).queue =
      Function.update q.queue (index c bank) (q.accessQue c bank ++ cmds)
  | [], q => by
    rw [List.append_nil]
    exact (Function.update_eq_self (index c bank) q.queue).symm
  | cmd :: cmds, q => by
    rw [List.foldl_cons, foldl_enqueue_queue bank cmds]
    show Function.update (Function.update q.queue (index c bank) (q.accessQue c bank ++ [cmd])) _
      (Function.update q.queue (index c bank) (q.accessQue c bank ++ [cmd]) (index c bank) ++
        cmds) = _
    rw [Function.update_idem, Function.update_self, List.append_assoc, List.singleton_append]

/-- A write back is put in front. -/
theorem Stored.pushFront (stored : Stored c q) (inBanks : cmd.bank < c.numBanks)
    (requested : cmd.requested = true) :
    Stored c (q.pushFront c cmd.bank cmd) ∧
      (queued c (q.pushFront c cmd.bank cmd)).Perm (cmd :: queued c q) := by
  have inRange : index c cmd.bank < c.numBanks := index_lt inBanks
  have put : (q.pushFront c cmd.bank cmd).queue =
      Function.update q.queue (index c cmd.bank) (cmd :: q.queue (index c cmd.bank)) := rfl
  have isPut : (cmd :: q.queue (index c cmd.bank)).Perm
      ([cmd] ++ q.queue (index c cmd.bank)) := .refl _
  refine ⟨stored.update inRange put ?_, queued_put inRange put isPut⟩
  intro other member
  cases List.mem_cons.mp member with
  | inl same => exact same ▸ ⟨inBanks, requested⟩
  | inr before => exact ⟨stored.inBanks _ _ before, stored.requested _ _ before⟩

/-! ## `CmdPop` does not fail -/

/-- A computation that does not stop the simulation. -/
def Succeeds {α : Type} (attempt : Except VaultError α) : Prop :=
  Outcome.Yields (fun _ => True) (fun _ => True) attempt

theorem isIssuable_succeeds (q : CommandQueue) (v : VaultView) (requested : cmd.requested = true) :
    Succeeds (q.isIssuable c v cmd) := by
  unfold isIssuable
  cases isType : cmd.commandType with
  | ACTIVATE | READ | READ_P | WRITE | WRITE_P | PRECHARGE | REFRESH => exact trivial
  | READ_DATA | WRITE_DATA | POWERDOWN_ENTRY | POWERDOWN_EXIT =>
    simp [DRAMCommand.requested, isType, DRAMCommandType.isRead, DRAMCommandType.isWrite]
      at requested

theorem popLocked_succeeds (stored : Stored c q) (v : VaultView) (b : ℕ) (onlyAtomic : Bool) :
    Succeeds (q.popLocked c v b onlyAtomic) := by
  unfold popLocked
  cases queue : q.accessQue c b with
  | nil => exact trivial
  | cons cmd rest =>
    simp only
    have member : cmd ∈ q.queue (index c b) := by
      rw [show q.queue (index c b) = _ from queue]
      exact List.mem_cons_self
    split
    · refine (isIssuable_succeeds q v (stored.requested _ cmd member)).bind fun issuable _ => ?_
      cases issuable with
      | true | false => exact trivial
    · exact trivial

theorem popOpenRow_succeeds (stored : Stored c q) (v : VaultView) (b : ℕ) :
    Succeeds (q.popOpenRow c v b) := by
  unfold popOpenRow
  cases found : q.firstToOpenRow c v b with
  | none => exact trivial
  | some parts =>
    obtain ⟨before, cmd, after⟩ := parts
    simp only
    have member : cmd ∈ q.queue (index c b) := by
      rw [show q.queue (index c b) = _ from (splitFirst_eq_some found).1]
      simp
    split
    · exact trivial
    · refine (isIssuable_succeeds q v (stored.requested _ cmd member)).bind fun issuable _ => ?_
      cases issuable with
      | true | false => exact trivial

theorem firstIssuable_succeeds (q : CommandQueue) (v : VaultView)
    (depends : List DRAMCommand → DRAMCommand → Bool) : ∀ {cmds before : List DRAMCommand},
      (∀ cmd ∈ cmds, cmd.requested = true) → Succeeds (q.firstIssuable c v depends before cmds)
  | [], _, _ => trivial
  | cmd :: cmds, before, requested => by
    unfold firstIssuable
    refine (isIssuable_succeeds q v (requested cmd List.mem_cons_self)).bind fun issuable _ => ?_
    split
    · exact trivial
    · exact firstIssuable_succeeds q v depends fun other member =>
        requested other (List.mem_cons_of_mem _ member)

theorem refreshScanClose_succeeds (stored : Stored c q) (v : VaultView) : ∀ banks : List ℕ,
    Succeeds (q.refreshScanClose c v banks)
  | [] => trivial
  | b :: banks => by
    unfold refreshScanClose
    split
    · split
      · exact (popLocked_succeeds stored v b false).bind fun _ _ => trivial
      · exact trivial
    · split
      · exact (popOpenRow_succeeds stored v b).bind fun _ _ => trivial
      · split
        · exact trivial
        · exact refreshScanClose_succeeds stored v banks

theorem refreshScanOpen_succeeds (stored : Stored c q) (v : VaultView) : ∀ banks : List ℕ,
    Succeeds (q.refreshScanOpen c v banks)
  | [] => trivial
  | b :: banks => by
    unfold refreshScanOpen
    split
    · split
      · exact (popLocked_succeeds stored v b false).bind fun _ _ => trivial
      · exact trivial
    · split
      · split
        · split
          · exact trivial
          · exact trivial
        · exact (popOpenRow_succeeds stored v b).bind fun _ _ => trivial
      · split
        · exact trivial
        · exact refreshScanOpen_succeeds stored v banks

/-- The end of both refresh loops. -/
theorem refresh_succeeds {v : VaultView}
    {attempt : Except VaultError (Bool × Option (CommandQueue × DRAMCommand))}
    (scans : Succeeds attempt) : Succeeds (do
      match ← attempt with
      | (_, some (q', cmd)) => pure (q', some cmd)
      | (refreshPossible, none) =>
        if refreshPossible && (v.bankStates 0).currentBankState ≠ BankStateType.POWERDOWN then
          pure ({ q with refreshWaiting := false }, some refreshCMD)
        else pure (q, none)) := by
  refine scans.bind fun outcome _ => ?_
  obtain ⟨refreshPossible, taken⟩ := outcome
  cases taken with
  | some taken => exact trivial
  | none =>
    simp only
    split
    · exact trivial
    · exact trivial

theorem scheduleClose_succeeds {v : VaultView} : ∀ {banks : ℕ} {q : CommandQueue}, Stored c q →
    Succeeds (scheduleClose c v banks q)
  | 0, _, _ => trivial
  | banks + 1, q, stored => by
    unfold scheduleClose
    split
    · split
      · refine (popLocked_succeeds stored v q.issuedBank true).bind fun taken _ => ?_
        cases taken with
        | none | some taken => exact trivial
      · have searches : Succeeds (q.searchClose c v) := by
          refine (firstIssuable_succeeds q v _ (stored.requested _)).bind fun found _ => ?_
          cases found with
          | none | some found => exact trivial
        refine searches.bind fun taken _ => ?_
        cases taken with
        | none => exact scheduleClose_succeeds (stored.of_queue rfl)
        | some taken => exact trivial
    · exact scheduleClose_succeeds (stored.of_queue rfl)

theorem scheduleOpen_succeeds {v : VaultView} : ∀ {banks : ℕ} {q : CommandQueue}, Stored c q →
    Succeeds (scheduleOpen c v banks q)
  | 0, _, _ => trivial
  | banks + 1, q, stored => by
    unfold scheduleOpen
    split
    · have pops : Succeeds (q.popBankOpen c v) := by
        unfold popBankOpen
        split
        · exact popLocked_succeeds stored v q.issuedBank true
        · refine (firstIssuable_succeeds q v _ (stored.requested _)).bind fun found _ => ?_
          cases found with
          | none | some found => exact trivial
      refine pops.bind fun taken _ => ?_
      cases taken with
      | none => exact scheduleOpen_succeeds (stored.of_queue rfl)
      | some taken => exact trivial
    · exact scheduleOpen_succeeds (stored.of_queue rfl)

theorem normalOpen_succeeds (stored : Stored c q) (v : VaultView) :
    Succeeds (q.normalOpen c v) := by
  refine (scheduleOpen_succeeds stored).bind fun result _ => ?_
  obtain ⟨q', taken⟩ := result
  cases taken with
  | none | some cmd => exact trivial

theorem cmdPop_succeeds (stored : Stored c q) (v : VaultView) : Succeeds (q.cmdPop c v) := by
  have counted : Stored c q.countTFAW := stored.of_queue rfl
  have selects : Succeeds (q.countTFAW.select c v) := by
    unfold select
    split
    · split
      · rename_i waiting
        have refreshes : Outcome.Yields (Pops q.countTFAW v) (fun _ => True)
            (q.countTFAW.refreshOpen c v) :=
          (refresh_succeeds (refreshScanOpen_succeeds counted v _)).of_ok fun _ refreshed =>
            refreshOpen_pops waiting refreshed
        refine refreshes.bind fun result pops => ?_
        obtain ⟨q', taken⟩ := result
        cases taken with
        | some cmd => exact trivial
        | none => exact normalOpen_succeeds (counted.of_queue (Alike.queue pops)) v
      · exact normalOpen_succeeds counted v
    · split
      · exact refresh_succeeds (refreshScanClose_succeeds counted v _)
      · exact scheduleClose_succeeds counted
  refine selects.bind fun result _ => ?_
  obtain ⟨q', taken⟩ := result
  cases taken with
  | none | some cmd => exact trivial

end CommandQueue

namespace VaultController

variable {c : DRAMConfig} {v v' : VaultController}

/-- The commands of a request are for the bank of its address. -/
theorem commands_inBank (banks : 0 < c.numBanks) {packet : Packet} {kind : RequestKind}
    (isKind : requestKind c packet.CMD = some kind) :
    ∀ cmd ∈ commands c packet kind, cmd.bank < c.numBanks ∧ cmd.requested = true := by
  intro cmd member
  cases List.mem_cons.mp member with
  | inl isAct =>
    rw [isAct]
    exact ⟨addressMapping_bank_lt banks packet.ADRS, rfl⟩
  | inr inRange =>
    obtain ⟨i, _, rfl⟩ := List.mem_map.mp inRange
    refine ⟨addressMapping_bank_lt banks packet.ADRS, ?_⟩
    obtain ⟨posted, rfl⟩ | rfl | ⟨posted, rfl⟩ := requestKind_cases isKind
    · cases close : c.openPage <;> by_cases earlier : i < blocks packet - 1 <;>
        simp [rwCMD, requested, writeKind, earlierType, close, earlier, DRAMCommandType.isRead,
          DRAMCommandType.isWrite]
    · cases close : c.openPage <;> by_cases earlier : i < blocks packet - 1 <;>
        simp [rwCMD, requested, readKind, earlierType, close, earlier, DRAMCommandType.isRead]
    · by_cases earlier : i < blocks packet - 1 <;>
        simp [rwCMD, requested, atomicKind, earlierType, earlier, DRAMCommandType.isRead]

theorem enqueueAll_stored (banks : 0 < c.numBanks) (stored : Stored c v.commandQueue)
    {packet : Packet} {kind : RequestKind} (isKind : requestKind c packet.CMD = some kind) :
    Stored c (v.enqueueAll c packet kind).commandQueue ∧
      (queued c (v.enqueueAll c packet kind).commandQueue).Perm
        (commands c packet kind ++ queued c v.commandQueue) := by
  have inRange := index_lt (addressMapping_bank_lt banks packet.ADRS)
  have queue := foldl_enqueue_queue (c := c) (addressMapping c packet.ADRS).1
    (commands c packet kind) v.commandQueue
  refine ⟨stored.update inRange queue fun cmd member => ?_,
    queued_put inRange queue List.perm_append_comm⟩
  cases List.mem_append.mp member with
  | inl before => exact ⟨stored.inBanks _ _ before, stored.requested _ _ before⟩
  | inr new => exact commands_inBank banks isKind cmd new

/-- The requests that the loop of `Update` converts, in their order. -/
inductive Converts (c : DRAMConfig) : VaultController → List (Packet × RequestKind) →
    VaultController → Prop where
  | nil (v : VaultController) : Converts c v [] v
  | cons {v v' : VaultController} {packet : Packet} {kind : RequestKind}
      {rest : List (Packet × RequestKind)} (isKind : requestKind c packet.CMD = some kind)
      (others : Converts c (v.enqueueAll c packet kind) rest v') :
      Converts c v ((packet, kind) :: rest) v'

theorem convertPackets_converts : ∀ {packets kept : List Packet} {v v' : VaultController},
    v.convertPackets c packets = .ok (v', kept) → ∃ converted, Converts c v converted v' ∧
      packets.Perm (converted.map Prod.fst ++ kept)
  | [], kept, v, v', converted => by
    obtain ⟨rfl, rfl⟩ := Prod.mk.inj (Outcome.pure_eq_ok.mp converted)
    exact ⟨[], .nil v, .refl _⟩
  | [packet], kept, v, v', converted => by
    obtain ⟨result, isResult, converted⟩ := Outcome.bind_eq_ok.mp converted
    cases result with
    | none =>
      obtain ⟨rfl, rfl⟩ := Prod.mk.inj (Outcome.pure_eq_ok.mp converted)
      exact ⟨[], .nil v, .refl _⟩
    | some v₁ =>
      obtain ⟨rfl, rfl⟩ := Prod.mk.inj (Outcome.pure_eq_ok.mp converted)
      obtain ⟨kind, isKind, _, rfl⟩ := convPacketIntoCMDs_eq_some isResult
      exact ⟨[(packet, kind)], .cons isKind (.nil _), .refl _⟩
  | packet :: next :: rest, kept, v, v', converted => by
    unfold convertPackets at converted
    obtain ⟨result, isResult, converted⟩ := Outcome.bind_eq_ok.mp converted
    cases result with
    | none =>
      obtain ⟨⟨v₁, kept'⟩, isRest, converted⟩ := Outcome.bind_eq_ok.mp converted
      obtain ⟨rfl, rfl⟩ := Prod.mk.inj (Outcome.pure_eq_ok.mp converted)
      obtain ⟨requests, converts, split⟩ := convertPackets_converts isRest
      exact ⟨requests, converts, (split.cons packet).trans List.perm_middle.symm⟩
    | some v₁ =>
      obtain ⟨⟨v₂, kept'⟩, isRest, converted⟩ := Outcome.bind_eq_ok.mp converted
      obtain ⟨rfl, rfl⟩ := Prod.mk.inj (Outcome.pure_eq_ok.mp converted)
      obtain ⟨kind, isKind, _, rfl⟩ := convPacketIntoCMDs_eq_some isResult
      obtain ⟨requests, converts, split⟩ := convertPackets_converts isRest
      refine ⟨(packet, kind) :: requests, .cons isKind converts, ?_⟩
      exact ((split.cons next).trans List.perm_middle.symm).cons packet

theorem Converts.isKind {requests : List (Packet × RequestKind)}
    (converts : Converts c v requests v') :
    ∀ request ∈ requests, requestKind c request.1.CMD = some request.2 := by
  induction converts with
  | nil => exact fun _ none => by cases none
  | cons isKind _ inductionHypothesis =>
    intro request member
    cases List.mem_cons.mp member with
    | inl isFirst => exact isFirst ▸ isKind
    | inr isLater => exact inductionHypothesis request isLater

theorem Converts.stored (banks : 0 < c.numBanks) {requests : List (Packet × RequestKind)}
    (converts : Converts c v requests v') (stored : Stored c v.commandQueue) :
    Stored c v'.commandQueue ∧ (queued c v'.commandQueue).Perm
      ((requests.flatMap fun request => commands c request.1 request.2) ++
        queued c v.commandQueue) := by
  induction converts with
  | nil => exact ⟨stored, .refl _⟩
  | @cons v v' packet kind rest isKind _ inductionHypothesis =>
    obtain ⟨stored₁, enqueued⟩ := enqueueAll_stored banks stored isKind
    obtain ⟨stored', moved⟩ := inductionHypothesis stored₁
    refine ⟨stored', moved.trans ((enqueued.append_left _).trans ?_)⟩
    rw [List.flatMap_cons, ← List.append_assoc, List.append_assoc (commands c packet kind)]
    exact List.perm_append_comm.append_right _ |>.trans (by rw [List.append_assoc])

end VaultController

end ActiveRouting

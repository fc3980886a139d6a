import ActiveRouting.Vault.CommandLedger
import ActiveRouting.Vault.Reservation

/-!
# Responses to requests

Each request that asks for an answer gets one response, and the response goes to the cube that has
asked.
-/

namespace ActiveRouting

open DRAMCommand CommandQueue

/-- What a response has of its request: the tag, the cube that has asked, the address and the tag
    of the transaction. -/
structure Requester where
  tag : ℕ
  cube : ℤ
  addr : BitVec 64
  tran : ℕ
  deriving DecidableEq

/-- Who asks with a request. -/
def Packet.requester (packet : Packet) : Requester :=
  ⟨packet.TAG, packet.SRCCUB, packet.orig_addr, packet.tran_tag⟩

/-- Who is answered with a response. -/
def Packet.addressee (packet : Packet) : Requester :=
  ⟨packet.TAG, packet.DESTCUB, packet.orig_addr, packet.tran_tag⟩

namespace DRAMCommand

def requester (cmd : DRAMCommand) : Requester :=
  ⟨cmd.packetTAG, cmd.src_cube, cmd.addr, cmd.tran_tag⟩

/-- A queued command whose end will be answered. -/
def owing (cmd : DRAMCommand) : Bool :=
  cmd.lastCMD && !cmd.posted &&
    (cmd.commandType.isRead || cmd.commandType.isWrite && !cmd.atomic)

theorem owing_read {cmd : DRAMCommand} (isRead : cmd.commandType.isRead = true) :
    cmd.owing = cmd.answered := by
  have notData : decide (cmd.commandType = .WRITE_DATA) = false := by
    cases isType : cmd.commandType <;> rw [isType] at isRead <;> first | rfl | cases isRead
  simp [owing, answered, isRead, notData]

theorem owing_write {cmd : DRAMCommand} (isWrite : cmd.commandType.isWrite = true) :
    cmd.owing = (cmd.withType .WRITE_DATA).answered := by
  have notRead : cmd.commandType.isRead = false := by
    cases isType : cmd.commandType <;> rw [isType] at isWrite <;> first | rfl | cases isWrite
  simp [owing, answered, withType, isWrite, notRead]

theorem owing_other {cmd : DRAMCommand} (notRead : cmd.commandType.isRead = false)
    (notWrite : cmd.commandType.isWrite = false) : cmd.owing = false := by
  simp [owing, notRead, notWrite]

theorem answered_readData {cmd : DRAMCommand} (isRead : cmd.commandType.isRead = true) :
    (cmd.withType .READ_DATA).answered = cmd.answered := by
  have notData : decide (cmd.commandType = .WRITE_DATA) = false := by
    cases isType : cmd.commandType <;> rw [isType] at isRead <;> first | rfl | cases isRead
  simp [answered, withType, notData]

end DRAMCommand

namespace VaultController

variable {c : DRAMConfig} {v v' v'' : VaultController}

/-- A request that is answered when its last command has ended. -/
def asks (c : DRAMConfig) (packet : Packet) : Bool :=
  (requestKind c packet.CMD).any (fun kind => !kind.posted) && decide (0 < blocks packet)

/-- Those who are answered when commands in flight end. -/
def due (cmds : List DRAMCommand) : List Requester :=
  (cmds.filter DRAMCommand.answered).map DRAMCommand.requester

@[simp] theorem due_nil : due [] = [] := rfl

@[simp] theorem due_append (first second : List DRAMCommand) :
    due (first ++ second) = due first ++ due second := by simp [due]

theorem due_singleton (cmd : DRAMCommand) :
    due [cmd] = if cmd.answered then [cmd.requester] else [] := by
  unfold due
  split
  · rename_i isAnswered
    rw [List.filter_cons_of_pos isAnswered]
    rfl
  · rename_i notAnswered
    rw [List.filter_cons_of_neg notAnswered]
    rfl

theorem due_readData {cmd : DRAMCommand} (isRead : cmd.commandType.isRead = true) :
    due [cmd.withType .READ_DATA] = due [cmd] := by
  rw [due_singleton, due_singleton, answered_readData isRead]
  rfl

/-- Those who wait for commands in the queues. -/
def queuing (c : DRAMConfig) (v : VaultController) : List Requester :=
  ((queued c v.commandQueue).filter DRAMCommand.owing).map DRAMCommand.requester

/-- Who waits for an answer: the response is made already, or will be. -/
def waiting (c : DRAMConfig) (v : VaultController) : List Requester :=
  (v.pcuPacket ++ v.upBuffers).map Packet.addressee ++ (v.queuing c ++ due v.inFlight)

theorem queuing_of_queue (same : v'.commandQueue.queue = v.commandQueue.queue) :
    v'.queuing c = v.queuing c := by
  rw [queuing, queued_of_queue same, queuing]

/-- Unless a response is refused, whoever waits goes on waiting. -/
structure Answering (c : DRAMConfig) (v v' : VaultController) : Prop where
  refused : v.refused.length ≤ v'.refused.length
  waiting : v'.refused.length = v.refused.length → (v'.waiting c).Perm (v.waiting c)

theorem Answering.refl (v : VaultController) : Answering c v v := ⟨le_refl _, fun _ => .refl _⟩

theorem Answering.trans (first : Answering c v v') (second : Answering c v' v'') :
    Answering c v v'' where
  refused := first.refused.trans second.refused
  waiting same := by
    have less := first.refused
    have more := second.refused
    exact (second.waiting (by omega)).trans (first.waiting (by omega))

/-! ## Responses -/

theorem respondPacket_addressee {cmd : DRAMCommand} {packet : Packet} {size : ℕ}
    (responded : respondPacket cmd = .ok (packet, size)) : packet.addressee = cmd.requester := by
  unfold respondPacket at responded
  repeat' split at responded
  all_goals first
    | (obtain ⟨rfl, _⟩ := Prod.mk.inj (Except.ok.inj responded); rfl)
    | cases responded

/-- What the making of a response does to those who wait. -/
theorem makeRespondPacket_answers {cmd : DRAMCommand} {consumed : Bool}
    (made : v.makeRespondPacket cmd = .ok (v', consumed)) :
    (consumed = true ∧ v'.refused = v.refused ∧
      ((v'.pcuPacket ++ v'.upBuffers).map Packet.addressee).Perm
        (cmd.requester :: (v.pcuPacket ++ v.upBuffers).map Packet.addressee)) ∨
    (consumed = false ∧ v'.refused.length = v.refused.length + 1) := by
  unfold makeRespondPacket at made
  obtain ⟨⟨packet, size⟩, isResponse, made⟩ := Outcome.bind_eq_ok.mp made
  have addressee := respondPacket_addressee isResponse
  simp only at made
  split at made
  · obtain ⟨rfl, rfl⟩ := Prod.mk.inj (Outcome.pure_eq_ok.mp made)
    refine .inl ⟨rfl, rfl, ?_⟩
    show ((v.pcuPacket ++ [packet.withDelay v.pcuPopDelay] ++ v.upBuffers).map _).Perm _
    rw [List.append_assoc, List.singleton_append]
    refine (List.perm_middle.map _).trans ?_
    rw [List.map_cons, ← addressee]
    exact .refl _
  · unfold receiveUp at made
    split at made
    · rename_i received
      split at received
      · obtain rfl := Option.some.inj received
        obtain ⟨rfl, rfl⟩ := Prod.mk.inj (Outcome.pure_eq_ok.mp made)
        refine .inl ⟨rfl, rfl, ?_⟩
        show ((v.pcuPacket ++ (v.upBuffers ++ [packet])).map _).Perm _
        rw [← List.append_assoc]
        refine (List.perm_append_comm.map _).trans ?_
        rw [List.singleton_append, List.map_cons, addressee]
      · cases received
    · obtain ⟨rfl, rfl⟩ := Prod.mk.inj (Outcome.pure_eq_ok.mp made)
      exact .inr ⟨rfl, by simp [refuse]⟩

theorem respond_answers {cmd : DRAMCommand} (responded : v.respond cmd = .ok v') :
    v.refused.length ≤ v'.refused.length ∧ (v'.refused.length = v.refused.length →
      ((v'.pcuPacket ++ v'.upBuffers).map Packet.addressee).Perm
        (cmd.requester :: (v.pcuPacket ++ v.upBuffers).map Packet.addressee)) := by
  unfold respond at responded
  obtain ⟨⟨v₁, consumed⟩, made, responded⟩ := Outcome.bind_eq_ok.mp responded
  simp only at responded
  split at responded
  · cases responded
  · obtain rfl := Outcome.pure_eq_ok.mp responded
    cases makeRespondPacket_answers made with
    | inl answered => exact ⟨by rw [answered.2.1], fun _ => answered.2.2⟩
    | inr isRefused => exact ⟨by omega, fun same => by omega⟩

theorem inFlight_of_aside (aside : Aside v v') : v'.inFlight = v.inFlight := by
  rw [inFlight, aside.cmdBus, aside.dram, aside.atomicCMD, aside.writeData, aside.dataBus]
  rfl

/-- Only the commands in flight have moved. -/
theorem Answering.of_inFlight (refused : v'.refused = v.refused) (pcuPacket : v'.pcuPacket = v.pcuPacket)
    (upBuffers : v'.upBuffers = v.upBuffers)
    (queue : v'.commandQueue.queue = v.commandQueue.queue)
    (moved : (due v'.inFlight).Perm (due v.inFlight)) : Answering c v v' where
  refused := by rw [refused]
  waiting _ := by
    rw [VaultController.waiting, pcuPacket, upBuffers, queuing_of_queue queue]
    exact (moved.append_left _).append_left _

/-! ## The countdowns -/

theorem transmitCommand_answers (sent : v.transmitCommand c = .ok v') : Answering c v v' := by
  unfold transmitCommand at sent
  cases onBus : v.cmdBus with
  | none =>
    simp only [onBus] at sent
    obtain rfl := Outcome.pure_eq_ok.mp sent
    exact .refl v
  | some cmd =>
    simp only [onBus] at sent
    split at sent
    · obtain ⟨dram, received, sent⟩ := Outcome.bind_eq_ok.mp sent
      obtain rfl := Outcome.pure_eq_ok.mp sent
      obtain ⟨_, _, readData, _, readReturn⟩ := DRAM.receiveCMD_eq_ok received
      refine .of_inFlight rfl rfl rfl rfl ?_
      simp only [inFlight, setDram, freeCmdBus, readData, readReturn, onBus, List.map_append,
        due_append]
      cases isRead : cmd.commandType.isRead with
      | true =>
        have isData := due_readData isRead
        have onBusRead : [cmd].filter (fun cmd => cmd.commandType.isRead) = [cmd] := by
          simp [isRead]
        simp only [Option.toList_none, List.filter_nil, due_nil, List.nil_append, if_true,
          List.map_cons, List.map_nil, isData, Option.toList_some, onBusRead]
        rw [List.perm_iff_count]
        intro other
        simp only [List.count_append]
        omega
      | false => simp [isRead]
    · obtain rfl := Outcome.pure_eq_ok.mp sent
      exact .of_inFlight rfl rfl rfl rfl (.refl _)

/-- Those who wait for a write on the data bus are answered when it has been transmitted. -/
theorem transmitData_answers (tracked : Tracked c v) (sent : v.transmitData c = .ok v') :
    Answering c v v' := by
  unfold transmitData at sent
  cases onBus : v.dataBus with
  | none =>
    simp only [onBus] at sent
    obtain rfl := Outcome.pure_eq_ok.mp sent
    exact .refl v
  | some cmd =>
    obtain ⟨isData, _⟩ := tracked.writing cmd (List.mem_append_left _ (by rw [onBus]; simp))
    simp only [onBus] at sent
    split at sent
    · obtain ⟨v₁, answered, sent⟩ := Outcome.bind_eq_ok.mp sent
      obtain ⟨dram, received, sent⟩ := Outcome.bind_eq_ok.mp sent
      obtain rfl := Outcome.pure_eq_ok.mp sent
      obtain rfl := receiveCMD_writeData isData received
      have aside := answerWrite_aside answered
      have gone : due v.inFlight = due (v₁.freeDataBus.setDram v₁.dram).inFlight ++ due [cmd] := by
        rw [← inFlight_of_aside aside]
        simp [inFlight, freeDataBus, setDram, aside.dataBus, onBus]
      have sameQueue : (v₁.freeDataBus.setDram v₁.dram).queuing c = v.queuing c :=
        queuing_of_queue (by rw [← aside.commandQueue]; rfl)
      unfold answerWrite at answered
      split at answered
      · rename_i isLast
        have isAnswered : cmd.answered = true := by
          simp only [Bool.and_eq_true, Bool.not_eq_true'] at isLast
          simp [DRAMCommand.answered, isLast]
        have isDue : due [cmd] = [cmd.requester] := by rw [due_singleton, if_pos isAnswered]
        obtain ⟨less, moved⟩ := respond_answers answered
        refine ⟨less, fun same => ?_⟩
        have moved := moved same
        rw [VaultController.waiting, VaultController.waiting, sameQueue, gone, isDue]
        change ((v₁.pcuPacket ++ v₁.upBuffers).map _ ++ _).Perm _
        rw [List.perm_iff_count] at moved ⊢
        intro other
        have moved := moved other
        simp only [List.count_append, List.count_cons, List.count_nil] at moved ⊢
        omega
      · rename_i isOther
        obtain rfl := Outcome.pure_eq_ok.mp answered
        have notAnswered : ¬ cmd.answered = true := by
          intro isAnswered
          simp only [DRAMCommand.answered, isData, decide_true, Bool.true_and, Bool.and_eq_true,
            Bool.not_eq_true'] at isAnswered
          exact isOther (by simp [isAnswered])
        refine .of_inFlight rfl rfl rfl rfl ?_
        rw [gone, due_singleton, if_neg notAnswered, List.append_nil]
    · obtain rfl := Outcome.pure_eq_ok.mp sent
      exact .of_inFlight rfl rfl rfl rfl (.refl _)

theorem sendWriteData_answers (sent : v.sendWriteData c = .ok v') : Answering c v v' := by
  have counted : ∀ entries : List (DRAMCommand × ℕ),
      (countWrites entries).map Prod.fst = entries.map Prod.fst := by
    intro entries
    simp [countWrites]
  unfold sendWriteData at sent
  split at sent
  · rename_i cmd rest isDue
    split at sent
    · rename_i free
      obtain rfl := Outcome.pure_eq_ok.mp sent
      refine .of_inFlight rfl rfl rfl rfl ?_
      simp only [inFlight, sendData, counted, isDue, free, due_append, Option.toList_some,
        Option.toList_none, List.map_cons, List.append_nil]
      rw [← List.singleton_append (l := rest.map Prod.fst), due_append, List.perm_iff_count]
      intro other
      simp only [List.count_append]
      omega
    · cases sent
  · obtain rfl := Outcome.pure_eq_ok.mp sent
    refine .of_inFlight rfl rfl rfl rfl ?_
    simp only [inFlight, setWriteData, counted]
    exact .refl _

theorem countRefresh_answers (v : VaultController) : Answering c v (v.countRefresh c) := by
  unfold countRefresh
  split
  all_goals exact ⟨le_refl _, fun _ => .refl _⟩

theorem updateCountdown_answers (tracked : Tracked c v) (updated : v.updateCountdown c = .ok v') :
    Answering c v v' := by
  obtain ⟨v₁, sentCommand, updated⟩ := Outcome.bind_eq_ok.mp updated
  obtain ⟨v₂, sentData, updated⟩ := Outcome.bind_eq_ok.mp updated
  obtain ⟨v₃, sent, updated⟩ := Outcome.bind_eq_ok.mp updated
  obtain rfl := Outcome.pure_eq_ok.mp updated
  have tracked₁ := ((transmitCommand_tracked tracked).holds sentCommand).1
  exact (((transmitCommand_answers sentCommand).trans (transmitData_answers tracked₁ sentData)).trans
    (sendWriteData_answers sent)).trans (countRefresh_answers v₃)

/-! ## Conversion of packets -/

/-- Of the commands of a request, only the last one is answered. -/
theorem owing_commands {packet : Packet} {kind : RequestKind}
    (isKind : requestKind c packet.CMD = some kind) :
    ((commands c packet kind).filter DRAMCommand.owing).map DRAMCommand.requester =
      if asks c packet then [packet.requester] else [] := by
  have isAsks : asks c packet = (!kind.posted && decide (0 < blocks packet)) := by
    simp [asks, isKind]
  have owes : ∀ i, (rwCMD c packet kind i).owing = (!decide (i < blocks packet - 1) && !kind.posted) := by
    intro i
    obtain ⟨posted, rfl⟩ | rfl | ⟨posted, rfl⟩ := requestKind_cases isKind
    · cases close : c.openPage <;> by_cases earlier : i < blocks packet - 1 <;>
        simp [rwCMD, writeKind, earlierType, close, earlier, owing, DRAMCommandType.isRead,
          DRAMCommandType.isWrite]
    · cases close : c.openPage <;> by_cases earlier : i < blocks packet - 1 <;>
        simp [rwCMD, readKind, earlierType, close, earlier, owing, DRAMCommandType.isRead]
    · by_cases earlier : i < blocks packet - 1 <;>
        simp [rwCMD, atomicKind, earlierType, earlier, owing, DRAMCommandType.isRead]
  have act : (actCMD c packet kind).owing = false := owing_other rfl rfl
  rw [commands, List.filter_cons_of_neg (by rw [act]; decide), List.filter_map, List.map_map, isAsks]
  have lastOnly : (List.range (blocks packet)).filter (DRAMCommand.owing ∘ rwCMD c packet kind) =
      if !kind.posted && decide (0 < blocks packet) then [blocks packet - 1] else [] := by
    by_cases empty : blocks packet = 0
    · simp [empty]
    · have whole : blocks packet = blocks packet - 1 + 1 := by omega
      have some : 0 < blocks packet := by omega
      have earlier : (List.range (blocks packet - 1)).filter
          (DRAMCommand.owing ∘ rwCMD c packet kind) = [] := by
        refine List.filter_eq_nil_iff.mpr fun i member => ?_
        rw [Function.comp_apply, owes, decide_eq_true (List.mem_range.mp member)]
        simp
      have last : (DRAMCommand.owing ∘ rwCMD c packet kind) (blocks packet - 1) = !kind.posted := by
        rw [Function.comp_apply, owes]
        simp
      rw [decide_eq_true some, Bool.and_true, whole, List.range_succ, List.filter_append, earlier,
        List.nil_append, List.filter_cons, ← whole, last]
      rfl
  rw [lastOnly]
  split
  · rfl
  · rfl

theorem flatMap_owing {gone : List (Packet × RequestKind)}
    (isKind : ∀ request ∈ gone, requestKind c request.1.CMD = some request.2) :
    ((gone.flatMap fun request => commands c request.1 request.2).filter
      DRAMCommand.owing).map DRAMCommand.requester =
      ((gone.map Prod.fst).filter (asks c)).map Packet.requester := by
  induction gone with
  | nil => rfl
  | cons request gone inductionHypothesis =>
    have first := owing_commands (isKind request List.mem_cons_self)
    have others := inductionHypothesis fun other member => isKind other (List.mem_cons_of_mem _ member)
    rw [List.flatMap_cons, List.filter_append, List.map_append, first, others, List.map_cons]
    cases isAsking : asks c request.1 with
    | true => rw [List.filter_cons_of_pos isAsking]; rfl
    | false => rw [List.filter_cons_of_neg (by rw [isAsking]; decide)]; rfl

theorem Converts.same {requests : List (Packet × RequestKind)} (converts : Converts c v requests v') :
    v'.refused = v.refused ∧ v'.pcuPacket = v.pcuPacket ∧ v'.upBuffers = v.upBuffers ∧
      v'.inFlight = v.inFlight := by
  induction converts with
  | nil => exact ⟨rfl, rfl, rfl, rfl⟩
  | cons _ _ inductionHypothesis => exact inductionHypothesis

/-- Those whose requests are converted begin to wait. -/
theorem convert_answers (banks : 0 < c.numBanks) (stored : Stored c v.commandQueue)
    (converted : v.convert c = .ok v') : v'.refused = v.refused ∧ (v'.waiting c).Perm
      (((v.downBuffers.diff v'.downBuffers).filter (asks c)).map Packet.requester ++
        v.waiting c) := by
  obtain ⟨gone, isKind, requests, moved⟩ := VaultLedger.convert_moves banks stored converted
  have same : v'.refused = v.refused ∧ v'.pcuPacket = v.pcuPacket ∧ v'.upBuffers = v.upBuffers ∧
      v'.inFlight = v.inFlight := by
    unfold convert at converted
    split at converted
    · obtain ⟨⟨v₁, kept⟩, isConverted, converted⟩ := Outcome.bind_eq_ok.mp converted
      obtain rfl := Outcome.pure_eq_ok.mp converted
      obtain ⟨others, converts, _⟩ := convertPackets_converts isConverted
      exact converts.same
    · obtain rfl := Outcome.pure_eq_ok.mp converted
      exact ⟨rfl, rfl, rfl, rfl⟩
  obtain ⟨refused, pcuPacket, upBuffers, inFlight⟩ := same
  refine ⟨refused, ?_⟩
  have asked := (requests.filter (asks c)).map Packet.requester
  have owed := (moved.filter DRAMCommand.owing).map DRAMCommand.requester
  rw [List.filter_append, List.map_append, flatMap_owing isKind] at owed
  rw [waiting, waiting, pcuPacket, upBuffers, inFlight, queuing, queuing]
  rw [List.perm_iff_count] at asked owed ⊢
  intro other
  have asked := asked other
  have owed := owed other
  simp only [List.count_append] at asked owed ⊢
  omega

/-! ## The scheduler -/

theorem issue_due (free : v.cmdBus = none) (cmd : DRAMCommand) : (due (v.issue c cmd).inFlight).Perm
    ((([cmd].filter DRAMCommand.owing).map DRAMCommand.requester) ++ due v.inFlight) := by
  cases isRead : cmd.commandType.isRead with
  | true =>
    have notWrite : cmd.commandType.isWrite = false := by
      cases isType : cmd.commandType <;> rw [isType] at isRead <;> first | rfl | cases isRead
    have same : ([cmd].filter DRAMCommand.owing).map DRAMCommand.requester = due [cmd] := by
      rw [due]
      simp [List.filter_cons, owing_read isRead]
    have onBusRead : [cmd].filter (fun cmd => cmd.commandType.isRead) = [cmd] := by simp [isRead]
    rw [same]
    simp only [inFlight, issue, free, notWrite, due_append, Option.toList_some, Option.toList_none,
      onBusRead, Bool.false_eq_true, if_false, List.filter_nil, List.nil_append, List.append_assoc]
    exact .refl _
  | false =>
    cases isWrite : cmd.commandType.isWrite with
    | true =>
      have same : ([cmd].filter DRAMCommand.owing).map DRAMCommand.requester =
          due [cmd.withType .WRITE_DATA] := by
        rw [due_singleton, List.filter_cons, owing_write isWrite]
        split
        · rfl
        · rfl
      rw [same]
      simp only [inFlight, issue, free, isRead, isWrite, if_true, List.map_append, List.map_cons,
        List.map_nil, due_append, Option.toList_some, Option.toList_none, List.filter_nil, due_nil,
        List.filter_cons, Bool.false_eq_true, if_false]
      rw [List.perm_iff_count]
      intro other
      simp only [List.count_append]
      omega
    | false =>
      have none : [cmd].filter DRAMCommand.owing = [] := by
        rw [List.filter_cons_of_neg (by rw [owing_other isRead isWrite]; decide)]
        rfl
      rw [none]
      simp [inFlight, issue, free, isRead, isWrite]

theorem popCommand_answers (tracked : Tracked c v) (free : v.cmdBus = none)
    (popped : v.popCommand c = .ok v') : Answering c v v' := by
  obtain ⟨⟨q, popTaken⟩, isPopped, popped⟩ := Outcome.bind_eq_ok.mp popped
  obtain ⟨_, dropped, isDropped, moved⟩ := tracked.stored.cmdPop isPopped
  have noneDropped : dropped.filter DRAMCommand.owing = [] := by
    refine List.filter_eq_nil_iff.mpr fun act member => ?_
    rw [owing_other (by rw [(isDropped act member).1]; rfl) (by rw [(isDropped act member).1]; rfl)]
    decide
  have owed := (moved.filter DRAMCommand.owing).map DRAMCommand.requester
  rw [List.filter_append, List.filter_append, noneDropped, List.append_nil, List.map_append] at owed
  cases popTaken with
  | none =>
    obtain rfl := Outcome.pure_eq_ok.mp popped
    refine ⟨le_refl _, fun _ => ?_⟩
    exact (owed.symm.append_right (due v.inFlight)).append_left _
  | some cmd =>
    simp only [free, if_true] at popped
    obtain rfl := Outcome.pure_eq_ok.mp popped
    refine ⟨le_refl _, fun _ => ?_⟩
    have made : ([cmd].filter requested).filter DRAMCommand.owing = [cmd].filter DRAMCommand.owing := by
      cases isRequested : cmd.requested with
      | true => rw [List.filter_cons_of_pos isRequested, List.filter_nil]
      | false =>
        simp only [DRAMCommand.requested, Bool.or_eq_false_iff] at isRequested
        rw [List.filter_filter]
        simp [owing_other isRequested.1.2 isRequested.2]
    rw [Option.toList_some, made] at owed
    have issued := issue_due (c := c) (v := v.setQueue q) free cmd
    show ((v.pcuPacket ++ v.upBuffers).map _ ++
      (((queued c q).filter _).map _ ++ due ((v.setQueue q).issue c cmd).inFlight)).Perm _
    change (due _).Perm (_ ++ due v.inFlight) at issued
    rw [waiting, queuing]
    rw [List.perm_iff_count] at owed issued ⊢
    intro other
    have owed := owed other
    have issued := issued other
    simp only [List.count_append] at owed issued ⊢
    omega

/-! ## Atomic operations -/

/-- An atomic that ends is answered, unless it is posted. -/
theorem answerAtomic_answers {cmd : DRAMCommand} (answered : v.answerAtomic cmd = .ok v')
    (isLast : cmd.lastCMD = true) (isData : cmd.commandType = .READ_DATA) :
    v.refused.length ≤ v'.refused.length ∧ (v'.refused.length = v.refused.length →
      ((v'.pcuPacket ++ v'.upBuffers).map Packet.addressee).Perm
        (due [cmd] ++ (v.pcuPacket ++ v.upBuffers).map Packet.addressee)) := by
  have isAnswered : cmd.answered = !cmd.posted := by
    simp [DRAMCommand.answered, isLast, isData]
  unfold answerAtomic at answered
  split at answered
  · rename_i posted
    obtain rfl := Outcome.pure_eq_ok.mp answered
    rw [due_singleton, isAnswered, posted]
    exact ⟨le_refl _, fun _ => .refl _⟩
  · rename_i notPosted
    rw [due_singleton, isAnswered, Bool.eq_false_iff.mpr notPosted]
    exact respond_answers answered

theorem writeBack_queuing (tracked : Tracked c v) {cmd : DRAMCommand}
    (atomic : v.atomicCMD = some cmd) : ((v.writeBack c cmd).queuing c).Perm (v.queuing c) := by
  have isAtomic := (tracked.operating cmd atomic).1
  have member : cmd ∈ v.reading := by
    rw [reading_eq, atomic]
    exact List.mem_append_left _ (List.mem_singleton_self cmd)
  have isWrite : (atmRstCMD c cmd).owing = false ∧ (atmRstCMD c cmd).requested = true := by
    cases close : c.openPage <;>
      simp [atmRstCMD, close, isAtomic, owing, requested, DRAMCommandType.isRead,
        DRAMCommandType.isWrite]
  unfold writeBack
  split
  · exact .refl _
  · have inBanks : (atmRstCMD c cmd).bank < c.numBanks := (tracked.reading cmd member).2.1
    have pushed := (tracked.stored.pushFront inBanks isWrite.2).2.filter DRAMCommand.owing
    rw [List.filter_cons_of_neg (by rw [isWrite.1]; decide)] at pushed
    exact pushed.map _

theorem writeBack_same (v : VaultController) (cmd : DRAMCommand) :
    (v.writeBack c cmd).refused = v.refused ∧ (v.writeBack c cmd).pcuPacket = v.pcuPacket ∧
      (v.writeBack c cmd).upBuffers = v.upBuffers ∧ (v.writeBack c cmd).inFlight = v.inFlight := by
  unfold writeBack
  split
  all_goals exact ⟨rfl, rfl, rfl, rfl⟩

theorem atomicOperation_answers (tracked : Tracked c v) (operated : v.atomicOperation c = .ok v') :
    Answering c v v' := by
  unfold atomicOperation at operated
  cases atomic : v.atomicCMD with
  | none =>
    simp only [atomic] at operated
    obtain rfl := Outcome.pure_eq_ok.mp operated
    exact .refl v
  | some cmd =>
    simp only [atomic] at operated
    split at operated
    · obtain ⟨v₁, answered, operated⟩ := Outcome.bind_eq_ok.mp operated
      obtain rfl := Outcome.pure_eq_ok.mp operated
      have member : cmd ∈ v.reading := by
        rw [reading_eq, atomic]
        exact List.mem_append_left _ (List.mem_singleton_self cmd)
      obtain ⟨less, moved⟩ := answerAtomic_answers answered (tracked.operating cmd atomic).2
        (tracked.reading cmd member).1
      obtain ⟨refused, pcuPacket, upBuffers, inFlight⟩ := writeBack_same (c := c) v cmd
      have aside := answerAtomic_aside answered
      rw [refused] at less moved
      rw [pcuPacket, upBuffers] at moved
      have flying : (due v.inFlight).Perm (due v₁.endAtomic.inFlight ++ due [cmd]) := by
        rw [← inFlight, ← inFlight_of_aside aside]
        have atomic₁ : v₁.atomicCMD = some cmd := by
          rw [aside.atomicCMD]
          unfold writeBack
          split
          all_goals exact atomic
        simp only [VaultController.inFlight, endAtomic, atomic₁, due_append, Option.toList_some,
          Option.toList_none, List.append_nil]
        rw [List.perm_iff_count]
        intro other
        simp only [List.count_append]
        omega
      have queuing : (v₁.endAtomic.queuing c).Perm (v.queuing c) := by
        rw [show v₁.endAtomic.queuing c = (v.writeBack c cmd).queuing c from
          queuing_of_queue (by rw [← aside.commandQueue]; rfl)]
        exact writeBack_queuing tracked atomic
      refine ⟨less, fun same => ?_⟩
      have moved := moved same
      rw [waiting, waiting]
      change ((v₁.pcuPacket ++ v₁.upBuffers).map _ ++ _).Perm _
      rw [List.perm_iff_count] at moved flying queuing ⊢
      intro other
      have moved := moved other
      have flying := flying other
      have queuing := queuing other
      simp only [List.count_append] at moved flying queuing ⊢
      omega
    · obtain rfl := Outcome.pure_eq_ok.mp operated
      exact .of_inFlight rfl rfl rfl rfl (.refl _)

/-! ## The rest of a cycle -/

theorem flushPcu_answers (v : VaultController) : Answering c v v.flushPcu := by
  have aside := flushPcu_aside v
  have moved : v.flushPcu.refused = v.refused ∧
      (v.flushPcu.pcuPacket ++ v.flushPcu.upBuffers).Perm (v.pcuPacket ++ v.upBuffers) := by
    unfold flushPcu
    split
    · exact ⟨rfl, .refl _⟩
    · rename_i packet rest isPcu
      split
      · unfold receiveUp
        split
        · rename_i received
          split at received
          · obtain rfl := Option.some.inj received
            refine ⟨rfl, ?_⟩
            show (rest ++ (v.upBuffers ++ [packet])).Perm _
            rw [isPcu, ← List.append_assoc, List.cons_append]
            exact List.perm_append_comm
          · cases received
        · exact ⟨rfl, .refl _⟩
      · exact ⟨rfl, .refl _⟩
  refine ⟨by rw [moved.1], fun _ => ?_⟩
  have sameQueue : v.flushPcu.queuing c = v.queuing c :=
    queuing_of_queue (by rw [aside.commandQueue])
  rw [waiting, waiting, inFlight_of_aside aside, sameQueue]
  exact (moved.2.map _).append_right _

theorem enablePowerdown_answers (v : VaultController) :
    Answering c v (v.enablePowerdown c).countDelays := by
  have same : (v.enablePowerdown c).refused = v.refused ∧
      (v.enablePowerdown c).pcuPacket = v.pcuPacket ∧
      (v.enablePowerdown c).upBuffers = v.upBuffers ∧
      (v.enablePowerdown c).inFlight = v.inFlight := by
    unfold enablePowerdown
    split
    · split
      · unfold DRAM.powerDown
        split
        · rename_i isDown
          split at isDown
          · obtain ⟨rfl, _⟩ := Prod.mk.inj isDown
            exact ⟨rfl, rfl, rfl, rfl⟩
          · cases isDown
        · exact ⟨rfl, rfl, rfl, rfl⟩
      · split
        all_goals exact ⟨rfl, rfl, rfl, rfl⟩
    · exact ⟨rfl, rfl, rfl, rfl⟩
  obtain ⟨refused, pcuPacket, upBuffers, inFlight⟩ := same
  refine ⟨by rw [countDelays, refused], fun _ => ?_⟩
  have ticked : ((v.enablePowerdown c).pcuPacket.map Packet.tick).map Packet.addressee =
      v.pcuPacket.map Packet.addressee := by
    rw [pcuPacket, List.map_map]
    rfl
  rw [waiting, waiting, queuing_of_queue (enablePowerdown_same v).queue, List.map_append,
    List.map_append]
  show (((v.enablePowerdown c).pcuPacket.map Packet.tick).map _ ++
    (v.enablePowerdown c).upBuffers.map _ ++ (_ ++ due (v.enablePowerdown c).inFlight)).Perm _
  rw [ticked, upBuffers, inFlight]

/-- Read data that returns is answered, or an atomic operates on it. -/
theorem returnCommand_answers {cmd : DRAMCommand} {consumed : Bool} (tracked : Tracked c v)
    (isData : v.dram.readData = some cmd) (idle : v.atomicCMD = none)
    (asked : cmd.atomic = false → cmd.posted = false)
    (returned : v.returnCommand cmd = .ok (v', consumed)) :
    Answering c v (if consumed then v'.setDram (dropData v'.dram) else v') := by
  have flying : (due v.inFlight).Perm (due [cmd] ++ due (v.setDram (dropData v.dram)).inFlight) := by
    simp only [inFlight, isData, idle, setDram, dropData, due_append, Option.toList_some,
      Option.toList_none, List.append_nil]
    rw [List.perm_iff_count]
    intro other
    simp only [List.count_append]
    omega
  have isReadData : cmd.commandType = .READ_DATA := by
    refine (tracked.reading cmd ?_).1
    rw [reading_eq, behind, isData]
    exact List.mem_append_right _ (List.mem_append_left _ (List.mem_singleton_self cmd))
  have isAnswered : cmd.answered = (cmd.lastCMD && !cmd.posted) := by
    simp [DRAMCommand.answered, isReadData]
  unfold returnCommand at returned
  split at returned
  · cases returned
  · split at returned
    · cases isLast : cmd.lastCMD with
      | false =>
        simp only [isLast, Bool.false_eq_true, if_false] at returned
        obtain ⟨rfl, rfl⟩ := Prod.mk.inj (Outcome.pure_eq_ok.mp returned)
        refine .of_inFlight rfl rfl rfl rfl ?_
        rw [due_singleton, isAnswered, isLast] at flying
        exact flying.symm
      | true =>
        simp only [isLast, if_true] at returned
        cases isAtomic : cmd.atomic with
        | true =>
          simp only [isAtomic, if_true] at returned
          obtain ⟨rfl, rfl⟩ := Prod.mk.inj (Outcome.pure_eq_ok.mp returned)
          refine .of_inFlight rfl rfl rfl rfl ?_
          simp only [if_true, inFlight, setDram, dropData, dropPending, startAtomic, idle, isData,
            due_append, Option.toList_some, Option.toList_none, List.append_nil]
          exact .refl _
        | false =>
          simp only [isAtomic, Bool.false_eq_true, if_false] at returned
          obtain ⟨⟨v₁, taken⟩, made, returned⟩ := Outcome.bind_eq_ok.mp returned
          have aside := makeRespondPacket_aside made
          have sameQueue : v₁.queuing c = v.queuing c :=
            queuing_of_queue (by rw [aside.commandQueue])
          cases taken with
          | true =>
            obtain ⟨rfl, rfl⟩ := Prod.mk.inj (Outcome.pure_eq_ok.mp returned)
            obtain ⟨_, refused, moved⟩ | ⟨none, _⟩ := makeRespondPacket_answers made
            · refine ⟨by rw [← refused]; exact le_refl _, fun _ => ?_⟩
              have flown : due ((v₁.dropPending cmd.packetTAG).setDram
                  (dropData (v₁.dropPending cmd.packetTAG).dram)).inFlight =
                  due (v.setDram (dropData v.dram)).inFlight := by
                simp only [inFlight, setDram, dropPending, dropData, aside.cmdBus, aside.dram,
                  aside.atomicCMD, aside.writeData, aside.dataBus]
              rw [if_pos rfl, waiting, waiting, flown]
              change ((v₁.pcuPacket ++ v₁.upBuffers).map _ ++ (v₁.queuing c ++ _)).Perm _
              rw [due_singleton, isAnswered, isLast, asked isAtomic] at flying
              rw [sameQueue]
              rw [List.perm_iff_count] at moved flying ⊢
              intro other
              have moved := moved other
              have flying := flying other
              simp only [List.count_append, List.count_cons, List.count_nil, Bool.not_false,
                Bool.and_self, if_true] at moved flying ⊢
              omega
            · cases none
          | false =>
            obtain ⟨rfl, rfl⟩ := Prod.mk.inj (Outcome.pure_eq_ok.mp returned)
            obtain ⟨none, _⟩ | ⟨_, refused⟩ := makeRespondPacket_answers made
            · cases none
            · refine ⟨?_, fun same => ?_⟩
              · rw [if_neg Bool.false_ne_true]
                omega
              · rw [if_neg Bool.false_ne_true] at same
                omega
    · cases returned

theorem returnData_answers (reserves : Reserves c 2 v) (tracked : Tracked c v)
    (returned : v.returnData = .ok v') : Answering c v v' := by
  unfold returnData at returned
  cases isData : v.dram.readData with
  | none =>
    simp only [isData] at returned
    obtain rfl := Outcome.pure_eq_ok.mp returned
    exact .refl v
  | some cmd =>
    simp only [isData] at returned
    have counted : SameReads v (v.setDram (countData v.dram)) :=
      ⟨rfl, rfl, rfl, rfl, rfl, rfl, rfl, fun _ member => member, rfl⟩
    have unchanged : Answering c v (v.setDram (countData v.dram)) :=
      .of_inFlight rfl rfl rfl rfl (.refl _)
    split at returned
    · rename_i due
      obtain ⟨⟨v₁, consumed⟩, isReturned, returned⟩ := Outcome.bind_eq_ok.mp returned
      -- the atomic in operation has ended before
      have idle : v.atomicCMD = none := by
        by_contra operating
        have := reserves.alone operating (by rw [isData]; exact fun h => by cases h)
        omega
      have facts := reserves.reading cmd (by rw [isData]; rfl)
      have answers := returnCommand_answers (counted.tracked tracked) isData idle
        (facts.1.read (.inr facts.2)) isReturned
      cases consumed with
      | true =>
        obtain rfl := Outcome.pure_eq_ok.mp returned
        exact unchanged.trans answers
      | false =>
        obtain rfl := Outcome.pure_eq_ok.mp returned
        exact unchanged.trans answers
    · obtain rfl := Outcome.pure_eq_ok.mp returned
      exact unchanged

theorem updateDram_answers (reserves : Reserves c 2 v) (tracked : Tracked c v)
    (updated : v.updateDram c = .ok v') : Answering c v v' := by
  obtain ⟨v₁, returned, updated⟩ := Outcome.bind_eq_ok.mp updated
  obtain rfl := Outcome.pure_eq_ok.mp updated
  have banks : SameReads v (v.setDram (v.dram.updateBanks c)) :=
    ⟨rfl, rfl, rfl, rfl, rfl, rfl, rfl, fun _ member => member, rfl⟩
  have reserves₀ : Reserves c 2 (v.setDram (v.dram.updateBanks c)) := { reserves with }
  have answers := returnData_answers reserves₀ (banks.tracked tracked) returned
  have first : Answering c v (v.setDram (v.dram.updateBanks c)) :=
    .of_inFlight rfl rfl rfl rfl (.refl _)
  refine (first.trans answers).trans (.of_inFlight rfl rfl rfl rfl ?_)
  have counted : ∀ entries : List (DRAMCommand × ℕ),
      (entries.map fun entry => (entry.1, entry.2 - 1)).map Prod.fst = entries.map Prod.fst := by
    intro entries
    simp
  simp only [inFlight, setDram, DRAM.step, countReturns, counted]
  obtain ⟨same, _⟩ | ⟨cmd, rest, isData, isReturn, same⟩ := takeBus_cases (c := c) v₁.dram
  · rw [same]
  · rw [same, isData, isReturn]
    simp only [putOnBus, List.map_cons, due_append, Option.toList_some, Option.toList_none,
      List.append_nil]
    rw [← List.singleton_append (l := rest.map Prod.fst), due_append, List.perm_iff_count]
    intro other
    simp only [List.count_append]
    omega

end VaultController

/-! ## Runs -/

namespace VaultLedger

open VaultController

variable {c : DRAMConfig} {s s' : VaultLedger}

/-- Whoever has asked is answered or waits. -/
structure Accounted (c : DRAMConfig) (s : VaultLedger) : Prop where
  tracked : Tracked c s.vault
  reserves : Reserves c 1 s.vault
  waiting : ((s.requests.filter (asks c)).map Packet.requester).Perm
    (s.responses.map Packet.addressee ++ s.vault.waiting c)

/-- The response that is taken is the first of those that wait in the buffer. -/
theorem sendUp_waiting (v : VaultController) (accepts : Bool) :
    (v.waiting c).Perm ((taken v accepts).map Packet.addressee ++ (v.sendUp accepts).waiting c) := by
  unfold taken sendUp
  cases accepts with
  | false => exact .refl _
  | true =>
    simp only [if_true]
    cases isUp : v.upBuffers with
    | nil =>
      have same : v.dropUp = v := by
        unfold dropUp
        rw [isUp]
        exact congrArg (fun upBuffers => { v with upBuffers := upBuffers }) isUp.symm
      rw [same]
      exact .refl _
    | cons packet rest =>
      have dropped : v.dropUp.waiting c = (v.pcuPacket ++ rest).map Packet.addressee ++
          (v.queuing c ++ due v.inFlight) := by
        rw [VaultController.waiting, dropUp, isUp]
        rfl
      rw [dropped, VaultController.waiting, isUp, List.perm_iff_count]
      intro other
      simp only [List.head?_cons, Option.toList_some, List.map_append, List.map_cons, List.map_nil,
        List.count_append, List.count_cons, List.count_nil]
      omega

theorem cycle_accounted (banks : 0 < c.numBanks) (wide : 2 ≤ c.BL) (accounted : Accounted c s)
    {accepts : Bool} (cycled : s.cycle c accepts = .ok s') : Accounted c s' := by
  obtain ⟨tracked, reserves, waits⟩ := accounted
  obtain ⟨counted, converted, popped, operated, stages⟩ := cycle_stages cycled
  -- the stages are those of `Update`
  have updated : s.vault.update c accepts = .ok (operated.enablePowerdown c).countDelays := by
    unfold VaultController.update
    rw [stages.counts]
    simp only [Outcome.ok_bind, stages.converts, stages.pops, stages.operates]
    rfl
  have reserves₂ := update_reserves reserves updated
  have reserves' := updateDram_reserves wide reserves₂ stages.returns
  have tracked₀ := (SameReads.of_aside (flushPcu_aside s.vault)).tracked tracked
  obtain ⟨tracked₁, free₁⟩ := (updateCountdown_tracked tracked₀).holds stages.counts
  obtain ⟨tracked₂, free₂⟩ := (convert_tracked banks tracked₁ free₁).holds stages.converts
  have sent := sendUp_aside converted accepts
  have tracked₂' := (SameReads.of_aside sent).tracked tracked₂
  have free₂' := sent.cmdBus.trans free₂
  have tracked₃ := (popCommand_tracked tracked₂' free₂').holds stages.pops
  have tracked₄ := (atomicOperation_tracked tracked₃).holds stages.operates
  have tracked₅ := (enablePowerdown_same (c := c) operated).tracked tracked₄
  have early := (flushPcu_answers s.vault).trans (updateCountdown_answers tracked₀ stages.counts)
  obtain ⟨sameRefused, begun⟩ := convert_answers banks tracked₁.stored stages.converts
  have late := (((popCommand_answers tracked₂' free₂' stages.pops).trans
    (atomicOperation_answers tracked₃ stages.operates)).trans
      (enablePowerdown_answers operated)).trans
        (updateDram_answers reserves₂ tracked₅ stages.returns)
  -- no response has been refused
  have none : s.vault.refused.length = 0 := by rw [reserves.refused]; rfl
  have none' : s'.vault.refused.length = 0 := by rw [reserves'.refused]; rfl
  have sentRefused : (converted.sendUp accepts).refused = converted.refused := by
    unfold sendUp
    split <;> rfl
  have grows := early.refused
  have growsOn := late.refused
  rw [sentRefused, sameRefused] at growsOn
  have earlyWaiting := early.waiting (by omega)
  have lateWaiting := late.waiting (by rw [sentRefused, sameRefused]; omega)
  refine ⟨(updateDram_tracked tracked₅).holds stages.returns, reserves', ?_⟩
  have sending := sendUp_waiting (c := c) converted accepts
  rw [stages.requests, stages.responses, List.filter_append, List.map_append, List.map_append]
  rw [List.perm_iff_count] at waits earlyWaiting begun sending lateWaiting ⊢
  intro other
  have waits := waits other
  have earlyWaiting := earlyWaiting other
  have begun := begun other
  have sending := sending other
  have lateWaiting := lateWaiting other
  simp only [List.count_append] at waits earlyWaiting begun sending lateWaiting ⊢
  omega

/-- The switch offers requests that a vault can convert and that have the response which is
    promised to them. -/
def OffersAsked (c : DRAMConfig) (s : VaultLedger) (action : Action) (s' : VaultLedger) : Prop :=
  OffersAcceptable c s.vault action s'.vault ∧ OffersAnswerable c s.vault action s'.vault

instance (s : VaultLedger) (action : Action) (s' : VaultLedger) :
    Decidable (OffersAsked c s action s') := by
  unfold OffersAsked
  infer_instance

theorem step_accounted (banks : 0 < c.numBanks) (wide : 2 ≤ c.BL) {action : Action}
    (accounted : Accounted c s) (stepped : s.step c action = .ok s')
    (asked : OffersAsked c s action s') : Accounted c s' := by
  cases action with
  | offer packet =>
    obtain rfl := Outcome.pure_eq_ok.mp stepped
    have offered : s.vault.step c (.offer packet) =
        .ok ((s.vault.receiveDown packet).getD s.vault) := rfl
    refine ⟨step_tracked banks accounted.tracked offered asked.1,
      step_reserves wide accounted.reserves offered asked.2, ?_⟩
    have same : ((s.vault.receiveDown packet).getD s.vault).waiting c = s.vault.waiting c := by
      unfold receiveDown
      split <;> rfl
    rw [show VaultController.waiting c _ = _ from same]
    exact accounted.waiting
  | cycle accepts => exact cycle_accounted banks wide accounted stepped

theorem start_accounted (id : ℕ) : Accounted c (start c id) where
  tracked := start_tracked id
  reserves := start_reserves id
  waiting := by
    have empty : queued c (start c id).vault.commandQueue = [] :=
      List.flatMap_eq_nil_iff.mpr fun _ _ => rfl
    have none : (start c id).vault.waiting c = [] := by
      rw [VaultController.waiting, queuing, empty]
      rfl
    rw [none]
    exact .refl _

/-- In every run, those who have asked are those who have been answered, with the response taken
    by the crossbar switch, and those who still wait: each request gets one response, and the cube
    that has asked gets it. -/
theorem run_requesters (banks : 0 < c.numBanks) {id : ℕ} {actions : List Action}
    (blocks : 64 ≤ c.addressMapping)
    (run : Transition.Run (step c) (OffersAsked c) (start c id) actions s) :
    ((s.requests.filter (asks c)).map Packet.requester).Perm
      (s.responses.map Packet.addressee ++ s.vault.waiting c) := by
  have wide : 2 ≤ c.BL := (Nat.le_div_iff_mul_le (by decide)).mpr blocks
  have accounted : Accounted c s := run.invariant (start_accounted id) fun _ _ _ accounted =>
    step_accounted banks wide accounted
  exact accounted.waiting

/-- A read and a posted write, from different cubes. -/
def readAndPost (cycles : ℕ) : List Action :=
  [.offer
      { packetType := .REQUEST, CMD := .RD64, TAG := 1, reqDataSize := 64, SRCCUB := 3
        orig_addr := 0x40 },
    .offer { packetType := .REQUEST, CMD := .P_WR64, TAG := 2, reqDataSize := 64, SRCCUB := 4 }] ++
      List.replicate cycles (.cycle true)

theorem run_requesters_readAndPost : ∃ s,
    Transition.Run (step {}) (OffersAsked {}) (start {} 0) (readAndPost 60) s ∧
      s.responses.map Packet.addressee = [⟨1, 3, 0x40, 0⟩] ∧
      ((s.requests.filter (asks {})).map Packet.requester).Perm
        (s.responses.map Packet.addressee ++ s.vault.waiting {}) := by
  have executed : (Transition.execute (step {}) (OffersAsked {}) (start {} 0)
      (readAndPost 60)).map (fun s => s.responses.map Packet.addressee) =
        some [⟨1, 3, 0x40, 0⟩] := by decide +kernel
  obtain ⟨s, run, responses⟩ := Transition.execute_reaches executed
  exact ⟨s, run, responses, run_requesters (by decide) (by decide) run⟩

/-! ## Pending reads -/

/-- A run on requests that have the response which is promised to them. -/
theorem run_asked {id : ℕ} {actions : List Action}
    (run : Transition.Run (step c) (Offers c) (start c id) actions s)
    (answerable : ∀ packet, .offer packet ∈ actions → Answerable c packet) :
    Transition.Run (step c) (OffersAsked c) (start c id) actions s :=
  run.strengthen fun action member _ _ acceptable => by
    cases action with
    | offer packet => exact ⟨acceptable, answerable packet member⟩
    | cycle accepts => exact ⟨acceptable, trivial⟩

/-- In every run, the pending tags are those of the reads that have been converted and have not
    returned, so that returning data finds its request.  Those who have asked are answered once,
    where the space for their responses is reserved. -/
theorem pending_reads_answered (banks : 0 < c.numBanks) {id : ℕ} {actions : List Action}
    (run : Transition.Run (step c) (Offers c) (start c id) actions s) :
    s.vault.pendingReadData.Perm ((s.vault.unreturned c).map DRAMCommand.packetTAG) ∧
      (∀ accepts, s.vault.cycle c accepts ≠ .error .noMatch) ∧
      (64 ≤ c.addressMapping → (∀ packet, .offer packet ∈ actions → Answerable c packet) →
        ((s.requests.filter (asks c)).map Packet.requester).Perm
          (s.responses.map Packet.addressee ++ s.vault.waiting c)) := by
  have balanced : Balanced c s := run.invariant (start_balanced id) fun _ _ _ balanced =>
    step_balanced banks balanced
  have tracked := balanced.tracked
  refine ⟨tracked.tags, fun accepts stops => ?_, fun blocks answerable => ?_⟩
  · have keeps := cycle_tracked banks tracked accepts
    rw [stops] at keeps
    exact keeps VaultError.noConfusion
  · have wide : 2 ≤ c.BL := (Nat.le_div_iff_mul_le (by decide)).mpr blocks
    have accounted : Accounted c s := (run_asked run answerable).invariant (start_accounted id)
      fun _ _ _ accounted => step_accounted banks wide accounted
    exact accounted.waiting

theorem pending_reads_answered_readAndPost : ∃ s,
    Transition.Run (step {}) (Offers {}) (start {} 0) (readAndPost 60) s ∧
      s.responses.map Packet.addressee = [⟨1, 3, 0x40, 0⟩] ∧
      s.vault.pendingReadData.Perm ((s.vault.unreturned {}).map DRAMCommand.packetTAG) ∧
      (∀ accepts, s.vault.cycle {} accepts ≠ .error .noMatch) ∧
      ((s.requests.filter (asks {})).map Packet.requester).Perm
        (s.responses.map Packet.addressee ++ s.vault.waiting {}) := by
  have executed : (Transition.execute (step {}) (Offers {}) (start {} 0)
      (readAndPost 60)).map (fun s => s.responses.map Packet.addressee) =
        some [⟨1, 3, 0x40, 0⟩] := by decide +kernel
  obtain ⟨s, run, responses⟩ := Transition.execute_reaches executed
  obtain ⟨tags, matching, answers⟩ := pending_reads_answered (by decide) run
  refine ⟨s, run, responses, tags, matching, answers (by decide) fun packet member => ?_⟩
  simp only [readAndPost, List.cons_append, List.nil_append, List.mem_cons, Action.offer.injEq,
    List.mem_replicate, reduceCtorEq, and_false, or_false] at member
  rcases member with rfl | rfl
  · decide
  · decide

/-- A posted atomic. -/
def postedAdd (cycles : ℕ) : List Action :=
  .offer { packetType := .REQUEST, CMD := .P_ADD16, TAG := 2, reqDataSize := 16 } ::
    List.replicate cycles (.cycle true)

/-- The tags of reads are pending before a read is issued, and a posted atomic has reads but gets
    no response. -/
theorem pending_before_issued : (∃ s,
      Transition.Run (step {}) (Offers {}) (start {} 0) (readTwice 3) s ∧
        ¬ s.vault.pendingReadData.Perm (s.vault.behind.map DRAMCommand.packetTAG)) ∧
    ∃ s, Transition.Run (step {}) (Offers {}) (start {} 0) (postedAdd 100) s ∧
      s.requests.map Packet.CMD = [.P_ADD16] ∧ s.vault.pendingReadData = [] ∧
        s.vault.waiting {} = [] ∧ s.responses = [] := by
  constructor
  · have executed : (Transition.execute (step {}) (Offers {}) (start {} 0) (readTwice 3)).map
        (fun s => (s.vault.pendingReadData, s.vault.behind.map DRAMCommand.packetTAG)) =
          some ([7, 7, 7, 7], []) := by decide +kernel
    obtain ⟨s, run, facts⟩ := Transition.execute_reaches executed
    obtain ⟨pending, none⟩ := Prod.mk.inj facts
    refine ⟨s, run, fun same => ?_⟩
    rw [pending, none] at same
    exact absurd same.length_eq (by decide)
  · have executed : (Transition.execute (step {}) (Offers {}) (start {} 0) (postedAdd 100)).map
        (fun s => (s.requests.map Packet.CMD, s.vault.pendingReadData, s.vault.waiting {},
          s.responses.length)) = some ([.P_ADD16], [], [], 0) := by decide +kernel
    obtain ⟨s, run, facts⟩ := Transition.execute_reaches executed
    simp only [Prod.mk.injEq] at facts
    obtain ⟨requests, pending, waiting, responses⟩ := facts
    exact ⟨s, run, requests, pending, waiting,
      List.length_eq_zero_iff.mp responses⟩

end VaultLedger

end ActiveRouting

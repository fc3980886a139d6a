import ActiveRouting.Library.Run
import ActiveRouting.Link.SlaveTokens

/-!
# Flow control

The tokens of a direction and a channel over all places of both ends, in every
state of an error-free run.
-/

namespace ActiveRouting

open Outcome Transition

namespace LinkSystem

open LinkMaster LinkSlave

/-- All the places where a token of a channel of the direction from end `x` can be. -/
def tokens (sys : LinkSystem) (x : Bool) (channel : Channel) : ℕ :=
  -- held by the master, or paid for packets on their way
  (sys.side x).master.tokenCount channel +
    channel.load ((sys.side x).master.linkRxTx ++ (sys.side x).inFlightPacket.toList ++
      (sys.side (!x)).slave.linkRxTx) +
  -- occupied by packets in the slave's buffer
    occupancy ((sys.side (!x)).slave.buffer channel) +
  -- credits waiting at the other master, and on their way back
    channel.credits ((sys.side (!x)).master.upBuffers ++ (sys.side (!x)).master.downBuffers) +
    channel.credits ((sys.side (!x)).master.linkRxTx ++ (sys.side (!x)).inFlightPacket.toList ++
      (sys.side x).slave.linkRxTx)

/-- No end is in a retry. -/
def ErrorFree (sys : LinkSystem) : Prop :=
  ∀ x, (sys.side x).master.currentState = .NORMAL ∧ (sys.side x).slave.currentState = .NORMAL

/-- Components hand responses to the up buffer and requests to the down buffer. -/
def Action.Proper : Action → Prop
  | .receiveUp _ packet => packet.packetType = .RESPONSE ∧ packet.flowCommand = false
  | .receiveDown _ packet => packet.packetType = .REQUEST ∧ packet.flowCommand = false
  | _ => True

/-- The invariant of an error-free run. -/
structure FlowControlled (sys : LinkSystem) : Prop where
  conserved : ∀ x channel, sys.tokens x channel = maxLinkBuf
  errorFree : sys.ErrorFree
  master : ∀ x, (sys.side x).master.Orderly
  slave : ∀ x, (sys.side x).slave.Orderly
  arrived : ∀ x, ∀ packet ∈ (sys.side x).slave.linkRxTx, packet.Regular
  inFlight : ∀ x, ∀ packet ∈ (sys.side x).inFlightPacket, packet.Regular

/-- The places of a token, by node: the direction's own node and the node at
    the other end. -/
theorem tokens_eq (sys : LinkSystem) (x : Bool) (channel : Channel) :
    sys.tokens x channel =
      ((sys.side x).master.held channel + channel.credits (sys.side x).slave.linkRxTx) +
        ((sys.side (!x)).master.owed channel + channel.load (sys.side (!x)).slave.linkRxTx +
          occupancy ((sys.side (!x)).slave.buffer channel)) +
        (channel.load (sys.side x).inFlightPacket.toList +
          channel.credits (sys.side (!x)).inFlightPacket.toList) := by
  simp only [tokens, held, owed, Channel.load_append, Channel.credits_append]
  omega

theorem flowControlled_init (masterDown slaveDown : Bool → Bool) :
    FlowControlled (init masterDown slaveDown) where
  conserved x channel := by cases channel <;> rfl
  errorFree x := ⟨rfl, rfl⟩
  master x := by
    constructor
    · exact fun packet member => nomatch member
    · exact fun packet member => nomatch member
    · exact fun packet member => nomatch member
    · intro channel
      cases channel <;> exact Nat.le_refl _
  slave x channel packet member := by cases channel <;> cases member
  arrived x packet member := nomatch member
  inFlight x packet member := nomatch member

/-- A node may change as long as it keeps what it holds and owes. -/
theorem FlowControlled.node {sys sys' : LinkSystem} (flow : FlowControlled sys) (x : Bool)
    {side' : LinkSide} (sideX : sys'.side x = side') (other : sys'.side (!x) = sys.side (!x))
    (node : NodeKeeps (sys.side x).master (sys.side x).slave (sys.side x).slave.linkRxTx
      side'.master side'.slave side'.slave.linkRxTx)
    (inFlight : side'.inFlightPacket = (sys.side x).inFlightPacket) (errorFree : sys'.ErrorFree) :
    FlowControlled sys' := by
  have sides : ∀ y, y = x ∨ y = !x := fun y => by cases x <;> cases y <;> simp
  refine ⟨fun y channel => ?_, errorFree, fun y => ?_, fun y => ?_, fun y => ?_, fun y => ?_⟩
  · have conserved := flow.conserved y channel
    rw [tokens_eq] at conserved ⊢
    have held := node.held channel
    have owed := node.owed channel
    cases sides y with
    | inl same =>
      subst same
      rw [sideX, other, inFlight]
      omega
    | inr same =>
      subst same
      rw [Bool.not_not] at conserved ⊢
      rw [sideX, other, inFlight]
      omega
  · cases sides y with
    | inl same =>
      subst same
      rw [sideX]
      exact node.master
    | inr same =>
      subst same
      rw [other]
      exact flow.master _
  · cases sides y with
    | inl same =>
      subst same
      rw [sideX]
      exact node.slave
    | inr same =>
      subst same
      rw [other]
      exact flow.slave _
  · cases sides y with
    | inl same =>
      subst same
      rw [sideX]
      exact node.link
    | inr same =>
      subst same
      rw [other]
      exact flow.arrived _
  · cases sides y with
    | inl same =>
      subst same
      rw [sideX]
      exact inFlight ▸ flow.inFlight _
    | inr same =>
      subst same
      rw [other]
      exact flow.inFlight _

theorem FlowControlled.bounded {sys : LinkSystem} (flow : FlowControlled sys) (x : Bool)
    (channel : Channel) :
    (sys.side x).master.held channel + channel.credits (sys.side x).slave.linkRxTx ≤ maxLinkBuf ∧
      channel.load (sys.side x).slave.linkRxTx + occupancy ((sys.side x).slave.buffer channel) ≤
        maxLinkBuf := by
  have mine := flow.conserved x channel
  have other := flow.conserved (!x) channel
  rw [tokens_eq] at mine other
  rw [Bool.not_not] at other
  omega

/-- A change of a master alone. -/
theorem FlowControlled.master_keeps {sys : LinkSystem} (flow : FlowControlled sys) {x : Bool}
    {m : LinkMaster} (keeps : Keeps (sys.side x).master m) :
    NodeKeeps (sys.side x).master (sys.side x).slave (sys.side x).slave.linkRxTx
      m (sys.side x).slave (sys.side x).slave.linkRxTx where
  held channel := by rw [keeps.held]
  owed channel := by rw [keeps.owed]
  normal := keeps.state.trans (flow.errorFree x).1
  master := keeps.orderly
  slave := flow.slave x
  link := flow.arrived x

/-- What `Link::Update` does to the tokens of the end it sends from and of the
    slave it sends to. -/
structure Transfers (side : LinkSide) (slave : LinkSlave) (side' : LinkSide) (slave' : LinkSlave) :
    Prop where
  load : ∀ channel : Channel, side'.master.held channel +
      channel.load side'.inFlightPacket.toList + channel.load slave'.linkRxTx =
    side.master.held channel + channel.load side.inFlightPacket.toList +
      channel.load slave.linkRxTx
  credits : ∀ channel : Channel, side'.master.owed channel +
      channel.credits side'.inFlightPacket.toList + channel.credits slave'.linkRxTx =
    side.master.owed channel + channel.credits side.inFlightPacket.toList +
      channel.credits slave.linkRxTx
  sideSlave : side'.slave = side.slave
  same : SameBuffers slave slave'
  state : side'.master.currentState = side.master.currentState
  master : side'.master.Orderly
  inFlight : ∀ packet ∈ side'.inFlightPacket, packet.Regular
  arrived : ∀ packet ∈ slave'.linkRxTx, packet.Regular

theorem Transfers.trans {side side' side'' : LinkSide} {slave slave' slave'' : LinkSlave}
    (first : Transfers side slave side' slave') (second : Transfers side' slave' side'' slave'') :
    Transfers side slave side'' slave'' where
  load channel := (second.load channel).trans (first.load channel)
  credits channel := (second.credits channel).trans (first.credits channel)
  sideSlave := second.sideSlave.trans first.sideSlave
  same := ⟨second.same.up.trans first.same.up, second.same.down.trans first.same.down,
    second.same.state.trans first.same.state⟩
  state := second.state.trans first.state
  master := second.master
  inFlight := second.inFlight
  arrived := second.arrived

theorem noisePacket_same (noise : Bool) (packet : Packet) :
    SamePacket packet ((noisePacket noise packet).withDelay 1) := by
  rw [noisePacket]
  split
  · exact ⟨fun channel => by cases channel <;> rfl, fun _ => rfl,
      fun regular => regular.congr rfl rfl rfl rfl⟩
  · exact ⟨fun channel => by cases channel <;> rfl, fun _ => rfl,
      fun regular => regular.congr rfl rfl rfl rfl⟩

section Transfers

variable {side : LinkSide} {slave : LinkSlave} (orderly : side.master.Orderly)
  (inFlight : ∀ packet ∈ side.inFlightPacket, packet.Regular)
  (arrived : ∀ packet ∈ slave.linkRxTx, packet.Regular)

include orderly inFlight arrived

theorem startTransmission_transfers : Transfers side slave (startTransmission side) slave := by
  have idle : Transfers side slave side slave :=
    ⟨fun _ => rfl, fun _ => rfl, rfl, ⟨rfl, rfl, rfl⟩, rfl, orderly, inFlight, arrived⟩
  unfold startTransmission
  split
  · rename_i packet rest queued free
    split
    · have member := List.forall_mem_cons.mp (queued ▸ orderly.link)
      refine ⟨fun channel => ?_, fun channel => ?_, rfl, ⟨rfl, rfl, rfl⟩, rfl,
        { orderly with link := member.2 }, ?_, arrived⟩
      · have count : ({ side.master with linkRxTx := rest } : LinkMaster).tokenCount channel =
            side.master.tokenCount channel := by cases channel <;> rfl
        simp only [held, count, queued, free, Channel.load_cons, Option.toList_some,
          Option.toList_none, Channel.load_nil]
        omega
      · simp only [owed, queued, free, Channel.credits_cons, Option.toList_some,
          Option.toList_none, Channel.credits_nil]
        omega
      · intro packet' same
        cases same
        exact member.1
    · exact idle
  · exact idle

theorem transmit_transfers (noise : Bool) :
    Transfers side slave (transmit side slave noise).1 (transmit side slave noise).2 := by
  have idle : ∀ countdown, Transfers side slave { side with inFlightCountdown := countdown } slave :=
    fun _ => ⟨fun _ => rfl, fun _ => rfl, rfl, ⟨rfl, rfl, rfl⟩, rfl, orderly, inFlight, arrived⟩
  unfold transmit
  split
  · dsimp only
    split
    · rename_i packet moving _
      have noisy := noisePacket_same noise packet
      refine ⟨fun channel => ?_, fun channel => ?_, rfl, ⟨rfl, rfl, rfl⟩, rfl, orderly, ?_, ?_⟩
      · simp only [moving, Channel.load_append, Channel.load_cons, Option.toList_some,
          Option.toList_none, Channel.load_nil, noisy.price]
        omega
      · simp only [moving, Channel.credits_append, Channel.credits_cons, Option.toList_some,
          Option.toList_none, Channel.credits_nil, noisy.credit]
        omega
      · exact fun packet none => nomatch none
      · exact List.forall_mem_append.mpr
          ⟨arrived, List.forall_mem_singleton.mpr (noisy.regular (inFlight packet moving))⟩
    · exact idle _
  · exact idle _

theorem tickLink_transfers (lastUpdate : Bool) :
    Transfers side slave (tickLink side lastUpdate) slave := by
  rw [tickLink]
  split
  · refine ⟨fun channel => ?_, fun channel => ?_, rfl, ⟨rfl, rfl, rfl⟩, rfl,
      { orderly with link := regular_tick orderly.link }, inFlight, arrived⟩
    · have count : ({ side.master with linkRxTx := side.master.linkRxTx.map Packet.tick } :
          LinkMaster).tokenCount channel = side.master.tokenCount channel := by
        cases channel <;> rfl
      simp only [held, count, Channel.load_tick]
    · simp only [owed, Channel.credits_tick]
  · exact ⟨fun _ => rfl, fun _ => rfl, rfl, ⟨rfl, rfl, rfl⟩, rfl, orderly, inFlight, arrived⟩

end Transfers

theorem FlowControlled.transfers {sys sys' : LinkSystem} (flow : FlowControlled sys) (x : Bool)
    {side' : LinkSide} {slave' : LinkSlave}
    (transfers : Transfers (sys.side x) (sys.side (!x)).slave side' slave')
    (sideX : sys'.side x = side')
    (sideY : sys'.side (!x) = { sys.side (!x) with slave := slave' }) : FlowControlled sys' := by
  have sides : ∀ y, y = x ∨ y = !x := fun y => by cases x <;> cases y <;> simp
  have slaveOrderly := transfers.same.orderly (flow.slave (!x))
  refine ⟨fun y channel => ?_, fun y => ?_, fun y => ?_, fun y => ?_, fun y => ?_, fun y => ?_⟩
  · have conserved := flow.conserved y channel
    rw [tokens_eq] at conserved ⊢
    have load := transfers.load channel
    have credits := transfers.credits channel
    cases sides y with
    | inl same =>
      subst same
      rw [sideX, sideY, transfers.sideSlave]
      dsimp only
      rw [transfers.same.buffer]
      omega
    | inr same =>
      subst same
      rw [Bool.not_not] at conserved ⊢
      rw [sideX, sideY, transfers.sideSlave]
      dsimp only
      omega
  · cases sides y with
    | inl same =>
      subst same
      rw [sideX, transfers.state, transfers.sideSlave]
      exact flow.errorFree _
    | inr same =>
      subst same
      rw [sideY]
      exact ⟨(flow.errorFree _).1, transfers.same.state.trans (flow.errorFree _).2⟩
  · cases sides y with
    | inl same =>
      subst same
      rw [sideX]
      exact transfers.master
    | inr same =>
      subst same
      rw [sideY]
      exact flow.master _
  · cases sides y with
    | inl same =>
      subst same
      rw [sideX]
      exact transfers.sideSlave ▸ flow.slave _
    | inr same =>
      subst same
      rw [sideY]
      exact slaveOrderly
  · cases sides y with
    | inl same =>
      subst same
      rw [sideX]
      exact transfers.sideSlave ▸ flow.arrived _
    | inr same =>
      subst same
      rw [sideY]
      exact transfers.arrived
  · cases sides y with
    | inl same =>
      subst same
      rw [sideX]
      exact transfers.inFlight
    | inr same =>
      subst same
      rw [sideY]
      exact flow.inFlight _

theorem FlowControlled.linkUpdate {sys : LinkSystem} (flow : FlowControlled sys)
    (x noise lastUpdate : Bool) : FlowControlled (sys.linkUpdate x noise lastUpdate) := by
  have start := startTransmission_transfers (flow.master x) (flow.inFlight x) (flow.arrived (!x))
  have move := transmit_transfers start.master start.inFlight start.arrived noise
  have tick := tickLink_transfers move.master move.inFlight move.arrived lastUpdate
  refine flow.transfers x ((start.trans move).trans tick) ?_ ?_
  · exact (setSide_side_ne _ (by simp) _).trans (setSide_side_self _ _ _)
  · exact setSide_side_self _ _ _

/-- What the environment and the errors may do in an error-free run. -/
def Quiet (_ : LinkSystem) (action : Action) (sys' : LinkSystem) : Prop :=
  action.Proper ∧ sys'.ErrorFree

theorem buffered_of_proper {channel : Channel} {packet : Packet}
    (proper : packet.packetType = channel.packetType ∧ packet.flowCommand = false) :
    packet.Buffered channel := by
  obtain ⟨packetType, command⟩ := proper
  simp only [Packet.flowCommand, decide_eq_false_iff_not, not_or] at command
  refine ⟨?_, ?_, fun flow => ?_, fun free => ?_⟩
  · rw [packetType]
    cases channel <;> decide
  · simp only [carriesTokens, decide_eq_true_eq]
    exact ⟨command.1, command.2.2⟩
  · rcases flow with flow | flow | flow
    exacts [absurd flow command.1, absurd flow command.2.1, absurd flow command.2.2]
  · rcases free with free | free
    exacts [absurd free command.1, absurd free command.2.2]

/-- Every step of an error-free run keeps the invariant. -/
theorem FlowControlled.step {crcCheck : Bool} {sys sys' : LinkSystem} {action : Action}
    (flow : FlowControlled sys) (stepped : sys.step crcCheck action = .ok sys')
    (quiet : Quiet sys action sys') : FlowControlled sys' := by
  obtain ⟨proper, errorFree⟩ := quiet
  cases action with
  | receiveUp x packet =>
    simp only [LinkSystem.step] at stepped
    split at stepped
    · rename_i m received
      obtain rfl := pure_eq_ok.mp stepped
      have keeps := receiveUp_keeps (flow.master x) (buffered_of_proper proper) received
      exact flow.node x (setSide_side_self sys x _) (setSide_side_not sys x _)
        (flow.master_keeps keeps) rfl errorFree
    · exact pure_eq_ok.mp stepped ▸ flow
  | receiveDown x packet =>
    simp only [LinkSystem.step] at stepped
    split at stepped
    · rename_i m received
      obtain rfl := pure_eq_ok.mp stepped
      have keeps := receiveDown_keeps (flow.master x) (buffered_of_proper proper) received
      exact flow.node x (setSide_side_self sys x _) (setSide_side_not sys x _)
        (flow.master_keeps keeps) rfl errorFree
    · exact pure_eq_ok.mp stepped ▸ flow
  | masterUpdate x =>
    obtain ⟨m, updated, stepped⟩ := bind_eq_ok.mp stepped
    obtain rfl := pure_eq_ok.mp stepped
    have side := setSide_side_self sys x { sys.side x with master := m }
    have normal : m.currentState = .NORMAL := by
      have normal := (errorFree x).1
      rwa [side] at normal
    have keeps := LinkMaster.update_keeps (flow.master x) (flow.errorFree x).1 normal updated
    exact flow.node x side (setSide_side_not sys x _) (flow.master_keeps keeps) rfl errorFree
  | linkUpdate x noise lastUpdate =>
    exact pure_eq_ok.mp stepped ▸ flow.linkUpdate x noise lastUpdate
  | slaveUpdate x acceptUp acceptDown =>
    obtain ⟨⟨m, s, received⟩, updated, stepped⟩ := bind_eq_ok.mp stepped
    obtain rfl := pure_eq_ok.mp stepped
    have side := setSide_side_self sys x { sys.side x with master := m, slave := s }
    have normal : m.currentState = .NORMAL ∧ s.currentState = .NORMAL := by
      have normal := errorFree x
      rwa [side] at normal
    have node := (LinkSlave.update_keeps crcCheck acceptUp acceptDown (flow.master x) (flow.slave x)
      (flow.arrived x) (flow.errorFree x).1 (flow.errorFree x).2 (fun channel => (flow.bounded x channel).1)
      fun channel => (flow.bounded x channel).2).2 m s received updated normal.1 normal.2
    exact flow.node x side (setSide_side_not sys x _) node rfl errorFree

/-! ## The errors of flow control -/

theorem updateField_safe (crcCheck : Bool) (m : LinkMaster) (nextWriteP : ℕ) (packet : Packet) :
    FlowSafe (m.updateField crcCheck nextWriteP packet) := by
  simp only [updateField]
  split
  · exact FlowSafe.throw (by decide)
  · exact FlowSafe.pure _

theorem crcCountdown_safe (crcCheck : Bool) (m : LinkMaster) (writeP : ℕ) (packet : Packet) :
    FlowSafe (m.crcCountdown crcCheck writeP packet) := by
  rw [crcCountdown]
  split
  · exact FlowSafe.pure _
  · exact (updateField_safe _ _ _ _).bind fun _ _ => FlowSafe.pure _

theorem sendHead_safe (crcCheck : Bool) (m : LinkMaster) (tokenCount : ℕ) (buffer : List Packet) :
    FlowSafe (m.sendHead crcCheck tokenCount buffer) := by
  cases buffer with
  | nil => exact FlowSafe.pure _
  | cons head rest =>
    simp only [sendHead]
    split
    · split
      · split
        · split
          · split
            · exact crcCountdown_safe _ _ _ _
            · exact FlowSafe.pure _
          · split
            · exact crcCountdown_safe _ _ _ _
            · exact FlowSafe.pure _
        · exact crcCountdown_safe _ _ _ _
      · exact FlowSafe.pure _
    · exact FlowSafe.pure _

theorem finishLinkRetry_safe (m : LinkMaster) : FlowSafe m.finishLinkRetry := by
  rw [finishLinkRetry]
  split
  · apply FlowSafe.bind
    · rw [leaveLinkRetry]
      split
      · split
        · exact FlowSafe.throw (by decide)
        · exact FlowSafe.pure _
      · exact FlowSafe.pure _
    · exact fun _ _ => FlowSafe.pure _
  · exact FlowSafe.pure _

theorem retryTimeOut_safe (m : LinkMaster) : FlowSafe m.retryTimeOut := by
  simp only [retryTimeOut]
  split
  · split
    · exact FlowSafe.pure _
    · split
      · exact FlowSafe.throw (by decide)
      · exact FlowSafe.pure _
  · exact FlowSafe.pure _

theorem FlowControlled.safe {sys : LinkSystem} (flow : FlowControlled sys) (crcCheck : Bool)
    (action : Action) : FlowSafe (sys.step crcCheck action) := by
  cases action with
  | receiveUp x packet =>
    simp only [LinkSystem.step]
    split <;> exact FlowSafe.pure _
  | receiveDown x packet =>
    simp only [LinkSystem.step]
    split <;> exact FlowSafe.pure _
  | masterUpdate x =>
    refine FlowSafe.bind ?_ fun _ _ => FlowSafe.pure _
    exact (sendHead_safe _ _ _ _).bind fun _ _ => (sendHead_safe _ _ _ _).bind fun _ _ =>
      (finishLinkRetry_safe _).bind fun _ _ => (retryTimeOut_safe _).bind fun _ _ => FlowSafe.pure _
  | linkUpdate x noise lastUpdate => exact FlowSafe.pure _
  | slaveUpdate x acceptUp acceptDown =>
    have safe := (LinkSlave.update_keeps crcCheck acceptUp acceptDown (flow.master x)
      (flow.slave x) (flow.arrived x) (flow.errorFree x).1 (flow.errorFree x).2
      (fun channel => (flow.bounded x channel).1) fun channel => (flow.bounded x channel).2).1
    exact safe.bind fun _ _ => FlowSafe.pure _

/-- In every error-free run, whatever the components do and in whatever order,
    each token of each channel of each direction is in exactly one place; a
    count never leaves its range, and no step meets an error of flow control. -/
theorem flow_control_conserves_tokens {crcCheck : Bool} {masterDown slaveDown : Bool → Bool}
    {actions : List Action} {sys : LinkSystem}
    (run : Run (step crcCheck) Quiet (init masterDown slaveDown) actions sys) :
    (∀ x channel, sys.tokens x channel = maxLinkBuf ∧
        (sys.side x).master.tokenCount channel ≤ maxLinkBuf) ∧
      ∀ action, sys.step crcCheck action ≠ .error .tokenOverflow ∧
        sys.step crcCheck action ≠ .error .bufferFull := by
  have flow : FlowControlled sys := run.invariant (flowControlled_init masterDown slaveDown)
    fun _ _ _ flow stepped quiet => flow.step stepped quiet
  constructor
  · exact fun x channel => ⟨flow.conserved x channel, (flow.master x).count channel⟩
  · intro action
    have safe := flow.safe crcCheck action
    exact ⟨fun failed => (safe _ failed).1 rfl, fun failed => (safe _ failed).2 rfl⟩

instance (sys : LinkSystem) : Decidable sys.ErrorFree :=
  inferInstanceAs (Decidable (∀ _ : Bool, _ ∧ _))

instance : DecidablePred Action.Proper
  | .receiveUp _ _ => inferInstanceAs (Decidable (_ ∧ _))
  | .receiveDown _ _ => inferInstanceAs (Decidable (_ ∧ _))
  | .masterUpdate _ => .isTrue trivial
  | .linkUpdate _ _ _ => .isTrue trivial
  | .slaveUpdate _ _ _ => .isTrue trivial

instance (sys : LinkSystem) (action : Action) (sys' : LinkSystem) :
    Decidable (Quiet sys action sys') := inferInstanceAs (Decidable (_ ∧ _))

/-- A read crosses the link and its tokens come back. -/
def readCrosses : List Action :=
  [.receiveDown false { packetType := .REQUEST, CMD := .RD16 }, .masterUpdate false,
    .masterUpdate false] ++
  List.replicate 10 (.linkUpdate false false true) ++
  List.replicate 3 (.slaveUpdate true true true) ++
  List.replicate 2 (.masterUpdate true) ++
  List.replicate 10 (.linkUpdate true false true) ++
  List.replicate 3 (.slaveUpdate false true true)

theorem flow_control_conserves_tokens_readCrosses :
    ∃ sys, Run (step false) Quiet (init not id) readCrosses sys ∧
      (sys.received true).length = 1 ∧ sys.tokens false .down = maxLinkBuf := by
  have executed : ((execute (step false) Quiet (init not id) readCrosses).map fun sys =>
      (sys.received true).length) = some 1 := by decide +kernel
  obtain ⟨sys, executed, received⟩ := Option.map_eq_some_iff.mp executed
  exact ⟨sys, execute_run executed, received,
    ((flow_control_conserves_tokens (execute_run executed)).1 false .down).1⟩

end LinkSystem

end ActiveRouting

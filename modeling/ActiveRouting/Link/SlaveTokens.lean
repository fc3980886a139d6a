import ActiveRouting.Link.MasterTokens

/-!
# Tokens at the link slave

A node is a slave with the master at its own end.  One cycle of the slave turns
credits that have arrived into tokens, and packets that it sends on into
credits for the other end.
-/

namespace ActiveRouting

open Outcome

/-- A computation that does not end in one of the errors of flow control. -/
def FlowSafe {α : Type} (computation : Except LinkError α) : Prop :=
  ∀ error, computation = .error error → error ≠ .tokenOverflow ∧ error ≠ .bufferFull

theorem FlowSafe.pure {α : Type} (result : α) : FlowSafe (Pure.pure result) :=
  fun _ failed => absurd failed pure_ne_error

theorem FlowSafe.throw {α : Type} {error : LinkError}
    (other : error ≠ .tokenOverflow ∧ error ≠ .bufferFull) :
    FlowSafe (throw error : Except LinkError α) :=
  fun _ failed => throw_eq_error.mp failed ▸ other

theorem FlowSafe.bind {α β : Type} {first : Except LinkError α} {next : α → Except LinkError β}
    (safe : FlowSafe first) (safe' : ∀ result, first = .ok result → FlowSafe (next result)) :
    FlowSafe (first >>= next) := by
  intro error failed
  cases bind_eq_error.mp failed with
  | inl failed => exact safe error failed
  | inr failed =>
    obtain ⟨result, succeeded, failed⟩ := failed
    exact safe' result succeeded error failed

namespace LinkSlave

open LinkMaster

/-- Where a packet that reaches the slave goes. -/
structure Takes (s s' : LinkSlave) (packet : Packet) : Prop where
  occupancy : ∀ channel,
    occupancy (s'.buffer channel) = occupancy (s.buffer channel) + channel.price packet
  state : s'.currentState = s.currentState
  orderly : s'.Orderly

theorem receive_takes {s : LinkSlave} {packet : Packet} (orderly : s.Orderly)
    (proper : packet.packetType ≠ .FLOW)
    (bounded : ∀ channel, occupancy (s.buffer channel) + channel.price packet ≤ maxLinkBuf) :
    ∃ s', s.receive packet = .ok s' ∧ Takes s s' packet := by
  cases packetType : packet.packetType with
  | FLOW => exact absurd packetType proper
  | REQUEST =>
    have room : occupancy s.downBuffers + packet.LNG ≤ maxLinkBuf := by
      have bounded := bounded .down
      rwa [Channel.price_of_eq packetType] at bounded
    refine ⟨{ s with downBuffers := s.downBuffers ++ [packet] }, ?_, fun channel => ?_, rfl, ?_⟩
    · rw [receive, if_neg proper, if_pos packetType, if_pos room]
      rfl
    · cases channel with
      | up =>
        rw [Channel.price_of_ne (by rw [packetType]; decide)]
        rfl
      | down =>
        rw [Channel.price_of_eq packetType]
        simp [buffer]
    · intro channel
      cases channel with
      | up => exact orderly .up
      | down =>
        exact List.forall_mem_append.mpr ⟨orderly .down, List.forall_mem_singleton.mpr packetType⟩
  | RESPONSE =>
    have room : occupancy s.upBuffers + packet.LNG ≤ maxLinkBuf := by
      have bounded := bounded .up
      rwa [Channel.price_of_eq packetType] at bounded
    refine ⟨{ s with upBuffers := s.upBuffers ++ [packet] }, ?_, fun channel => ?_, rfl, ?_⟩
    · rw [receive, if_neg proper, if_neg (by rw [packetType]; decide), if_pos room]
      rfl
    · cases channel with
      | down =>
        rw [Channel.price_of_ne (by rw [packetType]; decide)]
        rfl
      | up =>
        rw [Channel.price_of_eq packetType]
        simp [buffer]
    · intro channel
      cases channel with
      | down => exact orderly .down
      | up =>
        exact List.forall_mem_append.mpr ⟨orderly .up, List.forall_mem_singleton.mpr packetType⟩

/-- What the master gains when a packet is accepted. -/
structure Gains (m m' : LinkMaster) (packet : Packet) : Prop where
  held : ∀ channel, m'.held channel = m.held channel + channel.credit packet
  owed : ∀ channel, m'.owed channel = m.owed channel
  state : m'.currentState = m.currentState
  orderly : m'.Orderly

theorem updateToken_gains {m : LinkMaster} (packet : Packet) (orderly : m.Orderly)
    (bounded : ∀ channel, m.held channel + channel.credit packet ≤ maxLinkBuf) :
    ∃ m', m.updateToken packet = .ok m' ∧ Gains m m' packet := by
  have count : ∀ channel, m.tokenCount channel + channel.credit packet ≤ maxLinkBuf := by
    intro channel
    have bounded := bounded channel
    rw [LinkMaster.held] at bounded
    omega
  refine ⟨_, updateToken_eq count, updateToken_held, fun _ => rfl, rfl, { orderly with count := ?_ }⟩
  intro channel
  cases channel with
  | up => exact count .up
  | down => exact count .down

theorem acceptPacket_takes {m : LinkMaster} {s : LinkSlave} {packet : Packet}
    (orderly : m.Orderly) (orderly' : s.Orderly) (regular : packet.Regular)
    (bounded : ∀ channel, m.held channel + channel.credit packet ≤ maxLinkBuf)
    (bounded' : ∀ channel, occupancy (s.buffer channel) + channel.price packet ≤ maxLinkBuf) :
    FlowSafe (acceptPacket m s packet) ∧ ∀ m' s', acceptPacket m s packet = .ok (m', s') →
      Gains m m' packet ∧ Takes s s' packet := by
  have pointer := returnRetryPointer_keeps packet orderly
  obtain ⟨m₁, updated, gains⟩ := updateToken_gains packet pointer.orderly
    (fun channel => by rw [pointer.held]; exact bounded channel)
  have gains : Gains m m₁ packet :=
    ⟨fun channel => by rw [gains.held, pointer.held], fun channel => by rw [gains.owed, pointer.owed],
      gains.state.trans pointer.state, gains.orderly⟩
  have free : packet.CMD = .TRET → Takes s s packet := fun tret =>
    ⟨fun channel => by
      rw [Channel.price_of_ne (by rw [regular.flow (.inr (.inl tret))]; cases channel <;> decide),
        Nat.add_zero], rfl, orderly'⟩
  have accepted : acceptPacket m s packet =
      if packet.CMD ≠ .TRET then s.receive packet >>= fun s => pure (m₁, s) else pure (m₁, s) := by
    rw [acceptPacket, updated]
    rfl
  rw [accepted]
  by_cases tret : packet.CMD = .TRET
  · rw [if_neg (not_not.mpr tret)]
    refine ⟨FlowSafe.pure _, fun m' s' result => ?_⟩
    obtain ⟨rfl, rfl⟩ := Prod.mk.inj (pure_eq_ok.mp result)
    exact ⟨gains, free tret⟩
  · rw [if_pos tret]
    by_cases proper : packet.packetType = .FLOW
    · have failed : s.receive packet = throw .flowInBuffer := if_pos proper
      rw [failed]
      refine ⟨FlowSafe.bind (FlowSafe.throw (by decide)) fun _ _ => FlowSafe.pure _,
        fun m' s' result => ?_⟩
      cases result
    · obtain ⟨s₁, received, takes⟩ := receive_takes orderly' proper bounded'
      rw [received]
      refine ⟨FlowSafe.pure _, fun m' s' result => ?_⟩
      obtain ⟨rfl, rfl⟩ := Prod.mk.inj (pure_eq_ok.mp result)
      exact ⟨gains, takes⟩

theorem handleIrtry_safe (m : LinkMaster) (s : LinkSlave) (packet : Packet) :
    FlowSafe (handleIrtry m s packet) := by
  simp only [handleIrtry]
  split
  · split
    · apply FlowSafe.bind
      · simp only [linkRetry]
        split
        · exact FlowSafe.throw (by decide)
        · split
          · exact FlowSafe.throw (by decide)
          · exact FlowSafe.pure _
      · exact fun _ _ => FlowSafe.pure _
    · exact FlowSafe.pure _
  · split
    · split
      · exact FlowSafe.pure _
      · exact FlowSafe.pure _
    · exact FlowSafe.pure _

/-- Unless it starts a retry, an init-retry packet changes nothing but the
    retry pointer. -/
theorem handleIrtry_keeps {m m' : LinkMaster} {s s' : LinkSlave} {packet : Packet}
    (orderly : m.Orderly) (normal : m.currentState = .NORMAL) (normal' : m'.currentState = .NORMAL)
    (handled : handleIrtry m s packet = .ok (m', s')) : Keeps m m' ∧ s' = s := by
  have pointer := updateRetryPointer_keeps packet orderly
  have normal₁ := pointer.state.trans normal
  have idle : ∀ {result}, (pure (m.updateRetryPointer packet, s) :
      Except LinkError (LinkMaster × LinkSlave)) = .ok result → result = (m', s') →
      Keeps m m' ∧ s' = s := by
    intro result same same'
    obtain ⟨rfl, rfl⟩ := Prod.mk.inj ((pure_eq_ok.mp same).trans same')
    exact ⟨pointer, rfl⟩
  simp only [handleIrtry] at handled
  split at handled
  · split at handled
    · obtain ⟨m₁, retried, handled⟩ := bind_eq_ok.mp handled
      obtain ⟨rfl, rfl⟩ := Prod.mk.inj (pure_eq_ok.mp handled)
      exact absurd normal' (linkRetry_currentState retried)
    · exact idle handled rfl
  · split at handled
    · split at handled
      · rename_i retry
        exact absurd normal₁ retry
      · exact idle handled rfl
    · exact idle handled rfl

/-- A slave that differs in its counters only. -/
structure SameBuffers (s s' : LinkSlave) : Prop where
  up : s'.upBuffers = s.upBuffers
  down : s'.downBuffers = s.downBuffers
  state : s'.currentState = s.currentState

theorem SameBuffers.buffer {s s' : LinkSlave} (same : SameBuffers s s') : s'.buffer = s.buffer := by
  funext channel
  cases channel with
  | up => exact same.up
  | down => exact same.down

theorem SameBuffers.orderly {s s' : LinkSlave} (same : SameBuffers s s') (orderly : s.Orderly) :
    s'.Orderly := by
  rw [Orderly, same.buffer]
  exact orderly

theorem startCountdown_same (crcCheck : Bool) (s : LinkSlave) (packet : Packet) :
    SameBuffers s (s.startCountdown crcCheck packet) := by
  rw [startCountdown]
  split <;> exact ⟨rfl, rfl, rfl⟩

theorem checkNoError_same {crcCheck good : Bool} {s s' : LinkSlave} {packet : Packet}
    (checked : s.checkNoError crcCheck packet = (good, s')) : SameBuffers s s' := by
  simp only [checkNoError] at checked
  split at checked
  · split at checked <;> obtain ⟨-, rfl⟩ := Prod.mk.inj checked <;> exact ⟨rfl, rfl, rfl⟩
  · obtain ⟨-, rfl⟩ := Prod.mk.inj checked
    exact ⟨rfl, rfl, rfl⟩

/-- A packet that differs in its marks only. -/
structure SamePacket (packet packet' : Packet) : Prop where
  credit : ∀ channel : Channel, channel.credit packet' = channel.credit packet
  price : ∀ channel : Channel, channel.price packet' = channel.price packet
  regular : packet.Regular → packet'.Regular

/-- What an iteration of the loop over `linkRxTx` does to the tokens. -/
def RxSpec (m : LinkMaster) (s : LinkSlave) (packet : Packet) : RxOutcome → Prop
  | .stay m' s' packet' => Keeps m m' ∧ SameBuffers s s' ∧ SamePacket packet packet'
  | .leave m' s' _ => m'.currentState = .NORMAL → Gains m m' packet ∧ Takes s s' packet
  | .abort _ s' => s'.currentState = .START_RETRY

theorem RxSpec.of_keeps {m m₁ : LinkMaster} {s s₁ : LinkSlave} {packet packet₁ : Packet}
    {out : RxOutcome} (keeps : Keeps m m₁) (same : SameBuffers s s₁)
    (same' : SamePacket packet packet₁) (spec : RxSpec m₁ s₁ packet₁ out) : RxSpec m s packet out := by
  cases out with
  | stay m' s' packet' =>
    obtain ⟨keeps', ⟨up, down, state⟩, ⟨credit, price, regular⟩⟩ := spec
    exact ⟨keeps.trans keeps', ⟨up.trans same.up, down.trans same.down, state.trans same.state⟩,
      ⟨fun channel => (credit channel).trans (same'.credit channel),
        fun channel => (price channel).trans (same'.price channel), regular ∘ same'.regular⟩⟩
  | leave m' s' received =>
    intro normal
    obtain ⟨gains, takes⟩ := spec normal
    exact ⟨⟨fun channel => by rw [gains.held, keeps.held, same'.credit],
        fun channel => by rw [gains.owed, keeps.owed], gains.state.trans keeps.state,
        gains.orderly⟩,
      ⟨fun channel => by rw [takes.occupancy, same.buffer, same'.price],
        takes.state.trans same.state, takes.orderly⟩⟩
  | abort m' s' => exact spec

/-- A packet without tokens is dropped without a trace. -/
theorem RxSpec.of_free {m m' : LinkMaster} {s : LinkSlave} {packet : Packet}
    (orderly : s.Orderly) (regular : packet.Regular)
    (free : packet.CMD = .PRET ∨ packet.CMD = .IRTRY) (keeps : Keeps m m')
    (received : Option Packet) : RxSpec m s packet (.leave m' s received) := by
  intro _
  have flow : packet.packetType = .FLOW := by
    rcases free with pret | irtry
    · exact regular.flow (.inl pret)
    · exact regular.flow (.inr (.inr irtry))
  obtain ⟨URTC, DRTC⟩ := regular.free free
  exact ⟨⟨fun channel => by rw [keeps.held]; cases channel <;> simp [Channel.credit, URTC, DRTC],
      keeps.owed, keeps.state, keeps.orderly⟩,
    ⟨fun channel => by
      rw [Channel.price_of_ne (by rw [flow]; cases channel <;> decide), Nat.add_zero], rfl, orderly⟩⟩

theorem errorAbort_safe (m : LinkMaster) (s : LinkSlave) (packet : Packet) :
    FlowSafe (errorAbort m s packet) := by
  rw [errorAbort]
  split
  · exact FlowSafe.throw (by decide)
  · exact FlowSafe.pure _

theorem errorCheck_spec (crcCheck : Bool) {m : LinkMaster} {s : LinkSlave} {packet : Packet}
    (orderly : m.Orderly) (orderly' : s.Orderly) (regular : packet.Regular)
    (bounded : ∀ channel, m.held channel + channel.credit packet ≤ maxLinkBuf)
    (bounded' : ∀ channel, occupancy (s.buffer channel) + channel.price packet ≤ maxLinkBuf) :
    FlowSafe (errorCheck crcCheck m s packet) ∧
      ∀ out, errorCheck crcCheck m s packet = .ok out → RxSpec m s packet out := by
  rw [errorCheck]
  split
  · rename_i s₁ checked
    have same := checkNoError_same checked
    obtain ⟨safe, takes⟩ := acceptPacket_takes orderly (same.orderly orderly') regular bounded
      (same.buffer ▸ bounded')
    refine ⟨safe.bind fun _ _ => FlowSafe.pure _, fun out result => ?_⟩
    obtain ⟨⟨m', s'⟩, accepted, result⟩ := bind_eq_ok.mp result
    obtain rfl := pure_eq_ok.mp result
    exact RxSpec.of_keeps (Keeps.refl orderly) same ⟨fun _ => rfl, fun _ => rfl, id⟩
      fun _ => takes m' s' accepted
  · refine ⟨(errorAbort_safe _ _ _).bind fun _ _ => FlowSafe.pure _, fun out result => ?_⟩
    obtain ⟨⟨m', s'⟩, aborted, result⟩ := bind_eq_ok.mp result
    obtain rfl := pure_eq_ok.mp result
    exact errorAbort_currentState aborted

theorem checkPacket_spec (crcCheck : Bool) {m : LinkMaster} {s : LinkSlave} {packet : Packet}
    (orderly : m.Orderly) (orderly' : s.Orderly) (regular : packet.Regular)
    (bounded : ∀ channel, m.held channel + channel.credit packet ≤ maxLinkBuf)
    (bounded' : ∀ channel, occupancy (s.buffer channel) + channel.price packet ≤ maxLinkBuf) :
    FlowSafe (checkPacket crcCheck m s packet) ∧
      ∀ out, checkPacket crcCheck m s packet = .ok out → RxSpec m s packet out := by
  rw [checkPacket]
  split
  · refine ⟨FlowSafe.pure _, fun out result => ?_⟩
    obtain rfl := pure_eq_ok.mp result
    exact ⟨Keeps.refl orderly, ⟨rfl, rfl, rfl⟩, ⟨fun _ => rfl, fun _ => rfl, id⟩⟩
  · have same : SamePacket packet { packet with chkCRC := true } :=
      ⟨fun channel => by cases channel <;> rfl, fun _ => rfl, fun regular => regular.congr rfl rfl rfl rfl⟩
    obtain ⟨safe, spec⟩ := errorCheck_spec crcCheck orderly orderly'
      (same.regular regular) (fun channel => by rw [same.credit]; exact bounded channel)
      (fun channel => by rw [same.price]; exact bounded' channel)
    exact ⟨safe, fun out result =>
      RxSpec.of_keeps (Keeps.refl orderly) ⟨rfl, rfl, rfl⟩ same (spec out result)⟩

theorem rxPacket_spec (crcCheck : Bool) {m : LinkMaster} {s : LinkSlave} {packet : Packet}
    (orderly : m.Orderly) (orderly' : s.Orderly) (regular : packet.Regular)
    (normal : m.currentState = .NORMAL) (normal' : s.currentState = .NORMAL)
    (bounded : ∀ channel, m.held channel + channel.credit packet ≤ maxLinkBuf)
    (bounded' : ∀ channel, occupancy (s.buffer channel) + channel.price packet ≤ maxLinkBuf) :
    FlowSafe (rxPacket crcCheck m s packet) ∧
      ∀ out, rxPacket crcCheck m s packet = .ok out → RxSpec m s packet out := by
  have idle : RxSpec m s packet (.stay m s packet) :=
    ⟨Keeps.refl orderly, ⟨rfl, rfl, rfl⟩, ⟨fun _ => rfl, fun _ => rfl, id⟩⟩
  have pointer : Keeps m (if packet.chkRRP then m else m.updateRetryPointer packet) := by
    split
    · exact Keeps.refl orderly
    · exact updateRetryPointer_keeps packet orderly
  have same : SamePacket packet { packet with chkRRP := true } :=
    ⟨fun channel => by cases channel <;> rfl, fun _ => rfl, fun regular => regular.congr rfl rfl rfl rfl⟩
  simp only [rxPacket]
  split
  · exact ⟨FlowSafe.pure _, fun out result => pure_eq_ok.mp result ▸ idle⟩
  · split
    · rename_i irtry
      refine ⟨(handleIrtry_safe _ _ _).bind fun _ _ => FlowSafe.pure _, fun out result => ?_⟩
      obtain ⟨⟨m', s'⟩, handled, result⟩ := bind_eq_ok.mp result
      obtain rfl := pure_eq_ok.mp result
      intro normal₁
      obtain ⟨keeps, rfl⟩ := handleIrtry_keeps orderly normal normal₁ handled
      exact RxSpec.of_free orderly' regular (.inr irtry) keeps none normal₁
    · split
      · rename_i retry
        exact absurd (retry.symm.trans normal') (by decide)
      · split
        · rename_i pret
          refine ⟨FlowSafe.pure _, fun out result => ?_⟩
          obtain rfl := pure_eq_ok.mp result
          exact RxSpec.of_free orderly' regular (.inl pret.2) pointer none
        · split
          · refine ⟨FlowSafe.pure _, fun out result => ?_⟩
            obtain rfl := pure_eq_ok.mp result
            exact ⟨pointer, ⟨rfl, rfl, rfl⟩, same⟩
          · have start := startCountdown_same crcCheck s packet
            obtain ⟨safe, spec⟩ := checkPacket_spec crcCheck pointer.orderly
              (start.orderly orderly') (same.regular regular)
              (fun channel => by rw [same.credit, pointer.held]; exact bounded channel)
              (fun channel => by rw [same.price, start.buffer]; exact bounded' channel)
            exact ⟨safe, fun out result => RxSpec.of_keeps pointer start same (spec out result)⟩

/-- What a node holds and owes after its slave has looked at `linkRxTx`, and
    then sent a packet on. -/
structure NodeKeeps (m : LinkMaster) (s : LinkSlave) (link : List Packet) (m' : LinkMaster)
    (s' : LinkSlave) (link' : List Packet) : Prop where
  held : ∀ channel : Channel,
    m'.held channel + channel.credits link' = m.held channel + channel.credits link
  owed : ∀ channel : Channel,
    m'.owed channel + channel.load link' + occupancy (s'.buffer channel) =
      m.owed channel + channel.load link + occupancy (s.buffer channel)
  normal : m'.currentState = .NORMAL
  master : m'.Orderly
  slave : s'.Orderly
  link : ∀ packet ∈ link', packet.Regular

theorem rxLoop_keeps {crcCheck : Bool} :
    ∀ {rest passed : List Packet} {m : LinkMaster} {s : LinkSlave},
      m.Orderly → s.Orderly → (∀ packet ∈ passed ++ rest, packet.Regular) →
      m.currentState = .NORMAL → s.currentState = .NORMAL →
      (∀ channel, m.held channel + channel.credits (passed ++ rest) ≤ maxLinkBuf) →
      (∀ channel, channel.load (passed ++ rest) + occupancy (s.buffer channel) ≤ maxLinkBuf) →
      FlowSafe (rxLoop crcCheck m s passed rest) ∧
        ∀ m' s' received, rxLoop crcCheck m s passed rest = .ok (m', s', received) →
          m'.currentState = .NORMAL → s'.currentState = .NORMAL →
          NodeKeeps m s (passed ++ rest) m' s' s'.linkRxTx
  | [], passed, m, s, orderly, orderly', regular, normal, normal', bounded, bounded' => by
    refine ⟨FlowSafe.pure _, fun m' s' received result _ _ => ?_⟩
    obtain ⟨rfl, rest⟩ := Prod.mk.inj (pure_eq_ok.mp result)
    obtain ⟨rfl, -⟩ := Prod.mk.inj rest
    rw [List.append_nil] at *
    exact ⟨fun _ => rfl, fun channel => by cases channel <;> rfl, normal, orderly,
      fun channel => by cases channel; exacts [orderly' .up, orderly' .down], regular⟩
  | packet :: rest, passed, m, s, orderly, orderly', regular, normal, normal', bounded, bounded' => by
    have regular' := regular packet (by simp)
    have bound : ∀ channel, m.held channel + channel.credit packet ≤ maxLinkBuf := by
      intro channel
      have bounded := bounded channel
      rw [Channel.credits_append, Channel.credits_cons] at bounded
      omega
    have bound' : ∀ channel, occupancy (s.buffer channel) + channel.price packet ≤ maxLinkBuf := by
      intro channel
      have bounded' := bounded' channel
      rw [Channel.load_append, Channel.load_cons] at bounded'
      omega
    obtain ⟨safe, spec⟩ := rxPacket_spec crcCheck orderly orderly' regular' normal normal' bound bound'
    -- a packet that stays is met again by the rest of the loop
    have later : ∀ m₁ s₁ packet₁, rxPacket crcCheck m s packet = .ok (.stay m₁ s₁ packet₁) →
        FlowSafe (rxLoop crcCheck m₁ s₁ (passed ++ [packet₁]) rest) ∧ ∀ m' s' received,
          rxLoop crcCheck m₁ s₁ (passed ++ [packet₁]) rest = .ok (m', s', received) →
          m'.currentState = .NORMAL → s'.currentState = .NORMAL →
          NodeKeeps m s (passed ++ packet :: rest) m' s' s'.linkRxTx := by
      intro m₁ s₁ packet₁ stayed
      obtain ⟨keeps, same, ⟨credit, price, regular₁⟩⟩ := spec _ stayed
      have credits : ∀ channel : Channel, channel.credits (passed ++ [packet₁] ++ rest) =
          channel.credits (passed ++ packet :: rest) := fun channel => by simp [credit channel]
      have load : ∀ channel : Channel, channel.load (passed ++ [packet₁] ++ rest) =
          channel.load (passed ++ packet :: rest) := fun channel => by simp [price channel]
      have regular : ∀ packet ∈ passed ++ [packet₁] ++ rest, packet.Regular := by
        simp only [List.forall_mem_append, List.forall_mem_cons] at regular ⊢
        exact ⟨⟨regular.1, regular₁ regular', by simp⟩, regular.2.2⟩
      obtain ⟨safe, loop⟩ := rxLoop_keeps keeps.orderly (same.orderly orderly') regular
        (keeps.state.trans normal) (same.state.trans normal')
        (fun channel => by rw [keeps.held, credits]; exact bounded channel)
        (fun channel => by rw [load, same.buffer]; exact bounded' channel)
      refine ⟨safe, fun m' s' received result normal normal' => ?_⟩
      obtain ⟨held, owed, normal, master, slave, link⟩ := loop m' s' received result normal normal'
      exact ⟨fun channel => by rw [held, keeps.held, credits],
        fun channel => by rw [owed, keeps.owed, load, same.buffer], normal, master, slave, link⟩
    constructor
    · refine safe.bind fun out result => ?_
      cases out with
      | stay m₁ s₁ packet₁ => exact (later m₁ s₁ packet₁ result).1
      | leave m₁ s₁ received => exact FlowSafe.pure _
      | abort m₁ s₁ => exact FlowSafe.pure _
    · intro m' s' received result normal₁ normal₁'
      obtain ⟨out, iteration, result⟩ := bind_eq_ok.mp result
      cases out with
      | stay m₁ s₁ packet₁ => exact (later m₁ s₁ packet₁ iteration).2 m' s' received result normal₁ normal₁'
      | leave m₁ s₁ received₁ =>
        have ended := pure_eq_ok.mp result
        obtain ⟨rfl, ended'⟩ := Prod.mk.inj ended
        obtain ⟨rfl, -⟩ := Prod.mk.inj ended'
        obtain ⟨gains, takes⟩ := spec _ iteration normal₁
        refine ⟨fun channel => ?_, fun channel => ?_, normal₁, gains.orderly, takes.orderly, ?_⟩
        · simp only [gains.held, Channel.credits_append, Channel.credits_cons]
          omega
        · have taken := takes.occupancy channel
          have same : ({ s₁ with linkRxTx := passed ++ rest } : LinkSlave).buffer channel =
            s₁.buffer channel := by cases channel <;> rfl
          simp only [same, taken, gains.owed, Channel.load_append, Channel.load_cons]
          omega
        · simp only [List.forall_mem_append, List.forall_mem_cons] at regular ⊢
          exact ⟨regular.1, regular.2.2⟩
      | abort m₁ s₁ =>
        have ended := pure_eq_ok.mp result
        obtain ⟨rfl, ended'⟩ := Prod.mk.inj ended
        obtain ⟨rfl, -⟩ := Prod.mk.inj ended'
        have aborted : s₁.currentState = .START_RETRY := spec _ iteration
        exact absurd (aborted.symm.trans normal₁') (by decide)

/-! ## Draining the slave's buffers -/

theorem returnToken_currentState {m m' : LinkMaster} {packet : Packet}
    (returned : m.returnToken packet = .ok m') : m'.currentState = m.currentState := by
  simp only [returnToken] at returned
  split at returned
  · cases returned
  · split at returned
    · exact pure_eq_ok.mp returned ▸ rfl
    · split at returned
      · exact pure_eq_ok.mp returned ▸ rfl
      · split at returned
        · exact pure_eq_ok.mp returned ▸ rfl
        · split at returned
          · obtain ⟨upBuffers, -, returned⟩ := bind_eq_ok.mp returned
            exact pure_eq_ok.mp returned ▸ rfl
          · exact pure_eq_ok.mp returned ▸ rfl

theorem sendOn_currentState {m m' : LinkMaster} {s s' : LinkSlave} {acceptUp acceptDown : Bool}
    (sent : sendOn m s acceptUp acceptDown = .ok (m', s')) :
    m'.currentState = m.currentState ∧ s'.currentState = s.currentState := by
  have drain : ∀ {packet s₁}, (m.returnToken packet >>= fun m => pure (m, s₁)) = .ok (m', s') →
      s₁.currentState = s.currentState →
      m'.currentState = m.currentState ∧ s'.currentState = s.currentState := by
    intro packet s₁ sent same
    obtain ⟨m₁, returned, sent⟩ := bind_eq_ok.mp sent
    obtain ⟨rfl, rfl⟩ := Prod.mk.inj (pure_eq_ok.mp sent)
    exact ⟨returnToken_currentState returned, same⟩
  unfold sendOn at sent
  split at sent
  · exact drain sent rfl
  · unfold sendDown at sent
    split at sent
    · cases sent
    · split at sent
      · exact drain sent rfl
      · obtain ⟨rfl, rfl⟩ := Prod.mk.inj (pure_eq_ok.mp sent)
        exact ⟨rfl, rfl⟩

theorem returnToken_safe (m : LinkMaster) (packet : Packet) : FlowSafe (m.returnToken packet) := by
  simp only [returnToken]
  split
  · exact FlowSafe.throw (by decide)
  · split
    · exact FlowSafe.pure _
    · split
      · exact FlowSafe.pure _
      · split
        · exact FlowSafe.pure _
        · split
          · apply FlowSafe.bind
            · cases m.upBuffers with
              | nil => exact FlowSafe.throw (by decide)
              | cons head rest => exact FlowSafe.pure _
            · exact fun _ _ => FlowSafe.pure _
          · exact FlowSafe.pure _

theorem sendOn_safe (m : LinkMaster) (s : LinkSlave) (acceptUp acceptDown : Bool) :
    FlowSafe (sendOn m s acceptUp acceptDown) := by
  have rest : FlowSafe (sendDown m s acceptDown) := by
    unfold sendDown
    split
    · exact FlowSafe.throw (by decide)
    · split
      · exact (returnToken_safe _ _).bind fun _ _ => FlowSafe.pure _
      · exact FlowSafe.pure _
  unfold sendOn
  split
  · exact (returnToken_safe _ _).bind fun _ _ => FlowSafe.pure _
  · exact rest

/-- What a node holds and owes after its slave has sent a packet on. -/
structure Drains (m : LinkMaster) (s : LinkSlave) (m' : LinkMaster) (s' : LinkSlave) : Prop where
  held : ∀ channel, m'.held channel = m.held channel
  owed : ∀ channel, m'.owed channel + occupancy (s'.buffer channel) =
    m.owed channel + occupancy (s.buffer channel)
  state : m'.currentState = m.currentState
  master : m'.Orderly
  slave : s'.Orderly

theorem returnToken_drains {m m' : LinkMaster} {s s' : LinkSlave} (channel : Channel)
    {packet : Packet} {rest : List Packet} (orderly : m.Orderly) (orderly' : s.Orderly)
    (normal : m.currentState = .NORMAL) (returned : m.returnToken packet = .ok m')
    (before : s.buffer channel = packet :: rest)
    (after : s'.buffer = Function.update s.buffer channel rest) : Drains m s m' s' := by
  obtain ⟨held, owed, normal', master⟩ := returnToken_owed orderly normal returned
  have mine : packet.packetType = channel.packetType :=
    orderly' channel packet (before ▸ List.mem_cons_self ..)
  refine ⟨held, fun channel' => ?_, normal'.trans normal.symm, master, fun channel' packet' member => ?_⟩
  · rw [owed, after]
    by_cases same : channel' = channel
    · subst same
      rw [Function.update_self, before, Channel.price_of_eq mine, occupancy_cons]
      omega
    · have other : packet.packetType ≠ channel'.packetType := by
        rw [mine]
        cases channel <;> cases channel' <;> first | exact absurd rfl same | decide
      rw [Function.update_of_ne same, Channel.price_of_ne other]
      omega
  · rw [after] at member
    by_cases same : channel' = channel
    · subst same
      rw [Function.update_self] at member
      exact orderly' channel' packet' (before ▸ List.mem_cons_of_mem _ member)
    · rw [Function.update_of_ne same] at member
      exact orderly' channel' packet' member

theorem sendOn_drains {m m' : LinkMaster} {s s' : LinkSlave} {acceptUp acceptDown : Bool}
    (orderly : m.Orderly) (orderly' : s.Orderly) (normal : m.currentState = .NORMAL)
    (sent : sendOn m s acceptUp acceptDown = .ok (m', s')) :
    Drains m s m' s' ∧ s'.currentState = s.currentState ∧ s'.linkRxTx = s.linkRxTx := by
  have down : sendDown m s acceptDown = .ok (m', s') →
      Drains m s m' s' ∧ s'.currentState = s.currentState ∧ s'.linkRxTx = s.linkRxTx := by
    intro sent
    unfold sendDown at sent
    split at sent
    · cases sent
    · split at sent
      · rename_i packet rest before _
        obtain ⟨m₁, returned, sent⟩ := bind_eq_ok.mp sent
        obtain ⟨rfl, rfl⟩ := Prod.mk.inj (pure_eq_ok.mp sent)
        exact ⟨returnToken_drains (s := s) .down orderly orderly' normal returned before
          (by funext channel; cases channel <;> rfl), rfl, rfl⟩
      · obtain ⟨rfl, rfl⟩ := Prod.mk.inj (pure_eq_ok.mp sent)
        exact ⟨⟨fun _ => rfl, fun _ => rfl, rfl, orderly, orderly'⟩, rfl, rfl⟩
  unfold sendOn at sent
  split at sent
  · rename_i packet rest before
    obtain ⟨m₁, returned, sent⟩ := bind_eq_ok.mp sent
    obtain ⟨rfl, rfl⟩ := Prod.mk.inj (pure_eq_ok.mp sent)
    exact ⟨returnToken_drains (s := s) .up orderly orderly' normal returned before
      (by funext channel; cases channel <;> rfl), rfl, rfl⟩
  · exact down sent

theorem tick_occupancy (s : LinkSlave) (channel : Channel) :
    occupancy (s.tick.buffer channel) = occupancy (s.buffer channel) := by
  cases channel <;> exact occupancy_tick _

theorem tick_orderly {s : LinkSlave} (orderly : s.Orderly) : s.tick.Orderly := by
  intro channel packet member
  have member : packet ∈ (s.buffer channel).map Packet.tick := by cases channel <;> exact member
  obtain ⟨packet', member', rfl⟩ := List.mem_map.mp member
  exact orderly channel packet' member'

theorem regular_tick {packets : List Packet} (regular : ∀ packet ∈ packets, packet.Regular) :
    ∀ packet ∈ packets.map Packet.tick, packet.Regular := by
  intro packet member
  obtain ⟨packet', member', rfl⟩ := List.mem_map.mp member
  exact (regular packet' member').congr rfl rfl rfl rfl

/-- One cycle of a slave neither loses nor makes tokens, and meets no error of
    flow control. -/
theorem update_keeps (crcCheck : Bool) {m : LinkMaster} {s : LinkSlave} (acceptUp acceptDown : Bool)
    (orderly : m.Orderly) (orderly' : s.Orderly) (regular : ∀ packet ∈ s.linkRxTx, packet.Regular)
    (normal : m.currentState = .NORMAL) (normal' : s.currentState = .NORMAL)
    (bounded : ∀ channel, m.held channel + channel.credits s.linkRxTx ≤ maxLinkBuf)
    (bounded' : ∀ channel, channel.load s.linkRxTx + occupancy (s.buffer channel) ≤ maxLinkBuf) :
    FlowSafe (s.update crcCheck m acceptUp acceptDown) ∧
      ∀ m' s' received, s.update crcCheck m acceptUp acceptDown = .ok (m', s', received) →
        m'.currentState = .NORMAL → s'.currentState = .NORMAL →
        NodeKeeps m s s.linkRxTx m' s' s'.linkRxTx := by
  have loop := @rxLoop_keeps crcCheck s.linkRxTx [] m s orderly orderly' regular normal normal'
    bounded bounded'
  refine ⟨loop.1.bind fun _ _ => (sendOn_safe _ _ _ _).bind fun _ _ => FlowSafe.pure _, ?_⟩
  intro m' s' received updated normal₁ normal₁'
  obtain ⟨⟨m₁, s₁, received₁⟩, looped, updated⟩ := bind_eq_ok.mp updated
  obtain ⟨⟨m₂, s₂⟩, sent, updated⟩ := bind_eq_ok.mp updated
  have ended := pure_eq_ok.mp updated
  obtain ⟨rfl, ended'⟩ := Prod.mk.inj ended
  obtain ⟨rfl, -⟩ := Prod.mk.inj ended'
  obtain ⟨state, state'⟩ := sendOn_currentState sent
  have rx := loop.2 m₁ s₁ received₁ looped (state.symm.trans normal₁) (state'.symm.trans normal₁')
  obtain ⟨drains, -, link⟩ := sendOn_drains rx.master rx.slave rx.normal sent
  have linkTick : s₂.tick.linkRxTx = s₁.linkRxTx.map Packet.tick := link ▸ rfl
  refine ⟨fun channel => ?_, fun channel => ?_, drains.state.trans rx.normal, drains.master,
    tick_orderly drains.slave, ?_⟩
  · rw [linkTick, Channel.credits_tick, drains.held, rx.held]
    rfl
  · have owed := drains.owed channel
    have owed' := rx.owed channel
    rw [linkTick, Channel.load_tick, tick_occupancy]
    simp only [List.nil_append] at owed'
    omega
  · rw [linkTick]
    exact regular_tick rx.link

end LinkSlave

end ActiveRouting

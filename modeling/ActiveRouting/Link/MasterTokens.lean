import ActiveRouting.Link.Tokens

/-!
# Tokens at the link master

What each operation of a link master does to the tokens it holds and to the
credits it owes to the other end, as long as no retry is entered.
-/

namespace ActiveRouting

open Outcome

namespace LinkMaster

/-! ## The operations of the master -/

/-- An operation on a master that is over without a retry keeps what the
    master holds and owes. -/
structure Keeps (m m' : LinkMaster) : Prop where
  held : ∀ channel, m'.held channel = m.held channel
  owed : ∀ channel, m'.owed channel = m.owed channel
  state : m'.currentState = m.currentState
  orderly : m'.Orderly

theorem Keeps.refl {m : LinkMaster} (orderly : m.Orderly) : Keeps m m :=
  ⟨fun _ => rfl, fun _ => rfl, rfl, orderly⟩

theorem Keeps.trans {m m' m'' : LinkMaster} (first : Keeps m m') (second : Keeps m' m'') :
    Keeps m m'' :=
  ⟨fun channel => (second.held channel).trans (first.held channel),
    fun channel => (second.owed channel).trans (first.owed channel),
    second.state.trans first.state, second.orderly⟩

/-- What flow control does not look at may change. -/
theorem Keeps.of_eq {m m' : LinkMaster} (orderly : m.Orderly) (up : m'.upBuffers = m.upBuffers)
    (down : m'.downBuffers = m.downBuffers) (link : m'.linkRxTx = m.linkRxTx)
    (upCount : m'.upTokenCount = m.upTokenCount)
    (downCount : m'.downTokenCount = m.downTokenCount)
    (state : m'.currentState = m.currentState) : Keeps m m' := by
  have count : m'.tokenCount = m.tokenCount := by
    funext channel
    cases channel with
    | up => exact upCount
    | down => exact downCount
  refine ⟨fun channel => ?_, fun channel => ?_, state, ?_⟩
  · rw [LinkMaster.held, LinkMaster.held, count, link]
  · rw [LinkMaster.owed, LinkMaster.owed, up, down, link]
  · exact ⟨up ▸ orderly.up, down ▸ orderly.down, link ▸ orderly.link,
      count ▸ orderly.count⟩

theorem updateRetryPointer_keeps {m : LinkMaster} (packet : Packet) (orderly : m.Orderly) :
    Keeps m (m.updateRetryPointer packet) := by
  rw [updateRetryPointer]
  split
  · exact Keeps.of_eq orderly rfl rfl rfl rfl rfl rfl
  · exact Keeps.refl orderly

theorem buffered_reset {channel : Channel} {packet : Packet} (buffered : packet.Buffered channel) :
    packet.resetLinkFields.Buffered channel :=
  ⟨buffered.side, buffered.carries, buffered.regular.flow, fun _ => ⟨rfl, rfl⟩⟩

@[simp] theorem credit_reset (channel : Channel) (packet : Packet) :
    channel.credit packet.resetLinkFields = 0 := by
  cases channel <;> rfl

theorem receiveUp_keeps {m m' : LinkMaster} {packet : Packet} (orderly : m.Orderly)
    (buffered : packet.Buffered .up) (received : m.receiveUp packet.resetLinkFields = some m') :
    Keeps m m' := by
  rw [receiveUp] at received
  split at received
  · obtain rfl := Option.some.inj received
    have up := List.forall_mem_append.mpr
      ⟨orderly.up, List.forall_mem_singleton.mpr (buffered_reset buffered)⟩
    exact ⟨fun _ => rfl, fun channel => by simp [LinkMaster.owed], rfl, { orderly with up }⟩
  · cases received

theorem receiveDown_keeps {m m' : LinkMaster} {packet : Packet} (orderly : m.Orderly)
    (buffered : packet.Buffered .down) (received : m.receiveDown packet.resetLinkFields = some m') :
    Keeps m m' := by
  rw [receiveDown] at received
  split at received
  · obtain rfl := Option.some.inj received
    have down := List.forall_mem_append.mpr
      ⟨orderly.down, List.forall_mem_singleton.mpr (buffered_reset buffered)⟩
    exact ⟨fun _ => rfl, fun channel => by simp [LinkMaster.owed], rfl, { orderly with down }⟩
  · cases received

theorem setHeadRRP_buffered {channel : Channel} {packets : List Packet} (rrp : ℕ)
    (buffered : ∀ packet ∈ packets, packet.Buffered channel) :
    ∀ packet ∈ setHeadRRP rrp packets, packet.Buffered channel := by
  cases packets with
  | nil => exact buffered
  | cons head rest =>
    rw [List.forall_mem_cons] at buffered
    have ⟨⟨side, carries, regular⟩, tail⟩ := buffered
    exact List.forall_mem_cons.mpr ⟨⟨side, carries, regular.flow, regular.free⟩, tail⟩

@[simp] theorem credits_setHeadRRP (channel : Channel) (rrp : ℕ) (packets : List Packet) :
    channel.credits (setHeadRRP rrp packets) = channel.credits packets := by
  cases packets with
  | nil => rfl
  | cons head rest => cases channel <;> rfl

theorem pret_regular (m : LinkMaster) (tag rrp : ℕ) : (m.pret tag rrp).Regular :=
  ⟨fun _ => rfl, fun _ => ⟨rfl, rfl⟩⟩

@[simp] theorem credit_pret (channel : Channel) (m : LinkMaster) (tag rrp : ℕ) :
    channel.credit (m.pret tag rrp) = 0 := by
  cases channel <;> rfl

@[simp] theorem price_pret (channel : Channel) (m : LinkMaster) (tag rrp : ℕ) :
    channel.price (m.pret tag rrp) = 0 := by
  cases channel <;> rfl

theorem returnRetryPointer_keeps {m : LinkMaster} (packet : Packet) (orderly : m.Orderly) :
    Keeps m (m.returnRetryPointer packet) := by
  simp only [returnRetryPointer]
  split
  · exact ⟨fun _ => rfl, fun channel => by simp [LinkMaster.owed], rfl,
      { orderly with up := setHeadRRP_buffered _ orderly.up }⟩
  · split
    · exact ⟨fun _ => rfl, fun channel => by simp [LinkMaster.owed], rfl,
        { orderly with down := setHeadRRP_buffered _ orderly.down }⟩
    · have link := List.forall_mem_append.mpr
        ⟨orderly.link, List.forall_mem_singleton.mpr (pret_regular m packet.TAG packet.FRP)⟩
      exact ⟨fun channel => by simp [LinkMaster.held, LinkMaster.tokenCount],
        fun channel => by simp [LinkMaster.owed], rfl, { orderly with link }⟩

@[simp] theorem credit_fillTail (channel : Channel) (crcCheck : Bool) (m : LinkMaster)
    (nextWriteP : ℕ) (packet : Packet) :
    channel.credit (m.fillTail crcCheck nextWriteP packet) = channel.credit packet := by
  cases channel <;> simp [Channel.credit]

@[simp] theorem price_fillTail (channel : Channel) (crcCheck : Bool) (m : LinkMaster)
    (nextWriteP : ℕ) (packet : Packet) :
    channel.price (m.fillTail crcCheck nextWriteP packet) = channel.price packet := by
  simp [Channel.price]

theorem pushLink_tokenCount (m : LinkMaster) (packet : Packet) :
    (m.pushLink packet).tokenCount = m.tokenCount := by
  funext channel
  cases channel <;> simp [tokenCount]

theorem saveRetry_tokenCount (crcCheck : Bool) (m : LinkMaster) (packet : Packet) :
    (m.saveRetry crcCheck packet).tokenCount = m.tokenCount := by
  funext channel
  cases channel <;> simp [tokenCount]

/-- A packet is paid for exactly when its tokens are there. -/
theorem countPacket_tokenCount {m : LinkMaster} (packet : Packet) (orderly : m.Orderly)
    (channel : Channel) (afford : channel.price packet ≤ m.tokenCount channel) :
    (m.countPacket packet).tokenCount channel + channel.price packet = m.tokenCount channel := by
  have count := orderly.count channel
  have small : maxLinkBuf < 2 ^ 32 := by decide
  by_cases same : packet.packetType = channel.packetType
  · rw [Channel.price_of_eq same] at afford ⊢
    cases channel with
    | up =>
      have count' : (m.countPacket packet).upTokenCount = unsignedSub m.upTokenCount packet.LNG :=
        if_pos same
      simp only [tokenCount] at *
      rw [count', unsignedSub_eq afford (by omega)]
      omega
    | down =>
      have count' : (m.countPacket packet).downTokenCount =
          unsignedSub m.downTokenCount packet.LNG := if_pos same
      simp only [tokenCount] at *
      rw [count', unsignedSub_eq afford (by omega)]
      omega
  · rw [Channel.price_of_ne same]
    cases channel with
    | up => exact if_neg same
    | down => exact if_neg same

/-- Sending the head of a buffer turns its tokens into a packet on the link and
    moves its credits along. -/
theorem updateField_keeps {crcCheck : Bool} {m m' : LinkMaster} {nextWriteP : ℕ}
    {channel : Channel} {head : Packet} {rest : List Packet} (orderly : m.Orderly)
    (buffer : m.buffer channel = head :: rest)
    (afford : ∀ channel, channel.price head ≤ m.tokenCount channel)
    (updated : m.updateField crcCheck nextWriteP head = .ok m') : Keeps m m' := by
  simp only [updateField] at updated
  split at updated
  · cases updated
  · obtain rfl := pure_eq_ok.mp updated
    have buffered := (orderly.buffered channel) head (buffer ▸ List.mem_cons_self ..)
    have regular : ((m.fillTail crcCheck nextWriteP head).withDelay 1).Regular :=
      buffered.regular.congr (by simp) (by simp) (by simp) (by simp)
    have paid := fun channel => countPacket_tokenCount (m.fillTail crcCheck nextWriteP head)
      orderly channel (by simpa using afford channel)
    have link := List.forall_mem_append.mpr ⟨orderly.link, List.forall_mem_singleton.mpr regular⟩
    refine ⟨fun channel' => ?_, fun channel' => ?_, by simp, ?_⟩
    · have paid := paid channel'
      simp only [LinkMaster.held, pushLink_tokenCount, saveRetry_tokenCount, pushLink_linkRxTx,
        saveRetry_linkRxTx, countPacket_linkRxTx, Channel.load_append, Channel.load_cons,
        Channel.load_nil, Channel.price_withDelay]
      omega
    · cases channel with
      | up =>
        have response : head.packetType ≠ .REQUEST := fun request =>
          absurd (buffered.side.mp request) (by decide)
        have buffer : m.upBuffers = head :: rest := buffer
        simp [LinkMaster.owed, response, buffer]
        omega
      | down =>
        have request : head.packetType = .REQUEST := buffered.side.mpr rfl
        have buffer : m.downBuffers = head :: rest := buffer
        simp [LinkMaster.owed, request, buffer]
        omega
    · constructor
      · intro packet member
        simp only [pushLink_upBuffers, saveRetry_upBuffers, countPacket_upBuffers] at member
        split at member
        · exact orderly.up packet member
        · exact orderly.up packet (List.mem_of_mem_tail member)
      · intro packet member
        simp only [pushLink_downBuffers, saveRetry_downBuffers, countPacket_downBuffers] at member
        split at member
        · exact orderly.down packet (List.mem_of_mem_tail member)
        · exact orderly.down packet member
      · simpa using link
      · intro channel
        have paid := paid channel
        have count := orderly.count channel
        rw [pushLink_tokenCount, saveRetry_tokenCount]
        omega

theorem startCountdown_keeps (crcCheck : Bool) {m : LinkMaster} (packet : Packet)
    (orderly : m.Orderly) : Keeps m (m.startCountdown crcCheck packet) := by
  rw [startCountdown]
  split
  · exact Keeps.of_eq orderly rfl rfl rfl rfl rfl rfl
  · exact Keeps.refl orderly

theorem crcCountdown_keeps {crcCheck : Bool} {m m' : LinkMaster} {writeP : ℕ} {channel : Channel}
    {head : Packet} {rest : List Packet} (orderly : m.Orderly)
    (buffer : m.buffer channel = head :: rest)
    (afford : ∀ channel, channel.price head ≤ m.tokenCount channel)
    (counted : m.crcCountdown crcCheck writeP head = .ok m') : Keeps m m' := by
  have start := startCountdown_keeps crcCheck head orderly
  have same : (m.startCountdown crcCheck head).tokenCount = m.tokenCount ∧
      (m.startCountdown crcCheck head).buffer = m.buffer := by
    rw [startCountdown]
    split <;> exact ⟨rfl, rfl⟩
  rw [crcCountdown] at counted
  split at counted
  · obtain rfl := pure_eq_ok.mp counted
    exact start.trans (Keeps.of_eq start.orderly rfl rfl rfl rfl rfl rfl)
  · obtain ⟨m₁, updated, counted⟩ := bind_eq_ok.mp counted
    obtain rfl := pure_eq_ok.mp counted
    have update := updateField_keeps start.orderly (same.2 ▸ buffer) (same.1 ▸ afford) updated
    exact (start.trans update).trans (Keeps.of_eq update.orderly rfl rfl rfl rfl rfl rfl)

theorem sendHead_keeps {crcCheck : Bool} {m m' : LinkMaster} (channel : Channel)
    (orderly : m.Orderly)
    (sent : m.sendHead crcCheck (m.tokenCount channel) (m.buffer channel) = .ok m') :
    Keeps m m' := by
  have idle : ∀ {m'}, (pure m : Except LinkError LinkMaster) = .ok m' → Keeps m m' :=
    fun idle => pure_eq_ok.mp idle ▸ Keeps.refl orderly
  cases buffer : m.buffer channel with
  | nil =>
    rw [buffer] at sent
    exact idle sent
  | cons head rest =>
    have buffered := orderly.buffered channel head (buffer ▸ List.mem_cons_self ..)
    rw [buffer] at sent
    simp only [sendHead] at sent
    split at sent
    · split at sent
      · rename_i ready
        have afford := fun channel' => buffered.afford ready.2 channel'
        split at sent
        · split at sent
          · split at sent
            · exact crcCountdown_keeps orderly buffer afford sent
            · exact idle sent
          · split at sent
            · exact crcCountdown_keeps orderly buffer afford sent
            · exact idle sent
        · exact crcCountdown_keeps orderly buffer afford sent
      · exact idle sent
    · exact idle sent

theorem finishLinkRetry_normal {m : LinkMaster} (normal : m.currentState = .NORMAL) :
    m.finishLinkRetry = .ok m := by
  rw [finishLinkRetry, if_neg]
  · rfl
  · rw [normal]
    exact fun ended => absurd ended.1 (by decide)

theorem startRetry_currentState (m : LinkMaster) (packet : Packet) :
    (m.startRetry packet).currentState ≠ .NORMAL := by
  simp only [startRetry]
  split
  · rename_i retry
    exact fun normal => absurd (retry.symm.trans normal) (by decide)
  · exact fun normal => nomatch (normal : LinkState.START_RETRY = .NORMAL)

theorem linkRetry_currentState {m m' : LinkMaster} {packet : Packet}
    (retried : m.linkRetry packet = .ok m') : m'.currentState ≠ .NORMAL := by
  simp only [linkRetry] at retried
  split at retried
  · cases retried
  · split at retried
    · cases retried
    · obtain rfl := pure_eq_ok.mp retried
      exact fun normal => nomatch (normal : LinkState.LINK_RETRY = .NORMAL)

theorem countRetryTime_keeps {m : LinkMaster} (orderly : m.Orderly) : Keeps m m.countRetryTime := by
  rw [countRetryTime]
  split
  · exact Keeps.of_eq orderly rfl rfl rfl rfl rfl rfl
  · exact Keeps.refl orderly

theorem retryTimeOut_keeps {m m' : LinkMaster} (orderly : m.Orderly)
    (normal : m.currentState = .NORMAL) (normal' : m'.currentState = .NORMAL)
    (timed : m.retryTimeOut = .ok m') : Keeps m m' := by
  have count := countRetryTime_keeps orderly
  simp only [retryTimeOut] at timed
  split at timed
  · split at timed
    · obtain rfl := pure_eq_ok.mp timed
      exact count.trans (Keeps.of_eq count.orderly rfl rfl rfl rfl rfl
        (normal.symm.trans count.state.symm))
    · split at timed
      · cases timed
      · obtain rfl := pure_eq_ok.mp timed
        exact absurd normal' (startRetry_currentState _ _)
  · exact pure_eq_ok.mp timed ▸ count

theorem buffered_tick {channel : Channel} {packets : List Packet}
    (buffered : ∀ packet ∈ packets, packet.Buffered channel) :
    ∀ packet ∈ packets.map Packet.tick, packet.Buffered channel := by
  intro packet member
  obtain ⟨packet', member', rfl⟩ := List.mem_map.mp member
  have ⟨side, carries, regular⟩ := buffered packet' member'
  exact ⟨side, carries, regular.flow, regular.free⟩

theorem tick_keeps {m : LinkMaster} (orderly : m.Orderly) : Keeps m m.tick :=
  ⟨fun _ => rfl, fun channel => by simp [LinkMaster.owed, tick], rfl,
    { up := buffered_tick orderly.up
      down := buffered_tick orderly.down
      link := orderly.link
      count := orderly.count }⟩

theorem update_keeps {crcCheck : Bool} {m m' : LinkMaster} (orderly : m.Orderly)
    (normal : m.currentState = .NORMAL) (normal' : m'.currentState = .NORMAL)
    (updated : m.update crcCheck = .ok m') : Keeps m m' := by
  obtain ⟨m₁, sentUp, updated⟩ := bind_eq_ok.mp updated
  obtain ⟨m₂, sentDown, updated⟩ := bind_eq_ok.mp updated
  have up := sendHead_keeps .up orderly sentUp
  have down := sendHead_keeps .down up.orderly sentDown
  have normal₂ : m₂.currentState = .NORMAL := down.state.trans (up.state.trans normal)
  obtain ⟨m₃, finished, updated⟩ := bind_eq_ok.mp updated
  obtain rfl := Except.ok.inj ((finishLinkRetry_normal normal₂).symm.trans finished)
  obtain ⟨m₄, timed, updated⟩ := bind_eq_ok.mp updated
  obtain rfl := pure_eq_ok.mp updated
  have normal₄ : m₄.currentState = .NORMAL := normal'
  have time := retryTimeOut_keeps down.orderly normal₂ normal₄ timed
  exact ((up.trans down).trans time).trans (tick_keeps time.orderly)

/-! ## Tokens that come in and go out -/

/-- Tokens that arrive are added as long as they are no more than the maximum. -/
theorem updateToken_eq {m : LinkMaster} {packet : Packet}
    (bounded : ∀ channel, m.tokenCount channel + channel.credit packet ≤ maxLinkBuf) :
    m.updateToken packet = .ok { m with
      downTokenCount := m.downTokenCount + packet.DRTC
      upTokenCount := m.upTokenCount + packet.URTC } := by
  have up : m.upTokenCount + packet.URTC ≤ maxLinkBuf := bounded .up
  have down : m.downTokenCount + packet.DRTC ≤ maxLinkBuf := bounded .down
  have addDown : m.addDownTokens packet.DRTC =
      .ok { m with downTokenCount := m.downTokenCount + packet.DRTC } := by
    rw [addDownTokens]
    by_cases none : packet.DRTC = 0
    · simp [none, pure, Except.pure]
    · simp [none, Nat.not_lt.mpr down, pure, Except.pure]
  rw [updateToken, addDown]
  show addUpTokens _ _ = _
  rw [addUpTokens]
  by_cases none : packet.URTC = 0
  · simp [none, pure, Except.pure]
  · simp [none, Nat.not_lt.mpr up, pure, Except.pure]

/-- What arrives is held. -/
theorem updateToken_held {m : LinkMaster} {packet : Packet} (channel : Channel) :
    { m with
      downTokenCount := m.downTokenCount + packet.DRTC
      upTokenCount := m.upTokenCount + packet.URTC : LinkMaster }.held channel =
      m.held channel + channel.credit packet := by
  cases channel <;> simp only [LinkMaster.held, tokenCount, Channel.credit] <;> omega

/-- The tokens of a packet that is no flow packet, by channel. -/
theorem extTokens {packet : Packet} (noFlow : packet.packetType ≠ .FLOW) :
    (if packet.packetType = .REQUEST then packet.LNG else 0) = Channel.down.price packet ∧
      (if packet.packetType = .REQUEST then 0 else packet.LNG) = Channel.up.price packet := by
  simp only [Channel.price, Channel.packetType]
  cases packetType : packet.packetType with
  | REQUEST => simp
  | RESPONSE => simp
  | FLOW => exact absurd packetType noFlow

def extra (extURTC extDRTC : ℕ) : Channel → ℕ
  | .up => extURTC
  | .down => extDRTC

theorem credits_embedTokens {extURTC extDRTC tokenCount : ℕ} (channel : Channel) :
    ∀ {packets : List Packet}, canEmbed tokenCount packets →
      channel.credits (embedTokens extURTC extDRTC packets) =
        channel.credits packets + extra extURTC extDRTC channel
  | [], embed => by cases embed
  | packet :: packets, embed => by
    rw [embedTokens]
    split
    · cases channel <;> simp [Channel.credit, extra] <;> omega
    · rename_i carries
      have embed : canEmbed tokenCount packets := by
        simpa [canEmbed, List.find?_cons, carries] using embed
      rw [Channel.credits_cons, Channel.credits_cons, credits_embedTokens channel embed]
      omega

theorem embedTokens_buffered {channel : Channel} {extURTC extDRTC : ℕ} :
    ∀ {packets : List Packet}, (∀ packet ∈ packets, packet.Buffered channel) →
      ∀ packet ∈ embedTokens extURTC extDRTC packets, packet.Buffered channel
  | [], buffered => buffered
  | packet :: packets, buffered => by
    have ⟨head, tail⟩ := List.forall_mem_cons.mp buffered
    have ⟨side, carries, regular⟩ := head
    rw [embedTokens, if_pos carries]
    refine List.forall_mem_cons.mpr ⟨⟨side, carries, regular.flow, fun free => ?_⟩, tail⟩
    simp only [carriesTokens, decide_eq_true_eq] at carries
    exact absurd free (not_or.mpr carries)

theorem tret_buffered (m : LinkMaster) (tag extURTC extDRTC : ℕ) :
    (m.tret tag extURTC extDRTC).Buffered .up where
  side := ⟨fun request => (nomatch request), fun down => (nomatch down)⟩
  carries := rfl
  regular := ⟨fun _ => rfl, fun free => by rcases free with free | free <;> cases free⟩

theorem credit_tret (channel : Channel) (m : LinkMaster) (tag extURTC extDRTC : ℕ) :
    channel.credit (m.tret tag extURTC extDRTC) = extra extURTC extDRTC channel := by
  cases channel <;> rfl

theorem insertSecond_eq_ok {packet : Packet} {packets packets' : List Packet}
    (inserted : insertSecond packet packets = .ok packets') :
    ∃ head rest, packets = head :: rest ∧ packets' = head :: packet :: rest := by
  cases packets with
  | nil => cases inserted
  | cons head rest => exact ⟨head, rest, rfl, (pure_eq_ok.mp inserted).symm⟩

/-- A packet that leaves the slave's buffer turns into credits. -/
theorem returnToken_owed {m m' : LinkMaster} {packet : Packet} (orderly : m.Orderly)
    (normal : m.currentState = .NORMAL) (returned : m.returnToken packet = .ok m') :
    (∀ channel, m'.held channel = m.held channel) ∧
      (∀ channel, m'.owed channel = m.owed channel + channel.price packet) ∧
      m'.currentState = .NORMAL ∧ m'.Orderly := by
  simp only [returnToken] at returned
  split at returned
  · cases returned
  · rename_i proper
    obtain ⟨down, up⟩ := extTokens fun flow => proper (.inl flow)
    rw [down, up] at returned
    have price : ∀ channel, extra (Channel.up.price packet) (Channel.down.price packet) channel =
        channel.price packet := fun channel => by cases channel <;> rfl
    have tret := tret_buffered m packet.TAG (Channel.up.price packet) (Channel.down.price packet)
    split at returned
    · rename_i embed
      obtain rfl := pure_eq_ok.mp returned
      refine ⟨fun _ => rfl, fun channel => ?_, normal,
        { orderly with up := embedTokens_buffered orderly.up }⟩
      simp only [LinkMaster.owed, credits_embedTokens channel embed, price]
      omega
    · split at returned
      · rename_i embed
        obtain rfl := pure_eq_ok.mp returned
        refine ⟨fun _ => rfl, fun channel => ?_, normal,
          { orderly with down := embedTokens_buffered orderly.down }⟩
        simp only [LinkMaster.owed, credits_embedTokens channel embed, price]
        omega
      · split at returned
        · rename_i retry
          exact absurd (retry.symm.trans normal) (by decide)
        · split at returned
          · obtain ⟨upBuffers, inserted, returned⟩ := bind_eq_ok.mp returned
            obtain rfl := pure_eq_ok.mp returned
            obtain ⟨head, rest, before, rfl⟩ := insertSecond_eq_ok inserted
            have ⟨first, tail⟩ := List.forall_mem_cons.mp (before ▸ orderly.up)
            have up := List.forall_mem_cons.mpr ⟨first, List.forall_mem_cons.mpr ⟨tret, tail⟩⟩
            refine ⟨fun _ => rfl, fun channel => ?_, normal, { orderly with up }⟩
            simp only [LinkMaster.owed, before, Channel.credits_cons, credit_tret, price]
            omega
          · obtain rfl := pure_eq_ok.mp returned
            have up := List.forall_mem_cons.mpr ⟨tret, orderly.up⟩
            refine ⟨fun _ => rfl, fun channel => ?_, normal, { orderly with up }⟩
            simp only [LinkMaster.owed, Channel.credits_cons, credit_tret, price]
            omega

end LinkMaster

end ActiveRouting

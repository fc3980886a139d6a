import ActiveRouting.Link.LinkSystem

/-!
# Tokens

The virtual channels of a link and the places of a channel's tokens: the count
of the sending master, packets on their way, the slave's buffer, and the
credits that travel back in the tails of the other direction's packets.
-/

namespace ActiveRouting

open Outcome

/-- The virtual channels of a link: responses and requests. -/
inductive Channel where
  | up | down
  deriving DecidableEq, Repr

namespace Channel

def packetType : Channel → PacketType
  | up => .RESPONSE
  | down => .REQUEST

/-- The return tokens of the channel that a packet carries. -/
def credit (channel : Channel) (packet : Packet) : ℕ :=
  match channel with
  | up => packet.URTC
  | down => packet.DRTC

/-- The tokens of the channel that a packet is sent for. -/
def price (channel : Channel) (packet : Packet) : ℕ :=
  if packet.packetType = channel.packetType then packet.LNG else 0

theorem price_of_eq {channel : Channel} {packet : Packet}
    (same : packet.packetType = channel.packetType) : channel.price packet = packet.LNG := if_pos same

theorem price_of_ne {channel : Channel} {packet : Packet}
    (other : packet.packetType ≠ channel.packetType) : channel.price packet = 0 := if_neg other

def credits (channel : Channel) (packets : List Packet) : ℕ := (packets.map channel.credit).sum

def load (channel : Channel) (packets : List Packet) : ℕ := (packets.map channel.price).sum

@[simp] theorem credits_nil (channel : Channel) : channel.credits [] = 0 := rfl
@[simp] theorem load_nil (channel : Channel) : channel.load [] = 0 := rfl

@[simp] theorem credits_cons (channel : Channel) (packet : Packet) (packets : List Packet) :
    channel.credits (packet :: packets) = channel.credit packet + channel.credits packets := rfl

@[simp] theorem load_cons (channel : Channel) (packet : Packet) (packets : List Packet) :
    channel.load (packet :: packets) = channel.price packet + channel.load packets := rfl

@[simp] theorem credits_append (channel : Channel) (packets packets' : List Packet) :
    channel.credits (packets ++ packets') = channel.credits packets + channel.credits packets' := by
  simp [credits]

@[simp] theorem load_append (channel : Channel) (packets packets' : List Packet) :
    channel.load (packets ++ packets') = channel.load packets + channel.load packets' := by
  simp [load]

@[simp] theorem credit_tick (channel : Channel) (packet : Packet) :
    channel.credit packet.tick = channel.credit packet := by
  cases channel <;> rfl

@[simp] theorem price_tick (channel : Channel) (packet : Packet) :
    channel.price packet.tick = channel.price packet := rfl

@[simp] theorem credit_withDelay (channel : Channel) (packet : Packet) (delay : ℕ) :
    channel.credit (packet.withDelay delay) = channel.credit packet := by
  cases channel <;> rfl

@[simp] theorem price_withDelay (channel : Channel) (packet : Packet) (delay : ℕ) :
    channel.price (packet.withDelay delay) = channel.price packet := rfl

@[simp] theorem credits_tick (channel : Channel) (packets : List Packet) :
    channel.credits (packets.map Packet.tick) = channel.credits packets := by
  induction packets with
  | nil => rfl
  | cons packet packets inductionHypothesis => simp [inductionHypothesis]

@[simp] theorem load_tick (channel : Channel) (packets : List Packet) :
    channel.load (packets.map Packet.tick) = channel.load packets := by
  induction packets with
  | nil => rfl
  | cons packet packets inductionHypothesis => simp [inductionHypothesis]

end Channel

@[simp] theorem occupancy_nil : occupancy [] = 0 := rfl

@[simp] theorem occupancy_cons (packet : Packet) (packets : List Packet) :
    occupancy (packet :: packets) = packet.LNG + occupancy packets := rfl

@[simp] theorem occupancy_append (packets packets' : List Packet) :
    occupancy (packets ++ packets') = occupancy packets + occupancy packets' := by
  simp [occupancy]

@[simp] theorem occupancy_tick (packets : List Packet) :
    occupancy (packets.map Packet.tick) = occupancy packets := by
  simp [occupancy, Function.comp_def]

/-! ## Where tokens are -/

namespace LinkMaster

def tokenCount (m : LinkMaster) : Channel → ℕ
  | .up => m.upTokenCount
  | .down => m.downTokenCount

def buffer (m : LinkMaster) : Channel → List Packet
  | .up => m.upBuffers
  | .down => m.downBuffers

/-- Tokens that the master has, or has paid for packets that are not on the
    link yet. -/
def held (m : LinkMaster) (channel : Channel) : ℕ :=
  m.tokenCount channel + channel.load m.linkRxTx

/-- Credits for the other end that wait at this master. -/
def owed (m : LinkMaster) (channel : Channel) : ℕ :=
  channel.credits m.upBuffers + channel.credits m.downBuffers + channel.credits m.linkRxTx

end LinkMaster

namespace LinkSlave

def buffer (s : LinkSlave) : Channel → List Packet
  | .up => s.upBuffers
  | .down => s.downBuffers

/-- Tokens paid for packets that have reached the slave. -/
def occupied (s : LinkSlave) (channel : Channel) : ℕ :=
  channel.load s.linkRxTx + occupancy (s.buffer channel)

end LinkSlave

/-- A flow command that a link may send. -/
def Packet.flowCommand (packet : Packet) : Bool :=
  packet.CMD = .PRET ∨ packet.CMD = .TRET ∨ packet.CMD = .IRTRY

/-- A packet as the link knows it: flow commands are flow packets, and those
    that no one extracts tokens from carry none. -/
structure Packet.Regular (packet : Packet) : Prop where
  flow : packet.CMD = .PRET ∨ packet.CMD = .TRET ∨ packet.CMD = .IRTRY → packet.packetType = .FLOW
  free : packet.CMD = .PRET ∨ packet.CMD = .IRTRY → packet.URTC = 0 ∧ packet.DRTC = 0

theorem Packet.Regular.congr {packet packet' : Packet} (regular : packet.Regular)
    (CMD : packet'.CMD = packet.CMD) (packetType : packet'.packetType = packet.packetType)
    (URTC : packet'.URTC = packet.URTC) (DRTC : packet'.DRTC = packet.DRTC) : packet'.Regular := by
  constructor
  · rw [CMD, packetType]
    exact regular.flow
  · rw [CMD, URTC, DRTC]
    exact regular.free

/-- A packet that waits in a buffer of a link master. -/
structure Packet.Buffered (channel : Channel) (packet : Packet) : Prop where
  side : packet.packetType = .REQUEST ↔ channel = .down
  carries : LinkMaster.carriesTokens packet
  regular : packet.Regular

theorem Packet.Buffered.channel_eq {channel channel' : Channel} {packet : Packet}
    (buffered : packet.Buffered channel) (same : packet.packetType = channel'.packetType) :
    channel' = channel := by
  have side := buffered.side
  rw [same] at side
  cases channel with
  | up =>
    cases channel' with
    | up => rfl
    | down => exact absurd (side.mp rfl) (by decide)
  | down =>
    cases channel' with
    | up => exact absurd (side.mpr rfl) (by decide)
    | down => rfl

/-- A packet that has the tokens of its own channel has all it needs. -/
theorem Packet.Buffered.afford {channel : Channel} {packet : Packet} {tokenCount : Channel → ℕ}
    (buffered : packet.Buffered channel)
    (ready : packet.packetType = .FLOW ∨ packet.LNG ≤ tokenCount channel) (channel' : Channel) :
    channel'.price packet ≤ tokenCount channel' := by
  by_cases same : packet.packetType = channel'.packetType
  · obtain rfl := buffered.channel_eq same
    cases ready with
    | inl flow =>
      rw [flow] at same
      cases channel' <;> cases same
    | inr enough =>
      rw [Channel.price_of_eq same]
      exact enough
  · rw [Channel.price_of_ne same]
    exact Nat.zero_le _

/-- The packets of a master are in their buffers, and no count is over the
    maximum. -/
structure LinkMaster.Orderly (m : LinkMaster) : Prop where
  up : ∀ packet ∈ m.upBuffers, packet.Buffered .up
  down : ∀ packet ∈ m.downBuffers, packet.Buffered .down
  link : ∀ packet ∈ m.linkRxTx, packet.Regular
  count : ∀ channel, m.tokenCount channel ≤ maxLinkBuf

theorem LinkMaster.Orderly.buffered {m : LinkMaster} (orderly : m.Orderly) (channel : Channel) :
    ∀ packet ∈ m.buffer channel, packet.Buffered channel := by
  cases channel with
  | up => exact orderly.up
  | down => exact orderly.down

/-- The packets in the buffers of a slave are in their buffers. -/
def LinkSlave.Orderly (s : LinkSlave) : Prop :=
  ∀ channel, ∀ packet ∈ s.buffer channel, packet.packetType = channel.packetType

end ActiveRouting

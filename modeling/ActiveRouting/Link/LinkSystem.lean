import ActiveRouting.Link.LinkSlave

/-!
# A bidirectional link

Two ends, each with a link master and a link slave, and the two links between
them (`Link.cpp`).  Every component is updated on its own, in any order; the
packets handed to the masters, the noise on the links and the room behind the
slaves are the environment's.
-/

namespace ActiveRouting

/-- One end of the connection, with the link that its master sends on. -/
structure LinkSide where
  master : LinkMaster
  slave : LinkSlave
  inFlightPacket : Option Packet := none
  inFlightCountdown : ℕ := 0

/-- Both ends, and what an observer has seen: the packets handed to each
    master, and the packets that each slave has passed to its buffers. -/
structure LinkSystem where
  side : Bool → LinkSide
  given : Bool → List Packet := fun _ => []
  received : Bool → List Packet := fun _ => []

namespace LinkSystem

/-- The two ends after construction, with the directions that their masters and
    slaves are constructed with. -/
def init (masterDown slaveDown : Bool → Bool) : LinkSystem where
  side x :=
    { master := { downstream := masterDown x }, slave := { downstream := slaveDown x } }

inductive Action where
  /-- A component hands a response or a request to the master of an end. -/
  | receiveUp (x : Bool) (packet : Packet)
  | receiveDown (x : Bool) (packet : Packet)
  | masterUpdate (x : Bool)
  /-- `Link::Update(lastUpdate)` on the link from `x`; `noise` says whether the
      link errs on the packet that arrives. -/
  | linkUpdate (x : Bool) (noise lastUpdate : Bool)
  | slaveUpdate (x : Bool) (acceptUp acceptDown : Bool)
  deriving DecidableEq, Repr

/-- Replace one end. -/
def setSide (sys : LinkSystem) (x : Bool) (side : LinkSide) : LinkSystem :=
  { sys with side := Function.update sys.side x side }

@[simp] theorem setSide_side_self (sys : LinkSystem) (x : Bool) (side : LinkSide) :
    (sys.setSide x side).side x = side := Function.update_self _ _ _

theorem setSide_side_ne {x y : Bool} (sys : LinkSystem) (ne : y ≠ x) (side : LinkSide) :
    (sys.setSide x side).side y = sys.side y := Function.update_of_ne ne _ _

@[simp] theorem setSide_side_not (sys : LinkSystem) (x : Bool) (side : LinkSide) :
    (sys.setSide x side).side (!x) = sys.side (!x) := Function.update_of_ne (by simp) _ _

/-- `NoisePacket`. -/
def noisePacket (noise : Bool) (packet : Packet) : Packet :=
  if noise ∧ packet.CMD ≠ .ACT_GET then { packet with CRC := ~~~packet.CRC } else packet

/-- The first block of `Link::Update`: start to transmit the next packet. -/
def startTransmission (side : LinkSide) : LinkSide :=
  match side.master.linkRxTx, side.inFlightPacket with
  | packet :: rest, none =>
    if packet.bufPopDelay = 0 ∧ (side.master.currentState = .NORMAL ∨
        side.master.currentState = .LINK_RETRY ∨
        (side.master.currentState = .START_RETRY ∧ packet.CMD = .IRTRY ∧ packet.FRP = 1)) then
      { side with
        master := { side.master with linkRxTx := rest }
        inFlightPacket := some packet
        inFlightCountdown := packet.LNG * 128 / linkWidth }
    else side
  | _, _ => side

/-- The second block: count down, and deliver to the slave behind the link. -/
def transmit (side : LinkSide) (slave : LinkSlave) (noise : Bool) : LinkSide × LinkSlave :=
  if 0 < side.inFlightCountdown then
    let countdown := side.inFlightCountdown - 1
    match side.inFlightPacket, countdown with
    | some packet, 0 =>
      ({ side with inFlightCountdown := 0, inFlightPacket := none },
        { slave with
          linkRxTx := slave.linkRxTx ++ [(noisePacket noise packet).withDelay 1] })
    | _, countdown => ({ side with inFlightCountdown := countdown }, slave)
  else (side, slave)

/-- The last block of `Link::Update`. -/
def tickLink (side : LinkSide) (lastUpdate : Bool) : LinkSide :=
  if lastUpdate then
    { side with master := { side.master with
      linkRxTx := side.master.linkRxTx.map Packet.tick } }
  else side

/-- `Link::Update` on the link from `x`. -/
def linkUpdate (sys : LinkSystem) (x noise lastUpdate : Bool) : LinkSystem :=
  let moved := transmit (startTransmission (sys.side x)) (sys.side (!x)).slave noise
  (sys.setSide x (tickLink moved.1 lastUpdate)).setSide (!x)
    { sys.side (!x) with slave := moved.2 }

def step (crcCheck : Bool) (sys : LinkSystem) : Action → Except LinkError LinkSystem
  | .receiveUp x packet =>
    match (sys.side x).master.receiveUp packet.resetLinkFields with
    | some master => pure { sys.setSide x { sys.side x with master } with
        given := Function.update sys.given x (sys.given x ++ [packet]) }
    | none => pure sys
  | .receiveDown x packet =>
    match (sys.side x).master.receiveDown packet.resetLinkFields with
    | some master => pure { sys.setSide x { sys.side x with master } with
        given := Function.update sys.given x (sys.given x ++ [packet]) }
    | none => pure sys
  | .masterUpdate x => do
    let master ← (sys.side x).master.update crcCheck
    pure (sys.setSide x { sys.side x with master })
  | .linkUpdate x noise lastUpdate => pure (sys.linkUpdate x noise lastUpdate)
  | .slaveUpdate x acceptUp acceptDown => do
    let (master, slave, received) ←
      (sys.side x).slave.update crcCheck (sys.side x).master acceptUp acceptDown
    pure { sys.setSide x { sys.side x with master, slave } with
      received := Function.update sys.received x (sys.received x ++ received.toList) }

end LinkSystem

end ActiveRouting

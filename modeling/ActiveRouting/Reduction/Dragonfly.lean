import ActiveRouting.Reduction.Safety

/-!
# The reduction on a dragonfly

A cube that commits a flow has gathered what is below it, and the answer that the host receives
accounts for all updates.  Reads of operands are another matter: a multiplication that was split
above may still wait for one in a vault below a cube that has committed.
-/

namespace ActiveRouting

open CrossbarSwitch Transition

namespace DFly

end DFly

namespace CubeNetwork

variable {M : Type} [AddCommMonoid M] {c : CubeNetworkConfig M} {s : CubeNetwork M}
  {actions : List Action}

instance (packet : Packet) : Decidable (Fits c packet) :=
  decidable_of_iff (packet.segment = false ∧ packet.reqDataSize ≤ c.dram.addressMapping)
    ⟨fun fits => ⟨fits.1, fits.2⟩, fun fits => ⟨fits.segment, fits.size⟩⟩

instance (s : CubeNetwork M) (cont : ℕ) (packet : Packet) : Decidable (Updates c s cont packet) :=
  decidable_of_iff (c.home packet.DESTADRS = cont ∧ s.asked packet.DESTADRS = false ∧
      Fits c packet ∧ isFullPkt packet = true ∧ packet.SRCCUB = c.root packet.DESTADRS ∧
      0 < packet.LINES ∧ packet.LINES < 2 ^ 32 ∧
      (packet.CMD ≠ .ACT_MULT → packet.operands.all fun operands => operands.1 ≠ 0) ∧
      0 ≤ packet.DESTCUB ∧ packet.dest1 < c.net.nodes ∧ packet.dest2 < c.net.nodes ∧
      (packet.CMD = .ACT_MULT → packet.DESTCUB = packet.DESTCUB1 ∧ 0 ≤ packet.DESTCUB2))
    ⟨fun ⟨home, unasked, fits, whole, source, lines, short, nonzero, dest, in1, in2, first⟩ =>
        ⟨home, unasked, fits, whole, source, lines, short,
          fun notMult operands member =>
            of_decide_eq_true (List.all_eq_true.mp (nonzero notMult) operands member),
          dest, in1, in2, first⟩,
      fun ⟨home, unasked, fits, whole, source, lines, short, nonzero, dest, in1, in2, first⟩ =>
        ⟨home, unasked, fits, whole, source, lines, short,
          fun notMult => List.all_eq_true.mpr fun operands member =>
            decide_eq_true (nonzero notMult operands member),
          dest, in1, in2, first⟩⟩

instance (s : CubeNetwork M) (cont : ℕ) (packet : Packet) : Decidable (Asks c s cont packet) :=
  decidable_of_iff (c.home packet.DESTADRS = cont ∧ s.asked packet.DESTADRS = false ∧
      0 < s.issued packet.DESTADRS ∧ Fits c packet ∧ packet.DESTCUB = c.root packet.DESTADRS)
    ⟨fun ⟨home, unasked, issued, fits, dest⟩ => ⟨home, unasked, issued, fits, dest⟩,
      fun ⟨home, unasked, issued, fits, dest⟩ => ⟨home, unasked, issued, fits, dest⟩⟩

instance (s s' : CubeNetwork M) (action : Action) : Decidable (Guard c s action s') :=
  match action with
  | .issue cont packet => inferInstanceAs (Decidable (0 < packet.LNG ∧
      (isUpdate packet = true → Updates c s cont packet) ∧
        (packet.CMD = .ACT_GET → Asks c s cont packet)))
  | .request _ | .response _ | .visitUp .. | .visitDown .. | .processOperands _ | .commit .. |
    .reply .. => inferInstanceAs (Decidable True)

/-- All vaults and links receive packets. -/
def willing : Answers := ⟨fun _ => true, fun _ => true, fun _ => true⟩

/-- The root splits a multiplication and passes on an addition to cube 1, which has added it
    when it knows of the `GET`. -/
def multAndAdd : List Action :=
  [.issue 0
      { packetType := .REQUEST, CMD := .ACT_MULT, DESTADRS := 0x40, LINES := 1, SRCCUB := 0
        SRCADRS1 := 0x1000, SRCADRS2 := 0x2000, DESTCUB := 1, DESTCUB1 := 1, DESTCUB2 := 2 },
    .issue 0
      { packetType := .REQUEST, CMD := .ACT_ADD, DESTADRS := 0x40, LINES := 1, SRCCUB := 0
        SRCADRS1 := 0x3000, DESTCUB := 1 },
    .issue 0 { packetType := .REQUEST, CMD := .ACT_GET, DESTADRS := 0x40, DESTCUB := 0 }] ++
  List.replicate 3 (.request (.hmcCont 0)) ++ List.replicate 6 (.visitDown 0 0 0 willing) ++
  List.replicate 3 (.request (.hmc 0 1)) ++ List.replicate 3 (.visitDown 1 0 0 willing) ++
  [.reply 1 1, .visitUp 1 4 0 willing, .processOperands 1]

/-- Cube 1 commits, the operands of the multiplication are read, and the root commits. -/
def answerFlow : List Action :=
  multAndAdd ++ [.commit 1 0x40 willing, .response (.hmc 1 0), .visitUp 0 1 0 willing,
    .reply 1 0, .visitUp 1 4 0 willing, .response (.hmc 1 0), .visitUp 0 1 0 willing,
    .request (.hmc 0 2), .visitDown 2 0 0 willing, .reply 2 0, .visitUp 2 4 0 willing,
    .response (.hmc 2 0), .visitUp 0 2 0 willing] ++ List.replicate 6 (.processOperands 0) ++
  [.commit 0 0x40 willing]

end CubeNetwork

end ActiveRouting

import ActiveRouting.Cube.FlowConservation

/-!
# Packets and their tails in a crossbar switch

Every visit of `CrossbarSwitch::Update` keeps the input buffers sequences of
blocks: it erases a packet with its tail, rewrites one without changing its
length, divides one, or combines segments.
-/

namespace ActiveRouting

open Blocks Outcome

namespace SegmentTable

theorem segments_positive {c : DRAMConfig} {request segment : Packet} (positive : 0 < request.LNG)
    (member : segment ∈ segments c request) : 0 < segment.LNG := by
  obtain ⟨j, -, rfl⟩ := List.mem_map.mp member
  show 0 < if 1 < request.LNG then 1 + c.addressMapping / 16 else request.LNG
  split
  · omega
  · exact positive

theorem lengthen_positive (c : DRAMConfig) {stored : Packet} (packet : Packet)
    (positive : 0 < stored.LNG) : 0 < (lengthen c stored packet).LNG := by
  show 0 < if 1 < packet.LNG then stored.LNG + c.addressMapping / 16 else stored.LNG
  split
  · omega
  · exact positive

theorem combine_positive {c : DRAMConfig} {packet : Packet} {last : Bool} :
    ∀ {stored rest : List Packet} {combined : Option Packet},
    (∀ packet ∈ stored, 0 < packet.LNG) → combine c packet last stored = some (rest, combined) →
    (∀ packet ∈ rest, 0 < packet.LNG) ∧ ∀ packet ∈ combined, 0 < packet.LNG
  | [], _, _, _, combines => by cases combines
  | first :: others, rest, combined, positive, combines => by
    obtain ⟨positive_first, positive_others⟩ := List.forall_mem_cons.mp positive
    have positive_lengthened := lengthen_positive c packet positive_first
    rw [combine] at combines
    split at combines
    · split at combines
      · cases combines
        exact ⟨positive_others, fun packet' isCombined => by
          obtain rfl := Option.some.inj isCombined
          exact positive_lengthened⟩
      · cases combines
        exact ⟨List.forall_mem_cons.mpr ⟨positive_lengthened, positive_others⟩,
          fun _ isNone => by cases isNone⟩
    · obtain ⟨⟨rest', combined'⟩, combines', same⟩ := Option.map_eq_some_iff.mp combines
      cases same
      obtain ⟨positive_rest, positive_combined⟩ := combine_positive positive_others combines'
      exact ⟨List.forall_mem_cons.mpr ⟨positive_first, positive_rest⟩, positive_combined⟩

theorem arrive_positive {c : DRAMConfig} {s s' : SegmentTable} {packet : Packet}
    {combined : Option Packet} (stored : ∀ packet ∈ s.pendingSegPacket, 0 < packet.LNG)
    (positive : 0 < packet.LNG) (arrives : s.arrive c packet = some (s', combined)) :
    (∀ packet ∈ s'.pendingSegPacket, 0 < packet.LNG) ∧ ∀ packet ∈ combined, 0 < packet.LNG := by
  rw [arrive] at arrives
  split at arrives
  · split at arrives
    · rename_i packets combined' combines
      cases arrives
      exact combine_positive stored combines
    · cases arrives
      exact ⟨List.forall_mem_append.mpr ⟨stored, List.forall_mem_singleton.mpr positive⟩,
        fun _ isNone => by cases isNone⟩
  · cases arrives

end SegmentTable

namespace CrossbarSwitch

/-- The input buffers are sequences of packets with their tails, and the stored segments
    are packets of some length. -/
structure Tailed (s : CrossbarSwitch) : Prop where
  up : ∀ l, IsBlocks Packet.LNG (s.upBuffers l)
  down : ∀ l, IsBlocks Packet.LNG (s.downBuffers l)
  stored : ∀ packet ∈ s.segments.pendingSegPacket, 0 < packet.LNG

/-- Packets that are received have a length. -/
def Action.Allowed : Action → Prop
  | .receiveUp _ packet => 0 < packet.LNG
  | .receiveDown _ packet => 0 < packet.LNG
  | _ => True

instance : DecidablePred Action.Allowed
  | .receiveUp _ _ | .receiveDown _ _ => inferInstanceAs (Decidable (0 < _))
  | .visitUp _ _ _ | .visitDown _ _ _ | .processOperands | .commit _ _ => .isTrue trivial

theorem tailed_start (k : CubeConfig) : Tailed (start k) where
  up _ := isBlocks_nil
  down _ := isBlocks_nil
  stored _ member := (nomatch member)

theorem Tailed.setUp {s : CrossbarSwitch} {l : ℕ} {slots : PacketVector} (tailed : Tailed s)
    (isBlocks : IsBlocks Packet.LNG slots) : Tailed (s.setUp l slots) where
  up other := by
    by_cases same : other = l
    · subst same
      simpa [CrossbarSwitch.setUp] using isBlocks
    · simpa [CrossbarSwitch.setUp, same] using tailed.up other
  down := tailed.down
  stored := tailed.stored

theorem Tailed.setDown {s : CrossbarSwitch} {l : ℕ} {slots : PacketVector} (tailed : Tailed s)
    (isBlocks : IsBlocks Packet.LNG slots) : Tailed (s.setDown l slots) where
  up := tailed.up
  down other := by
    by_cases same : other = l
    · subst same
      simpa [CrossbarSwitch.setDown] using isBlocks
    · simpa [CrossbarSwitch.setDown, same] using tailed.down other
  stored := tailed.stored

theorem Tailed.setTables {s : CrossbarSwitch} (tailed : Tailed s) (tables : FlowTables) :
    Tailed (s.setTables tables) := ⟨tailed.up, tailed.down, tailed.stored⟩

theorem Tailed.setSegments {s : CrossbarSwitch} {segments : SegmentTable} (tailed : Tailed s)
    (stored : ∀ packet ∈ segments.pendingSegPacket, 0 < packet.LNG) :
    Tailed (s.setSegments segments) := ⟨tailed.up, tailed.down, stored⟩

theorem receive_isBlocks {slots : PacketVector} {packet : Packet}
    (isBlocks : IsBlocks Packet.LNG slots) (positive : 0 < packet.LNG) :
    IsBlocks Packet.LNG (receive slots packet) := by
  rw [receive]
  split
  · exact isBlocks.push positive
  · exact isBlocks

/-- What becomes of a visited packet concerns its own slots only. -/
theorem applyFate_isBlocks {slots : PacketVector} {i : ℕ} {packet : Packet} {fate : Fate}
    (isBlocks : IsBlocks Packet.LNG slots) (found : slots[i]? = some (some packet))
    (sameLength : fate.SameLength packet) :
    IsBlocks Packet.LNG (applyFate slots i packet fate) := by
  cases fate with
  | keep => exact isBlocks
  | erase => exact isBlocks.eraseAt found
  | rewrite packet' => exact isBlocks.set found sameLength
  | replicate packet' =>
    have sameLNG : packet'.LNG = packet.LNG := sameLength
    exact isBlocks.push (sameLNG ▸ isBlocks.positive found)

theorem divideSlots_isBlocks {k : CubeConfig} {slots : PacketVector} {i : ℕ} {packet : Packet}
    (isBlocks : IsBlocks Packet.LNG slots) (found : slots[i]? = some (some packet)) :
    IsBlocks Packet.LNG (divideSlots k slots i packet) := by
  have positive := isBlocks.positive found
  exact isBlocks.replace found
    ⟨_, fun _ member => SegmentTable.segments_positive positive member, rfl⟩

theorem visitResponse_fate (k : CubeConfig) (answers : Answers) (t : FlowTables)
    (packet : Packet) :
    Yields (fun visit => visit.fate.SameLength packet) (fun _ => False)
      (visitResponse k answers t packet) := by
  have noError : ∀ {α : Type} (x : Except CubeError α),
      Yields (fun _ => True) (fun _ => False) x := by
    intro α x
    cases x with
    | error error => exact not_false
    | ok a => exact trivial
  rw [visitResponse]
  split
  · apply (noError _).bind
    intro id _
    apply (noError _).bind
    intro t' _
    exact Yields.pure trivial
  · split
    · apply (noError _).bind
      intro id _
      apply (noError _).bind
      intro t' _
      exact Yields.pure trivial
    · split
      · apply (noError _).bind
        intro t' _
        exact Yields.pure trivial
      · split
        · exact Yields.pure trivial
        · exact Yields.pure trivial

theorem visitSegment_tailed {k : CubeConfig} {s : CrossbarSwitch} {l i : ℕ} {packet : Packet}
    (tailed : Tailed s) (found : (s.upBuffers l)[i]? = some (some packet)) :
    Yields Tailed (fun _ => False) (visitSegment k s l i packet) := by
  have positive := (tailed.up l).positive found
  have erased := (tailed.up l).eraseAt found
  rw [visitSegment]
  split
  · exact Yields.throw not_false
  · rename_i segments arrives
    obtain ⟨stored, -⟩ := SegmentTable.arrive_positive tailed.stored positive arrives
    exact Yields.pure ((tailed.setSegments stored).setUp erased)
  · rename_i segments combined arrives
    obtain ⟨stored, whole⟩ := SegmentTable.arrive_positive tailed.stored positive arrives
    have isBlock := isBlocks_block (whole combined rfl)
    exact Yields.pure ((tailed.setSegments stored).setUp (erased.insertFront isBlock))

/-- Every action keeps packets and tails together. -/
theorem act_tailed {k : CubeConfig} {s : CrossbarSwitch} (tailed : Tailed s) (action : Action)
    (allowed : action.Allowed) :
    Yields (fun done => Tailed done.1) (fun _ => False) (s.act k action) := by
  cases action with
  | receiveUp l packet => exact Yields.pure (tailed.setUp (receive_isBlocks (tailed.up l) allowed))
  | receiveDown l packet =>
    exact Yields.pure (tailed.setDown (receive_isBlocks (tailed.down l) allowed))
  | visitUp l i answers =>
    show Yields _ _ (s.visitUp k answers l i)
    rw [CrossbarSwitch.visitUp]
    split
    · rename_i packet found
      split
      · exact Yields.throw not_false
      · split
        · apply (visitSegment_tailed tailed found).bind
          intro s' tailed'
          exact Yields.pure tailed'
        · apply (visitResponse_fate k answers s.tables packet).bind
          intro visit sameLength
          have isBlocks := applyFate_isBlocks (tailed.up l) found sameLength
          exact Yields.pure ((tailed.setUp isBlocks).setTables visit.tables)
    · exact Yields.pure tailed
  | visitDown l i answers =>
    show Yields _ _ (s.visitDown k answers l i)
    rw [CrossbarSwitch.visitDown]
    split
    · rename_i packet found
      split
      · exact Yields.throw not_false
      · split
        · have isBlocks := divideSlots_isBlocks (k := k) (tailed.down l) found
          exact Yields.pure ((tailed.setDown isBlocks).setSegments tailed.stored)
        · apply (visitRequest_accounts answers _ _ packet).bind
          intro visit accounts
          have isBlocks := applyFate_isBlocks (tailed.down l) found accounts.2.2.1
          exact Yields.pure ((tailed.setDown isBlocks).setTables visit.tables)
    · exact Yields.pure tailed
  | processOperands =>
    show Yields _ _ (processOperands k s.tables >>= _)
    cases processOperands k s.tables with
    | error error => exact not_false
    | ok tables => exact Yields.pure (tailed.setTables tables)
  | commit flow answers => exact Yields.pure (tailed.setTables _)

end CrossbarSwitch

end ActiveRouting

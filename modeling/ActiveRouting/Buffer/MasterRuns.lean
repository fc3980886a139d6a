import ActiveRouting.Buffer.MasterTails

/-!
# Runs of a link master

Every call of a link master keeps its packet vectors sequences of blocks, and none
of its checks of a `NULL` fails.
-/

namespace ActiveRouting

open Blocks Outcome

/-- The errors of a component that finds a `NULL` where a packet is, or a packet where the
    retry buffer is empty. -/
def VectorError.OfTails (error : VectorError) : Prop :=
  error = .headIsNull ∨ error = .link .retryOccupied

theorem not_ofTails {error : LinkError} (other : error ≠ .retryOccupied) :
    ¬ (VectorError.link error).OfTails := by
  rintro (isHead | isOccupied)
  · cases isHead
  · exact other (VectorError.link.inj isOccupied)

namespace MasterVectors

/-! ## Calls that keep the invariant -/

/-- Where a call succeeds the invariant holds, and it does not fail because of it. -/
def Keeps (crcCheck : Bool) : Except VectorError MasterVectors → Prop :=
  Yields (Tailed crcCheck) VectorError.OfTails

/-- The same retry buffer and pointers. -/
def SameRetry (m m' : LinkMaster) : Prop :=
  m'.retryBuffers = m.retryBuffers ∧ m'.retBufReadP = m.retBufReadP ∧
    m'.retBufWriteP = m.retBufWriteP

theorem SameRetry.retryTailed {crcCheck : Bool} {m m' : LinkMaster} (same : SameRetry m m')
    (retry : RetryTailed crcCheck m) : RetryTailed crcCheck m' := by
  obtain ⟨sameBuffers, sameRead, sameWrite⟩ := same
  rw [RetryTailed, sameBuffers, sameRead, sameWrite]
  exact retry

theorem Tailed.setRegisters {crcCheck : Bool} {v : MasterVectors} {m : LinkMaster}
    (tailed : Tailed crcCheck v) (retry : RetryTailed crcCheck m) :
    Tailed crcCheck (v.setRegisters m) :=
  { tailed with retry := retry }

theorem SameRetry.trans {m m' m'' : LinkMaster} (first : SameRetry m m')
    (second : SameRetry m' m'') : SameRetry m m'' :=
  ⟨second.1.trans first.1, second.2.1.trans first.2.1, second.2.2.trans first.2.2⟩

/-- An operation on the registers that leaves the retry buffer alone. -/
def LeavesRetry (m : LinkMaster) : Except LinkError LinkMaster → Prop :=
  Yields (SameRetry m) fun error => error = .retryOccupied

theorem Keeps.onRegisters {crcCheck : Bool} {v : MasterVectors}
    {operation : LinkMaster → Except LinkError LinkMaster} (tailed : Tailed crcCheck v)
    (leaves : LeavesRetry v.registers (operation v.registers)) :
    Keeps crcCheck (v.onRegisters operation) := by
  rw [MasterVectors.onRegisters]
  cases done : operation v.registers with
  | ok m =>
    rw [done] at leaves
    have same : SameRetry v.registers m := leaves
    exact Yields.pure (tailed.setRegisters (same.retryTailed tailed.retry))
  | error error =>
    rw [done] at leaves
    exact Yields.throw (not_ofTails leaves)

/-! ## Receiving packets -/

theorem Tailed.setUp {crcCheck : Bool} {v : MasterVectors} {upBuffers : PacketVector}
    (tailed : Tailed crcCheck v) (up : IsBlocks Packet.LNG upBuffers)
    (upPackets : ∀ packet, some packet ∈ upBuffers → packet.packetType ≠ .REQUEST) :
    Tailed crcCheck (v.setUp upBuffers) :=
  { tailed with up := up, upPackets := upPackets }

theorem Tailed.setDown {crcCheck : Bool} {v : MasterVectors} {downBuffers : PacketVector}
    (tailed : Tailed crcCheck v) (down : IsBlocks Packet.LNG downBuffers)
    (downPackets : ∀ packet, some packet ∈ downBuffers → packet.packetType = .REQUEST) :
    Tailed crcCheck (v.setDown downBuffers) :=
  { tailed with down := down, downPackets := downPackets }

/-- A packet that is pushed is of the type of the others. -/
theorem forall_push {P : Packet → Prop} {slots : PacketVector} {packet : Packet}
    (all : ∀ packet, some packet ∈ slots → P packet) (holds : P packet) :
    ∀ packet', some packet' ∈ slots ++ tailed packet → P packet' := by
  intro packet' member
  rcases List.mem_append.mp member with old | new
  · exact all packet' old
  · obtain rfl := mem_block.mp new
    exact holds

theorem Tailed.receiveUp {crcCheck : Bool} {v : MasterVectors} {packet : Packet}
    (tailed : Tailed crcCheck v) (isResponse : packet.packetType = .RESPONSE)
    (positive : 0 < packet.LNG) : Tailed crcCheck (v.receiveUp packet) := by
  rw [MasterVectors.receiveUp]
  split
  · apply tailed.setUp (tailed.up.push positive)
    apply forall_push tailed.upPackets
    rw [isResponse]
    decide
  · exact tailed

theorem Tailed.receiveDown {crcCheck : Bool} {v : MasterVectors} {packet : Packet}
    (tailed : Tailed crcCheck v) (isRequest : packet.packetType = .REQUEST)
    (positive : 0 < packet.LNG) : Tailed crcCheck (v.receiveDown packet) := by
  rw [MasterVectors.receiveDown]
  split
  · exact tailed.setDown (tailed.down.push positive) (forall_push tailed.downPackets isRequest)
  · exact tailed

/-! ## Flow control -/

/-- A buffer in which fields other than type and length are overwritten. -/
theorem Tailed.setUp_of_map {crcCheck : Bool} {v : MasterVectors} {upBuffers : PacketVector}
    (tailed : Tailed crcCheck v)
    (sameLNG : upBuffers.map (Option.map Packet.LNG) = v.upBuffers.map (Option.map Packet.LNG))
    (sameType : upBuffers.map (Option.map Packet.packetType) =
      v.upBuffers.map (Option.map Packet.packetType)) :
    Tailed crcCheck (v.setUp upBuffers) :=
  tailed.setUp (tailed.up.of_map_eq sameLNG) 
    (forall_of_map_eq (P := (· ≠ .REQUEST)) sameType tailed.upPackets)

theorem Tailed.setDown_of_map {crcCheck : Bool} {v : MasterVectors} {downBuffers : PacketVector}
    (tailed : Tailed crcCheck v)
    (sameLNG : downBuffers.map (Option.map Packet.LNG) =
      v.downBuffers.map (Option.map Packet.LNG))
    (sameType : downBuffers.map (Option.map Packet.packetType) =
      v.downBuffers.map (Option.map Packet.packetType)) :
    Tailed crcCheck (v.setDown downBuffers) :=
  tailed.setDown (tailed.down.of_map_eq sameLNG) 
    (forall_of_map_eq (P := (· = .REQUEST)) sameType tailed.downPackets)

theorem returnRetryPointer_keeps {crcCheck : Bool} {v : MasterVectors} (tailed : Tailed crcCheck v)
    (packet : Packet) : Keeps crcCheck (v.returnRetryPointer packet) := by
  have noted : Tailed crcCheck (v.noteRRP packet.FRP) := tailed.setRegisters tailed.retry
  cases upBuffers : v.upBuffers with
  | cons slot rest =>
    cases slot with
    | none => exact (upBuffers ▸ tailed.up).head_ne_none.elim
    | some head =>
      rw [returnRetryPointer, upBuffers]
      apply Yields.pure
      apply noted.setUp_of_map
      · show _ = v.upBuffers.map _
        rw [upBuffers]
        rfl
      · show _ = v.upBuffers.map _
        rw [upBuffers]
        rfl
  | nil =>
    cases downBuffers : v.downBuffers with
    | cons slot rest =>
      cases slot with
      | none => exact (downBuffers ▸ tailed.down).head_ne_none.elim
      | some head =>
        rw [returnRetryPointer, upBuffers, downBuffers]
        apply Yields.pure
        apply noted.setDown_of_map
        · show _ = v.downBuffers.map _
          rw [downBuffers]
          rfl
        · show _ = v.downBuffers.map _
          rw [downBuffers]
          rfl
    | nil =>
      rw [returnRetryPointer, upBuffers, downBuffers]
      exact Yields.pure (noted.setRegisters noted.retry)

theorem addDownTokens_leaves (m : LinkMaster) (DRTC : ℕ) :
    LeavesRetry m (m.addDownTokens DRTC) := by
  rw [LinkMaster.addDownTokens]
  split
  · dsimp only
    split
    · exact Yields.throw LinkError.noConfusion
    · exact Yields.pure ⟨rfl, rfl, rfl⟩
  · exact Yields.pure ⟨rfl, rfl, rfl⟩

theorem addUpTokens_leaves (m : LinkMaster) (URTC : ℕ) :
    LeavesRetry m (m.addUpTokens URTC) := by
  rw [LinkMaster.addUpTokens]
  split
  · dsimp only
    split
    · exact Yields.throw LinkError.noConfusion
    · exact Yields.pure ⟨rfl, rfl, rfl⟩
  · exact Yields.pure ⟨rfl, rfl, rfl⟩

theorem updateToken_keeps {crcCheck : Bool} {v : MasterVectors} (tailed : Tailed crcCheck v)
    (packet : Packet) : Keeps crcCheck (v.updateToken packet) := by
  apply Keeps.onRegisters tailed
  rw [LinkMaster.updateToken]
  apply (addDownTokens_leaves v.registers packet.DRTC).bind
  intro m same
  exact (addUpTokens_leaves m packet.URTC).mono fun _ => same.trans

theorem embedTokens_map {β : Type} (f : Packet → β) {extURTC extDRTC : ℕ}
    (same : ∀ packet, f (withTokens packet extURTC extDRTC) = f packet) : ∀ slots : PacketVector,
    (embedTokens extURTC extDRTC slots).map (Option.map f) = slots.map (Option.map f)
  | [] => rfl
  | none :: slots => by
    rw [embedTokens, List.map_cons, embedTokens_map f same slots, List.map_cons]
  | some packet :: slots => by
    rw [embedTokens]
    split
    · rw [List.map_cons, List.map_cons, Option.map_some, same, Option.map_some]
    · rw [List.map_cons, embedTokens_map f same slots, List.map_cons]

/-- A flow packet without a tail is inserted before a packet. -/
theorem insertTret_keeps {crcCheck : Bool} {v : MasterVectors} {packet : Packet}
    (tailed : Tailed crcCheck v) (isFlow : packet.packetType = .FLOW) (single : packet.LNG = 1) :
    Keeps crcCheck (v.insertTret packet) := by
  have isBlock : IsBlocks Packet.LNG [some packet] := by
    have blockOf : IsBlocks Packet.LNG (block Packet.LNG packet) := isBlocks_block (by omega)
    rwa [block, single] at blockOf
  have upPackets : ∀ i, ∀ packet',
      some packet' ∈ insertAt v.upBuffers i [some packet] → packet'.packetType ≠ .REQUEST := by
    intro i packet' member
    rcases mem_insertAt member with old | new
    · exact tailed.upPackets packet' old
    · obtain rfl := Option.some.inj (List.mem_singleton.mp new)
      rw [isFlow]
      exact PacketType.noConfusion
  rw [insertTret]
  split
  · split
    · exact Yields.throw (not_ofTails LinkError.noConfusion)
    · rename_i upBuffers
      exact (upBuffers ▸ tailed.up).head_ne_none.elim
    · rename_i head rest upBuffers
      have up := tailed.up
      rw [upBuffers] at up
      have inserted := up.insert_second isBlock
      rw [← upBuffers] at inserted
      exact Yields.pure (tailed.setUp inserted (upPackets head.LNG))
  · exact Yields.pure (tailed.setUp (tailed.up.insertFront isBlock) (upPackets 0))

theorem returnToken_keeps {crcCheck : Bool} {v : MasterVectors} (tailed : Tailed crcCheck v)
    (packet : Packet) : Keeps crcCheck (v.returnToken packet) := by
  rw [returnToken]
  split
  · exact Yields.throw (not_ofTails LinkError.noConfusion)
  · split
    · exact Yields.pure (tailed.setUp_of_map (embedTokens_map Packet.LNG (fun _ => rfl) _)
        (embedTokens_map Packet.packetType (fun _ => rfl) _))
    · split
      · exact Yields.pure (tailed.setDown_of_map (embedTokens_map Packet.LNG (fun _ => rfl) _)
          (embedTokens_map Packet.packetType (fun _ => rfl) _))
      · split
        · apply Yields.pure
          have isBlock : IsBlocks Packet.LNG
              (block Packet.LNG
                (v.registers.tret packet.TAG (upTokens packet) (downTokens packet))) :=
            isBlocks_block Nat.one_pos
          exact { tailed with backup := tailed.backup.append isBlock }
        · exact insertTret_keeps tailed rfl rfl

/-! ## Retry sequences -/

theorem startRetry_same (m : LinkMaster) (packet : Packet) : SameRetry m (m.startRetry packet) := by
  rw [LinkMaster.startRetry]
  dsimp only
  split <;> exact ⟨rfl, rfl, rfl⟩

theorem Tailed.startRetry {crcCheck : Bool} {v : MasterVectors} (tailed : Tailed crcCheck v)
    (packet : Packet) : Tailed crcCheck (v.startRetry packet) :=
  tailed.setRegisters ((startRetry_same v.registers packet).retryTailed tailed.retry)

/-- The packets that `LinkRetry` moves to the buffers. -/
theorem replayed_eq {m : LinkMaster} {packets : List Packet}
    (ring : IsRing Packet.LNG maxRetryBuf m.retryBuffers m.retBufReadP m.retBufWriteP packets)
    (nonempty : packets ≠ []) :
    ∃ sent, replayed m = blocks Packet.LNG sent ∧ (∀ packet ∈ sent, 0 < packet.LNG) ∧
      LinkMaster.clearSlots m.retBufWriteP maxRetryBuf m.retryBuffers m.retBufReadP =
        clear maxRetryBuf (total Packet.LNG packets) m.retryBuffers m.retBufReadP := by
  have fits := ring.fits
  have write := ring.write
  have whole := ring.window_eq
  have taken : total Packet.LNG packets ≠ 0 := by
    intro zero
    rw [zero, Nat.add_zero, Nat.mod_eq_of_lt ring.read] at write
    exact nonempty (ring.pointers_eq.mp write.symm)
  obtain ⟨n, isSucc⟩ := Nat.exists_eq_succ_of_ne_zero taken
  rw [Nat.succ_eq_add_one] at isSucc
  rw [isSucc] at fits write whole
  refine ⟨packets.map fun packet => packet.withDelay (if m.downstream then 0 else 1), ?_, ?_, ?_⟩
  · rw [replayed, write, retrySlots_eq fits (by omega) ring.read, whole]
    have sameLNG : ∀ packet : Packet,
        (packet.withDelay (if m.downstream then 0 else 1)).LNG = packet.LNG := fun _ => rfl
    exact map_blocks sameLNG packets
  · intro packet member
    obtain ⟨original, inRing, rfl⟩ := List.mem_map.mp member
    exact ring.positive original inRing
  · rw [write, LinkMaster.clearSlots_eq fits (by omega) ring.read, isSucc]

theorem isBlocks_filter {packets : List Packet} (positive : ∀ packet ∈ packets, 0 < packet.LNG)
    (goes : Packet → Bool) : IsBlocks Packet.LNG (blocks Packet.LNG (packets.filter goes)) :=
  ⟨packets.filter goes, fun packet member => positive packet (List.mem_of_mem_filter member), rfl⟩

/-- The packets of a vector of blocks are distributed by their type. -/
theorem distribute_up {packets : List Packet} {packet : Packet}
    (member : some packet ∈ blocks Packet.LNG (packets.filter isUpPkt)) :
    packet.packetType ≠ .REQUEST := by
  have goes := (List.mem_filter.mp (mem_blocks.mp member)).2
  simpa [isUpPkt] using goes

theorem distribute_down {packets : List Packet} {packet : Packet}
    (member : some packet ∈ blocks Packet.LNG (packets.filter fun packet => !isUpPkt packet)) :
    packet.packetType = .REQUEST := by
  have goes := (List.mem_filter.mp (mem_blocks.mp member)).2
  simpa [isUpPkt] using goes

theorem linkRetry_keeps {v : MasterVectors} (tailed : Tailed true v) (packet : Packet)
    (something : v.registers.retBufReadP ≠ v.registers.retBufWriteP) :
    Keeps true (v.linkRetry packet) := by
  obtain ⟨packets, ring⟩ := tailed.retry
  have nonempty : packets ≠ [] := fun empty => something (ring.pointers_eq.mpr empty)
  obtain ⟨sent, isBlocks, positive, cleared⟩ := replayed_eq ring nonempty
  have holds : v.registers.retryBuffers v.registers.retBufReadP ≠ none := by
    rw [ring.head]
    cases packets with
    | nil => exact absurd rfl nonempty
    | cons first rest => exact Option.some_ne_none first
  rw [linkRetry, if_neg holds, if_neg something, isBlocks, distribute_blocks]
  apply Yields.pure
  exact {
    up := isBlocks_filter positive isUpPkt
    down := isBlocks_filter positive fun packet => !isUpPkt packet
    backup := (tailed.backup.append tailed.up).append tailed.down
    upPackets := fun _ => distribute_up
    downPackets := fun _ => distribute_down
    retry := by
      refine ⟨[], ?_⟩
      have freed := ring.clear_all.slots_none
      rw [← cleared] at freed
      exact IsRing.empty ring.read freed }

/-! ## Sending -/

/-- The check of the retry pointers says that the packet fits into the retry buffer. -/
theorem fits_of_hasRoom {m : LinkMaster} {packet : Packet} {packets : List Packet}
    (ring : IsRing Packet.LNG maxRetryBuf m.retryBuffers m.retBufReadP m.retBufWriteP packets)
    (room : hasRoom true m packet) : total Packet.LNG packets + packet.LNG < maxRetryBuf := by
  have read := ring.read
  have fits := ring.fits
  have write := ring.write
  rw [hasRoom, Bool.not_true, Bool.false_or] at room
  by_cases round : m.retBufReadP + total Packet.LNG packets < maxRetryBuf
  · rw [Nat.mod_eq_of_lt round] at write
    rw [if_pos (by omega), decide_eq_true_iff] at room
    omega
  · rw [Nat.mod_eq_sub_mod (by omega), Nat.mod_eq_of_lt (by omega)] at write
    rw [if_neg (by omega), decide_eq_true_iff] at room
    omega

/-- The pointer that `UpdateField` writes into a packet. -/
theorem fillTail_FRP {crcCheck : Bool} {m : LinkMaster} {nextWriteP : ℕ} {packet : Packet}
    (once : nextWriteP < 2 * maxRetryBuf) :
    (m.fillTail crcCheck nextWriteP packet).FRP = nextWriteP % maxRetryBuf := by
  have isPointer : (m.numberPacket nextWriteP packet).FRP = nextWriteP % maxRetryBuf := by
    rw [LinkMaster.numberPacket]
    dsimp only
    split
    · rename_i inside
      exact (Nat.mod_eq_of_lt inside).symm
    · rw [Nat.mod_eq_sub_mod (by omega), Nat.mod_eq_of_lt (by omega)]
  cases crcCheck with
  | false => exact isPointer
  | true => exact isPointer

theorem retryTailed_saveRetry {crcCheck : Bool} {m : LinkMaster} {packet : Packet}
    (retry : RetryTailed crcCheck m) (positive : 0 < packet.LNG)
    (room : hasRoom crcCheck m packet)
    (pointer : crcCheck → packet.FRP = (m.retBufWriteP + packet.LNG) % maxRetryBuf) :
    RetryTailed crcCheck (m.saveRetry crcCheck packet) := by
  cases crcCheck with
  | false => exact retry
  | true =>
    obtain ⟨packets, ring⟩ := retry
    have inWrite : m.retBufWriteP < maxRetryBuf := by
      rw [ring.write]
      exact Nat.mod_lt _ (Nat.lt_of_le_of_lt (Nat.zero_le _) ring.read)
    refine ⟨packets ++ [packet], ?_⟩
    have pushed := ring.push positive (fits_of_hasRoom ring room)
    rw [← pointer rfl, ← LinkMaster.nextSlot_eq inWrite, ← LinkMaster.clearTail_eq inWrite] at pushed
    exact pushed

/-- The packet at the head of the buffer of its type. -/
def IsHead (v : MasterVectors) (packet : Packet) : Prop :=
  if packet.packetType = .REQUEST then v.downBuffers[0]? = some (some packet)
  else v.upBuffers[0]? = some (some packet)

theorem Tailed.positive {crcCheck : Bool} {v : MasterVectors} {packet : Packet}
    (tailed : Tailed crcCheck v) (isHead : IsHead v packet) : 0 < packet.LNG := by
  rw [IsHead] at isHead
  split at isHead
  · exact tailed.down.positive isHead
  · exact tailed.up.positive isHead

/-- The head of a buffer is erased with its tail. -/
theorem Tailed.eraseHead {crcCheck : Bool} {v : MasterVectors} {packet sent : Packet}
    (tailed : Tailed crcCheck v) (isHead : IsHead v packet) (sameLNG : sent.LNG = packet.LNG)
    (sameType : sent.packetType = packet.packetType) : Tailed crcCheck (v.eraseHead sent) := by
  rw [MasterVectors.eraseHead, sameLNG, sameType]
  rw [IsHead] at isHead
  split
  · rename_i isRequest
    rw [if_pos isRequest] at isHead
    exact tailed.setDown (tailed.down.eraseAt isHead)
      fun packet member => tailed.downPackets packet (mem_of_mem_eraseAt member)
  · rename_i isUp
    rw [if_neg isUp] at isHead
    exact tailed.setUp (tailed.up.eraseAt isHead)
      fun packet member => tailed.upPackets packet (mem_of_mem_eraseAt member)

/-- The packet is taken from the head of its buffer and saved in the retry buffer. -/
theorem updateField_keeps {crcCheck : Bool} {v : MasterVectors} {packet : Packet}
    (tailed : Tailed crcCheck v) (isHead : IsHead v packet)
    (room : hasRoom crcCheck v.registers packet) :
    Keeps crcCheck (v.updateField crcCheck (v.registers.retBufWriteP + packet.LNG) packet) := by
  have sameLNG := LinkMaster.fillTail_LNG crcCheck v.registers
    (v.registers.retBufWriteP + packet.LNG) packet
  have sameType := LinkMaster.fillTail_packetType crcCheck v.registers
    (v.registers.retBufWriteP + packet.LNG) packet
  have vacant : ¬ (crcCheck ∧ v.registers.retryBuffers v.registers.retBufWriteP ≠ none) := by
    rintro ⟨checked, occupied⟩
    subst checked
    obtain ⟨packets, ring⟩ := tailed.retry
    exact occupied ring.at_write
  rw [updateField, if_neg vacant]
  apply Yields.pure
  refine Tailed.eraseHead (tailed.setRegisters ?_) isHead sameLNG sameType
  have counted : SameRetry v.registers (v.registers.countPacket
      (v.registers.fillTail crcCheck (v.registers.retBufWriteP + packet.LNG) packet)) :=
    ⟨rfl, rfl, rfl⟩
  apply retryTailed_saveRetry (counted.retryTailed tailed.retry)
    (sameLNG.symm ▸ tailed.positive isHead)
  · rw [hasRoom, sameLNG]
    exact room
  · intro checked
    subst checked
    obtain ⟨packets, ring⟩ := tailed.retry
    have fits := fits_of_hasRoom ring room
    have inWrite : v.registers.retBufWriteP < maxRetryBuf := by
      rw [ring.write]
      exact Nat.mod_lt _ (Nat.lt_of_le_of_lt (Nat.zero_le _) ring.read)
    rw [sameLNG]
    exact fillTail_FRP (by omega)

theorem crcCountdown_keeps {crcCheck : Bool} {v : MasterVectors} {packet : Packet}
    (tailed : Tailed crcCheck v) (isHead : IsHead v packet)
    (room : hasRoom crcCheck v.registers packet) :
    Keeps crcCheck (v.crcCountdown crcCheck (v.registers.retBufWriteP + packet.LNG) packet) := by
  have same : SameRetry v.registers (v.registers.startCountdown crcCheck packet) := by
    rw [LinkMaster.startCountdown]
    split <;> exact ⟨rfl, rfl, rfl⟩
  have started := tailed.setRegisters (same.retryTailed tailed.retry)
  rw [crcCountdown]
  split
  · exact Yields.pure (started.setRegisters started.retry)
  · have roomStarted : hasRoom crcCheck (v.registers.startCountdown crcCheck packet) packet := by
      rw [hasRoom, same.2.1, same.2.2]
      exact room
    rw [← same.2.2]
    apply (updateField_keeps started isHead roomStarted).bind
    intro sent tailedSent
    exact Yields.pure (tailedSent.setRegisters tailedSent.retry)

/-- The head of a buffer is sent, where the packets of the buffer go through it. -/
theorem sendHead_keeps {crcCheck : Bool} {v : MasterVectors} {slots : PacketVector}
    (tailed : Tailed crcCheck v) (tokenCount : ℕ) (isBlocks : IsBlocks Packet.LNG slots)
    (isHead : ∀ head, slots[0]? = some (some head) → IsHead v head) :
    Keeps crcCheck (v.sendHead crcCheck tokenCount slots) := by
  cases slots with
  | nil => exact Yields.pure tailed
  | cons slot rest =>
    cases slot with
    | none => exact isBlocks.head_ne_none.elim
    | some head =>
      rw [sendHead]
      split
      · rename_i sends
        exact crcCountdown_keeps tailed (isHead head rfl) sends.2.2.2
      · exact Yields.pure tailed

theorem Tailed.up_isHead {crcCheck : Bool} {v : MasterVectors} (tailed : Tailed crcCheck v)
    {head : Packet} (first : v.upBuffers[0]? = some (some head)) : IsHead v head := by
  rw [IsHead, if_neg (tailed.upPackets head (List.mem_of_getElem? first))]
  exact first

theorem Tailed.down_isHead {crcCheck : Bool} {v : MasterVectors} (tailed : Tailed crcCheck v)
    {head : Packet} (first : v.downBuffers[0]? = some (some head)) : IsHead v head := by
  rw [IsHead, if_pos (tailed.downPackets head (List.mem_of_getElem? first))]
  exact first

theorem leaveLinkRetry_leaves (m : LinkMaster) : LeavesRetry m m.leaveLinkRetry := by
  rw [LinkMaster.leaveLinkRetry]
  split
  · split
    · exact Yields.throw LinkError.noConfusion
    · exact Yields.pure ⟨rfl, rfl, rfl⟩
  · exact Yields.pure ⟨rfl, rfl, rfl⟩

/-- The backup packets return behind the packets of the buffers, with their tails. -/
theorem Tailed.restore {crcCheck : Bool} {v : MasterVectors} (tailed : Tailed crcCheck v) :
    Tailed crcCheck v.restore := by
  obtain ⟨packets, positive, isBlocks⟩ := tailed.backup
  rw [MasterVectors.restore, isBlocks, distribute_blocks]
  exact {
    up := tailed.up.append (isBlocks_filter positive isUpPkt)
    down := tailed.down.append (isBlocks_filter positive fun packet => !isUpPkt packet)
    backup := isBlocks_nil
    upPackets := fun packet member =>
      (List.mem_append.mp member).elim (tailed.upPackets packet) distribute_up
    downPackets := fun packet member =>
      (List.mem_append.mp member).elim (tailed.downPackets packet) distribute_down
    retry := tailed.retry }

theorem finishLinkRetry_keeps {crcCheck : Bool} {v : MasterVectors} (tailed : Tailed crcCheck v) :
    Keeps crcCheck v.finishLinkRetry := by
  rw [finishLinkRetry]
  split
  · apply (Keeps.onRegisters tailed (leaveLinkRetry_leaves v.registers)).bind
    intro left tailedLeft
    exact Yields.pure tailedLeft.restore
  · exact Yields.pure tailed

theorem retryTimeOut_leaves (m : LinkMaster) : LeavesRetry m m.retryTimeOut := by
  have counted : SameRetry m m.countRetryTime := by
    rw [LinkMaster.countRetryTime]
    split <;> exact ⟨rfl, rfl, rfl⟩
  rw [LinkMaster.retryTimeOut]
  split
  · split
    · exact Yields.pure (counted.trans ⟨rfl, rfl, rfl⟩)
    · split
      · exact Yields.throw LinkError.noConfusion
      · have attempted : SameRetry m.countRetryTime
            { m.countRetryTime with retryAttempts := m.countRetryTime.retryAttempts + 1 } :=
          ⟨rfl, rfl, rfl⟩
        exact Yields.pure ((counted.trans attempted).trans (startRetry_same _ _))
  · exact Yields.pure counted

theorem map_map_tick {β : Type} (f : Packet → β) (same : ∀ packet, f packet.tick = f packet)
    (slots : PacketVector) :
    (slots.map (Option.map Packet.tick)).map (Option.map f) = slots.map (Option.map f) := by
  rw [List.map_map]
  apply List.map_congr_left
  intro slot _
  cases slot with
  | none => rfl
  | some packet => exact congrArg some (same packet)

theorem Tailed.tick {crcCheck : Bool} {v : MasterVectors} (tailed : Tailed crcCheck v) :
    Tailed crcCheck v.tick := by
  have up := tailed.setUp_of_map (map_map_tick Packet.LNG (fun _ => rfl) v.upBuffers)
    (map_map_tick Packet.packetType (fun _ => rfl) v.upBuffers)
  exact up.setDown_of_map (map_map_tick Packet.LNG (fun _ => rfl) v.downBuffers)
    (map_map_tick Packet.packetType (fun _ => rfl) v.downBuffers)

theorem update_keeps {crcCheck : Bool} {v : MasterVectors} (tailed : Tailed crcCheck v) :
    Keeps crcCheck (v.update crcCheck) := by
  rw [update]
  apply (sendHead_keeps tailed v.registers.upTokenCount tailed.up
    fun _ first => tailed.up_isHead first).bind
  intro sentUp tailed
  apply (sendHead_keeps tailed sentUp.registers.downTokenCount tailed.down
    fun _ first => tailed.down_isHead first).bind
  intro sentDown tailed
  apply (finishLinkRetry_keeps tailed).bind
  intro finished tailed
  apply (Keeps.onRegisters tailed (retryTimeOut_leaves finished.registers)).bind
  intro timed tailed
  exact Yields.pure tailed.tick

/-! ## Calls -/

/-- An allowed call keeps packets and tails together, and finds a packet wherever it looks
    for one. -/
theorem call_keeps {crcCheck : Bool} {v : MasterVectors} (tailed : Tailed crcCheck v)
    (call : Call) (allowed : call.Allowed crcCheck v) : Keeps crcCheck (v.call crcCheck call) := by
  cases call with
  | receiveUp packet => exact Yields.pure (tailed.receiveUp allowed.1 allowed.2)
  | receiveDown packet => exact Yields.pure (tailed.receiveDown allowed.1 allowed.2)
  | updateRetryPointer packet =>
    exact Yields.pure (tailed.setRegisters (retryTailed_updateRetryPointer tailed.retry allowed))
  | returnRetryPointer packet => exact returnRetryPointer_keeps tailed packet
  | updateToken packet => exact updateToken_keeps tailed packet
  | returnToken packet => exact returnToken_keeps tailed packet
  | startRetry packet => exact Yields.pure (tailed.startRetry packet)
  | linkRetry packet =>
    obtain ⟨checked, something⟩ := allowed
    subst checked
    exact linkRetry_keeps tailed packet something
  | finishRetry => exact Yields.pure (tailed.setRegisters tailed.retry)
  | update => exact update_keeps tailed
  | link linkRxTx => exact Yields.pure (tailed.setRegisters tailed.retry)
  | noteError packet => exact Yields.pure (tailed.setRegisters tailed.retry)

end MasterVectors

end ActiveRouting

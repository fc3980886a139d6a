import ActiveRouting.Buffer.MasterVectors

/-!
# Packets and their tails in a link master

Every call of a link master keeps its packet vectors sequences of blocks, a
packet and its virtual tail.  The retry buffer is a ring of blocks as long as the
retry pointers that arrive point behind packets that it holds.
-/

namespace ActiveRouting

open Blocks Outcome

namespace LinkMaster

/-! ## The loops over the retry buffer -/

theorem nextSlot_eq {i : ℕ} (inside : i < maxRetryBuf) : nextSlot i = (i + 1) % maxRetryBuf := by
  unfold nextSlot
  split
  · rename_i next
    exact (Nat.mod_eq_of_lt next).symm
  · have last : i + 1 = maxRetryBuf := by omega
    rw [last, Nat.sub_self, Nat.mod_self]

theorem nextSlot_lt {i : ℕ} (inside : i < maxRetryBuf) : nextSlot i < maxRetryBuf := by
  rw [nextSlot_eq inside]
  exact Nat.mod_lt _ (Nat.lt_of_le_of_lt (Nat.zero_le i) inside)

/-- Unless one slot is left, the next slot is not the last. -/
theorem nextSlot_ne {readP n : ℕ} (inside : readP < maxRetryBuf) (few : n + 2 < maxRetryBuf) :
    nextSlot readP ≠ (readP + (n + 2)) % maxRetryBuf := by
  rw [nextSlot_eq inside]
  intro same
  cases slot_injective (show 1 < maxRetryBuf by omega) few same

theorem clearTail_eq : ∀ {n i : ℕ} {buffers : ℕ → Option Packet}, i < maxRetryBuf →
    clearTail n buffers i = clear maxRetryBuf n buffers (nextSlot i)
  | 0, _, _, _ => rfl
  | n + 1, i, buffers, inside => by
    rw [clearTail, clearTail_eq (nextSlot_lt inside), clear, nextSlot_eq (nextSlot_lt inside)]

theorem freeSlots_eq : ∀ {n fuel readP : ℕ} {buffers : ℕ → Option Packet}, n + 1 < maxRetryBuf →
    n < fuel → readP < maxRetryBuf →
    freeSlots ((readP + (n + 1)) % maxRetryBuf) fuel buffers readP =
      (clear maxRetryBuf (n + 1) buffers readP, (readP + (n + 1)) % maxRetryBuf)
  | n, 0, _, _, _, noFuel, _ => absurd noFuel (Nat.not_lt_zero n)
  | 0, fuel + 1, readP, buffers, _, _, inside => by
    rw [freeSlots, if_pos (nextSlot_eq inside), nextSlot_eq inside]
    rfl
  | n + 1, fuel + 1, readP, buffers, few, enough, inside => by
    have target : (readP + (n + 1 + 1)) % maxRetryBuf =
        (nextSlot readP + (n + 1)) % maxRetryBuf := by
      rw [nextSlot_eq inside, slot_succ]
    rw [freeSlots, if_neg (nextSlot_ne inside few), target,
      freeSlots_eq (by omega) (by omega) (nextSlot_lt inside), nextSlot_eq inside]
    rfl

/-- An empty buffer stays empty. -/
theorem freeSlots_empty {rrp : ℕ} : ∀ {fuel readP : ℕ} {buffers : ℕ → Option Packet},
    (∀ i, buffers i = none) → ∀ i, (freeSlots rrp fuel buffers readP).1 i = none
  | 0, _, _, empty => empty
  | fuel + 1, readP, buffers, empty => by
    have stillEmpty : ∀ i, Function.update buffers readP none i = none := by
      intro i
      rw [Function.update_apply]
      split
      · rfl
      · exact empty i
    rw [freeSlots]
    split
    · exact stillEmpty
    · exact freeSlots_empty stillEmpty

theorem clearSlots_eq : ∀ {n fuel readP : ℕ} {buffers : ℕ → Option Packet}, n + 1 < maxRetryBuf →
    n < fuel → readP < maxRetryBuf →
    clearSlots ((readP + (n + 1)) % maxRetryBuf) fuel buffers readP =
      clear maxRetryBuf (n + 1) buffers readP
  | n, 0, _, _, _, noFuel, _ => absurd noFuel (Nat.not_lt_zero n)
  | 0, fuel + 1, readP, buffers, _, _, inside => by
    rw [clearSlots, if_pos (nextSlot_eq inside)]
    rfl
  | n + 1, fuel + 1, readP, buffers, few, enough, inside => by
    have target : (readP + (n + 1 + 1)) % maxRetryBuf =
        (nextSlot readP + (n + 1)) % maxRetryBuf := by
      rw [nextSlot_eq inside, slot_succ]
    rw [clearSlots, if_neg (nextSlot_ne inside few), target,
      clearSlots_eq (by omega) (by omega) (nextSlot_lt inside), nextSlot_eq inside]
    rfl

end LinkMaster

namespace MasterVectors

open LinkMaster

theorem retrySlots_eq : ∀ {n fuel readP : ℕ} {buffers : ℕ → Option Packet}, n + 1 < maxRetryBuf →
    n < fuel → readP < maxRetryBuf →
    retrySlots buffers ((readP + (n + 1)) % maxRetryBuf) fuel readP =
      window maxRetryBuf buffers (n + 1) readP
  | n, 0, _, _, _, noFuel, _ => absurd noFuel (Nat.not_lt_zero n)
  | 0, fuel + 1, readP, buffers, _, _, inside => by
    rw [retrySlots, if_pos (nextSlot_eq inside)]
    rfl
  | n + 1, fuel + 1, readP, buffers, few, enough, inside => by
    have target : (readP + (n + 1 + 1)) % maxRetryBuf =
        (nextSlot readP + (n + 1)) % maxRetryBuf := by
      rw [nextSlot_eq inside, slot_succ]
    rw [retrySlots, if_neg (nextSlot_ne inside few), target,
      retrySlots_eq (by omega) (by omega) (nextSlot_lt inside), nextSlot_eq inside]
    rfl

/-! ## Invariant -/

/-- The retry buffer holds packets with their tails, from the read pointer up to the
    write pointer; without CRC check it is not used. -/
def RetryTailed (crcCheck : Bool) (m : LinkMaster) : Prop :=
  if crcCheck then
    ∃ packets, IsRing Packet.LNG maxRetryBuf m.retryBuffers m.retBufReadP m.retBufWriteP packets
  else ∀ i, m.retryBuffers i = none

/-- Every buffer is a sequence of packets with their tails; requests are in the down
    buffer only. -/
structure Tailed (crcCheck : Bool) (v : MasterVectors) : Prop where
  up : IsBlocks Packet.LNG v.upBuffers
  down : IsBlocks Packet.LNG v.downBuffers
  backup : IsBlocks Packet.LNG v.backupBuffers
  upPackets : ∀ packet, some packet ∈ v.upBuffers → packet.packetType ≠ .REQUEST
  downPackets : ∀ packet, some packet ∈ v.downBuffers → packet.packetType = .REQUEST
  retry : RetryTailed crcCheck v.registers

/-- The retry pointers that lie behind the packets of the retry buffer. -/
def ackPoints (slots : ℕ → Option Packet) (writeP : ℕ) : ℕ → ℕ → List ℕ
  | 0, readP => [readP]
  | fuel + 1, readP =>
    readP ::
      if readP = writeP then []
      else match slots readP with
        | none => []
        | some packet => ackPoints slots writeP fuel ((readP + packet.LNG) % maxRetryBuf)

def retryPointers (m : LinkMaster) : List ℕ :=
  ackPoints m.retryBuffers m.retBufWriteP maxRetryBuf m.retBufReadP

/-- What the callers of a link master keep to: responses are received in the up buffer and
    requests in the down buffer, the retry pointers that arrive point behind packets of
    the retry buffer, and a retry is asked for while there is something to retry. -/
def Call.Allowed (crcCheck : Bool) (v : MasterVectors) : Call → Prop
  | .receiveUp packet => packet.packetType = .RESPONSE ∧ 0 < packet.LNG
  | .receiveDown packet => packet.packetType = .REQUEST ∧ 0 < packet.LNG
  | .updateRetryPointer packet => crcCheck → packet.RRP ∈ retryPointers v.registers
  | .linkRetry _ => crcCheck ∧ v.registers.retBufReadP ≠ v.registers.retBufWriteP
  | _ => True

instance (crcCheck : Bool) (v : MasterVectors) : DecidablePred (Call.Allowed crcCheck v)
  | .receiveUp _ | .receiveDown _ | .linkRetry _ => inferInstanceAs (Decidable (_ ∧ _))
  | .updateRetryPointer _ => inferInstanceAs (Decidable (_ → _))
  | .returnRetryPointer _ | .updateToken _ | .returnToken _ | .startRetry _ | .finishRetry
  | .update | .link _ | .noteError _ => .isTrue trivial

theorem tailed_init (crcCheck : Bool) (downstream : Bool) :
    Tailed crcCheck { registers := { downstream := downstream } } where
  up := isBlocks_nil
  down := isBlocks_nil
  backup := isBlocks_nil
  upPackets := fun _ member => (nomatch member)
  downPackets := fun _ member => (nomatch member)
  retry := by
    cases crcCheck with
    | false => exact fun _ => rfl
    | true =>
      have start : 0 < maxRetryBuf := by decide
      exact ⟨[], IsRing.empty start fun _ _ => rfl⟩

/-! ## Retry pointers -/

theorem mem_ackPoints {slots : ℕ → Option Packet} {readP writeP rrp : ℕ} {packets : List Packet}
    (ring : IsRing Packet.LNG maxRetryBuf slots readP writeP packets) :
    ∀ {fuel : ℕ} {acked rest : List Packet}, packets = acked ++ rest →
    rrp ∈ ackPoints slots writeP fuel ((readP + total Packet.LNG acked) % maxRetryBuf) →
    ∃ acked rest, packets = acked ++ rest ∧
      rrp = (readP + total Packet.LNG acked) % maxRetryBuf
  | 0, acked, rest, split, member => ⟨acked, rest, split, List.mem_singleton.mp member⟩
  | fuel + 1, acked, rest, split, member => by
    rw [ackPoints] at member
    rcases List.mem_cons.mp member with rfl | further
    · exact ⟨acked, rest, split, rfl⟩
    · split at further
      · cases further
      · have seen := ring.at_split split
        cases rest with
        | nil =>
          rw [seen] at further
          cases further
        | cons packet rest =>
          rw [seen] at further
          have shifted : ((readP + total Packet.LNG acked) % maxRetryBuf + packet.LNG) %
              maxRetryBuf = (readP + total Packet.LNG (acked ++ [packet])) % maxRetryBuf := by
            rw [total_append, Nat.mod_add_mod, Nat.add_assoc]
            simp [total]
          simp only [List.head?_cons] at further
          rw [shifted] at further
          exact mem_ackPoints ring (by rw [split, List.append_assoc]; rfl) further

/-- A retry pointer frees the packets before it, with their tails. -/
theorem retryTailed_updateRetryPointer {crcCheck : Bool} {m : LinkMaster} {packet : Packet}
    (retry : RetryTailed crcCheck m) (allowed : crcCheck → packet.RRP ∈ retryPointers m) :
    RetryTailed crcCheck (m.updateRetryPointer packet) := by
  by_cases moves : m.retBufReadP ≠ packet.RRP
  · rw [LinkMaster.updateRetryPointer, if_pos moves]
    cases crcCheck with
    | false => exact freeSlots_empty retry
    | true =>
      obtain ⟨packets, ring⟩ := retry
      have start : m.retBufReadP = (m.retBufReadP + total Packet.LNG []) % maxRetryBuf :=
        (Nat.mod_eq_of_lt ring.read).symm
      have member := allowed rfl
      rw [retryPointers, start] at member
      obtain ⟨acked, rest, rfl, points⟩ := mem_ackPoints ring (List.nil_append packets).symm member
      have few := ring.fits
      rw [total_append] at few
      cases taken : total Packet.LNG acked with
      | zero =>
        rw [taken] at points
        exact absurd (start.trans points.symm) moves
      | succ n =>
        have freed : freeSlots ((m.retBufReadP + (n + 1)) % maxRetryBuf) maxRetryBuf
            m.retryBuffers m.retBufReadP = _ := freeSlots_eq (by omega) (by omega) ring.read
        rw [taken] at points
        rw [points, freed]
        have advanced := ring.advance
        rw [taken] at advanced
        exact ⟨rest, advanced⟩
  · rw [LinkMaster.updateRetryPointer, if_neg moves]
    exact retry

end MasterVectors

end ActiveRouting

/-!
# Trails

The way of a packet through switches, read from the log of what the switches
have sent.
-/

/-- A switch sends a packet: the queue it has come from, the port, and the next queue
    unless it leaves. -/
structure Send (κ δ π : Type) where
  key : κ
  out : δ
  next : Option κ
  packet : π

variable {κ δ π : Type}

/-- The ports through which a packet has come from its first queue to another one, where
    every hop is one that the log holds. -/
inductive Trail (log : List (Send κ δ π)) (packet : π) (first : κ) : κ → List δ → Prop where
  | start : Trail log packet first first []
  | hop {outs : List δ} {send : Send κ δ π} {next : κ} : Trail log packet first send.key outs →
      send ∈ log → send.packet = packet → send.next = some next →
      Trail log packet first next (outs ++ [send.out])

namespace Trail

variable {log log' : List (Send κ δ π)} {packet : π} {first key : κ} {outs : List δ}

theorem mono (trail : Trail log packet first key outs) (more : log ⊆ log') :
    Trail log' packet first key outs := by
  induction trail with
  | start => exact .start
  | hop _ member isPacket isNext inductionHypothesis =>
    exact .hop inductionHypothesis (more member) isPacket isNext

/-- What holds of the first queue and is preserved by every hop in the log holds of all. -/
theorem induct {property : κ → List δ → Prop} (trail : Trail log packet first key outs)
    (initially : property first [])
    (preserved : ∀ send ∈ log, send.packet = packet → ∀ next, send.next = some next →
      ∀ outs, property send.key outs → property next (outs ++ [send.out])) :
    property key outs := by
  induction trail with
  | start => exact initially
  | hop _ member isPacket isNext inductionHypothesis =>
    exact preserved _ member isPacket _ isNext _ inductionHypothesis

/-- A trail of some hops begins with one from the first queue. -/
theorem first_hop (trail : Trail log packet first key outs) :
    outs = [] ∧ key = first ∨
      outs ≠ [] ∧ ∃ send ∈ log, send.packet = packet ∧ send.key = first := by
  induction trail with
  | start => exact .inl ⟨rfl, rfl⟩
  | @hop outs send next _ member isPacket _ inductionHypothesis =>
    refine .inr ⟨List.append_ne_nil_of_right_ne_nil outs (List.cons_ne_nil _ _), ?_⟩
    cases inductionHypothesis with
    | inl isStart => exact ⟨send, member, isPacket, isStart.2⟩
    | inr earlier => exact earlier.2

end Trail

/-- Every packet in a queue, and every one that has been sent, has come there on a trail. -/
structure Traced (log : List (Send κ δ π)) (first : π → κ) (queued : κ → π → Prop) : Prop where
  queued : ∀ key packet, queued key packet → ∃ outs, Trail log packet (first packet) key outs
  sent : ∀ send ∈ log, ∃ outs, Trail log send.packet (first send.packet) send.key outs

namespace Traced

variable {log : List (Send κ δ π)} {first : π → κ} {queued queued' : κ → π → Prop}

/-- A packet starts in its first queue. -/
theorem enter (traced : Traced log first queued)
    (entered : ∀ key packet, queued' key packet → queued key packet ∨ key = first packet) :
    Traced log first queued' where
  queued key packet isQueued := by
    cases entered key packet isQueued with
    | inl wasQueued => exact traced.queued key packet wasQueued
    | inr isFirst => exact ⟨[], isFirst ▸ .start⟩
  sent := traced.sent

/-- A packet is sent to the next queue, or leaves. -/
theorem send (traced : Traced log first queued) (send : Send κ δ π)
    (wasQueued : queued send.key send.packet)
    (moved : ∀ key packet, queued' key packet →
      queued key packet ∨ send.next = some key ∧ packet = send.packet) :
    Traced (log ++ [send]) first queued' := by
  have more : log ⊆ log ++ [send] := List.subset_append_left _ _
  have isSent : send ∈ log ++ [send] := List.mem_append_right _ List.mem_cons_self
  obtain ⟨outs, trail⟩ := traced.queued send.key send.packet wasQueued
  refine ⟨?_, ?_⟩
  · intro key packet isQueued
    cases moved key packet isQueued with
    | inl stayed =>
      obtain ⟨outs, trail⟩ := traced.queued key packet stayed
      exact ⟨outs, trail.mono more⟩
    | inr isNext =>
      obtain ⟨next, rfl⟩ := isNext
      exact ⟨_, .hop (trail.mono more) isSent rfl next⟩
  · intro other member
    cases List.mem_append.mp member with
    | inl wasSent =>
      obtain ⟨outs, trail⟩ := traced.sent other wasSent
      exact ⟨outs, trail.mono more⟩
    | inr isNew =>
      obtain rfl := List.mem_singleton.mp isNew
      exact ⟨outs, trail.mono more⟩

end Traced

import ActiveRouting.Vault.ReadPath

/-!
# The command queue in a cycle

What the stages of `VaultController::Update` and of `DRAM::Update` do to the command queue: only
the conversion of packets, `CmdPop` and the write back of an atomic put commands in or take them
out.
-/

namespace ActiveRouting

namespace VaultController

variable {c : DRAMConfig} {v v' : VaultController}

theorem transmitCommand_commandQueue (sent : v.transmitCommand c = .ok v') :
    v'.commandQueue = v.commandQueue := by
  unfold transmitCommand at sent
  cases bus : v.cmdBus with
  | none => simp only [bus] at sent; rw [← Outcome.pure_eq_ok.mp sent]
  | some cmd =>
    simp only [bus] at sent
    split at sent
    · obtain ⟨dram, _, sent⟩ := Outcome.bind_eq_ok.mp sent
      rw [← Outcome.pure_eq_ok.mp sent]
      rfl
    · rw [← Outcome.pure_eq_ok.mp sent]
      rfl

theorem transmitData_commandQueue (sent : v.transmitData c = .ok v') :
    v'.commandQueue = v.commandQueue := by
  unfold transmitData at sent
  cases bus : v.dataBus with
  | none => simp only [bus] at sent; rw [← Outcome.pure_eq_ok.mp sent]
  | some cmd =>
    simp only [bus] at sent
    split at sent
    · obtain ⟨v₁, answered, sent⟩ := Outcome.bind_eq_ok.mp sent
      obtain ⟨dram, _, sent⟩ := Outcome.bind_eq_ok.mp sent
      rw [← Outcome.pure_eq_ok.mp sent, ← (answerWrite_aside answered).commandQueue]
      rfl
    · rw [← Outcome.pure_eq_ok.mp sent]
      rfl

theorem sendWriteData_commandQueue (sent : v.sendWriteData c = .ok v') :
    v'.commandQueue = v.commandQueue := by
  unfold sendWriteData at sent
  split at sent
  · split at sent
    · rw [← Outcome.pure_eq_ok.mp sent]
      rfl
    · cases sent
  · rw [← Outcome.pure_eq_ok.mp sent]
    rfl

/-- `UpdateCountdown` may only announce a refresh. -/
theorem updateCountdown_commandQueue (updated : v.updateCountdown c = .ok v') :
    v'.commandQueue = v.commandQueue ∨ v'.commandQueue = waitRefresh v.commandQueue := by
  obtain ⟨v₁, sentCommand, updated⟩ := Outcome.bind_eq_ok.mp updated
  obtain ⟨v₂, sentData, updated⟩ := Outcome.bind_eq_ok.mp updated
  obtain ⟨v₃, sent, updated⟩ := Outcome.bind_eq_ok.mp updated
  obtain rfl := Outcome.pure_eq_ok.mp updated
  have same : v₃.commandQueue = v.commandQueue := by
    rw [sendWriteData_commandQueue sent, transmitData_commandQueue sentData,
      transmitCommand_commandQueue sentCommand]
  unfold countRefresh
  split
  · exact .inr (by rw [same])
  · exact .inl same

theorem enablePowerdown_commandQueue (v : VaultController) :
    (v.enablePowerdown c).commandQueue = v.commandQueue := by
  unfold enablePowerdown
  split
  · split
    · split <;> rfl
    · split <;> rfl
  · rfl

theorem returnCommand_commandQueue {cmd : DRAMCommand} {consumed : Bool}
    (returned : v.returnCommand cmd = .ok (v', consumed)) : v'.commandQueue = v.commandQueue := by
  unfold returnCommand at returned
  split at returned
  · cases returned
  · split at returned
    · split at returned
      · split at returned
        · obtain ⟨rfl, _⟩ := Prod.mk.inj (Outcome.pure_eq_ok.mp returned)
          rfl
        · obtain ⟨⟨v₁, taken⟩, made, returned⟩ := Outcome.bind_eq_ok.mp returned
          have aside := makeRespondPacket_aside made
          cases taken with
          | true =>
            obtain ⟨rfl, _⟩ := Prod.mk.inj (Outcome.pure_eq_ok.mp returned)
            exact aside.commandQueue
          | false =>
            obtain ⟨rfl, _⟩ := Prod.mk.inj (Outcome.pure_eq_ok.mp returned)
            exact aside.commandQueue
      · obtain ⟨rfl, _⟩ := Prod.mk.inj (Outcome.pure_eq_ok.mp returned)
        rfl
    · cases returned

theorem updateDram_commandQueue (updated : v.updateDram c = .ok v') :
    v'.commandQueue = v.commandQueue := by
  obtain ⟨v₁, returned, updated⟩ := Outcome.bind_eq_ok.mp updated
  obtain rfl := Outcome.pure_eq_ok.mp updated
  show v₁.commandQueue = v.commandQueue
  unfold returnData at returned
  split at returned
  · rw [← Outcome.pure_eq_ok.mp returned]
    rfl
  · split at returned
    · obtain ⟨⟨v₂, consumed⟩, isReturned, returned⟩ := Outcome.bind_eq_ok.mp returned
      have same := returnCommand_commandQueue isReturned
      cases consumed with
      | true => rw [← Outcome.pure_eq_ok.mp returned]; exact same
      | false => rw [← Outcome.pure_eq_ok.mp returned]; exact same
    · rw [← Outcome.pure_eq_ok.mp returned]
      rfl

/-- The answer to an atomic leaves the queue to its write back. -/
theorem atomicOperation_commandQueue (operated : v.atomicOperation c = .ok v') :
    v'.commandQueue = v.commandQueue ∨ ∃ cmd, v.atomicCMD = some cmd ∧
      v'.commandQueue = v.commandQueue.pushFront c cmd.bank (atmRstCMD c cmd) := by
  unfold atomicOperation at operated
  cases atomic : v.atomicCMD with
  | none => simp only [atomic] at operated; exact .inl (by rw [← Outcome.pure_eq_ok.mp operated])
  | some cmd =>
    simp only [atomic] at operated
    split at operated
    · obtain ⟨v₁, answered, operated⟩ := Outcome.bind_eq_ok.mp operated
      have same : v₁.commandQueue = (v.writeBack c cmd).commandQueue := by
        unfold answerAtomic at answered
        split at answered
        · rw [← Outcome.pure_eq_ok.mp answered]
        · exact (respond_aside answered).commandQueue
      obtain rfl := Outcome.pure_eq_ok.mp operated
      show v₁.commandQueue = _ ∨ ∃ _, _ ∧ v₁.commandQueue = _
      rw [same]
      unfold writeBack
      split
      · exact .inl rfl
      · exact .inr ⟨cmd, rfl, rfl⟩
    · exact .inl (by rw [← Outcome.pure_eq_ok.mp operated]; rfl)

theorem addressMapping_bank_lt (banks : 0 < c.numBanks) (address : BitVec 64) :
    (addressMapping c address).1 < c.numBanks := by
  show _ &&& (c.numBanks - 1) < c.numBanks
  exact lt_of_le_of_lt Nat.and_le_right (Nat.sub_lt banks Nat.one_pos)

theorem convPacketIntoCMDs_eq_some {packet : Packet}
    (converted : v.convPacketIntoCMDs c packet = .ok (some v')) :
    ∃ kind, requestKind c packet.CMD = some kind ∧
      v.commandQueue.availableSpace c (addressMapping c packet.ADRS).1 (blocks packet + 1) = true ∧
        v' = v.enqueueAll c packet kind := by
  unfold convPacketIntoCMDs at converted
  cases isKind : requestKind c packet.CMD with
  | none => rw [isKind] at converted; cases converted
  | some kind =>
    simp only [isKind] at converted
    split at converted
    · rename_i space
      split at converted
      · obtain rfl := Option.some.inj (Outcome.pure_eq_ok.mp converted)
        exact ⟨kind, rfl, space, rfl⟩
      · cases converted
    · cases Outcome.pure_eq_ok.mp converted

/-- What holds of the vault and survives the conversion of each packet holds after the loop. -/
theorem convertPackets_induct (property : VaultController → Prop) :
    ∀ {packets kept : List Packet} {v v' : VaultController},
      v.convertPackets c packets = .ok (v', kept) → property v →
      (∀ packet ∈ packets, ∀ v₁ v₂, property v₁ →
        v₁.convPacketIntoCMDs c packet = .ok (some v₂) → property v₂) → property v'
  | [], kept, v, v', converted, holds, _ => by
    obtain ⟨rfl, _⟩ := Prod.mk.inj (Outcome.pure_eq_ok.mp converted)
    exact holds
  | [packet], kept, v, v', converted, holds, preserved => by
    obtain ⟨result, isResult, converted⟩ := Outcome.bind_eq_ok.mp converted
    cases result with
    | none =>
      obtain ⟨rfl, _⟩ := Prod.mk.inj (Outcome.pure_eq_ok.mp converted)
      exact holds
    | some v₁ =>
      obtain ⟨rfl, _⟩ := Prod.mk.inj (Outcome.pure_eq_ok.mp converted)
      exact preserved packet List.mem_cons_self v v₁ holds isResult
  | packet :: next :: rest, kept, v, v', converted, holds, preserved => by
    unfold convertPackets at converted
    obtain ⟨result, isResult, converted⟩ := Outcome.bind_eq_ok.mp converted
    cases result with
    | none =>
      obtain ⟨⟨v₁, kept'⟩, isRest, converted⟩ := Outcome.bind_eq_ok.mp converted
      obtain ⟨rfl, _⟩ := Prod.mk.inj (Outcome.pure_eq_ok.mp converted)
      exact convertPackets_induct property isRest holds fun other member =>
        preserved other (List.mem_cons_of_mem _ member)
    | some v₁ =>
      obtain ⟨⟨v₂, kept'⟩, isRest, converted⟩ := Outcome.bind_eq_ok.mp converted
      obtain ⟨rfl, _⟩ := Prod.mk.inj (Outcome.pure_eq_ok.mp converted)
      have converts := preserved packet List.mem_cons_self v v₁ holds isResult
      exact convertPackets_induct property isRest converts fun other member =>
        preserved other (List.mem_cons_of_mem _ (List.mem_cons_of_mem _ member))

/-- The packets that stay are among those that were there, in their order. -/
theorem convertPackets_sublist : ∀ {packets kept : List Packet} {v v' : VaultController},
    v.convertPackets c packets = .ok (v', kept) → kept.Sublist packets
  | [], kept, v, v', converted => by
    obtain ⟨_, rfl⟩ := Prod.mk.inj (Outcome.pure_eq_ok.mp converted)
    exact .slnil
  | [packet], kept, v, v', converted => by
    obtain ⟨result, isResult, converted⟩ := Outcome.bind_eq_ok.mp converted
    cases result with
    | none =>
      obtain ⟨_, rfl⟩ := Prod.mk.inj (Outcome.pure_eq_ok.mp converted)
      exact .refl _
    | some v₁ =>
      obtain ⟨_, rfl⟩ := Prod.mk.inj (Outcome.pure_eq_ok.mp converted)
      exact List.nil_sublist _
  | packet :: next :: rest, kept, v, v', converted => by
    unfold convertPackets at converted
    obtain ⟨result, isResult, converted⟩ := Outcome.bind_eq_ok.mp converted
    cases result with
    | none =>
      obtain ⟨⟨v₁, kept'⟩, isRest, converted⟩ := Outcome.bind_eq_ok.mp converted
      obtain ⟨_, rfl⟩ := Prod.mk.inj (Outcome.pure_eq_ok.mp converted)
      exact (convertPackets_sublist isRest).cons_cons packet
    | some v₁ =>
      obtain ⟨⟨v₂, kept'⟩, isRest, converted⟩ := Outcome.bind_eq_ok.mp converted
      obtain ⟨_, rfl⟩ := Prod.mk.inj (Outcome.pure_eq_ok.mp converted)
      exact ((convertPackets_sublist isRest).cons_cons next).cons packet

end VaultController

end ActiveRouting

import ActiveRouting.Cube.Segmentation

/-!
# Which requests survive segmentation

Reads, writes and `PIM_ATOMIC` of whole blocks do.  The segments of other sizes
cover more than the request asks for, the responses of active requests are not
sent upstream, and those of `PIM_DOT` are not as long as the combined packet.
-/

namespace ActiveRouting

/-- A packet with the tag that it gets when it is sent. -/
def Packet.withTAG (packet : Packet) (tag : ℕ) : Packet := { packet with TAG := tag }

namespace SegmentTable

variable {c : DRAMConfig} {cubeID : ℤ} {request : Packet}

/-! ## Cover -/

theorem addressMapping_ge (c : DRAMConfig) : 32 ≤ c.addressMapping := by
  unfold DRAMConfig.addressMapping
  cases c.mappingScheme <;> decide

/-- There are at least two segments. -/
theorem two_le_segPacket (large : c.addressMapping < request.reqDataSize) :
    2 ≤ segPacket c request := by
  have pos := addressMapping_ge c
  apply (Nat.le_div_iff_mul_le (by omega)).mpr
  omega

/-- Whole blocks are not rounded. -/
theorem segPacket_of_blocks {count : ℕ}
    (blocks : request.reqDataSize = c.addressMapping * count) : segPacket c request = count := by
  have pos := addressMapping_ge c
  have pushed : c.addressMapping * count + c.addressMapping - 1 =
      c.addressMapping - 1 + c.addressMapping * count := by omega
  rw [segPacket, blocks, pushed, Nat.add_mul_div_left _ _ (by omega),
    Nat.div_eq_of_lt (by omega), Nat.zero_add]

/-- The segments fill up the last block. -/
theorem segPacket_mul_le (c : DRAMConfig) (request : Packet) :
    segPacket c request * c.addressMapping ≤ request.reqDataSize + c.addressMapping := by
  have rounded := Nat.div_mul_le_self (request.reqDataSize + c.addressMapping - 1) c.addressMapping
  unfold segPacket
  omega

theorem bytes_vaultPacket {j : ℕ}
    (fits : request.ADRS.toNat + j * c.addressMapping < 2 ^ 64) :
    bytes (vaultPacket c request j) =
      List.range' (request.ADRS.toNat + j * c.addressMapping) c.addressMapping := by
  have start : (request.ADRS + BitVec.ofNat 64 (j * c.addressMapping)).toNat =
      request.ADRS.toNat + j * c.addressMapping := by
    rw [BitVec.toNat_add, BitVec.toNat_ofNat, Nat.add_mod_mod, Nat.mod_eq_of_lt fits]
  rw [bytes, ← start]
  rfl

/-- The first segments cover their blocks one after the other. -/
theorem flatMap_bytes : ∀ {count : ℕ},
    request.ADRS.toNat + count * c.addressMapping < 2 ^ 64 →
    ((List.range count).map (vaultPacket c request)).flatMap bytes =
      List.range' request.ADRS.toNat (count * c.addressMapping)
  | 0, _ => by
    rw [Nat.zero_mul]
    rfl
  | count + 1, fits => by
    rw [Nat.succ_mul] at fits
    have earlier : request.ADRS.toNat + count * c.addressMapping < 2 ^ 64 := by omega
    rw [List.range_succ, List.map_append, List.flatMap_append, flatMap_bytes earlier]
    show _ ++ (bytes (vaultPacket c request count) ++ []) = _
    rw [List.append_nil, bytes_vaultPacket earlier, List.range'_append_1, Nat.succ_mul]

/-- The segments cover the bytes of a request exactly if it asks for whole blocks. -/
theorem covers_iff
    (fits : request.ADRS.toNat + segPacket c request * c.addressMapping < 2 ^ 64) :
    (segments c request).flatMap bytes = bytes request ↔
      c.addressMapping ∣ request.reqDataSize := by
  have pos := addressMapping_ge c
  rw [segments, flatMap_bytes fits]
  constructor
  · intro covered
    have size := congrArg List.length covered
    rw [bytes, List.length_range', List.length_range'] at size
    exact ⟨segPacket c request, by rw [← size, Nat.mul_comm]⟩
  · rintro ⟨count, whole⟩
    rw [bytes, whole, segPacket_of_blocks whole, Nat.mul_comm]

/-! ## Return -/

/-- A request is answered by a response of a length, which is for upstream or not. -/
def Answers (c : DRAMConfig) (cubeID : ℤ) (request : Packet) (lng : ℕ) (up : Bool) : Prop :=
  ∃ response, respond c (toVault cubeID request) = .ok response ∧
    response.TAG = request.TAG ∧ response.LNG = lng ∧ goesUp cubeID response = up

/-- The responses to requests that are answered alike. -/
theorem exists_responses {tag lng : ℕ} {up : Bool} : ∀ {requests : List Packet},
    (∀ request ∈ requests, request.TAG = tag ∧ Answers c cubeID request lng up) →
    ∃ responses, List.Forall₂ (fun request response =>
        respond c (toVault cubeID request) = .ok response) requests responses
  | [], _ => ⟨[], .nil⟩
  | request :: requests, answered => by
    obtain ⟨-, response, responds, -⟩ := answered request List.mem_cons_self
    obtain ⟨responses, all⟩ := exists_responses fun other member =>
      answered other (List.mem_cons_of_mem request member)
    exact ⟨response :: responses, .cons responds all⟩

theorem responses_alike {tag lng : ℕ} {up : Bool} {requests responses : List Packet}
    (responds : List.Forall₂ (fun request response =>
      respond c (toVault cubeID request) = .ok response) requests responses)
    (answered : ∀ request ∈ requests, request.TAG = tag ∧ Answers c cubeID request lng up) :
    ∀ response ∈ responses,
      response.TAG = tag ∧ response.LNG = lng ∧ goesUp cubeID response = up := by
  induction responds with
  | nil => exact fun response member => (nomatch member)
  | @cons request response requests responses isResponse rest inductionHypothesis =>
    intro other member
    cases member with
    | head =>
      obtain ⟨isTag, answer, isAnswer, answerTag, answerLNG, answerUp⟩ :=
        answered request List.mem_cons_self
      rw [isResponse] at isAnswer
      obtain rfl := Except.ok.inj isAnswer
      exact ⟨answerTag.trans isTag, answerLNG, answerUp⟩
    | tail _ member =>
      exact inductionHypothesis
        (fun request member => answered request (List.mem_cons_of_mem _ member)) other member

theorem Fresh.divided {s : SegmentTable} (fresh : s.Fresh request.TAG) :
    Beside request.TAG s (s.divide c request) (segPacket c request) none := by
  have divided := fresh.beside.divide_self (c := c)
  rwa [Nat.zero_add] at divided

/-- The responses of a tag, as they arrive one after the other. -/
theorem arrivals_map {tag : ℕ} {responses : List Packet}
    (isTag : ∀ response ∈ responses, response.TAG = tag) :
    arrivals tag (responses.map .arrive) = responses := by
  unfold arrivals
  rw [List.filterMap_map]
  refine (List.filterMap_congr ?_).trans List.filterMap_some
  intro response member
  exact if_pos (isTag response member)

theorem filter_map_arrive {tag : ℕ} {responses : List Packet}
    (isTag : ∀ response ∈ responses, response.TAG = tag) :
    (responses.map Event.arrive).filter (fun event => event.TAG ≠ tag) = [] := by
  apply List.filter_eq_nil_iff.mpr
  intro event member
  obtain ⟨response, isResponse, rfl⟩ := List.mem_map.mp member
  have sameTag : (Event.arrive response).TAG = tag := isTag response isResponse
  simp [sameTag]

/-- Where the segments of a request are answered alike, their responses return as one
    packet exactly if they are for upstream and add up to the length of the response
    to the whole request. -/
theorem returns_iff {lng wholeLng : ℕ} {up wholeUp : Bool}
    (large : c.addressMapping < request.reqDataSize)
    (answered : ∀ j, Answers c cubeID (vaultPacket c request j) lng up)
    (whole : Answers c cubeID request wholeLng wholeUp) :
    Returns c cubeID request ↔
      up ∧ lng + (segPacket c request - 1) * segmentLength c lng = wholeLng := by
  have many := two_le_segPacket large
  have segmentsAnswered : ∀ segment ∈ segments c request,
      segment.TAG = request.TAG ∧ Answers c cubeID segment lng up := by
    intro segment member
    obtain ⟨j, -, rfl⟩ := List.mem_map.mp member
    exact ⟨rfl, answered j⟩
  have number : (segments c request).length = segPacket c request := by
    rw [segments, List.length_map, List.length_range]
  obtain ⟨response, isResponse, -, responseLNG, -⟩ := whole
  -- what a run of the switch does with the responses, in whatever order
  have sends : ∀ (responses : List Packet), List.Forall₂ (fun segment response =>
        respond c (toVault cubeID segment) = .ok response) (segments c request) responses →
      ∀ (s : SegmentTable) (events : List Event), s.Fresh request.TAG →
      (∀ other, .divide other ∈ events → other.TAG ≠ request.TAG) →
      (arrivals request.TAG events).Perm responses →
      (run c cubeID s (events.filter fun event => event.TAG ≠ request.TAG)).isSome →
      ∃ s' sent, run c cubeID (s.divide c request) events = some (s', sent) ∧
        Sends request.TAG (sentLengths c lng (segPacket c request) up none) s' sent := by
    intro responses responds s events fresh noDivide arrived alone
    have alike := responses_alike responds segmentsAnswered
    refine fresh.divided.sends ?_ alone
    exact {
      noDivide := noDivide
      number := by rw [arrived.length_eq, ← responds.length_eq, number]
      lng := fun response member => (alike response (arrived.mem_iff.mp member)).2.1
      upstream := fun response member => (alike response (arrived.mem_iff.mp member)).2.2
      storedUpstream := fun first isFirst => (nomatch isFirst)
      notOne := fun _ isOne => by omega
      notNone := fun isSome => (isSome rfl).elim }
  have positive : 0 < segPacket c request := by omega
  constructor
  · rintro ⟨responses, whole, responds, wholeResponds, returned⟩
    rw [isResponse] at wholeResponds
    obtain rfl := Except.ok.inj wholeResponds
    have alike := responses_alike responds segmentsAnswered
    have isTag : ∀ response ∈ responses, response.TAG = request.TAG :=
      fun response member => (alike response member).1
    -- the responses alone, on an empty table
    have fresh : Fresh {} request.TAG := ⟨List.not_mem_nil, fun packet member => (nomatch member)⟩
    have noDivide : ∀ other, Event.divide other ∈ responses.map Event.arrive →
        other.TAG ≠ request.TAG := by
      intro other member
      obtain ⟨response, -, absurd⟩ := List.mem_map.mp member
      cases absurd
    have arrived : (arrivals request.TAG (responses.map .arrive)).Perm responses := by
      rw [arrivals_map isTag]
    have alone : (run c cubeID {} ((responses.map .arrive).filter
        fun event => event.TAG ≠ request.TAG)).isSome := by
      rw [filter_map_arrive isTag]
      rfl
    obtain ⟨s', sent, ran, sent', -⟩ :=
      sends responses responds {} (responses.map .arrive) fresh noDivide arrived alone
    obtain ⟨_, _, ran', ⟨combined, one, combinedLNG⟩, -⟩ :=
      returned {} (responses.map .arrive) fresh noDivide arrived alone
    rw [ran] at ran'
    obtain ⟨rfl, rfl⟩ := Prod.mk.inj (Option.some.inj ran')
    rw [ofTag, one] at sent'
    rw [sentLengths] at sent'
    split at sent'
    · rename_i isUp
      refine ⟨isUp.2, ?_⟩
      have sameLength := (List.cons.inj sent').1
      rw [← responseLNG, ← combinedLNG, sameLength]
      rfl
    · cases sent'
  · rintro ⟨isUp, sameLength⟩
    obtain ⟨responses, responds⟩ := exists_responses segmentsAnswered
    refine ⟨responses, response, responds, isResponse, ?_⟩
    intro s events fresh noDivide arrived alone
    obtain ⟨s', sent, ran, sent', fresh'⟩ :=
      sends responses responds s events fresh noDivide arrived alone
    refine ⟨s', sent, ran, ?_, fresh'⟩
    rw [sentLengths, if_pos ⟨positive, isUp⟩] at sent'
    obtain ⟨combined, one, combinedLNG⟩ := List.map_eq_singleton_iff.mp sent'
    exact ⟨combined, one, by rw [combinedLNG, combinedLength, sameLength, responseLNG]⟩

/-- Without an answer to the whole request there is nothing to return. -/
theorem not_returns (error : VaultError)
    (fails : respond c (toVault cubeID request) = .error error) : ¬ Returns c cubeID request := by
  rintro ⟨_, whole, -, responds, -⟩
  rw [fails] at responds
  cases responds

/-! ## Answers -/

theorem toVault_of_not {packet : Packet} (notOperand : isOperand packet = false) :
    toVault cubeID packet = packet := by
  rw [toVault, notOperand]
  rfl

/-- The last command of a request, when its data is returned. -/
def lastCMD (c : DRAMConfig) (request : Packet) (kind : VaultController.RequestKind) :
    DRAMCommand :=
  (VaultController.rwCMD c request kind (VaultController.blocks request - 1)).withType
    (if kind.tempCMD.isRead then .READ_DATA else .WRITE_DATA)

theorem respond_of_kind {kind : VaultController.RequestKind} {response : Packet} (size : ℕ)
    (isKind : VaultController.requestKind c request.CMD = some kind)
    (responds : VaultController.respondPacket (lastCMD c request kind) = .ok (response, size)) :
    respond c request = .ok response := by
  rw [respond, isKind]
  show (VaultController.respondPacket (lastCMD c request kind) >>= _) = _
  rw [responds]
  rfl

theorem lastCMD_read (c : DRAMConfig) (request : Packet) :
    (lastCMD c request (VaultController.readKind c)).commandType = .READ_DATA := by
  show (if (VaultController.readKind c).tempCMD.isRead then _ else _) = _
  unfold VaultController.readKind
  cases c.openPage <;> rfl

theorem lastCMD_write (c : DRAMConfig) (request : Packet) (posted : Bool) :
    (lastCMD c request (VaultController.writeKind c posted)).commandType = .WRITE_DATA := by
  show (if (VaultController.writeKind c posted).tempCMD.isRead then _ else _) = _
  unfold VaultController.writeKind
  cases c.openPage <;> rfl

/-- Reads are answered by their data. -/
theorem answers_read (isKind : VaultController.requestKind c request.CMD =
      some (VaultController.readKind c))
    (plain : request.CMD ≠ .ACT_ADD ∧ request.CMD ≠ .ACT_DOT ∧ request.CMD ≠ .ACT_MULT ∧
      request.CMD ≠ .PEI_DOT) :
    Answers c cubeID request (request.reqDataSize / 16 + 1) true := by
  obtain ⟨notAdd, notDot, notMult, notPei⟩ := plain
  have notOperand : isOperand request = false := by simp [isOperand, notAdd, notDot, notMult]
  refine ⟨VaultController.response (lastCMD c request (VaultController.readKind c)) .RD_RS
    (request.reqDataSize / 16 + 1), ?_, rfl, rfl, rfl⟩
  rw [toVault_of_not notOperand]
  apply respond_of_kind (request.reqDataSize / 16 + 1) isKind
  unfold VaultController.respondPacket
  rw [if_neg (show ¬ (lastCMD c request (VaultController.readKind c)).atomic = true from
    Bool.false_ne_true), lastCMD_read]
  have sameCMD : (lastCMD c request (VaultController.readKind c)).packetCMD = request.CMD := rfl
  simp only [sameCMD]
  rfl

/-- Writes are acknowledged. -/
theorem answers_write {posted : Bool} (isKind : VaultController.requestKind c request.CMD =
      some (VaultController.writeKind c posted)) (notOperand : isOperand request = false) :
    Answers c cubeID request 1 true := by
  refine ⟨VaultController.response (lastCMD c request (VaultController.writeKind c posted))
    .WR_RS 1, ?_, rfl, rfl, rfl⟩
  rw [toVault_of_not notOperand]
  apply respond_of_kind 1 isKind
  unfold VaultController.respondPacket
  rw [if_neg (show ¬ (lastCMD c request (VaultController.writeKind c posted)).atomic = true from
    Bool.false_ne_true), lastCMD_write]

/-- `PEI_ATOMIC` is acknowledged. -/
theorem answers_peiAtomic (isAtomic : request.CMD = .PEI_ATOMIC) :
    Answers c cubeID request 1 true := by
  have notOperand : isOperand request = false := by rw [isOperand, isAtomic]; rfl
  refine ⟨VaultController.response (lastCMD c request (VaultController.atomicKind false))
    .PEI_ATOMIC 1, ?_, rfl, rfl, rfl⟩
  rw [toVault_of_not notOperand]
  apply respond_of_kind 1 (by rw [isAtomic]; rfl)
  have sameCMD : (lastCMD c request (VaultController.atomicKind false)).packetCMD =
      .PEI_ATOMIC := isAtomic
  unfold VaultController.respondPacket
  rw [if_pos (show (lastCMD c request (VaultController.atomicKind false)).atomic = true from rfl),
    sameCMD]
  rfl

/-- `PEI_DOT` is answered by its result. -/
theorem answers_peiDot (isDot : request.CMD = .PEI_DOT) : Answers c cubeID request 2 true := by
  have notOperand : isOperand request = false := by rw [isOperand, isDot]; rfl
  refine ⟨VaultController.response (lastCMD c request (VaultController.readKind c))
    .PEI_DOT 2, ?_, rfl, rfl, rfl⟩
  rw [toVault_of_not notOperand]
  apply respond_of_kind (request.reqDataSize / 16 + 1) (by rw [isDot]; rfl)
  have sameCMD : (lastCMD c request (VaultController.readKind c)).packetCMD = .PEI_DOT := isDot
  unfold VaultController.respondPacket
  rw [if_neg (show ¬ (lastCMD c request (VaultController.readKind c)).atomic = true from
    Bool.false_ne_true), lastCMD_read]
  simp only [sameCMD]
  rfl

theorem not_goesUp_operand {response : Packet}
    (isOperand : response.CMD = .ACT_ADD ∨ response.CMD = .ACT_DOT) :
    goesUp cubeID response = false := by
  rcases isOperand with isAdd | isDot
  · rw [goesUp, isAdd]
    rfl
  · rw [goesUp, isDot]
    rfl

theorem toVault_CMD (cubeID : ℤ) (packet : Packet) : (toVault cubeID packet).CMD = packet.CMD := by
  unfold toVault
  split <;> rfl

theorem toVault_TAG (cubeID : ℤ) (packet : Packet) : (toVault cubeID packet).TAG = packet.TAG := by
  unfold toVault
  split <;> rfl

theorem toVault_reqDataSize (cubeID : ℤ) (packet : Packet) :
    (toVault cubeID packet).reqDataSize = packet.reqDataSize := by
  unfold toVault
  split <;> rfl

theorem toVault_addresses (cubeID : ℤ) (packet : Packet) :
    (toVault cubeID packet).SRCADRS1 = packet.SRCADRS1 ∧
      (toVault cubeID packet).SRCADRS2 = packet.SRCADRS2 := by
  unfold toVault
  split <;> exact ⟨rfl, rfl⟩

/-- The data of one operand stays in the cube. -/
theorem answers_operand (isAddOrDot : request.CMD = .ACT_ADD ∨ request.CMD = .ACT_DOT) :
    Answers c cubeID request (request.reqDataSize / 16 + 1) false := by
  have sameCMD := toVault_CMD cubeID request
  have sameTAG := toVault_TAG cubeID request
  have sameSize := toVault_reqDataSize cubeID request
  rw [Answers]
  generalize toVault cubeID request = inOwnName at sameCMD sameTAG sameSize ⊢
  have isKind : VaultController.requestKind c inOwnName.CMD =
      some (VaultController.readKind c) := by
    rw [sameCMD]
    rcases isAddOrDot with isAdd | isDot
    · rw [isAdd]; rfl
    · rw [isDot]; rfl
  refine ⟨VaultController.operandResponse (lastCMD c inOwnName (VaultController.readKind c))
    (inOwnName.reqDataSize / 16 + 1) 0, ?_, sameTAG, congrArg (· / 16 + 1) sameSize,
    not_goesUp_operand (sameCMD.symm ▸ isAddOrDot)⟩
  apply respond_of_kind (inOwnName.reqDataSize / 16 + 1) isKind
  unfold VaultController.respondPacket
  rw [if_neg (show ¬ (lastCMD c inOwnName (VaultController.readKind c)).atomic = true from
    Bool.false_ne_true), lastCMD_read]
  have isRequest : (lastCMD c inOwnName (VaultController.readKind c)).packetCMD = request.CMD :=
    sameCMD
  rcases isAddOrDot with isAdd | isDot
  · simp only [isRequest, isAdd]
    rfl
  · simp only [isRequest, isDot]
    rfl

/-- The addresses of the operands that the last command of an `ACT_MULT` carries. -/
theorem lastCMD_mult (isMult : request.CMD = .ACT_MULT) :
    (lastCMD c request (VaultController.readKind c)).srcAddr1 = request.SRCADRS1 ∧
    (lastCMD c request (VaultController.readKind c)).srcAddr2 =
      if request.SRCADRS1 = 0 then request.SRCADRS2 else 0 := by
  have isRead : (VaultController.readKind c).tempCMD.isRead = true := by
    unfold VaultController.readKind
    cases c.openPage <;> rfl
  constructor <;> simp [lastCMD, VaultController.rwCMD, DRAMCommand.withType, isRead, isMult]

theorem respondPacket_mult (isMult : request.CMD = .ACT_MULT) :
    VaultController.respondPacket (lastCMD c request (VaultController.readKind c)) =
      if (((lastCMD c request (VaultController.readKind c)).srcAddr1 = 0) ≠
          ((lastCMD c request (VaultController.readKind c)).srcAddr2 = 0)) then
        .ok (VaultController.operandResponse (lastCMD c request (VaultController.readKind c)) 2
          (lastCMD c request (VaultController.readKind c)).srcAddr2, request.reqDataSize / 16 + 1)
      else .error .assertion := by
  have isRequest : (lastCMD c request (VaultController.readKind c)).packetCMD = .ACT_MULT := isMult
  unfold VaultController.respondPacket
  rw [if_neg (show ¬ (lastCMD c request (VaultController.readKind c)).atomic = true from
    Bool.false_ne_true), lastCMD_read]
  simp only [isRequest]
  rfl

theorem not_goesUp_mult {response : Packet} (isMult : response.CMD = .ACT_MULT)
    (own : response.DESTCUB = cubeID) : goesUp cubeID response = false := by
  rw [goesUp, isMult, own]
  simp

/-- The answer to an `ACT_MULT` stays in the cube; without an address there is none. -/
theorem answers_mult (c : DRAMConfig) (cubeID : ℤ) (isMult : request.CMD = .ACT_MULT) :
    (respond c (toVault cubeID request) = .error .assertion ∧
      request.SRCADRS1 = 0 ∧ request.SRCADRS2 = 0) ∨
    ((request.SRCADRS1 ≠ 0 ∨ request.SRCADRS2 ≠ 0) ∧ Answers c cubeID request 2 false) := by
  have own : (toVault cubeID request).SRCCUB = cubeID := by
    rw [toVault, if_pos]
    rw [isOperand, isMult]
    rfl
  have sameCMD : (toVault cubeID request).CMD = .ACT_MULT :=
    (toVault_CMD cubeID request).trans isMult
  have sameTAG := toVault_TAG cubeID request
  obtain ⟨sameFirst, sameSecond⟩ := toVault_addresses cubeID request
  rw [Answers]
  generalize toVault cubeID request = inOwnName at own sameCMD sameTAG sameFirst sameSecond ⊢
  have isKind : VaultController.requestKind c inOwnName.CMD =
      some (VaultController.readKind c) := by
    rw [sameCMD]
    rfl
  obtain ⟨first, second⟩ := lastCMD_mult (c := c) sameCMD
  have responds := respondPacket_mult (c := c) sameCMD
  rw [first, second, sameFirst, sameSecond] at responds
  by_cases noAddress : request.SRCADRS1 = 0 ∧ request.SRCADRS2 = 0
  · refine .inl ⟨?_, noAddress⟩
    rw [noAddress.1, if_pos rfl, noAddress.2, if_neg fun differ => differ rfl] at responds
    rw [respond, isKind]
    show (VaultController.respondPacket (lastCMD c inOwnName (VaultController.readKind c)) >>= _) = _
    rw [responds]
    rfl
  · have one : (request.SRCADRS1 = 0) ≠
        ((if request.SRCADRS1 = 0 then request.SRCADRS2 else 0) = 0) := by
      by_cases noFirst : request.SRCADRS1 = 0
      · have second : request.SRCADRS2 ≠ 0 := fun noSecond => noAddress ⟨noFirst, noSecond⟩
        rw [if_pos noFirst]
        exact fun same => second (same ▸ noFirst)
      · rw [if_neg noFirst]
        exact fun same => noFirst (same ▸ rfl)
    rw [if_pos one] at responds
    refine .inr ⟨by rwa [not_and_or] at noAddress, ?_⟩
    refine ⟨_, respond_of_kind _ isKind responds, sameTAG, rfl, ?_⟩
    exact not_goesUp_mult sameCMD own

/-! ## The requests of the host -/

theorem not_returns_mult (large : c.addressMapping < request.reqDataSize)
    (isMult : request.CMD = .ACT_MULT) : ¬ Returns c cubeID request := by
  rcases answers_mult c cubeID isMult with ⟨fails, -⟩ | ⟨address, whole⟩
  · exact not_returns .assertion fails
  · intro returned
    have answered : ∀ j, Answers c cubeID (vaultPacket c request j) 2 false := by
      intro j
      have isMult : (vaultPacket c request j).CMD = .ACT_MULT := isMult
      rcases answers_mult c cubeID isMult with ⟨-, noAddress⟩ | ⟨-, answers⟩
      · exact (not_and_or.mpr address noAddress).elim
      · exact answers
    cases ((returns_iff large answered whole).mp returned).1

theorem not_returns_operand (large : c.addressMapping < request.reqDataSize)
    (isAddOrDot : request.CMD = .ACT_ADD ∨ request.CMD = .ACT_DOT) :
    ¬ Returns c cubeID request := by
  intro returned
  have answered : ∀ j, Answers c cubeID (vaultPacket c request j)
      (c.addressMapping / 16 + 1) false := fun j => answers_operand isAddOrDot
  cases ((returns_iff large answered (answers_operand isAddOrDot)).mp returned).1

/-- The segments of a `PEI_DOT` add up to more than its answer. -/
theorem not_returns_peiDot (large : c.addressMapping < request.reqDataSize)
    (isDot : request.CMD = .PEI_DOT) : ¬ Returns c cubeID request := by
  intro returned
  have answered : ∀ j, Answers c cubeID (vaultPacket c request j) 2 true :=
    fun j => answers_peiDot isDot
  have sameLength := ((returns_iff large answered (answers_peiDot isDot)).mp returned).2
  have many := two_le_segPacket large
  have blocks : 2 ≤ c.addressMapping / 16 := by
    have pos := addressMapping_ge c
    omega
  rw [segmentLength, if_pos (by decide)] at sameLength
  have more : 1 * 2 ≤ (segPacket c request - 1) * (c.addressMapping / 16) :=
    Nat.mul_le_mul (by omega) blocks
  omega

theorem not_returns_get (isGet : request.CMD = .ACT_GET) : ¬ Returns c cubeID request := by
  apply not_returns .wrongPacket
  have noKind : VaultController.requestKind c (toVault cubeID request).CMD = none := by
    rw [toVault_CMD, isGet]
    rfl
  rw [respond, noKind]
  rfl

/-- Responses without data add up to one without data. -/
theorem returns_acknowledged (large : c.addressMapping < request.reqDataSize)
    (answered : ∀ j, Answers c cubeID (vaultPacket c request j) 1 true)
    (whole : Answers c cubeID request 1 true) : Returns c cubeID request := by
  apply (returns_iff large answered whole).mpr
  rw [segmentLength, if_neg (lt_irrefl 1), Nat.mul_zero]
  exact ⟨rfl, rfl⟩

/-- The data of whole blocks adds up. -/
theorem returns_read (large : c.addressMapping < request.reqDataSize)
    (isKind : VaultController.requestKind c request.CMD = some (VaultController.readKind c))
    (plain : request.CMD ≠ .ACT_ADD ∧ request.CMD ≠ .ACT_DOT ∧ request.CMD ≠ .ACT_MULT ∧
      request.CMD ≠ .PEI_DOT) (whole : c.addressMapping ∣ request.reqDataSize) :
    Returns c cubeID request := by
  have answered : ∀ j, Answers c cubeID (vaultPacket c request j)
      (c.addressMapping / 16 + 1) true := fun j => answers_read isKind plain
  apply (returns_iff large answered (answers_read isKind plain)).mpr
  refine ⟨rfl, ?_⟩
  have blocks := addressMapping_ge c
  have many := two_le_segPacket large
  rw [segmentLength, if_pos (by omega)]
  obtain ⟨unit, isUnit⟩ : 16 ∣ c.addressMapping := by
    unfold DRAMConfig.addressMapping
    cases c.mappingScheme <;> decide
  obtain ⟨count, isCount⟩ := whole
  have rounded := segPacket_of_blocks isCount
  have oneUnit : c.addressMapping / 16 = unit := by omega
  have allUnits : request.reqDataSize / 16 = count * unit := by
    rw [isCount, isUnit, Nat.mul_assoc, Nat.mul_div_cancel_left _ (by decide), Nat.mul_comm]
  rw [oneUnit, allUnits, rounded]
  have split : count * unit = unit + (count - 1) * unit := by
    rw [Nat.add_comm, ← Nat.succ_mul, Nat.succ_eq_add_one, Nat.sub_add_cancel (by omega)]
  omega

end SegmentTable

namespace Transaction

/-- The requests whose segments return as one response. -/
def isDivisible (tran : Transaction) : Prop :=
  tran.transactionType = .DATA_READ ∨ tran.transactionType = .DATA_WRITE ∨
    tran.transactionType = .PIM_ATOMIC

instance (tran : Transaction) : Decidable tran.isDivisible := by
  unfold isDivisible
  infer_instance

theorem readCommand_kind (c : DRAMConfig) {size : ℕ} {cmd : PacketCommandType}
    (isRead : readCommand size = some cmd) :
    VaultController.requestKind c cmd = some (VaultController.readKind c) ∧
      cmd ≠ .ACT_ADD ∧ cmd ≠ .ACT_DOT ∧ cmd ≠ .ACT_MULT ∧ cmd ≠ .PEI_DOT := by
  unfold readCommand at isRead
  split at isRead <;> cases isRead <;> exact ⟨rfl, by decide⟩

theorem writeCommand_kind (c : DRAMConfig) {size : ℕ} {cmd : PacketCommandType}
    (isWrite : writeCommand size = some cmd) :
    VaultController.requestKind c cmd = some (VaultController.writeKind c false) ∧
      cmd ≠ .ACT_ADD ∧ cmd ≠ .ACT_DOT ∧ cmd ≠ .ACT_MULT := by
  unfold writeCommand at isWrite
  split at isWrite <;> cases isWrite <;> exact ⟨rfl, by decide⟩

theorem newPacket_reqDataSize (tran : Transaction) (cmdtype : PacketCommandType)
    (packetLength : ℕ) : (tran.newPacket cmdtype packetLength).reqDataSize = tran.reqDataSize := by
  rw [newPacket]
  split <;> rfl

theorem address34_lt (address : BitVec 64) : (address34 address).toNat < 2 ^ 34 := by
  unfold address34
  rw [BitVec.toNat_ushiftRight, Nat.shiftRight_eq_div_pow]
  have bound := (address <<< 30).isLt
  omega

theorem newPacket_ADRS_lt (tran : Transaction) (cmdtype : PacketCommandType)
    (packetLength : ℕ) : (tran.newPacket cmdtype packetLength).ADRS.toNat < 2 ^ 34 := by
  rw [newPacket]
  split
  · show (0 : BitVec 64).toNat < 2 ^ 34
    decide
  all_goals exact address34_lt _

end Transaction

namespace SegmentTable

/-- Only reads, writes and `PIM_ATOMIC` of the host return. -/
theorem isDivisible_of_returns {tran : Transaction} {packetLength : ℕ}
    (isCommand : tran.command = some (request.CMD, packetLength))
    (sameSize : request.reqDataSize = tran.reqDataSize)
    (large : c.addressMapping < request.reqDataSize) (returned : Returns c cubeID request) :
    tran.isDivisible := by
  have pos := addressMapping_ge c
  cases isType : tran.transactionType with
  | DATA_READ => exact .inl isType
  | DATA_WRITE => exact .inr (.inl isType)
  | PIM_ATOMIC => exact .inr (.inr isType)
  | ACTIVE_GET =>
    simp only [Transaction.command, isType] at isCommand
    exact (not_returns_get (Prod.mk.inj (Option.some.inj isCommand)).1.symm returned).elim
  | ACTIVE_ADD =>
    simp only [Transaction.command, isType] at isCommand
    have isAdd := (Prod.mk.inj (Option.some.inj isCommand)).1.symm
    exact (not_returns_operand large (.inl isAdd) returned).elim
  | ACTIVE_DOT =>
    simp only [Transaction.command, isType] at isCommand
    have isDot := (Prod.mk.inj (Option.some.inj isCommand)).1.symm
    exact (not_returns_operand large (.inr isDot) returned).elim
  | ACTIVE_MULT =>
    simp only [Transaction.command, isType] at isCommand
    have isMult := (Prod.mk.inj (Option.some.inj isCommand)).1.symm
    exact (not_returns_mult large isMult returned).elim
  | PIM_DOT =>
    simp only [Transaction.command, isType] at isCommand
    have isDot := (Prod.mk.inj (Option.some.inj isCommand)).1.symm
    exact (not_returns_peiDot large isDot returned).elim
  | _ =>
    -- the other requests are for 16 bytes
    simp only [Transaction.reqDataSize, isType] at sameSize
    omega

/-- Those of whole blocks do return. -/
theorem returns_of_isDivisible {tran : Transaction} {packetLength : ℕ}
    (isCommand : tran.command = some (request.CMD, packetLength))
    (large : c.addressMapping < request.reqDataSize)
    (blocks : c.addressMapping ∣ request.reqDataSize) (divisible : tran.isDivisible) :
    Returns c cubeID request := by
  rcases divisible with isType | isType | isType
  · simp only [Transaction.command, isType, Option.map_eq_some_iff] at isCommand
    obtain ⟨cmd, isRead, same⟩ := isCommand
    obtain ⟨rfl, -⟩ := Prod.mk.inj same
    obtain ⟨isKind, plain⟩ := Transaction.readCommand_kind c isRead
    exact returns_read large isKind plain blocks
  · simp only [Transaction.command, isType, Option.map_eq_some_iff] at isCommand
    obtain ⟨cmd, isWrite, same⟩ := isCommand
    obtain ⟨rfl, -⟩ := Prod.mk.inj same
    obtain ⟨isKind, notAdd, notDot, notMult⟩ := Transaction.writeCommand_kind c isWrite
    have notOperand : isOperand request = false := by simp [isOperand, notAdd, notDot, notMult]
    exact returns_acknowledged large (fun j => answers_write isKind notOperand)
      (answers_write isKind notOperand)
  · simp only [Transaction.command, isType] at isCommand
    have isAtomic := (Prod.mk.inj (Option.some.inj isCommand)).1.symm
    exact returns_acknowledged large (fun j => answers_peiAtomic isAtomic)
      (answers_peiAtomic isAtomic)

theorem reqDataSize_of_large (c : DRAMConfig) {tran : Transaction} (large : c.addressMapping < tran.reqDataSize) :
    tran.reqDataSize = tran.dataSize := by
  have pos := addressMapping_ge c
  cases isType : tran.transactionType with
  | DATA_READ | DATA_WRITE | ACTIVE_GET | ACTIVE_ADD | ACTIVE_MULT | ACTIVE_DOT | PIM_DOT
  | PIM_ATOMIC => simp only [Transaction.reqDataSize, isType]
  | _ =>
    simp only [Transaction.reqDataSize, isType] at large
    omega

/-- A request of the host for more than a block makes the round trip exactly if it is
    a read, a write or a `PIM_ATOMIC`, of whole blocks. -/
theorem roundTrip_iff (c : DRAMConfig) (cubeID : ℤ) (tag : ℕ) {tran : Transaction}
    {packet : Packet} (converted : tran.convTranIntoPacket = some packet)
    (large : c.addressMapping < packet.reqDataSize) (unsigned : tran.dataSize < 2 ^ 32) :
    RoundTrip c cubeID (packet.withTAG tag) ↔
      tran.isDivisible ∧ c.addressMapping ∣ tran.dataSize := by
  obtain ⟨⟨cmdtype, packetLength⟩, isCommand, same⟩ := Option.map_eq_some_iff.mp converted
  have isPacket : tran.newPacket cmdtype packetLength = packet := same
  have sameSize : packet.reqDataSize = tran.reqDataSize :=
    isPacket ▸ tran.newPacket_reqDataSize cmdtype packetLength
  have sameCMD : packet.CMD = cmdtype := isPacket ▸ tran.newPacket_CMD cmdtype packetLength
  have address : packet.ADRS.toNat < 2 ^ 34 :=
    isPacket ▸ tran.newPacket_ADRS_lt cmdtype packetLength
  have dataSize : packet.reqDataSize = tran.dataSize :=
    sameSize.trans (reqDataSize_of_large c (sameSize ▸ large))
  subst sameCMD
  have tagged_ADRS : (packet.withTAG tag).ADRS = packet.ADRS := rfl
  have tagged_size : (packet.withTAG tag).reqDataSize = tran.dataSize := dataSize
  have tagged_CMD : tran.command = some ((packet.withTAG tag).CMD, packetLength) := isCommand
  generalize packet.withTAG tag = request at tagged_ADRS tagged_size tagged_CMD ⊢
  have isLarge : c.addressMapping < request.reqDataSize := by
    rw [tagged_size, ← dataSize]
    exact large
  -- the last segment ends below the 64 bits of an address
  have fits : request.ADRS.toNat + segPacket c request * c.addressMapping < 2 ^ 64 := by
    have rounded := segPacket_mul_le c request
    rw [tagged_ADRS]
    omega
  rw [← tagged_size]
  constructor
  · intro roundTrip
    have sameRequest : request.reqDataSize = tran.reqDataSize :=
      tagged_size.trans (dataSize.symm.trans sameSize)
    exact ⟨isDivisible_of_returns tagged_CMD sameRequest isLarge roundTrip.returns,
      (covers_iff fits).mp roundTrip.covers⟩
  · rintro ⟨divisible, blocks⟩
    exact ⟨(covers_iff fits).mpr blocks,
      returns_of_isDivisible tagged_CMD isLarge blocks divisible⟩

/-- A read of two blocks. -/
theorem roundTrip_iff_twoBlocks :
    let read : Transaction := { transactionType := .DATA_READ, dataSize := 128 }
    RoundTrip {} 0 ((read.newPacket .RD128 1).withTAG 7) := by
  intro read
  have converted : read.convTranIntoPacket = some (read.newPacket .RD128 1) := rfl
  exact (roundTrip_iff {} 0 7 converted (by decide) (by decide)).mpr ⟨.inl rfl, by decide⟩

/-- A read of 80 bytes is divided into two segments of 64. -/
theorem partialBlock_differs : ∃ tran packet,
    Transaction.convTranIntoPacket tran = some packet ∧
    tran.transactionType = .DATA_READ ∧ tran.dataSize = 80 ∧
    DRAMConfig.addressMapping {} < packet.reqDataSize ∧
    ¬ RoundTrip {} 0 (packet.withTAG 7) := by
  refine ⟨{ transactionType := .DATA_READ, dataSize := 80 }, _, rfl, rfl, rfl, by decide, ?_⟩
  intro roundTrip
  have blocks := (covers_iff (by decide)).mp roundTrip.covers
  revert blocks
  decide

end SegmentTable

end ActiveRouting

import ActiveRouting.Buffer.CubeTails

/-!
# What an action of a crossbar switch can do

One lemma for each kind of visit, from which it follows what becomes of the packet, of
the flow table and of the operand buffers.
-/

namespace ActiveRouting

open Blocks Outcome

namespace FlowTables

variable {k : CubeConfig} {t t' : FlowTables}

/-- A new entry, or the one that was there, with one more request. -/
def countedEntry (opcode : Opcode) (parent : ℤ) : Option FlowEntry → FlowEntry
  | none => { opcode := opcode, parent := parent, req_count := 1 }
  | some flowEntry => flowEntry.addRequest

theorem countUpdate_eq_ok {opcode : Opcode} {flow : BitVec 64} {parent : ℤ}
    (counts : t.countUpdate opcode flow parent = .ok t') :
    t' = t.setFlow flow (some (countedEntry opcode parent (t.flowTable flow))) ∧
      ∀ flowEntry, t.flowTable flow = some flowEntry → flowEntry.parent = parent := by
  rw [countUpdate] at counts
  cases found : t.flowTable flow with
  | none =>
    simp only [found, pure_eq_ok] at counts
    exact ⟨counts.symm, fun flowEntry isSome => by cases isSome⟩
  | some flowEntry =>
    simp only [found] at counts
    by_cases same : flowEntry.parent = parent
    · rw [if_pos same, pure_eq_ok] at counts
      refine ⟨counts.symm, fun other isSome => ?_⟩
      obtain rfl := Option.some.inj isSome
      exact same
    · rw [if_neg same] at counts
      exact absurd counts throw_ne_ok

theorem reserveOperand_eq_ok {flow src1 src2 : BitVec 64} {reserved : ℕ × FlowTables}
    (reserves : t.reserveOperand k flow src1 src2 = .ok reserved) :
    ∃ rest, t.freeOperandBufIDs = reserved.1 :: rest ∧
      reserved.2 = t.takeFree reserved.1 rest ((t.operand k reserved.1).reserve flow src1 src2) := by
  rw [reserveOperand] at reserves
  cases isFree : t.freeOperandBufIDs with
  | nil =>
    simp only [isFree] at reserves
    exact absurd reserves throw_ne_ok
  | cons id rest =>
    simp only [isFree] at reserves
    by_cases clear : (t.operand k id).isClear = true
    · rw [if_pos clear, pure_eq_ok] at reserves
      subst reserves
      exact ⟨rest, rfl, rfl⟩
    · rw [if_neg clear] at reserves
      exact absurd reserves throw_ne_ok

/-- An update that enters: it is counted, and a free operand buffer is reserved for it. -/
structure Enters (k : CubeConfig) (t : FlowTables) (opcode : Opcode) (packet : Packet)
    (src2 : BitVec 64) (id : ℕ) (t' : FlowTables) : Prop where
  flowTable : t'.flowTable = Function.update t.flowTable packet.DESTADRS
    (some (countedEntry opcode (k.parentCube packet.SRCCUB) (t.flowTable packet.DESTADRS)))
  parent : ∀ flowEntry, t.flowTable packet.DESTADRS = some flowEntry →
    flowEntry.parent = k.parentCube packet.SRCCUB
  isFree : id ∈ t.freeOperandBufIDs
  operandBuffers : t'.operandBuffers = Function.update t.operandBuffers id
    (some ((t.operand k id).reserve packet.DESTADRS packet.SRCADRS1 src2))

theorem enter_eq_ok {opcode : Opcode} {packet : Packet} {src2 : BitVec 64}
    {entered : ℕ × FlowTables} (enters : t.enter k opcode packet src2 = .ok entered) :
    Enters k t opcode packet src2 entered.1 entered.2 := by
  rw [enter] at enters
  obtain ⟨counted, counts, reserves⟩ := bind_eq_ok.mp enters
  obtain ⟨rfl, parent⟩ := countUpdate_eq_ok counts
  obtain ⟨rest, isFree, same⟩ := reserveOperand_eq_ok reserves
  have free : t.freeOperandBufIDs = entered.1 :: rest := isFree
  refine ⟨?_, parent, free ▸ List.mem_cons_self, ?_⟩
  · rw [same]
    rfl
  · rw [same]
    rfl

end FlowTables

namespace CrossbarSwitch

open FlowTables

variable {k : CubeConfig} {t : FlowTables} {packet : Packet} {answers : Answers} {visit : Visit}

/-! ## Requests -/

/-- An update ends its way in this cube, or is divided here. -/
def Parts (k : CubeConfig) (packet : Packet) : Prop :=
  packet.DESTCUB = k.cubeID ∨ packet.CMD = .ACT_MULT ∧
    (packet.DESTCUB1 = k.cubeID ∨ packet.DESTCUB2 = k.cubeID ∨
      k.findNextLink packet.DESTCUB1 false ≠ k.findNextLink packet.DESTCUB2 false)

/-- A half of a packet that is sent on its own; on a link it has one line. -/
structure IsHalfOf (packet half : Packet) (port : Port) : Prop where
  CMD : half.CMD = .ACT_MULT
  alone : isFullPkt half = false
  LINES : ∀ link, port = .link link → half.LINES = 1
  LNG : half.LNG = packet.LNG
  segment : half.segment = packet.segment
  reqDataSize : half.reqDataSize = packet.reqDataSize

/-- What a visit of a request that is not divided into segments does. -/
inductive RequestVisit (k : CubeConfig) (answers : Answers) (inorder room : Bool) (t : FlowTables)
    (packet : Packet) : Visit → Prop where
  | stays : RequestVisit k answers inorder room t packet (stay t)
  | drops : packet.CMD = .ACT_MULT → isFullPkt packet = true → Parts k packet →
      RequestVisit k answers inorder room t packet ⟨t, .rewrite (dropOperandBufID packet), []⟩
  /-- An operand is asked for. -/
  | adds (id : ℕ) (t' : FlowTables) (fate : Fate) : packet.CMD = .ACT_ADD ∨ packet.CMD = .ACT_DOT →
      packet.DESTCUB = k.cubeID → Enters k t .ADD packet 0 id t' → nextAddLine packet = .ok fate →
      RequestVisit k answers inorder room t packet
        ⟨t', fate, [(.vault (k.vaultMap packet.ADRS), operandRequest k id packet)]⟩
  /-- The first of two operands is asked for; the packet waits for the other to be. -/
  | multiplies (id : ℕ) (t' : FlowTables) (waits half : Packet) (port : Port) :
      packet.CMD = .ACT_MULT → isFullPkt packet = true → Parts k packet →
      Enters k t .MAC packet packet.SRCADRS2 id t' →
      (waits = awaitSecond k id packet ∨ waits = awaitFirst k id packet) → IsHalfOf packet half port →
      RequestVisit k answers inorder room t packet ⟨t', .rewrite waits, [(port, half)]⟩
  /-- The other half of a packet is sent. -/
  | halves (half : Packet) (port : Port) (fate : Fate) : packet.CMD = .ACT_MULT →
      isFullPkt packet = false → IsHalfOf packet half port →
      (packet.LINES ≤ 1 ∧ fate = .erase ∨ 1 < packet.LINES ∧ fate = .rewrite (nextMultLine packet)) →
      RequestVisit k answers inorder room t packet ⟨t, fate, [(port, half)]⟩
  /-- An update is passed on to a child. -/
  | forwards (opcode : Opcode) (t' : FlowTables) : isUpdate packet = true →
      (packet.CMD = .ACT_MULT → isFullPkt packet = true) → ¬ Parts k packet →
      t.countUpdate opcode packet.DESTADRS (k.parentCube packet.SRCCUB) = .ok t' →
      RequestVisit k answers inorder room t packet
        ⟨t'.countChild packet.DESTADRS (k.findNextLink packet.DESTCUB false), .erase,
          [(.link (k.findNextLink packet.DESTCUB false), packet.resetLinkFields)]⟩
  /-- A `GET` is replicated to a child. -/
  | tells (flowEntry : FlowEntry) (link : Fin numLinks) : packet.CMD = .ACT_GET →
      packet.DESTCUB = k.cubeID → inorder = true → t.flowTable packet.DESTADRS = some flowEntry →
      link ∈ flowEntry.childLinks →
      k.findNextLink (k.neighborCubeID link) false = link →
      RequestVisit k answers inorder room t packet
        ⟨t.setFlow packet.DESTADRS (some (flowEntry.markChild link)),
          .replicate (childPkt k link packet), []⟩
  /-- A `GET` was replicated to all children. -/
  | marks (flowEntry : FlowEntry) : packet.CMD = .ACT_GET → packet.DESTCUB = k.cubeID →
      inorder = true → t.flowTable packet.DESTADRS = some flowEntry →
      RequestVisit k answers inorder room t packet
        ⟨t.setFlow packet.DESTADRS (some flowEntry.markGather), .erase, []⟩
  | toVault : isUpdate packet = false → packet.CMD ≠ .ACT_GET →
      RequestVisit k answers inorder room t packet
        ⟨t, .erase, [(.vault (k.vaultMap packet.ADRS), packet)]⟩
  | passes : isUpdate packet = false → packet.DESTCUB ≠ k.cubeID →
      RequestVisit k answers inorder room t packet
        ⟨t, .erase, [(.link (k.findNextLink packet.DESTCUB false), packet.resetLinkFields)]⟩

theorem isFullPkt_of_half1 {half : Packet} (isHalf : half.halfPkt1 = true) :
    isFullPkt half = false := by simp [isFullPkt, isHalf]

theorem isFullPkt_of_half2 {half : Packet} (isHalf : half.halfPkt2 = true) :
    isFullPkt half = false := by simp [isFullPkt, isHalf]

variable {inorder room : Bool}

theorem visitAdd_cases (isAdd : packet.CMD = .ACT_ADD ∨ packet.CMD = .ACT_DOT)
    (isHere : packet.DESTCUB = k.cubeID) (visits : visitAdd k answers t packet = .ok visit) :
    RequestVisit k answers inorder room t packet visit := by
  rw [visitAdd] at visits
  split at visits
  · obtain ⟨⟨id, t'⟩, enters, visits⟩ := bind_eq_ok.mp visits
    obtain ⟨fate, next, visits⟩ := bind_eq_ok.mp visits
    obtain rfl := pure_eq_ok.mp visits
    exact .adds id t' fate isAdd isHere (enter_eq_ok enters) next
  · obtain rfl := pure_eq_ok.mp visits
    exact .stays

theorem visitFullMult_cases (isMult : packet.CMD = .ACT_MULT) (isFull : isFullPkt packet = true)
    (parts : Parts k packet) (visits : visitFullMult k answers t packet = .ok visit) :
    RequestVisit k answers inorder room t packet visit := by
  rw [visitFullMult] at visits
  split at visits
  · exact absurd visits throw_ne_ok
  split at visits
  · obtain rfl := pure_eq_ok.mp visits
    exact .stays
  split at visits
  · -- the first operand is in this cube
    split at visits
    · obtain ⟨⟨id, t'⟩, enters, visits⟩ := bind_eq_ok.mp visits
      obtain rfl := pure_eq_ok.mp visits
      refine .multiplies id t' _ _ _ isMult isFull parts (enter_eq_ok enters) (.inl rfl) ?_
      exact ⟨isMult, isFullPkt_of_half1 rfl, fun _ isLink => (by cases isLink), rfl, rfl, rfl⟩
    · obtain rfl := pure_eq_ok.mp visits
      exact .drops isMult isFull parts
  split at visits
  · -- the second operand is
    split at visits
    · obtain ⟨⟨id, t'⟩, enters, visits⟩ := bind_eq_ok.mp visits
      obtain rfl := pure_eq_ok.mp visits
      refine .multiplies id t' _ _ _ isMult isFull parts (enter_eq_ok enters) (.inr rfl) ?_
      exact ⟨isMult, isFullPkt_of_half2 rfl, fun _ isLink => (by cases isLink), rfl, rfl, rfl⟩
    · obtain rfl := pure_eq_ok.mp visits
      exact .drops isMult isFull parts
  · exact absurd visits throw_ne_ok

/-- The other half as it is sent. -/
theorem sentHalf_isHalfOf (isMult : packet.CMD = .ACT_MULT) (alone : isFullPkt packet = false)
    (port : Port) : IsHalfOf packet (sentHalf packet) port := by
  rw [sentHalf]
  split
  · exact ⟨isMult, alone, fun _ _ => rfl, rfl, rfl, rfl⟩
  · exact ⟨isMult, alone, fun _ _ => rfl, rfl, rfl, rfl⟩

/-- A half with other cubes, and without what it carried on a link. -/
theorem IsHalfOf.congr {half half' : Packet} {port : Port} (isHalf : IsHalfOf packet half port)
    (CMD : half'.CMD = half.CMD) (alone : isFullPkt half' = isFullPkt half)
    (LINES : half'.LINES = half.LINES) (LNG : half'.LNG = half.LNG)
    (segment : half'.segment = half.segment) (size : half'.reqDataSize = half.reqDataSize) :
    IsHalfOf packet half' port where
  CMD := CMD.trans isHalf.CMD
  alone := alone.trans isHalf.alone
  LINES link isLink := LINES.trans (isHalf.LINES link isLink)
  LNG := LNG.trans isHalf.LNG
  segment := segment.trans isHalf.segment
  reqDataSize := size.trans isHalf.reqDataSize

theorem visitHalfMult_cases (isMult : packet.CMD = .ACT_MULT) (alone : isFullPkt packet = false)
    (visits : visitHalfMult k answers t packet = .ok visit) :
    RequestVisit k answers inorder room t packet visit := by
  rw [visitHalfMult] at visits
  split at visits
  · split at visits
    · exact absurd visits throw_ne_ok
    split at visits
    · rename_i last
      obtain rfl := pure_eq_ok.mp visits
      exact .halves _ _ _ isMult alone (sentHalf_isHalfOf isMult alone _) (.inl ⟨last, rfl⟩)
    · rename_i notLast
      split at visits
      · exact absurd visits throw_ne_ok
      · obtain rfl := pure_eq_ok.mp visits
        refine .halves _ _ _ isMult alone ?_ (.inr ⟨Nat.lt_of_not_le notLast, rfl⟩)
        exact (sentHalf_isHalfOf isMult alone _).congr rfl rfl rfl rfl rfl rfl
  · obtain rfl := pure_eq_ok.mp visits
    exact .stays

theorem serveChildren_cases {flowEntry : FlowEntry} (isGet : packet.CMD = .ACT_GET)
    (isHere : packet.DESTCUB = k.cubeID) (isInorder : inorder = true)
    (found : t.flowTable packet.DESTADRS = some flowEntry) :
    ∀ links : List (Fin numLinks), (∀ link ∈ links, link ∈ flowEntry.childLinks) →
      serveChildren k room t packet flowEntry links = .ok visit →
      RequestVisit k answers inorder room t packet visit
  | [], _, visits => by
    obtain rfl := pure_eq_ok.mp visits
    exact .stays
  | link :: links, areChildren, visits => by
    obtain ⟨isChild, others⟩ := List.forall_mem_cons.mp areChildren
    rw [serveChildren] at visits
    split at visits
    · exact absurd visits throw_ne_ok
    · rename_i isLink
      split at visits
      · obtain rfl := pure_eq_ok.mp visits
        exact .tells flowEntry link isGet isHere isInorder found isChild (not_not.mp isLink)
      · exact serveChildren_cases isGet isHere isInorder found links others visits

theorem visitGet_cases (isGet : packet.CMD = .ACT_GET) (isHere : packet.DESTCUB = k.cubeID)
    (visits : visitGet k inorder room t packet = .ok visit) :
    RequestVisit k answers inorder room t packet visit := by
  rw [visitGet] at visits
  split at visits
  · obtain rfl := pure_eq_ok.mp visits
    exact .stays
  · rename_i isInorder
    have inorder : inorder = true := by simpa using isInorder
    split at visits
    · exact absurd visits throw_ne_ok
    · rename_i flowEntry found
      split at visits
      · obtain rfl := pure_eq_ok.mp visits
        exact .marks flowEntry isGet isHere inorder found
      · split at visits
        · exact absurd visits throw_ne_ok
        · exact serveChildren_cases isGet isHere inorder found _ (fun _ isChild => isChild) visits

/-- A request that is neither an update nor a `GET` goes to a vault. -/
theorem visitPlain_cases (isOther : isUpdate packet = false) (notGet : packet.CMD ≠ .ACT_GET)
    (visits : visitPlain k answers t packet = .ok visit) :
    RequestVisit k answers inorder room t packet visit := by
  rw [visitPlain] at visits
  split at visits
  · obtain rfl := pure_eq_ok.mp visits
    exact .toVault isOther notGet
  · obtain rfl := pure_eq_ok.mp visits
    exact .stays

theorem isHere_iff_of_ne_mult (notMult : packet.CMD ≠ .ACT_MULT) :
    isHere k packet = true ↔ packet.DESTCUB = k.cubeID := by
  simp [isHere, notMult]

theorem parts_of_isHere (isFull : isFullPkt packet = true) (here : isHere k packet = true) :
    Parts k packet := by
  have noFirst : packet.halfPkt1 = false := by
    simp only [isFullPkt, Bool.decide_and, Bool.and_eq_true] at isFull
    simpa using isFull.1
  have noSecond : packet.halfPkt2 = false := by
    simp only [isFullPkt, Bool.decide_and, Bool.and_eq_true] at isFull
    simpa using isFull.2
  have cases : packet.DESTCUB = k.cubeID ∨ packet.CMD = .ACT_MULT ∧
      (isFirstHere k packet = true ∨ isSecondHere k packet = true) := by
    simpa [isHere, noFirst, noSecond, isFull] using here
  rcases cases with isDest | ⟨isMult, isFirst | isSecond⟩
  · exact .inl isDest
  · have isDest : packet.SRCADRS1 ≠ 0 ∧ packet.DESTCUB1 = k.cubeID := by
      simpa [isFirstHere] using isFirst
    exact .inr ⟨isMult, .inl isDest.2⟩
  · have isDest : packet.SRCADRS2 ≠ 0 ∧ packet.DESTCUB2 = k.cubeID := by
      simpa [isSecondHere] using isSecond
    exact .inr ⟨isMult, .inr (.inl isDest.2)⟩

theorem visitHere_cases (here : isHere k packet = true)
    (visits : visitHere k answers inorder room t packet = .ok visit) :
    RequestVisit k answers inorder room t packet visit := by
  rw [visitHere] at visits
  split at visits
  · rename_i isAdd
    have notMult : packet.CMD ≠ .ACT_MULT := by
      rcases isAdd with isAdd | isDot
      · simp [isAdd]
      · simp [isDot]
    exact visitAdd_cases isAdd ((isHere_iff_of_ne_mult notMult).mp here) visits
  · rename_i notAdd
    split at visits
    · rename_i isMult
      split at visits
      · rename_i isFull
        exact visitFullMult_cases isMult isFull (parts_of_isHere isFull here) visits
      · rename_i alone
        exact visitHalfMult_cases isMult (by simpa using alone) visits
    · rename_i notMult
      have isDest := (isHere_iff_of_ne_mult notMult).mp here
      split at visits
      · rename_i isGet
        exact visitGet_cases isGet isDest visits
      · rename_i notGet
        refine visitPlain_cases ?_ notGet visits
        rw [not_or] at notAdd
        simp [isUpdate, notAdd.1, notAdd.2, notMult]

theorem visitSplit_cases (isMult : packet.CMD = .ACT_MULT) (isFull : isFullPkt packet = true)
    (parts : Parts k packet) {link1 link2 : Fin numLinks}
    (visits : visitSplit k answers t packet link1 link2 = .ok visit) :
    RequestVisit k answers inorder room t packet visit := by
  rw [visitSplit] at visits
  split at visits
  · obtain rfl := pure_eq_ok.mp visits
    exact .stays
  split at visits
  · exact absurd visits throw_ne_ok
  split at visits
  · obtain ⟨⟨id, t'⟩, enters, visits⟩ := bind_eq_ok.mp visits
    obtain rfl := pure_eq_ok.mp visits
    refine .multiplies id t' _ _ _ isMult isFull parts (enter_eq_ok enters) (.inl rfl) ?_
    exact ⟨isMult, isFullPkt_of_half1 rfl, fun _ _ => rfl, rfl, rfl, rfl⟩
  split at visits
  · obtain ⟨⟨id, t'⟩, enters, visits⟩ := bind_eq_ok.mp visits
    obtain rfl := pure_eq_ok.mp visits
    refine .multiplies id t' _ _ _ isMult isFull parts (enter_eq_ok enters) (.inr rfl) ?_
    exact ⟨isMult, isFullPkt_of_half2 rfl, fun _ _ => rfl, rfl, rfl, rfl⟩
  · obtain rfl := pure_eq_ok.mp visits
    exact .stays

theorem forwardUpdate_cases (updates : isUpdate packet = true)
    (isFull : packet.CMD = .ACT_MULT → isFullPkt packet = true) (goesOn : ¬ Parts k packet)
    {opcode : Opcode}
    (visits : forwardUpdate k answers t packet opcode (k.findNextLink packet.DESTCUB false) =
      .ok visit) : RequestVisit k answers inorder room t packet visit := by
  rw [forwardUpdate] at visits
  split at visits
  · obtain ⟨t', counts, visits⟩ := bind_eq_ok.mp visits
    obtain rfl := pure_eq_ok.mp visits
    exact .forwards opcode t' updates isFull goesOn counts
  · obtain rfl := pure_eq_ok.mp visits
    exact .stays

theorem forwardHalf_cases (isMult : packet.CMD = .ACT_MULT) (alone : isFullPkt packet = false)
    {link : Fin numLinks} (visits : forwardHalf k answers t packet link = .ok visit) :
    RequestVisit k answers inorder room t packet visit := by
  rw [forwardHalf] at visits
  split at visits
  · split at visits
    · exact absurd visits throw_ne_ok
    split at visits
    · rename_i last
      obtain rfl := pure_eq_ok.mp visits
      refine .halves _ _ _ isMult alone ?_ (.inl ⟨last, rfl⟩)
      exact (sentHalf_isHalfOf isMult alone _).congr rfl rfl rfl rfl rfl rfl
    · rename_i notLast
      obtain rfl := pure_eq_ok.mp visits
      refine .halves _ _ _ isMult alone ?_ (.inr ⟨Nat.lt_of_not_le notLast, rfl⟩)
      exact (sentHalf_isHalfOf isMult alone _).congr rfl rfl rfl rfl rfl rfl
  · obtain rfl := pure_eq_ok.mp visits
    exact .stays

theorem visitElsewhere_cases (notHere : isHere k packet = false)
    (visits : visitElsewhere k answers t packet = .ok visit) :
    RequestVisit k answers inorder room t packet visit := by
  have notDest : packet.DESTCUB ≠ k.cubeID := by
    intro isDest
    simp [isHere, isDest] at notHere
  rw [visitElsewhere] at visits
  split at visits
  · rename_i isMult
    split at visits
    · rename_i isFull
      split at visits
      · exact absurd visits throw_ne_ok
      · rename_i addresses
        rw [not_or] at addresses
        split at visits
        · rename_i differ
          exact visitSplit_cases isMult isFull (.inr ⟨isMult, .inr (.inr differ)⟩) visits
        · rename_i same
          refine forwardUpdate_cases (by simp [isUpdate, isMult]) (fun _ => isFull) ?_ visits
          -- with both addresses the packet would be here
          rintro (isDest | ⟨-, isFirst | isSecond | differ⟩)
          · exact notDest isDest
          · simp [isHere, isFirstHere, isMult, isFull, isFirst] at notHere
            exact addresses.1 notHere.2.2.2.1
          · simp [isHere, isSecondHere, isMult, isFull, isSecond] at notHere
            exact addresses.2 notHere.2.2.2.2
          · exact same differ
    · rename_i alone
      exact forwardHalf_cases isMult (by simpa using alone) visits
  · rename_i notMult
    split at visits
    · rename_i isAdd
      have updates : isUpdate packet = true := by
        rcases isAdd with isAdd | isDot
        · simp [isUpdate, isAdd]
        · simp [isUpdate, isDot]
      refine forwardUpdate_cases updates (fun isMult => absurd isMult notMult) ?_ visits
      rintro (isDest | ⟨isMult, -⟩)
      · exact notDest isDest
      · exact notMult isMult
    · rename_i notAdd
      rw [not_or] at notAdd
      have isOther : isUpdate packet = false := by
        simp [isUpdate, notAdd.1, notAdd.2, notMult]
      rw [forwardPlain] at visits
      split at visits
      · obtain rfl := pure_eq_ok.mp visits
        exact .passes isOther notDest
      · obtain rfl := pure_eq_ok.mp visits
        exact .stays

/-- Every visit of a request is one of these. -/
theorem visitRequest_cases (visits : visitRequest k answers inorder room t packet = .ok visit) :
    RequestVisit k answers inorder room t packet visit := by
  rw [visitRequest] at visits
  split at visits
  · rename_i here
    exact visitHere_cases here visits
  · rename_i notHere
    exact visitElsewhere_cases (by simpa using notHere) visits

/-- The lines of a page behind the first. -/
def nextLine (packet : Packet) : Packet :=
  { packet with
    SRCADRS1 := packet.SRCADRS1 + 64
    ADRS := packet.ADRS + 64
    LINES := unsignedSub packet.LINES 1 }

theorem nextAddLine_cases {fate : Fate} (next : nextAddLine packet = .ok fate) :
    packet.LINES = 1 ∧ fate = .erase ∨ packet.LINES ≠ 1 ∧ fate = .rewrite (nextLine packet) := by
  rw [nextAddLine] at next
  split at next
  · rename_i last
    exact .inl ⟨last, (pure_eq_ok.mp next).symm⟩
  · rename_i notLast
    dsimp only at next
    split at next
    · exact .inr ⟨notLast, (pure_eq_ok.mp next).symm⟩
    · exact absurd next throw_ne_ok

/-! ## Responses -/

/-- What an operand buffer is reserved for. -/
def reservation (e : OperandEntry) : BitVec 64 × BitVec 64 × BitVec 64 :=
  (e.flowID, e.src_addr1, e.src_addr2)

/-- What a visit of a response that is no segment does. -/
inductive ResponseVisit (k : CubeConfig) (t : FlowTables) (packet : Packet) : Visit → Prop where
  | stays : ResponseVisit k t packet (stay t)
  /-- An operand arrives. -/
  | fills (id : ℕ) (e e' : OperandEntry) : isUpdate packet = true → t.operandBuffers id = some e →
      reservation e' = reservation e →
      ResponseVisit k t packet ⟨t.setOperand id (some e'), .erase, []⟩
  /-- A child answers the `GET`. -/
  | answers (flowEntry : FlowEntry) : packet.CMD = .ACT_GET →
      t.flowTable packet.DESTADRS = some flowEntry →
      ResponseVisit k t packet
        ⟨t.setFlow packet.DESTADRS (some (flowEntry.answerChild (k.findNextLink packet.SRCCUB false))),
          .erase, []⟩
  | passes : (packet.CMD = .ACT_GET → packet.DESTCUB = k.cubeID → packet.SRCCUB = k.cubeID) →
      ResponseVisit k t packet
        ⟨t, .erase, [(.link (k.findNextLink packet.DESTCUB false), packet.resetLinkFields)]⟩

theorem fillAdd_cases {id : ℕ} {t' : FlowTables} (operand : packet.SRCADRS1 ≠ 0)
    (fills : fillAdd k t packet id = .ok t') :
    t.operandBuffers id = some (t.operand k id) ∧
      t' = t.setOperand id (some (t.operand k id).fillAdd) := by
  rw [CrossbarSwitch.fillAdd] at fills
  split at fills
  · rename_i awaited
    have awaits := awaited.2.2
    simp only [awaitsAdd, Bool.decide_and, Bool.and_eq_true, decide_eq_true_eq] at awaits
    exact ⟨operandBuffers_of_operand (.inl (awaits.2.1 ▸ operand)), (pure_eq_ok.mp fills).symm⟩
  · exact absurd fills throw_ne_ok

theorem fillMult_cases {id : ℕ} {t' : FlowTables} (fills : fillMult k t packet id = .ok t') :
    t.operandBuffers id = some (t.operand k id) ∧ ∃ e',
      reservation e' = reservation (t.operand k id) ∧ t' = t.setOperand id (some e') := by
  rw [CrossbarSwitch.fillMult] at fills
  split at fills
  · exact absurd fills throw_ne_ok
  split at fills
  · rename_i first
    have awaits := first.2.2
    simp only [awaitsFirst, Bool.decide_and, Bool.and_eq_true, decide_eq_true_eq] at awaits
    exact ⟨operandBuffers_of_operand (.inl (awaits.1 ▸ first.1)),
      (t.operand k id).fillFirst, rfl, (pure_eq_ok.mp fills).symm⟩
  split at fills
  · rename_i second
    have awaits := second.2.2
    simp only [awaitsSecond, Bool.decide_and, Bool.and_eq_true, decide_eq_true_eq] at awaits
    exact ⟨operandBuffers_of_operand (.inr (awaits.1 ▸ second.2.1)),
      (t.operand k id).fillSecond, rfl, (pure_eq_ok.mp fills).symm⟩
  · exact absurd fills throw_ne_ok

/-- Every visit of a response is one of these. -/
theorem visitResponse_cases (operand : hasOperand packet)
    (visits : visitResponse k answers t packet = .ok visit) : ResponseVisit k t packet visit := by
  rw [visitResponse] at visits
  split at visits
  · rename_i isAdd
    obtain ⟨id, -, visits⟩ := bind_eq_ok.mp visits
    obtain ⟨t', filled, visits⟩ := bind_eq_ok.mp visits
    obtain rfl := pure_eq_ok.mp visits
    obtain ⟨reserved, rfl⟩ := fillAdd_cases (address_ne_zero operand isAdd) filled
    have updates : isUpdate packet = true := by
      rcases isAdd with isAdd | isDot
      · simp [isUpdate, isAdd]
      · simp [isUpdate, isDot]
    exact .fills id _ _ updates reserved rfl
  split at visits
  · rename_i isMult
    obtain ⟨id, -, visits⟩ := bind_eq_ok.mp visits
    obtain ⟨t', filled, visits⟩ := bind_eq_ok.mp visits
    obtain rfl := pure_eq_ok.mp visits
    obtain ⟨reserved, e', same, rfl⟩ := fillMult_cases filled
    exact .fills id _ e' (by simp [isUpdate, isMult.1]) reserved same
  split at visits
  · rename_i isGet
    obtain ⟨t', answered, visits⟩ := bind_eq_ok.mp visits
    obtain rfl := pure_eq_ok.mp visits
    rw [answerGet] at answered
    split at answered
    · exact absurd answered throw_ne_ok
    · rename_i flowEntry found
      obtain rfl := pure_eq_ok.mp answered
      exact .answers flowEntry isGet.1 found
  · rename_i notGet
    split at visits
    · obtain rfl := pure_eq_ok.mp visits
      refine .passes fun isGet isDest => ?_
      by_contra other
      exact notGet ⟨isGet, isDest, other⟩
    · obtain rfl := pure_eq_ok.mp visits
      exact .stays

/-! ## Operands that are ready -/

/-- What the children of a cube and its parent know of a flow entry. -/
def standing (e : FlowEntry) : ℤ × (Fin numLinks → ℕ) × (Fin numLinks → Bool) × Bool :=
  (e.parent, e.children_count, e.children_gflag, e.g_flag)

/-- Operands are consumed: only operand buffers that are freed change what they are reserved
    for, and the flow entries keep their standing. -/
structure Frees (t t' : FlowTables) : Prop where
  flows : ∀ flow, (t'.flowTable flow).map standing = (t.flowTable flow).map standing
  operands : ∀ id, t'.operandBuffers id = none ∨
    (t'.operandBuffers id).map reservation = (t.operandBuffers id).map reservation

namespace Frees

variable {t t' t'' : FlowTables}

theorem refl (t : FlowTables) : Frees t t := ⟨fun _ => rfl, fun _ => .inr rfl⟩

theorem trans (first : Frees t t') (second : Frees t' t'') : Frees t t'' where
  flows flow := (second.flows flow).trans (first.flows flow)
  operands id := by
    rcases second.operands id with freed | same
    · exact .inl freed
    · rcases first.operands id with freed | same'
      · rw [freed] at same
        exact .inl (Option.map_eq_none_iff.mp same)
      · exact .inr (same.trans same')

theorem setOperand {id : ℕ} {e e' : OperandEntry} (reserved : t.operandBuffers id = some e)
    (same : reservation e' = reservation e) : Frees t (t.setOperand id (some e')) where
  flows _ := rfl
  operands other := by
    by_cases isId : other = id
    · subst isId
      simp [FlowTables.setOperand, reserved, same]
    · simp [FlowTables.setOperand, isId]

theorem releaseOperand (t : FlowTables) (id : ℕ) {flow : BitVec 64} {flowEntry : FlowEntry}
    (found : t.flowTable flow = some flowEntry) :
    Frees t (CrossbarSwitch.releaseOperand t id flow flowEntry) where
  flows other := by
    by_cases isFlow : other = flow
    · subst isFlow
      simp [CrossbarSwitch.releaseOperand, FlowTables.setFlow, FlowTables.setOperand, found,
        standing, FlowEntry.addReply]
    · simp [CrossbarSwitch.releaseOperand, FlowTables.setFlow, FlowTables.setOperand, isFlow]
  operands other := by
    by_cases isId : other = id
    · subst isId
      exact .inl (by simp [CrossbarSwitch.releaseOperand, FlowTables.setOperand])
    · exact .inr (by
        simp [CrossbarSwitch.releaseOperand, FlowTables.setOperand, FlowTables.setFlow, isId])

theorem moveStage {p : Pipeline} {id : ℕ} {e : OperandEntry} {flowEntry : FlowEntry}
    (reserved : p.tables.operandBuffers id = some e)
    (found : p.tables.flowTable e.flowID = some flowEntry) :
    Frees p.tables (CrossbarSwitch.moveStage k p id e flowEntry).tables := by
  have stages : Frees p.tables (p.tables.setOperand id (some e.nextStage)) :=
    setOperand reserved rfl
  rw [CrossbarSwitch.moveStage]
  split
  · split
    · exact ⟨stages.flows, stages.operands⟩
    · exact refl p.tables
  · split
    · exact stages
    · have occupied : Frees p.tables
          (setOccupancy p.tables (p.tables.multPipeOccupancy - 1)) :=
        ⟨fun _ => rfl, fun _ => .inr rfl⟩
      exact occupied.trans (releaseOperand _ id found)

theorem processOperand {p p' : Pipeline} {id : ℕ}
    (processes : CrossbarSwitch.processOperand k p id = .ok p') : Frees p.tables p'.tables := by
  rw [CrossbarSwitch.processOperand] at processes
  split at processes
  · obtain rfl := pure_eq_ok.mp processes
    exact refl p.tables
  · rename_i ready
    have reserved : p.tables.operandBuffers id = some (p.tables.operand k id) :=
      operandBuffers_of_ready (by simpa using ready)
    split at processes
    · exact absurd processes throw_ne_ok
    · rename_i flowEntry found
      split at processes
      · obtain rfl := pure_eq_ok.mp processes
        exact moveStage reserved found
      · obtain rfl := pure_eq_ok.mp processes
        rw [processAdd]
        split
        · exact refl p.tables
        · exact releaseOperand p.tables id found

theorem processOperands {t t' : FlowTables}
    (processes : CrossbarSwitch.processOperands k t = .ok t') : Frees t t' := by
  obtain ⟨p, folded, same⟩ := bind_eq_ok.mp processes
  obtain rfl := pure_eq_ok.mp same
  have steps : ∀ id ∈ List.range k.operandBufSize, ∀ p' : Pipeline, Frees t p'.tables →
      Yields (fun p'' : Pipeline => Frees t p''.tables) (fun _ => False)
        (CrossbarSwitch.processOperand k p' id) := by
    intro id _ p' consumed
    cases processed : CrossbarSwitch.processOperand k p' id with
    | error _ => exact not_false
    | ok p'' => exact consumed.trans (processOperand processed)
  have started : Frees t ({ tables := t } : Pipeline).tables := refl t
  exact (Yields.foldlM _ steps started).holds folded

end Frees

/-! ## Flows that are committed -/

/-- A flow is committed, or nothing happens. -/
theorem commit_cases (k : CubeConfig) (answers : Answers) (t : FlowTables) (flow : BitVec 64) :
    commit k answers t flow = (t, []) ∨
      ∃ flowEntry, t.flowTable flow = some flowEntry ∧
        flowEntry.req_count = flowEntry.rep_count ∧ flowEntry.g_flag = true ∧
        commit k answers t flow = (t.setFlow flow none,
          [(.link (k.findNextLink flowEntry.parent false), gpkt k flow flowEntry.parent)]) := by
  rw [commit]
  cases found : t.flowTable flow with
  | none => exact .inl rfl
  | some flowEntry =>
    by_cases ready : flowEntry.req_count = flowEntry.rep_count ∧ flowEntry.g_flag ∧
        answers.linkUp (k.findNextLink flowEntry.parent false)
    · exact .inr ⟨flowEntry, rfl, ready.1, ready.2.1, by simp only [if_pos ready]⟩
    · exact .inl (by simp only [if_neg ready])

end CrossbarSwitch

end ActiveRouting

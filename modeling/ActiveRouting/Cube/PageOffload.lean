import ActiveRouting.Buffer.CubeTails

/-!
# Page-grained additions

An `ACT_ADD` for several lines stays in its input buffer: each line that a vault
receives rewrites it to the lines that are left, and the last one erases it.
-/

namespace ActiveRouting

open Blocks Outcome Transition FlowTables

namespace CrossbarSwitch

variable {k : CubeConfig}

/-! ## Lines -/

/-- The packet when `m` lines are sent. -/
def line (packet : Packet) (m : ℕ) : Packet :=
  { packet with
    SRCADRS1 := packet.SRCADRS1 + BitVec.ofNat 64 (64 * m)
    ADRS := packet.ADRS + BitVec.ofNat 64 (64 * m)
    LINES := packet.LINES - m }

/-- A page-grained addition for this cube that is not divided, and whose lines are in the
    34 bits of an address. -/
structure PageAdd (k : CubeConfig) (packet : Packet) : Prop where
  isRequest : packet.packetType = .REQUEST
  isAdd : packet.CMD = .ACT_ADD
  isHere : packet.DESTCUB = k.cubeID
  undivided : packet.reqDataSize ≤ k.dram.addressMapping
  lines : 1 ≤ packet.LINES
  address : packet.ADRS = Transaction.address34 packet.SRCADRS1
  inRange : packet.ADRS.toNat + 64 * (packet.LINES - 1) < 2 ^ 34

theorem line_zero (packet : Packet) : line packet 0 = packet := by
  simp [line]

theorem toNat_address34 (address : BitVec 64) :
    (Transaction.address34 address).toNat = address.toNat % 2 ^ 34 := by
  rw [Transaction.address34, BitVec.toNat_ushiftRight, BitVec.toNat_shiftLeft,
    Nat.shiftLeft_eq, Nat.shiftRight_eq_div_pow]
  omega

/-- The address of a line is that of its operand. -/
theorem PageAdd.address_line {packet : Packet} (page : PageAdd k packet) {m : ℕ}
    (inside : m < packet.LINES) :
    (line packet m).ADRS = Transaction.address34 (line packet m).SRCADRS1 := by
  have inRange := page.inRange
  have address : packet.ADRS.toNat = packet.SRCADRS1.toNat % 2 ^ 34 := by
    rw [page.address, toNat_address34]
  apply BitVec.eq_of_toNat_eq
  rw [toNat_address34]
  simp only [line, BitVec.toNat_add, BitVec.toNat_ofNat]
  omega

theorem nextAddLine_line {packet : Packet} (page : PageAdd k packet) {m : ℕ}
    (inside : m < packet.LINES) :
    nextAddLine (line packet m) =
      .ok (if m + 1 = packet.LINES then .erase else .rewrite (line packet (m + 1))) := by
  have left : (line packet m).LINES = packet.LINES - m := rfl
  rw [nextAddLine, left]
  by_cases last : m + 1 = packet.LINES
  · have one : packet.LINES - m = 1 := by omega
    rw [if_pos one, if_pos last]
    rfl
  · have more : packet.LINES - m ≠ 1 := by omega
    have inRange := page.inRange
    have fewer : unsignedSub (packet.LINES - m) 1 = packet.LINES - (m + 1) := by
      rw [unsignedSub_eq]
      · omega
      · omega
      · omega
    have step : ∀ address : BitVec 64, address + BitVec.ofNat 64 (64 * m) + 64 =
        address + BitVec.ofNat 64 (64 * (m + 1)) := by
      intro address
      rw [BitVec.add_assoc, Nat.mul_add, Nat.mul_one, BitVec.ofNat_add]
      rfl
    have next : { line packet m with
        SRCADRS1 := (line packet m).SRCADRS1 + 64
        ADRS := (line packet m).ADRS + 64
        LINES := unsignedSub (packet.LINES - m) 1 } = line packet (m + 1) := by
      simp only [line, step, fewer]
    have isADRS : (line packet m).ADRS + 64 = (line packet (m + 1)).ADRS := step _
    have isSRCADRS1 : (line packet m).SRCADRS1 + 64 = (line packet (m + 1)).SRCADRS1 := step _
    have inside' : m + 1 < packet.LINES := by omega
    rw [if_neg more, if_neg last]
    simp only [next]
    rw [isADRS, isSRCADRS1, if_pos (page.address_line inside')]
    rfl

/-! ## A packet that is followed -/

/-- The slots that a visited packet leaves. -/
def slotsLeft (k : CubeConfig) (answers : Answers) (s : CrossbarSwitch) (l j : ℕ)
    (packet : Packet) : ℕ :=
  if isHere k packet ∧ k.dram.addressMapping < packet.reqDataSize then
    (Blocks.blocks Packet.LNG (SegmentTable.segments k.dram packet)).length
  else
    match visitRequest k answers (isInorder (s.downBuffers l) j packet)
      (hasRoom (s.downBuffers l) packet) s.tables packet with
    | .ok ⟨_, .erase, _⟩ => 0
    | _ => packet.LNG

/-- The index of what is at index `i`, after the visit of another index of the buffer. -/
def indexAfter (k : CubeConfig) (answers : Answers) (s : CrossbarSwitch) (l i j : ℕ) : ℕ :=
  match (s.downBuffers l)[j]? with
  | some (some packet) =>
    if j < i then i - packet.LNG + slotsLeft k answers s l j packet else i
  | _ => i

def requestCount (t : FlowTables) (flow : BitVec 64) : ℕ :=
  ((t.flowTable flow).map FlowEntry.req_count).getD 0

/-- Where a packet of a buffer is, what was sent at the visits of it, and what they have
    added to the `req_count` of its flow. -/
structure Followed where
  index : ℕ
  reads : List (Port × Packet) := []
  requests : ℕ := 0
  consumed : Bool := false

/-- The record after an action; the visit that erases the packet is the last. -/
def Followed.next (k : CubeConfig) (l : ℕ) (flow : BitVec 64) (w : Followed)
    (s s' : CrossbarSwitch) (sent : List (Port × Packet)) : Action → Followed
  | .visitDown l' j answers =>
    if l' = l ∧ !w.consumed then
      if j = w.index then
        { w with
          reads := w.reads ++ sent
          requests := w.requests + (requestCount s'.tables flow - requestCount s.tables flow)
          consumed := (s'.downBuffers l).length < (s.downBuffers l).length }
      else { w with index := indexAfter k answers s l w.index j }
    else w
  | _ => w

def followStep (k : CubeConfig) (l : ℕ) (flow : BitVec 64) (state : CrossbarSwitch × Followed)
    (action : Action) : Except CubeError (CrossbarSwitch × Followed) := do
  let (s, sent) ← state.1.act k action
  pure (s, state.2.next k l flow state.1 s sent action)

/-- Every run can be followed. -/
theorem exists_followed {guard : CrossbarSwitch → Action → CrossbarSwitch → Prop} (l : ℕ)
    (flow : BitVec 64) (w : Followed) {s s' : CrossbarSwitch} {actions : List Action}
    (run : Run (step k) guard s actions s') :
    ∃ w', Run (followStep k l flow) (fun state action state' => guard state.1 action state'.1)
      (s, w) actions (s', w') := by
  induction run with
  | start => exact ⟨w, .start _⟩
  | @next s₁ s₂ actions action _ stepped guarded inductionHypothesis =>
    obtain ⟨w', run'⟩ := inductionHypothesis
    obtain ⟨⟨s'', sent⟩, acted, same⟩ := bind_eq_ok.mp stepped
    obtain rfl := pure_eq_ok.mp same
    have followed : followStep k l flow (s₁, w') action =
        .ok (s'', w'.next k l flow s₁ s'' sent action) := by
      rw [followStep, acted]
      rfl
    exact ⟨_, run'.next followed guarded⟩

/-! ## Visits of other packets -/

/-- An untouched buffer. -/
theorem visitDown_downBuffers (s : CrossbarSwitch) (answers : Answers) {l l' : ℕ} (other : l' ≠ l)
    (j : ℕ) :
    Yields (fun done => done.1.downBuffers l = s.downBuffers l) (fun _ => False)
      (s.visitDown k answers l' j) := by
  rw [CrossbarSwitch.visitDown]
  split
  · split
    · exact Yields.throw not_false
    · split
      · exact Yields.pure (Function.update_of_ne (Ne.symm other) _ _)
      · cases visitRequest k answers _ _ s.tables _ with
        | error error => exact not_false
        | ok visit => exact Yields.pure (Function.update_of_ne (Ne.symm other) _ _)
  · exact Yields.pure rfl

theorem visitUp_downBuffers (s : CrossbarSwitch) (answers : Answers) (l i : ℕ) :
    Yields (fun done => done.1.downBuffers = s.downBuffers) (fun _ => False)
      (s.visitUp k answers l i) := by
  rw [CrossbarSwitch.visitUp]
  split
  · rename_i packet _
    split
    · exact Yields.throw not_false
    · split
      · have keeps : Yields (fun s' => s'.downBuffers = s.downBuffers) (fun _ => False)
            (visitSegment k s l i packet) := by
          rw [visitSegment]
          split
          · exact Yields.throw not_false
          · exact Yields.pure rfl
          · exact Yields.pure rfl
        exact keeps.bind fun _ same => Yields.pure same
      · cases visitResponse k answers s.tables packet with
        | error error => exact not_false
        | ok visit => exact Yields.pure rfl
  · exact Yields.pure rfl

/-- A packet is found where it is expected after the visit of another one. -/
theorem visitDown_indexAfter {s : CrossbarSwitch} {l i j : ℕ} {packet : Packet}
    (isBlocks : IsBlocks Packet.LNG (s.downBuffers l))
    (found : (s.downBuffers l)[i]? = some (some packet)) (other : j ≠ i) (answers : Answers) :
    Yields (fun done => (done.1.downBuffers l)[indexAfter k answers s l i j]? =
      some (some packet)) (fun _ => False) (s.visitDown k answers l j) := by
  rw [CrossbarSwitch.visitDown]
  split
  · rename_i visited isVisited
    have isIndex : indexAfter k answers s l i j =
        if j < i then i - visited.LNG + slotsLeft k answers s l j visited else i := by
      rw [indexAfter, isVisited]
    have positive := isBlocks.positive isVisited
    split
    · exact Yields.throw not_false
    · split
      · rename_i divided
        have left : slotsLeft k answers s l j visited =
            (Blocks.blocks Packet.LNG (SegmentTable.segments k.dram visited)).length :=
          if_pos divided
        apply Yields.pure
        show (Function.update s.downBuffers l _ l)[_]? = _
        rw [Function.update_self, isIndex, left, divideSlots]
        split
        · rename_i behind
          have disjoint := isBlocks.disjoint isVisited found behind
          exact getElem?_insertAt_behind (getElem?_eraseAt_behind found disjoint) (by omega)
        · exact getElem?_insertAt_before (getElem?_eraseAt_before found (by omega)) (by omega)
      · rename_i whole
        cases isVisit : visitRequest k answers (isInorder (s.downBuffers l) j visited)
            (hasRoom (s.downBuffers l) visited) s.tables visited with
        | error error => exact not_false
        | ok visit =>
          apply Yields.pure
          show (Function.update s.downBuffers l _ l)[_]? = _
          rw [Function.update_self, isIndex, slotsLeft, if_neg whole, isVisit]
          obtain ⟨tables, fate, sent⟩ := visit
          have stays : (if j < i then i - visited.LNG + visited.LNG else i) = i := by
            split
            · rename_i behind
              have disjoint := isBlocks.disjoint isVisited found behind
              omega
            · rfl
          cases fate with
          | keep =>
            show (s.downBuffers l)[if j < i then _ else _]? = _
            rw [stays, found]
          | erase =>
            split
            · rename_i behind
              exact getElem?_eraseAt_behind found (isBlocks.disjoint isVisited found behind)
            · exact getElem?_eraseAt_before found (by omega)
          | rewrite packet' =>
            show ((s.downBuffers l).set j (some packet'))[if j < i then _ else _]? = _
            rw [stays, List.getElem?_set_ne other, found]
          | replicate packet' =>
            have inside := (List.getElem?_eq_some_iff.mp found).1
            show (s.downBuffers l ++ tailed packet')[if j < i then _ else _]? = _
            rw [stays, List.getElem?_append_left inside, found]
  · rename_i nothing
    have isIndex : indexAfter k answers s l i j = i := by
      rw [indexAfter]
      split
      · rename_i visited isVisited
        exact (nothing visited isVisited).elim
      · rfl
    apply Yields.pure
    rw [isIndex]
    exact found

/-! ## Visits of the packet -/

theorem enter_requestCount {t : FlowTables} (packet : Packet) :
    Yields (fun entered => requestCount entered.2 packet.DESTADRS =
      requestCount t packet.DESTADRS + 1) (fun _ => False) (t.enter k .ADD packet 0) := by
  have counts : Yields (fun t' => requestCount t' packet.DESTADRS =
      requestCount t packet.DESTADRS + 1) (fun _ => False)
        (t.countUpdate .ADD packet.DESTADRS (k.parentCube packet.SRCCUB)) := by
    rw [FlowTables.countUpdate]
    split
    · rename_i absent
      apply Yields.pure
      simp [requestCount, FlowTables.setFlow, absent]
    · rename_i flowEntry found
      split
      · apply Yields.pure
        simp [requestCount, FlowTables.setFlow, found, FlowEntry.addRequest]
      · exact Yields.throw not_false
  apply counts.bind
  intro counted isCounted
  rw [FlowTables.reserveOperand]
  split
  · exact Yields.throw not_false
  · split
    · exact Yields.pure isCounted
    · exact Yields.throw not_false

theorem setDown_self (s : CrossbarSwitch) (l : ℕ) : s.setDown l (s.downBuffers l) = s := by
  rw [CrossbarSwitch.setDown, Function.update_eq_self]

/-- The request for a line as it is sent. -/
def lineRead (k : CubeConfig) (packet : Packet) (m id : ℕ) : Port × Packet :=
  (.vault (k.vaultMap (line packet m).ADRS), operandRequest k id (line packet m))

/-- What becomes of the packet when line `m` is sent. -/
def afterLine (packet : Packet) (m : ℕ) : Fate :=
  if m + 1 = packet.LINES then .erase else .rewrite (line packet (m + 1))

variable {packet : Packet} {m l i : ℕ} {s : CrossbarSwitch}

/-- A visit of the packet when `m` lines are sent. -/
theorem visitDown_line (page : PageAdd k packet) (inside : m < packet.LINES)
    (found : (s.downBuffers l)[i]? = some (some (line packet m))) (answers : Answers) :
    s.visitDown k answers l i =
      if s.tables.freeOperandBufIDs ≠ [] ∧ answers.vault (k.vaultMap (line packet m).ADRS) then do
        let entered ← s.tables.enter k .ADD (line packet m) 0
        pure ((s.setDown l (applyFate (s.downBuffers l) i (line packet m)
          (afterLine packet m))).setTables entered.2, [lineRead k packet m entered.1])
      else pure (s, []) := by
  have isHere : isHere k (line packet m) = true := by
    simp [CrossbarSwitch.isHere, line, page.isHere]
  have undivided : ¬ (CrossbarSwitch.isHere k (line packet m) = true ∧
      k.dram.addressMapping < (line packet m).reqDataSize) :=
    fun divided => Nat.not_lt.mpr page.undivided divided.2
  have isRequest : ¬ (line packet m).packetType ≠ .REQUEST := fun other => other page.isRequest
  have isAdd : (line packet m).CMD = .ACT_ADD ∨ (line packet m).CMD = .ACT_DOT := .inl page.isAdd
  rw [CrossbarSwitch.visitDown, found]
  simp only [if_neg isRequest, if_neg undivided]
  rw [visitRequest, if_pos isHere, visitHere, if_pos isAdd, visitAdd]
  split
  · rw [nextAddLine_line page inside]
    cases s.tables.enter k .ADD (line packet m) 0 with
    | error error => rfl
    | ok entered => rfl
  · show Except.ok ((s.setDown l (s.downBuffers l)).setTables s.tables, []) = _
    rw [setDown_self]
    rfl

/-- A `GET` of the flow that is behind the packet waits. -/
theorem visitDown_get_behind (page : PageAdd k packet)
    (found : (s.downBuffers l)[i]? = some (some (line packet m))) {j : ℕ} (behind : i < j)
    {get : Packet} (isGet : (s.downBuffers l)[j]? = some (some get)) (isCMD : get.CMD = .ACT_GET)
    (isHere : get.DESTCUB = k.cubeID) (sameFlow : get.DESTADRS = packet.DESTADRS)
    (undivided : get.reqDataSize ≤ k.dram.addressMapping) (answers : Answers) :
    Yields (fun done => done = (s, [])) (fun _ => False) (s.visitDown k answers l j) := by
  have isHere : CrossbarSwitch.isHere k get = true := by simp [CrossbarSwitch.isHere, isHere]
  have notAdd : ¬ (get.CMD = .ACT_ADD ∨ get.CMD = .ACT_DOT) := by simp [isCMD]
  have notMult : get.CMD ≠ .ACT_MULT := by simp [isCMD]
  have whole : ¬ (CrossbarSwitch.isHere k get = true ∧
      k.dram.addressMapping < get.reqDataSize) := fun divided => Nat.not_lt.mpr undivided divided.2
  have notInorder : isInorder (s.downBuffers l) j get = false := by
    have inFront : some (line packet m) ∈ (s.downBuffers l).take j := by
      apply List.mem_of_getElem? (i := i)
      rw [List.getElem?_take, if_pos behind, found]
    rw [isInorder]
    apply List.all_eq_false.mpr
    refine ⟨_, inFront, ?_⟩
    simp [isUpdate, line, page.isAdd, sameFlow]
  rw [CrossbarSwitch.visitDown, isGet]
  simp only [if_neg whole]
  split
  · exact Yields.throw not_false
  · rw [visitRequest, if_pos isHere, visitHere, if_neg notAdd, if_neg notMult, if_pos isCMD,
      visitGet, notInorder]
    show ((s.setDown l (s.downBuffers l)).setTables s.tables, []) = (s, [])
    rw [setDown_self]
    rfl

/-! ## Runs -/

/-- The lines that were sent are the first ones, each with one request more for the flow;
    the packet waits for the others, or has been consumed with the last. -/
structure Following (k : CubeConfig) (l : ℕ) (packet : Packet) (s : CrossbarSwitch)
    (w : Followed) : Prop where
  tailed : Tailed s
  reads : ∀ m < w.reads.length, ∃ id, w.reads[m]? = some (lineRead k packet m id)
  requests : w.requests = w.reads.length
  consumed : w.consumed = true → w.reads.length = packet.LINES
  waiting : w.consumed = false → w.reads.length < packet.LINES ∧
    (s.downBuffers l)[w.index]? = some (some (line packet w.reads.length))

namespace Following

variable {s' : CrossbarSwitch} {w : Followed}

theorem keeps (following : Following k l packet s w) (tailed : Tailed s')
    (kept : ∀ {i : ℕ} {slot : Option Packet}, (s.downBuffers l)[i]? = some slot →
      (s'.downBuffers l)[i]? = some slot) : Following k l packet s' w where
  tailed := tailed
  reads := following.reads
  requests := following.requests
  consumed := following.consumed
  waiting waits := ⟨(following.waiting waits).1, kept (following.waiting waits).2⟩

/-- The visit of another packet of the buffer. -/
theorem visitOther (following : Following k l packet s w) (tailed : Tailed s')
    {answers : Answers} {j : ℕ} {sent : List (Port × Packet)} (waits : w.consumed = false)
    (other : j ≠ w.index) (visited : s.visitDown k answers l j = .ok (s', sent)) :
    Following k l packet s' { w with index := indexAfter k answers s l w.index j } where
  tailed := tailed
  reads := following.reads
  requests := following.requests
  consumed := following.consumed
  waiting _ := by
    obtain ⟨inside, found⟩ := following.waiting waits
    have moved := visitDown_indexAfter (k := k) (following.tailed.down l) found other answers
    rw [visited] at moved
    exact ⟨inside, moved⟩

/-- The visit of the packet. -/
theorem visitPacket (following : Following k l packet s w) (page : PageAdd k packet)
    (tailed : Tailed s') {answers : Answers} {sent : List (Port × Packet)}
    (waits : w.consumed = false) (visited : s.visitDown k answers l w.index = .ok (s', sent)) :
    Following k l packet s' { w with
      reads := w.reads ++ sent
      requests := w.requests +
        (requestCount s'.tables packet.DESTADRS - requestCount s.tables packet.DESTADRS)
      consumed := (s'.downBuffers l).length < (s.downBuffers l).length } := by
  obtain ⟨inside, found⟩ := following.waiting waits
  rw [visitDown_line page inside found answers] at visited
  split at visited
  · obtain ⟨entered, isEntered, same⟩ := bind_eq_ok.mp visited
    obtain ⟨rfl, rfl⟩ := Prod.mk.inj (pure_eq_ok.mp same)
    have counted := enter_requestCount (k := k) (t := s.tables) (line packet w.reads.length)
    rw [isEntered] at counted
    have oneMore : requestCount entered.2 packet.DESTADRS -
        requestCount s.tables packet.DESTADRS = 1 := by
      have isCounted : requestCount entered.2 packet.DESTADRS =
        requestCount s.tables packet.DESTADRS + 1 := counted
      omega
    have slots : ((s.setDown l (applyFate (s.downBuffers l) w.index
        (line packet w.reads.length) (afterLine packet w.reads.length))).setTables
          entered.2).downBuffers l = applyFate (s.downBuffers l) w.index
            (line packet w.reads.length) (afterLine packet w.reads.length) :=
      Function.update_self _ _ _
    have reads : ∀ m < (w.reads ++ [lineRead k packet w.reads.length entered.1]).length,
        ∃ id, (w.reads ++ [lineRead k packet w.reads.length entered.1])[m]? =
          some (lineRead k packet m id) := by
      intro m isRead
      rw [List.length_append, List.length_singleton] at isRead
      by_cases isLast : m = w.reads.length
      · subst isLast
        exact ⟨entered.1, List.getElem?_concat_length⟩
      · rw [List.getElem?_append_left (by omega)]
        exact following.reads m (by omega)
    have length : (w.reads ++ [lineRead k packet w.reads.length entered.1]).length =
        w.reads.length + 1 := by simp
    have positive := (following.tailed.down l).positive found
    have isPresent := (List.getElem?_eq_some_iff.mp found).1
    refine ⟨tailed, reads, ?_, ?_, ?_⟩
    · show w.requests + (requestCount entered.2 packet.DESTADRS - _) = _
      rw [oneMore, length, following.requests]
    · intro shorter
      rw [length]
      by_contra notLast
      rw [slots, afterLine, if_neg notLast] at shorter
      simp [applyFate] at shorter
    · intro notShorter
      rw [slots] at notShorter ⊢
      rw [length]
      by_cases last : w.reads.length + 1 = packet.LINES
      · rw [afterLine, if_pos last] at notShorter
        have erased : (eraseAt (s.downBuffers l) w.index (line packet w.reads.length).LNG).length <
            (s.downBuffers l).length := by
          rw [eraseAt, List.length_append, List.length_take, List.length_drop]
          omega
        exact (of_decide_eq_false notShorter erased).elim
      · rw [afterLine, if_neg last]
        refine ⟨by omega, ?_⟩
        show ((s.downBuffers l).set w.index _)[w.index]? = _
        exact List.getElem?_set_self isPresent
  · obtain ⟨rfl, rfl⟩ := Prod.mk.inj (pure_eq_ok.mp visited)
    cases w
    cases waits
    simpa using following

end Following

theorem receive_getElem? {slots : PacketVector} (packet : Packet) {i : ℕ} {slot : Option Packet}
    (found : slots[i]? = some slot) : (receive slots packet)[i]? = some slot := by
  rw [receive]
  split
  · rw [List.getElem?_append_left (List.getElem?_eq_some_iff.mp found).1, found]
  · exact found

/-- An action keeps the account of the packet. -/
theorem followStep_following (page : PageAdd k packet) {w : Followed}
    (following : Following k l packet s w) {action : Action} (allowed : action.Allowed)
    {s' : CrossbarSwitch} {w' : Followed}
    (stepped : followStep k l packet.DESTADRS (s, w) action = .ok (s', w')) :
    Following k l packet s' w' := by
  obtain ⟨⟨s'', sent⟩, acted, same⟩ := bind_eq_ok.mp stepped
  obtain ⟨rfl, rfl⟩ := Prod.mk.inj (pure_eq_ok.mp same)
  have tailed' : Tailed s'' := by
    have kept := act_tailed (k := k) following.tailed action allowed
    rw [acted] at kept
    exact kept
  cases action with
  | receiveUp l' packet' =>
    obtain ⟨rfl, -⟩ := Prod.mk.inj (pure_eq_ok.mp acted)
    exact following.keeps tailed' fun found => found
  | receiveDown l' packet' =>
    obtain ⟨rfl, -⟩ := Prod.mk.inj (pure_eq_ok.mp acted)
    apply following.keeps tailed'
    intro i slot found
    by_cases isBuffer : l = l'
    · subst isBuffer
      show (Function.update s.downBuffers l _ l)[i]? = _
      rw [Function.update_self]
      exact receive_getElem? packet' found
    · show (Function.update s.downBuffers l' _ l)[i]? = _
      rw [Function.update_of_ne isBuffer]
      exact found
  | visitUp l' i answers =>
    have buffers := visitUp_downBuffers (k := k) s answers l' i
    have visited : s.visitUp k answers l' i = .ok (s'', sent) := acted
    rw [visited] at buffers
    have sameBuffers : s''.downBuffers = s.downBuffers := buffers
    apply following.keeps tailed'
    intro i slot found
    rw [sameBuffers]
    exact found
  | visitDown l' j answers =>
    have visited : s.visitDown k answers l' j = .ok (s'', sent) := acted
    rw [Followed.next]
    split
    · rename_i isBuffer
      obtain ⟨rfl, notConsumed⟩ := isBuffer
      have waits : w.consumed = false := by simpa using notConsumed
      split
      · rename_i isIndex
        subst isIndex
        exact following.visitPacket page tailed' waits visited
      · rename_i other
        exact following.visitOther tailed' waits other visited
    · rename_i notFollowed
      by_cases isBuffer : l' = l
      · -- the packet is consumed already
        have consumed : w.consumed = true := by
          by_contra waits
          exact notFollowed ⟨isBuffer, by simpa using waits⟩
        refine ⟨tailed', following.reads, following.requests, following.consumed, ?_⟩
        intro waits
        rw [consumed] at waits
        cases waits
      · have buffer := visitDown_downBuffers (k := k) s answers isBuffer j
        rw [visited] at buffer
        have sameBuffer : s''.downBuffers l = s.downBuffers l := buffer
        apply following.keeps tailed'
        intro i slot found
        rw [sameBuffer]
        exact found
  | processOperands =>
    obtain ⟨tables, -, same⟩ := bind_eq_ok.mp acted
    obtain ⟨rfl, -⟩ := Prod.mk.inj (pure_eq_ok.mp same)
    exact following.keeps tailed' fun found => found
  | commit flow answers =>
    obtain ⟨rfl, -⟩ := Prod.mk.inj (pure_eq_ok.mp acted)
    exact following.keeps tailed' fun found => found

theorem following_start (page : PageAdd k packet) (tailed : Tailed s)
    (found : (s.downBuffers l)[i]? = some (some packet)) :
    Following k l packet s { index := i } where
  tailed := tailed
  reads _ isRead := (nomatch isRead)
  requests := rfl
  consumed isConsumed := (nomatch isConsumed)
  waiting _ := by
    have isFirst : (s.downBuffers l)[i]? = some (some (line packet 0)) := by
      rw [line_zero]
      exact found
    exact ⟨page.lines, isFirst⟩

theorem run_following (page : PageAdd k packet) {first last : CrossbarSwitch × Followed}
    (following : Following k l packet first.1 first.2) {actions : List Action}
    (run : Run (followStep k l packet.DESTADRS) (fun _ action _ => action.Allowed) first actions
      last) : Following k l packet last.1 last.2 := by
  apply run.invariant following
  intro state action state' following' stepped allowed
  exact followStep_following page following' allowed stepped

theorem run_tailed {s : CrossbarSwitch} {actions : List Action}
    (run : Run (step k) (fun _ action _ => action.Allowed) (start k) actions s) : Tailed s := by
  apply run.invariant (tailed_start k)
  intro s action s' tailed stepped allowed
  obtain ⟨done, acted, same⟩ := bind_eq_ok.mp stepped
  obtain rfl := pure_eq_ok.mp same
  have kept := act_tailed (k := k) tailed action allowed
  rw [acted] at kept
  exact kept

/-- In every run from a state with a page-grained addition of `LINES` lines in an input buffer,
    the visits of it send the requests for its lines in their order to the vaults of their
    addresses, and count each of them for the flow; it is consumed when all are sent.  Before
    that it is found with the lines that are left, a `GET` of the flow behind it is passed
    over, a visit sends nothing while the vault does not receive it or no operand buffer is
    free, and otherwise it sends the next line unless the tables refuse the update. -/
theorem page_add_issues_lines {packet : Packet} (page : PageAdd k packet) {s s' : CrossbarSwitch}
    {before actions : List Action} {l i : ℕ}
    (reachable : Run (step k) (fun _ action _ => action.Allowed) (start k) before s)
    (found : (s.downBuffers l)[i]? = some (some packet))
    (run : Run (step k) (fun _ action _ => action.Allowed) s actions s') :
    ∃ w, Run (followStep k l packet.DESTADRS) (fun _ action _ => action.Allowed)
        (s, { index := i }) actions (s', w) ∧
      (∀ m < w.reads.length, ∃ id, w.reads[m]? = some (lineRead k packet m id)) ∧
      w.requests = w.reads.length ∧ w.reads.length ≤ packet.LINES ∧
      (w.consumed = true ↔ w.reads.length = packet.LINES) ∧
      (w.consumed = false →
        (s'.downBuffers l)[w.index]? = some (some (line packet w.reads.length)) ∧
        (∀ answers j get s'' sent, w.index < j → (s'.downBuffers l)[j]? = some (some get) →
          get.CMD = .ACT_GET → get.DESTCUB = k.cubeID → get.DESTADRS = packet.DESTADRS →
          get.reqDataSize ≤ k.dram.addressMapping →
          s'.visitDown k answers l j = .ok (s'', sent) → s'' = s' ∧ sent = []) ∧
        ∀ answers,
          (answers.vault (k.vaultMap (line packet w.reads.length).ADRS) = false ∨
              s'.tables.freeOperandBufIDs = [] →
            s'.visitDown k answers l w.index = .ok (s', [])) ∧
          (answers.vault (k.vaultMap (line packet w.reads.length).ADRS) = true →
            s'.tables.freeOperandBufIDs ≠ [] → ∀ entered,
            s'.tables.enter k .ADD (line packet w.reads.length) 0 = .ok entered →
              ∃ s'', s'.visitDown k answers l w.index =
                .ok (s'', [lineRead k packet w.reads.length entered.1]))) := by
  obtain ⟨w, followed⟩ := exists_followed l packet.DESTADRS { index := i } run
  have following : Following k l packet s' w :=
    run_following page (following_start page (run_tailed reachable) found) followed
  refine ⟨w, followed, following.reads, following.requests, ?_, ?_, ?_⟩
  · cases isConsumed : w.consumed with
    | false => exact (following.waiting isConsumed).1.le
    | true => exact (following.consumed isConsumed).le
  · cases isConsumed : w.consumed with
    | false =>
      have more := (following.waiting isConsumed).1
      constructor
      · exact fun absurd => (nomatch absurd)
      · intro all
        omega
    | true => exact ⟨fun _ => following.consumed isConsumed, fun _ => rfl⟩
  · intro waits
    obtain ⟨inside, isPresent⟩ := following.waiting waits
    refine ⟨isPresent, ?_, ?_⟩
    · intro answers j get s'' sent behind isGet isCMD isHere sameFlow undivided visited
      have still := visitDown_get_behind page isPresent behind isGet isCMD isHere sameFlow
        undivided answers
      rw [visited] at still
      exact Prod.mk.inj still
    · intro answers
      have visit := visitDown_line page inside isPresent answers
      constructor
      · intro stalls
        have notBoth : ¬ (s'.tables.freeOperandBufIDs ≠ [] ∧
            answers.vault (k.vaultMap (line packet w.reads.length).ADRS) = true) := by
          rintro ⟨isFree, accepts⟩
          cases stalls with
          | inl refuses =>
            rw [refuses] at accepts
            cases accepts
          | inr noneFree => exact isFree noneFree
        rw [visit, if_neg notBoth]
        rfl
      · intro accepts isFree entered isEntered
        rw [if_pos ⟨isFree, accepts⟩, isEntered] at visit
        exact ⟨_, visit⟩

/-- An addition of two lines for the cube. -/
def twoLines : Packet where
  packetType := .REQUEST
  CMD := .ACT_ADD
  DESTADRS := 256
  SRCADRS1 := 64
  ADRS := 64
  LINES := 2
  DESTCUB := 0
  reqDataSize := 64

/-- Its vault does not receive the second line at first. -/
def stalledLine : List Action :=
  [.visitDown 0 0 allReceive, .visitDown 0 0 { allReceive with vault := fun _ => false },
    .visitDown 0 0 allReceive]

theorem page_add_issues_lines_stalled :
    ∃ s s' w, Run (step smallCube) (fun _ action _ => action.Allowed) s stalledLine s' ∧
      Run (followStep smallCube 0 256) (fun _ action _ => action.Allowed) (s, { index := 0 })
        stalledLine (s', w) ∧ w.reads.length ≤ 2 ∧ requestCount s'.tables 256 = 2 := by
  have page : PageAdd smallCube twoLines :=
    ⟨rfl, rfl, rfl, by decide, by decide, by decide, by decide⟩
  have executed : ((execute (step smallCube) (fun _ action _ => action.Allowed) (start smallCube)
      [.receiveDown 0 twoLines]).bind fun s =>
        (execute (step smallCube) (fun _ action _ => action.Allowed) s stalledLine).map fun s' =>
          (s, s')).map (fun states =>
            ((states.1.downBuffers 0)[0]?, requestCount states.2.tables 256)) =
              some (some (some twoLines), 2) := by
    decide +kernel
  obtain ⟨⟨s, s'⟩, isRun, results⟩ := Option.map_eq_some_iff.mp executed
  obtain ⟨first, isFirst, isSecond⟩ := Option.bind_eq_some_iff.mp isRun
  obtain ⟨last, isLast, same⟩ := Option.map_eq_some_iff.mp isSecond
  obtain ⟨rfl, rfl⟩ := Prod.mk.inj same
  obtain ⟨found, requests⟩ := Prod.mk.inj results
  obtain ⟨w, followed, -, -, atMost, -⟩ :=
    page_add_issues_lines page (execute_run isFirst) found (execute_run isLast)
  exact ⟨first, last, w, execute_run isLast, followed, atMost, requests⟩

/-- What an addition that is received, and visited as often as wanted, adds to the
    `req_count` of its flow where everything is received. -/
def served (k : CubeConfig) (packet : Packet) (visits : ℕ) : Option ℕ :=
  (execute (step k) (fun _ action _ => action.Allowed) (start k)
    (.receiveDown 0 packet :: List.replicate visits (.visitDown 0 0 allReceive))).map fun s =>
      requestCount s.tables packet.DESTADRS

/-- An addition for this cube, of any size and with any address. -/
def AddHere (k : CubeConfig) (packet : Packet) : Prop :=
  packet.packetType = .REQUEST ∧ packet.CMD = .ACT_ADD ∧ packet.DESTCUB = k.cubeID ∧
    1 ≤ packet.LINES ∧ packet.ADRS = Transaction.address34 packet.SRCADRS1

instance (k : CubeConfig) (packet : Packet) : Decidable (AddHere k packet) :=
  inferInstanceAs (Decidable (_ ∧ _ ∧ _ ∧ _ ∧ _))

/-- Lines across the end of the 34 bits of an address stop the simulation, and an addition that
    is divided asks for a line once for each of its segments. -/
theorem page_add_across_or_divided :
    (¬ ∀ k packet visits, AddHere k packet → packet.reqDataSize ≤ k.dram.addressMapping →
        packet.LINES ≤ visits → served k packet visits = some packet.LINES) ∧
      ¬ ∀ k packet visits, AddHere k packet →
        packet.ADRS.toNat + 64 * (packet.LINES - 1) < 2 ^ 34 →
          packet.LINES ≤ visits → served k packet visits = some packet.LINES := by
  constructor
  · intro serves
    have across := serves smallCube
      { twoLines with SRCADRS1 := 17179869120, ADRS := 17179869120 } 2
      (by decide) (by decide) (by decide)
    have stops : served smallCube
        { twoLines with SRCADRS1 := 17179869120, ADRS := 17179869120 } 2 = none := by
      decide +kernel
    rw [stops] at across
    cases across
  · intro serves
    have divided := serves { smallCube with dram := { mappingScheme := .MAX_BLOCK_32B } }
      { twoLines with LINES := 1 } 3 (by decide) (by decide) (by decide)
    have twice : served { smallCube with dram := { mappingScheme := .MAX_BLOCK_32B } }
        { twoLines with LINES := 1 } 3 = some 2 := by
      decide +kernel
    rw [twice] at divided
    cases divided

end CrossbarSwitch

end ActiveRouting

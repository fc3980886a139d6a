import ActiveRouting.Reduction.Placement

/-!
# A network in which every packet is in its place

What `Placement` says of one packet holds of all packets of a network, in every run.
-/

namespace ActiveRouting

open Blocks CrossbarSwitch FlowTables Outcome

namespace SegmentTable

variable {c : DRAMConfig} {P : Packet → Prop}

/-- What stored packets keep when they take up others, and when they are complete. -/
theorem combine_keeps {packet : Packet} {last : Bool}
    (lengthens : ∀ stored, P stored → P (lengthen c stored packet))
    (completes : ∀ stored, P stored → P (combPacket stored)) :
    ∀ {stored rest : List Packet} {combined : Option Packet}, (∀ packet ∈ stored, P packet) →
      combine c packet last stored = some (rest, combined) →
      (∀ packet ∈ rest, P packet) ∧ ∀ packet ∈ combined, P packet
  | [], _, _, _, combines => by cases combines
  | first :: others, rest, combined, keeps, combines => by
    obtain ⟨keeps_first, keeps_others⟩ := List.forall_mem_cons.mp keeps
    have lengthened := lengthens first keeps_first
    rw [combine] at combines
    split at combines
    · split at combines
      · cases combines
        exact ⟨keeps_others, fun packet' isCombined => by
          obtain rfl := Option.some.inj isCombined
          exact completes _ lengthened⟩
      · cases combines
        exact ⟨List.forall_mem_cons.mpr ⟨lengthened, keeps_others⟩, fun _ isNone => by cases isNone⟩
    · obtain ⟨⟨rest', combined'⟩, combines', same⟩ := Option.map_eq_some_iff.mp combines
      cases same
      obtain ⟨keeps_rest, keeps_combined⟩ :=
        combine_keeps lengthens completes keeps_others combines'
      exact ⟨List.forall_mem_cons.mpr ⟨keeps_first, keeps_rest⟩, keeps_combined⟩

theorem arrive_keeps {s s' : SegmentTable} {packet : Packet} {combined : Option Packet}
    (lengthens : ∀ stored, P stored → P (lengthen c stored packet))
    (completes : ∀ stored, P stored → P (combPacket stored))
    (stored : ∀ packet ∈ s.pendingSegPacket, P packet) (keeps : P packet)
    (arrives : s.arrive c packet = some (s', combined)) :
    (∀ packet ∈ s'.pendingSegPacket, P packet) ∧ ∀ packet ∈ combined, P packet := by
  rw [arrive] at arrives
  split at arrives
  · split at arrives
    · rename_i packets combined' combines
      cases arrives
      exact combine_keeps lengthens completes stored combines
    · cases arrives
      exact ⟨List.forall_mem_append.mpr ⟨stored, List.forall_mem_singleton.mpr keeps⟩,
        fun _ isNone => by cases isNone⟩
  · cases arrives

end SegmentTable

namespace CrossbarSwitch

/-- The packets of a buffer after a visit of the one between others. -/
def Fate.leaves (before : List Packet) (packet : Packet) (after : List Packet) :
    Fate → List Packet
  | .keep => before ++ packet :: after
  | .erase => before ++ after
  | .rewrite packet' => before ++ packet' :: after
  | .replicate packet' => before ++ packet :: after ++ [packet']

/-- The packets of a buffer in which one is visited. -/
theorem contents_applyFate {slots : PacketVector} {i : ℕ} {packet : Packet}
    (isBlocks : IsBlocks Packet.LNG slots) (found : slots[i]? = some (some packet)) :
    ∃ before after, contents slots = before ++ packet :: after ∧
      contents (slots.take i) = before ∧
      (∀ fate, contents (applyFate slots i packet fate) = Fate.leaves before packet after fate) ∧
      (∀ k, contents (divideSlots k slots i packet) =
        before ++ SegmentTable.segments k.dram packet ++ after) ∧
      contents (eraseAt slots i packet.LNG) = before ++ after := by
  obtain ⟨before, after, whole, inFront, erased, rewritten, inserted⟩ :=
    isBlocks.contents_split found
  refine ⟨before, after, whole, inFront, ?_, ?_, erased⟩
  · intro fate
    cases fate with
    | keep => exact whole
    | erase => exact erased
    | rewrite packet' => exact rewritten packet'
    | replicate packet' =>
      show contents (slots ++ block Packet.LNG packet') = _
      rw [contents_append, whole, contents_block]
      rfl
  · intro k
    show contents (insertAt _ i (blocks Packet.LNG _)) = _
    rw [inserted, contents_blocks]

theorem contents_receive (slots : PacketVector) (packet : Packet) :
    contents (receive slots packet) = contents slots ∨
      contents (receive slots packet) = contents slots ++ [packet] := by
  rw [receive]
  split
  · exact .inr (by rw [contents_append, tailed, contents_block])
  · exact .inl rfl

theorem contents_insertFront (slots : PacketVector) (packet : Packet) :
    contents (insertAt slots 0 (tailed packet)) = packet :: contents slots := by
  rw [insertAt, List.take_zero, List.nil_append, List.drop_zero, contents_append, tailed,
    contents_block]
  rfl

end CrossbarSwitch

namespace CubeNetwork

variable {M : Type} {c : CubeNetworkConfig M} {cube l : ℕ} {packet packet' : Packet}
  {m : LinkEnd} {t t' : FlowTables} {s s' : CrossbarSwitch} {answers : Answers} {visit : Visit}

/-! ## Responses -/

variable (c)

/-- A response in input buffer `l` of a cube.  The answer to a `GET` is from a child. -/
structure ArrivedUp (cube l : ℕ) (packet : Packet) : Prop where
  answering : Answering packet
  get : packet.CMD = .ACT_GET → cube < c.net.nodes ∧ packet.DESTCUB = cube ∧
    ∃ node, c.Child packet.DESTADRS cube node ∧ packet.SRCCUB = node ∧
      l = c.net.findNextLink cube node false

/-- A response on a link.  The answer to a `GET` is on the way from a cube to its parent. -/
structure TravelsUp (m : LinkEnd) (packet : Packet) : Prop where
  positive : 0 < packet.LNG
  answering : Answering packet
  get : packet.CMD = .ACT_GET → ∃ node < c.net.nodes,
    m = .hmc node (c.upLink packet.DESTADRS node) ∧ packet.SRCCUB = node ∧
      packet.DESTCUB = c.parent packet.DESTADRS node

/-- A packet that a crossbar switch sends upstream. -/
def SentUp (cube : ℕ) : Port × Packet → Prop
  | (.vault _, _) => True
  | (.link link, packet) => TravelsUp c (.hmc cube link) packet

variable {c}

theorem ArrivedUp.of_plain (plain : packet.isActive = false) : ArrivedUp c cube l packet :=
  ⟨.of_plain plain, fun isGet => absurd isGet (plain_iff.mp plain).2⟩

/-- The links that an entry counts. -/
theorem Entered.answerChild {flow : BitVec 64} {e : FlowEntry} (entered : Entered c cube flow e)
    (link : Fin numLinks) : Entered c cube flow (e.answerChild link) := by
  refine entered.congr rfl fun other counts => ?_
  rcases counts with counts | flagged
  · by_cases same : other = link
    · subst same
      simp [FlowEntry.answerChild] at counts
    · exact .inl (by simpa [FlowEntry.answerChild, same] using counts)
  · exact .inr flagged

/-- The link towards the parent of a flow is the one on which its updates come. -/
theorem Entered.answerLink {flow : BitVec 64} {e : FlowEntry} (entered : Entered c cube flow e)
    (connected : c.Connected) :
    ((c.cube cube).findNextLink e.parent false : ℕ) = c.upLink flow cube := by
  have isLink : c.net.findNextLink cube (c.parent flow cube) false = c.upLink flow cube := by
    by_cases isRoot : cube = c.root flow
    · rw [isRoot, connected.parent_root]
      exact (connected.attached flow).answer
    · exact (connected.links (connected.child_parent entered.inside isRoot)).2.2.2.2.2
  show ((CubeNetworkConfig.linkOf (c.net.findNextLink cube e.parent.toNat false)) : ℕ) = _
  rw [entered.parent, Int.toNat_natCast, isLink, linkOf_val (connected.upLink_lt flow entered.inside)]

/-- A visit of a response leaves every packet in its place. -/
theorem ArrivedUp.visited (arrived : ArrivedUp c cube l packet) (positive : 0 < packet.LNG)
    (entered : AllEntered c cube t) (visits : ResponseVisit (c.cube cube) t packet visit) :
    (∀ packet', visit.fate ≠ .rewrite packet' ∧ visit.fate ≠ .replicate packet') ∧
      (∀ sent ∈ visit.sent, SentUp c cube sent) ∧ AllEntered c cube visit.tables := by
  cases visits with
  | stays => exact ⟨fun _ => ⟨nofun, nofun⟩, List.forall_mem_nil _, entered⟩
  | fills => exact ⟨fun _ => ⟨nofun, nofun⟩, List.forall_mem_nil _, entered.congr rfl⟩
  | answers flowEntry isGet found =>
    exact ⟨fun _ => ⟨nofun, nofun⟩, List.forall_mem_nil _,
      entered.update rfl ((entered _ _ found).answerChild _)⟩
  | passes notForUs =>
    refine ⟨fun _ => ⟨nofun, nofun⟩, List.forall_mem_singleton.mpr ?_, entered⟩
    refine ⟨positive, arrived.answering.congr rfl rfl rfl, fun isGet => ?_⟩
    -- the answer of a child is for this cube
    obtain ⟨-, isDest, node, child, isSource, -⟩ := arrived.get isGet
    have own := notForUs isGet isDest
    rw [isSource] at own
    have same : node = cube := Int.ofNat.inj own
    exact absurd same (CubeNetworkConfig.Connected.child_iff.mp child).2.2.2

/-! ## One cube -/

variable (c)

/-- Every packet of a cube is in its place. -/
structure CubePlaced (cube : ℕ) (s : CrossbarSwitch) : Prop where
  tailed : Tailed s
  balanced : Balanced (c.cube cube) settled s.tables
  entered : AllEntered c cube s.tables
  down : ∀ l, ∀ packet ∈ contents (s.downBuffers l), Arrived c cube l packet
  up : ∀ l, ∀ packet ∈ contents (s.upBuffers l), ArrivedUp c cube l packet
  stored : ∀ packet ∈ s.segments.pendingSegPacket, packet.isActive = false

variable {c}

theorem CubePlaced.start (c : CubeNetworkConfig M) (cube : ℕ) :
    CubePlaced c cube (CrossbarSwitch.start (c.cube cube)) where
  tailed := tailed_start _
  balanced := start_balanced _
  entered _ _ found := by cases found
  down _ _ member := by cases member
  up _ _ member := by cases member
  stored _ member := by cases member

theorem downBuffers_setDown (s : CrossbarSwitch) (l : ℕ) (slots : PacketVector) (other : ℕ) :
    (s.setDown l slots).downBuffers other = if other = l then slots else s.downBuffers other :=
  Function.update_apply _ _ _ _

theorem upBuffers_setUp (s : CrossbarSwitch) (l : ℕ) (slots : PacketVector) (other : ℕ) :
    (s.setUp l slots).upBuffers other = if other = l then slots else s.upBuffers other :=
  Function.update_apply _ _ _ _

/-- What is left in a buffer is in its place, if what is new there is. -/
theorem mem_leaves {before after : List Packet} {fate : Fate}
    (member : packet' ∈ Fate.leaves before packet after fate) :
    packet' ∈ before ++ packet :: after ∨ fate = .rewrite packet' ∨ fate = .replicate packet' := by
  cases fate with
  | keep => exact .inl member
  | erase =>
    rcases List.mem_append.mp member with first | second
    · exact .inl (List.mem_append_left _ first)
    · exact .inl (List.mem_append_right _ (List.mem_cons_of_mem _ second))
  | rewrite other =>
    rcases List.mem_append.mp member with first | second
    · exact .inl (List.mem_append_left _ first)
    · rcases List.mem_cons.mp second with rfl | second
      · exact .inr (.inl rfl)
      · exact .inl (List.mem_append_right _ (List.mem_cons_of_mem _ second))
  | replicate other =>
    rcases List.mem_append.mp member with old | new
    · exact .inl old
    · obtain rfl := List.mem_singleton.mp new
      exact .inr (.inr rfl)

/-- The parts of a cube that are not buffers come from an action that is known to keep them. -/
theorem CubePlaced.acted (placed : CubePlaced c cube s) (action : CrossbarSwitch.Action)
    (allowed : action.Allowed)
    (guarded : ∀ s', CrossbarSwitch.Guard s action s') {sent : List (Port × Packet)}
    (acts : s.act (c.cube cube) action = .ok (s', sent)) :
    Tailed s' ∧ Balanced (c.cube cube) settled s'.tables :=
  ⟨(act_tailed placed.tailed action allowed).holds acts,
    ((act_actsWell placed.balanced action guarded).holds acts).1⟩

theorem mem_of_slot {slots : PacketVector} {i : ℕ} (found : slots[i]? = some (some packet)) :
    packet ∈ contents slots := mem_contents.mpr (List.mem_of_getElem? found)

theorem segments_plain {dram : DRAMConfig} {segment : Packet} (plain : packet.isActive = false)
    (member : segment ∈ SegmentTable.segments dram packet) : segment.isActive = false := by
  obtain ⟨j, -, rfl⟩ := List.mem_map.mp member
  exact plain

/-- A visit of a request in a cube. -/
theorem CubePlaced.visitDown (placed : CubePlaced c cube s) (connected : c.Connected) {i : ℕ}
    {sent : List (Port × Packet)}
    (visits : s.visitDown (c.cube cube) answers l i = .ok (s', sent)) :
    CubePlaced c cube s' ∧ ∀ message ∈ sent, SentDown c cube message := by
  obtain ⟨tailed, balanced⟩ :=
    placed.acted (.visitDown l i answers) trivial (fun _ => trivial) visits
  rw [CrossbarSwitch.visitDown] at visits
  split at visits
  · rename_i packet found
    have member := mem_of_slot found
    have arrived := placed.down l packet member
    have positive := (placed.tailed.down l).positive found
    obtain ⟨before, after, whole, -, left, divided, -⟩ :=
      contents_applyFate (placed.tailed.down l) found
    split at visits
    · exact absurd visits throw_ne_ok
    split at visits
    · -- a request that is divided belongs to no flow
      rename_i divides
      have plain : packet.isActive = false := by
        by_contra isActive
        have fits := (arrived.active.fits (by simpa using isActive)).size
        have long : c.dram.addressMapping < packet.reqDataSize := divides.2
        omega
      obtain ⟨rfl, rfl⟩ := Prod.mk.inj (pure_eq_ok.mp visits)
      refine ⟨⟨tailed, balanced, placed.entered, ?_, placed.up, placed.stored⟩,
        List.forall_mem_nil _⟩
      intro other packet' isMember
      have isMember' : packet' ∈ contents ((s.setDown l
        (divideSlots (c.cube cube) (s.downBuffers l) i packet)).downBuffers other) := isMember
      rw [downBuffers_setDown] at isMember'
      by_cases same : other = l
      · subst same
        rw [if_pos rfl, divided] at isMember'
        rcases List.mem_append.mp isMember' with inFront | behind
        · rcases List.mem_append.mp inFront with inFront | isSegment
          · exact placed.down other packet' (whole ▸ List.mem_append_left _ inFront)
          · exact .of_plain (segments_plain plain isSegment)
        · exact placed.down other packet'
            (whole ▸ List.mem_append_right _ (List.mem_cons_of_mem _ behind))
      · rw [if_neg same] at isMember'
        exact placed.down other packet' isMember'
    · obtain ⟨visit, visited, done⟩ := bind_eq_ok.mp visits
      obtain ⟨rfl, rfl⟩ := Prod.mk.inj (pure_eq_ok.mp done)
      obtain ⟨fate, sends, entered⟩ :=
        arrived.visited connected positive placed.entered (visitRequest_cases visited)
      refine ⟨⟨tailed, balanced, entered, ?_, placed.up, placed.stored⟩, sends⟩
      intro other packet' isMember
      have isMember' : packet' ∈ contents ((s.setDown l
        (applyFate (s.downBuffers l) i packet visit.fate)).downBuffers other) := isMember
      rw [downBuffers_setDown] at isMember'
      by_cases same : other = l
      · subst same
        rw [if_pos rfl, left] at isMember'
        rcases mem_leaves isMember' with old | isNew | isNew
        · exact placed.down other packet' (whole ▸ old)
        · rw [isNew] at fate
          exact fate
        · rw [isNew] at fate
          exact fate
      · rw [if_neg same] at isMember'
        exact placed.down other packet' isMember'
  · obtain ⟨rfl, rfl⟩ := Prod.mk.inj (pure_eq_ok.mp visits)
    exact ⟨placed, List.forall_mem_nil _⟩

/-- A visit of a response in a cube. -/
theorem CubePlaced.visitUp (placed : CubePlaced c cube s) {i : ℕ} {sent : List (Port × Packet)}
    (visits : s.visitUp (c.cube cube) answers l i = .ok (s', sent)) :
    CubePlaced c cube s' ∧ ∀ message ∈ sent, SentUp c cube message := by
  have guarded : ((s.upBuffers l)[i]?.join).all hasOperand = true := by
    cases found : (s.upBuffers l)[i]? with
    | none => rfl
    | some slot =>
      cases slot with
      | none => rfl
      | some packet => exact (placed.up l packet (mem_of_slot found)).answering.operand
  obtain ⟨isTailed, balanced⟩ :=
    placed.acted (.visitUp l i answers) trivial (fun _ => guarded) visits
  rw [CrossbarSwitch.visitUp] at visits
  split at visits
  · rename_i packet found
    have arrived := placed.up l packet (mem_of_slot found)
    have positive := (placed.tailed.up l).positive found
    obtain ⟨before, after, whole, -, left, -, erased⟩ :=
      contents_applyFate (placed.tailed.up l) found
    split at visits
    · exact absurd visits throw_ne_ok
    split at visits
    · -- segments belong to no flow
      rename_i isSegment
      have plain : packet.isActive = false := by
        by_contra isActive
        have whole := arrived.answering.segment (by simpa using isActive)
        rw [isSegment] at whole
        cases whole
      have old : ∀ other, ∀ packet' ∈ contents ((s.setUp l
          (eraseAt (s.upBuffers l) i packet.LNG)).upBuffers other), ArrivedUp c cube other packet' := by
        intro other packet' isMember
        rw [upBuffers_setUp] at isMember
        by_cases same : other = l
        · subst same
          rw [if_pos rfl, erased] at isMember
          apply placed.up other packet'
          rw [whole]
          rcases List.mem_append.mp isMember with inFront | behind
          · exact List.mem_append_left _ inFront
          · exact List.mem_append_right _ (List.mem_cons_of_mem _ behind)
        · rw [if_neg same] at isMember
          exact placed.up other packet' isMember
      obtain ⟨s'', segment, done⟩ := bind_eq_ok.mp visits
      obtain ⟨rfl, rfl⟩ := Prod.mk.inj (pure_eq_ok.mp done)
      rw [visitSegment] at segment
      split at segment
      · exact absurd segment throw_ne_ok
      · rename_i segments arrives
        obtain rfl := pure_eq_ok.mp segment
        obtain ⟨stored, -⟩ := SegmentTable.arrive_keeps (fun _ isPlain => isPlain)
          (fun _ isPlain => isPlain) placed.stored plain arrives
        exact ⟨⟨isTailed, balanced, placed.entered, placed.down, old, stored⟩, List.forall_mem_nil _⟩
      · rename_i segments combined arrives
        obtain rfl := pure_eq_ok.mp segment
        obtain ⟨stored, isPlain⟩ := SegmentTable.arrive_keeps (fun _ isPlain => isPlain)
          (fun _ isPlain => isPlain) placed.stored plain arrives
        refine ⟨⟨isTailed, balanced, placed.entered, placed.down, ?_, stored⟩, List.forall_mem_nil _⟩
        intro other packet' isMember
        have isMember' : packet' ∈ contents ((s.setUp l (insertAt (eraseAt (s.upBuffers l) i
          packet.LNG) 0 (ActiveRouting.tailed combined))).upBuffers other) := isMember
        rw [upBuffers_setUp] at isMember'
        by_cases same : other = l
        · subst same
          rw [if_pos rfl, contents_insertFront] at isMember'
          rcases List.mem_cons.mp isMember' with rfl | rest
          · exact .of_plain (isPlain packet' rfl)
          · apply old other packet'
            rw [upBuffers_setUp, if_pos rfl]
            exact rest
        · rw [if_neg same] at isMember'
          exact placed.up other packet' isMember'
    · obtain ⟨visit, visited, done⟩ := bind_eq_ok.mp visits
      obtain ⟨rfl, rfl⟩ := Prod.mk.inj (pure_eq_ok.mp done)
      obtain ⟨fate, sends, entered⟩ := arrived.visited positive placed.entered
        (visitResponse_cases arrived.answering.operand visited)
      refine ⟨⟨isTailed, balanced, entered, placed.down, ?_, placed.stored⟩, sends⟩
      intro other packet' isMember
      have isMember' : packet' ∈ contents ((s.setUp l
        (applyFate (s.upBuffers l) i packet visit.fate)).upBuffers other) := isMember
      rw [upBuffers_setUp] at isMember'
      by_cases same : other = l
      · subst same
        rw [if_pos rfl, left] at isMember'
        rcases mem_leaves isMember' with old | isNew | isNew
        · exact placed.up other packet' (whole ▸ old)
        · exact absurd isNew (fate packet').1
        · exact absurd isNew (fate packet').2
      · rw [if_neg same] at isMember'
        exact placed.up other packet' isMember'
  · obtain ⟨rfl, rfl⟩ := Prod.mk.inj (pure_eq_ok.mp visits)
    exact ⟨placed, List.forall_mem_nil _⟩

/-- The operands of a cube are processed. -/
theorem CubePlaced.processOperands (placed : CubePlaced c cube s)
    (processes : CrossbarSwitch.processOperands (c.cube cube) s.tables = .ok t') :
    CubePlaced c cube (s.setTables t') where
  tailed := placed.tailed.setTables t'
  balanced := (processOperands_balanced placed.balanced).holds processes
  entered flow e found := by
    have same := (Frees.processOperands processes).flows flow
    have isEntry : t'.flowTable flow = some e := found
    rw [isEntry] at same
    obtain ⟨e', found', standing⟩ := Option.map_eq_some_iff.mp same.symm
    obtain ⟨parent, counts, flags, -⟩ : e'.parent = e.parent ∧
        e'.children_count = e.children_count ∧ e'.children_gflag = e.children_gflag ∧
          e'.g_flag = e.g_flag := by
      simpa [CrossbarSwitch.standing] using standing
    refine (placed.entered flow e' found').congr parent.symm fun link counted => ?_
    rwa [counts, flags]
  down := placed.down
  up := placed.up
  stored := placed.stored

/-- A flow is committed: its answer goes to the parent. -/
theorem CubePlaced.commit (placed : CubePlaced c cube s) (connected : c.Connected)
    (answers : Answers) (flow : BitVec 64) :
    CubePlaced c cube (s.setTables (commit (c.cube cube) answers s.tables flow).1) ∧
      ∀ message ∈ (commit (c.cube cube) answers s.tables flow).2, SentUp c cube message := by
  have tailed := placed.tailed.setTables (CrossbarSwitch.commit (c.cube cube) answers s.tables flow).1
  have balanced := (commit_balanced placed.balanced answers flow).1
  rcases commit_cases (c.cube cube) answers s.tables flow with nothing | commits
  · rw [nothing]
    exact ⟨placed, List.forall_mem_nil _⟩
  · obtain ⟨flowEntry, found, -, -, commits⟩ := commits
    rw [commits] at tailed balanced ⊢
    have entered := placed.entered flow flowEntry found
    constructor
    · refine ⟨tailed, balanced, ?_, placed.down, placed.up, placed.stored⟩
      intro other e isEntry
      by_cases same : other = flow
      · subst same
        simp [CrossbarSwitch.setTables, FlowTables.setFlow] at isEntry
      · apply placed.entered other e
        simpa [CrossbarSwitch.setTables, FlowTables.setFlow, same] using isEntry
    · refine List.forall_mem_singleton.mpr ?_
      refine ⟨by show 0 < 2; decide, ⟨fun _ => rfl, rfl⟩, fun _ => ?_⟩
      refine ⟨cube, entered.inside, ?_, rfl, entered.parent⟩
      exact congrArg (LinkEnd.hmc cube) (entered.answerLink connected)

/-- A request that arrives in a cube. -/
theorem CubePlaced.receiveDown (placed : CubePlaced c cube s) (arrived : Arrived c cube l packet)
    (positive : 0 < packet.LNG) :
    CubePlaced c cube (s.setDown l (receive (s.downBuffers l) packet)) where
  tailed := placed.tailed.setDown (receive_isBlocks (placed.tailed.down l) positive)
  balanced := placed.balanced
  entered := placed.entered
  down other packet' member := by
    rw [downBuffers_setDown] at member
    by_cases same : other = l
    · subst same
      rw [if_pos rfl] at member
      rcases contents_receive (s.downBuffers other) packet with full | fits
      · exact placed.down other packet' (full ▸ member)
      · rw [fits, List.mem_append, List.mem_singleton] at member
        rcases member with old | rfl
        · exact placed.down other packet' old
        · exact arrived
    · rw [if_neg same] at member
      exact placed.down other packet' member
  up := placed.up
  stored := placed.stored

/-- A response that arrives in a cube. -/
theorem CubePlaced.receiveUp (placed : CubePlaced c cube s) (arrived : ArrivedUp c cube l packet)
    (positive : 0 < packet.LNG) :
    CubePlaced c cube (s.setUp l (receive (s.upBuffers l) packet)) where
  tailed := placed.tailed.setUp (receive_isBlocks (placed.tailed.up l) positive)
  balanced := placed.balanced
  entered := placed.entered
  down := placed.down
  up other packet' member := by
    rw [upBuffers_setUp] at member
    by_cases same : other = l
    · subst same
      rw [if_pos rfl] at member
      rcases contents_receive (s.upBuffers other) packet with full | fits
      · exact placed.up other packet' (full ▸ member)
      · rw [fits, List.mem_append, List.mem_singleton] at member
        rcases member with old | rfl
        · exact placed.up other packet' old
        · exact arrived
    · rw [if_neg same] at member
      exact placed.up other packet' member
  stored := placed.stored

/-! ## Links -/

theorem Travels.arrived (travels : Travels c m packet) (connected : c.Connected)
    (wire : c.net.linkSlaveP m = some (.hmc cube l)) : Arrived c cube l packet where
  active := travels.active
  update some := by
    obtain ⟨node, rfl, routed⟩ := travels.update some
    rw [connected.feed_slave _ routed.inside] at wire
    obtain ⟨rfl, rfl⟩ := LinkEnd.hmc.inj (Option.some.inj wire)
    exact ⟨rfl, routed⟩
  get isGet := by
    obtain ⟨node, inside, rfl, isDest⟩ := travels.get isGet
    rw [connected.feed_slave _ inside] at wire
    obtain ⟨rfl, rfl⟩ := LinkEnd.hmc.inj (Option.some.inj wire)
    exact ⟨inside, rfl, .inl isDest⟩

theorem TravelsUp.arrived (travels : TravelsUp c m packet) (connected : c.Connected)
    (wire : c.net.linkSlaveP m = some (.hmc cube l)) : ArrivedUp c cube l packet where
  answering := travels.answering
  get isGet := by
    obtain ⟨node, inside, rfl, isSource, isDest⟩ := travels.get isGet
    have notRoot : node ≠ c.root packet.DESTADRS := by
      rintro rfl
      rw [CubeNetworkConfig.upLink, (connected.attached packet.DESTADRS).linkOut] at wire
      cases wire
    have child := connected.child_parent inside notRoot
    rw [(connected.links child).2.2.2.2.1] at wire
    obtain ⟨rfl, rfl⟩ := LinkEnd.hmc.inj (Option.some.inj wire)
    exact ⟨(connected.links child).1, isDest, node, child, isSource, rfl⟩

/-- The request of a controller is at the root of its flow. -/
theorem Updates.travels {network : CubeNetwork M} {cont : ℕ} (updates : Updates c network cont packet)
    (connected : c.Connected) (isUpdate : CrossbarSwitch.isUpdate packet = true)
    (positive : 0 < packet.LNG) : Travels c (.hmcCont cont) packet where
  positive := positive
  active := ⟨fun _ => updates.fits, fun _ _ => updates.whole, fun _ _ => updates.lines,
    fun _ => updates.short, fun _ => updates.nonzero⟩
  update _ := by
    have inRoot := connected.root_lt packet.DESTADRS
    have isSplit : packet.splitCube c.net =
        c.net.splitCube packet.dest1 packet.dest2 c.net.nodes (c.root packet.DESTADRS) := by
      rw [Packet.splitCube, updates.source, Int.toNat_natCast]
    refine ⟨c.root packet.DESTADRS, ?_, inRoot, updates.source, updates.inside1, updates.inside2,
      .source, .source, ?_, ?_, ?_⟩
    · rw [CubeNetworkConfig.feed, if_pos rfl, updates.home]
    · rw [isSplit]
      exact connected.supports.splitsAt_splitCube updates.inside1 packet.dest2 inRoot
    · intro _
      by_cases isMult : packet.CMD = .ACT_MULT
      · rw [Packet.dest1, if_pos isMult, ← (updates.first isMult).1, Int.toNat_of_nonneg updates.dest]
      · rw [Packet.dest1, if_neg isMult, Int.toNat_of_nonneg updates.dest]
    · intro isMult
      obtain ⟨first, second⟩ := updates.first isMult
      rw [Packet.dest1, Packet.dest2, if_pos isMult, if_pos isMult, Int.toNat_of_nonneg second,
        Int.toNat_of_nonneg (first ▸ updates.dest)]
      exact ⟨rfl, rfl⟩
  get isGet := by
    rw [not_isUpdate_of_get isGet] at isUpdate
    cases isUpdate

theorem Asks.travels {network : CubeNetwork M} {cont : ℕ} (asks : Asks c network cont packet)
    (connected : c.Connected) (isGet : packet.CMD = .ACT_GET) (positive : 0 < packet.LNG) :
    Travels c (.hmcCont cont) packet where
  positive := positive
  active := by
    have isOther := not_isUpdate_of_get isGet
    exact ⟨fun _ => asks.fits, fun updates => absurd updates (by simp [isOther]),
      fun updates => absurd updates (by simp [isOther]),
      fun updates => absurd updates (by simp [isOther]),
      fun updates => absurd updates (by simp [isOther])⟩
  update some := absurd (operands_of_not_update (not_isUpdate_of_get isGet)) some
  get _ := by
    refine ⟨c.root packet.DESTADRS, connected.root_lt _, ?_, asks.dest⟩
    rw [CubeNetworkConfig.feed, if_pos rfl, asks.home]

/-! ## The network -/

variable (c)

/-- Every packet of a network is in its place. -/
structure WellPlaced (s : CubeNetwork M) : Prop where
  cubes : ∀ cube, CubePlaced c cube (s.cubes cube)
  requests : ∀ m, ∀ packet ∈ s.requests m, Travels c m packet
  responses : ∀ m, ∀ packet ∈ s.responses m, TravelsUp c m packet
  vaults : ∀ cube, ∀ packet ∈ s.vaults cube, Answering packet ∧ packet.CMD ≠ .ACT_GET

variable {c} {network network' : CubeNetwork M}

namespace WellPlaced

theorem setCube (placed : WellPlaced c network) {switch : CrossbarSwitch}
    (isPlaced : CubePlaced c cube switch) : WellPlaced c (network.setCube cube switch) where
  cubes other := by
    by_cases same : other = cube
    · subst same
      simpa [CubeNetwork.setCube] using isPlaced
    · simpa [CubeNetwork.setCube, same] using placed.cubes other
  requests := placed.requests
  responses := placed.responses
  vaults := placed.vaults

theorem setRequests (placed : WellPlaced c network) {packets : List Packet}
    (travel : ∀ packet ∈ packets, Travels c m packet) :
    WellPlaced c (network.setRequests m packets) where
  cubes := placed.cubes
  requests other := by
    by_cases same : other = m
    · subst same
      simpa [CubeNetwork.setRequests] using travel
    · simpa [CubeNetwork.setRequests, same] using placed.requests other
  responses := placed.responses
  vaults := placed.vaults

theorem setResponses (placed : WellPlaced c network) {packets : List Packet}
    (travel : ∀ packet ∈ packets, TravelsUp c m packet) :
    WellPlaced c (network.setResponses m packets) where
  cubes := placed.cubes
  requests := placed.requests
  responses other := by
    by_cases same : other = m
    · subst same
      simpa [CubeNetwork.setResponses] using travel
    · simpa [CubeNetwork.setResponses, same] using placed.responses other
  vaults := placed.vaults

theorem setVault (placed : WellPlaced c network) {packets : List Packet}
    (stay : ∀ packet ∈ packets, Answering packet ∧ packet.CMD ≠ .ACT_GET) :
    WellPlaced c (network.setVault cube packets) where
  cubes := placed.cubes
  requests := placed.requests
  responses := placed.responses
  vaults other := by
    by_cases same : other = cube
    · subst same
      simpa [CubeNetwork.setVault] using stay
    · simpa [CubeNetwork.setVault, same] using placed.vaults other

/-- What is not a packet may change. -/
theorem congr (placed : WellPlaced c network) (cubes : network'.cubes = network.cubes)
    (requests : network'.requests = network.requests)
    (responses : network'.responses = network.responses)
    (vaults : network'.vaults = network.vaults) : WellPlaced c network' :=
  ⟨cubes ▸ placed.cubes, requests ▸ placed.requests, responses ▸ placed.responses,
    vaults ▸ placed.vaults⟩

theorem sendDown (placed : WellPlaced c network) {sent : List (Port × Packet)}
    (sends : ∀ message ∈ sent, SentDown c cube message) :
    WellPlaced c (sent.foldl (CubeNetwork.sendDown cube) network) := by
  induction sent generalizing network with
  | nil => exact placed
  | cons message sent ih =>
    obtain ⟨first, others⟩ := List.forall_mem_cons.mp sends
    rw [List.foldl_cons]
    refine ih ?_ others
    obtain ⟨port, packet⟩ := message
    cases port with
    | vault vaultMap =>
      exact placed.setVault (List.forall_mem_append.mpr
        ⟨placed.vaults cube, List.forall_mem_singleton.mpr first⟩)
    | link link =>
      exact placed.setRequests (List.forall_mem_append.mpr
        ⟨placed.requests _, List.forall_mem_singleton.mpr first⟩)

theorem sendUp (placed : WellPlaced c network) {sent : List (Port × Packet)}
    (sends : ∀ message ∈ sent, SentUp c cube message) :
    WellPlaced c (sent.foldl (CubeNetwork.sendUp cube) network) := by
  induction sent generalizing network with
  | nil => exact placed
  | cons message sent ih =>
    obtain ⟨first, others⟩ := List.forall_mem_cons.mp sends
    rw [List.foldl_cons]
    refine ih ?_ others
    obtain ⟨port, packet⟩ := message
    cases port with
    | vault vaultMap => exact placed
    | link link =>
      exact placed.setResponses (List.forall_mem_append.mpr
        ⟨placed.responses _, List.forall_mem_singleton.mpr first⟩)

end WellPlaced

/-! ## The vaults -/

/-- The responses of a vault: those to reads of operands are active. -/
theorem respondPacket_cases {retCMD : DRAMCommand} {response : Packet} {space : ℕ}
    (responds : VaultController.respondPacket retCMD = .ok (response, space)) :
    0 < response.LNG ∧ (response.isActive = false ∨
      response.CMD = retCMD.packetCMD ∧ isUpdate response = true ∧
        response.segment = retCMD.segment ∧ response.SRCADRS1 = retCMD.srcAddr1 ∧
          retCMD.commandType = .READ_DATA) := by
  rw [VaultController.respondPacket] at responds
  split at responds
  · split at responds
    · obtain ⟨rfl, -⟩ := Prod.mk.inj (Except.ok.inj responds)
      exact ⟨Nat.one_pos, .inl rfl⟩
    split at responds
    · obtain ⟨rfl, -⟩ := Prod.mk.inj (Except.ok.inj responds)
      exact ⟨Nat.one_pos, .inl rfl⟩
    · obtain ⟨rfl, -⟩ := Prod.mk.inj (Except.ok.inj responds)
      exact ⟨Nat.two_pos, .inl rfl⟩
  · split at responds
    · obtain ⟨rfl, -⟩ := Prod.mk.inj (Except.ok.inj responds)
      exact ⟨Nat.one_pos, .inl rfl⟩
    · rename_i isRead
      split at responds
      · rename_i isAdd
        obtain ⟨rfl, -⟩ := Prod.mk.inj (Except.ok.inj responds)
        refine ⟨Nat.succ_pos _, .inr ⟨rfl, ?_, rfl, rfl, isRead⟩⟩
        simp [isUpdate, VaultController.operandResponse, VaultController.response, isAdd]
      · rename_i isDot
        obtain ⟨rfl, -⟩ := Prod.mk.inj (Except.ok.inj responds)
        refine ⟨Nat.succ_pos _, .inr ⟨rfl, ?_, rfl, rfl, isRead⟩⟩
        simp [isUpdate, VaultController.operandResponse, VaultController.response, isDot]
      · obtain ⟨rfl, -⟩ := Prod.mk.inj (Except.ok.inj responds)
        exact ⟨Nat.two_pos, .inl rfl⟩
      · rename_i isMult
        split at responds
        · obtain ⟨rfl, -⟩ := Prod.mk.inj (Except.ok.inj responds)
          refine ⟨Nat.two_pos, .inr ⟨rfl, ?_, rfl, rfl, isRead⟩⟩
          simp [isUpdate, VaultController.operandResponse, VaultController.response, isMult]
        · cases responds
      · obtain ⟨rfl, -⟩ := Prod.mk.inj (Except.ok.inj responds)
        exact ⟨Nat.succ_pos _, .inl rfl⟩
    · cases responds

/-- A vault answers a request for an operand with the address that was asked for. -/
theorem respond_answering {dram : DRAMConfig} {request response : Packet}
    (answering : Answering request)
    (responds : SegmentTable.respond dram request = .ok response) :
    Answering response ∧ response.CMD ≠ .ACT_GET ∧ 0 < response.LNG := by
  rw [SegmentTable.respond] at responds
  split at responds
  · exact absurd responds throw_ne_ok
  · rename_i kind isKind
    obtain ⟨⟨response', space⟩, makes, same⟩ := bind_eq_ok.mp responds
    obtain rfl := pure_eq_ok.mp same
    obtain ⟨positive, plain | ⟨CMD, updates, segment, SRCADRS1, reads⟩⟩ := respondPacket_cases makes
    · exact ⟨.of_plain plain, (plain_iff.mp plain).2, positive⟩
    · have sameCMD : response'.CMD = request.CMD := CMD
      have isRead : kind.tempCMD.isRead = true := by
        by_contra isWrite
        have isOther : (if kind.tempCMD.isRead = true then DRAMCommandType.READ_DATA
            else .WRITE_DATA) = .READ_DATA := reads
        rw [if_neg isWrite] at isOther
        cases isOther
      have isOperand : (kind.tempCMD.isRead && (request.CMD = .ACT_ADD || request.CMD = .ACT_DOT ||
          request.CMD = .ACT_MULT)) = true := by
        rw [isUpdate_congr sameCMD] at updates
        simpa [isRead, isUpdate, or_assoc] using updates
      have address : response'.SRCADRS1 = request.SRCADRS1 := by
        rw [SRCADRS1]
        exact if_pos isOperand
      refine ⟨answering.congr sameCMD segment address, ?_, positive⟩
      intro isGet
      rw [not_isUpdate_of_get isGet] at updates
      cases updates

theorem vaultReply_answering {dram : DRAMConfig} {request response : Packet}
    (answering : Answering request) (replies : vaultReply dram request = .ok (some response)) :
    Answering response ∧ response.CMD ≠ .ACT_GET ∧ 0 < response.LNG := by
  rw [vaultReply] at replies
  split at replies
  · cases pure_eq_ok.mp replies
  · cases responds : SegmentTable.respond dram request with
    | error error =>
      rw [responds] at replies
      cases replies
    | ok response' =>
      rw [responds] at replies
      obtain rfl := Option.some.inj (Except.ok.inj replies)
      exact respond_answering answering responds

/-! ## Runs -/

theorem WellPlaced.start [AddCommMonoid M] (c : CubeNetworkConfig M) :
    WellPlaced c (CubeNetwork.start c) where
  cubes cube := .start c cube
  requests _ _ member := by cases member
  responses _ _ member := by cases member
  vaults _ _ member := by cases member

theorem WellPlaced.arriveDown (placed : WellPlaced c network) (connected : c.Connected)
    (m : LinkEnd) : WellPlaced c (network.arriveDown c m) := by
  rw [CubeNetwork.arriveDown]
  split
  · rename_i packet rest node link isFirst wire
    split
    · have travels := placed.requests m
      rw [isFirst] at travels
      obtain ⟨first, others⟩ := List.forall_mem_cons.mp travels
      exact (placed.setRequests others).setCube
        ((placed.cubes node).receiveDown (first.arrived connected wire) first.positive)
    · exact placed
  · exact placed

theorem WellPlaced.arriveUp (placed : WellPlaced c network) (connected : c.Connected)
    (m : LinkEnd) : WellPlaced c (network.arriveUp c m) := by
  have others : ∀ {packet : Packet} {rest : List Packet}, network.responses m = packet :: rest →
      ∀ packet ∈ rest, TravelsUp c m packet := by
    intro packet rest isFirst other member
    exact placed.responses m other (isFirst ▸ List.mem_cons_of_mem packet member)
  rw [CubeNetwork.arriveUp]
  split
  · rename_i packet rest node link isFirst wire
    have first := placed.responses m packet (isFirst ▸ List.mem_cons_self)
    split
    · exact (placed.setResponses (others isFirst)).setCube
        ((placed.cubes node).receiveUp (first.arrived connected wire) first.positive)
    · exact placed
  · rename_i packet rest cont isFirst wire
    have noted := placed.setResponses (others isFirst)
    rw [noteAnswer]
    split
    · exact noted.congr rfl rfl rfl rfl
    · exact noted
  · exact placed

theorem WellPlaced.reply (placed : WellPlaced c network) {i : ℕ}
    (replies : network.reply c cube i = .ok network') : WellPlaced c network' := by
  rw [CubeNetwork.reply] at replies
  split at replies
  · obtain rfl := pure_eq_ok.mp replies
    exact placed
  · rename_i request found
    have answering := placed.vaults cube request (List.mem_of_getElem? found)
    have others : ∀ packet ∈ (network.vaults cube).eraseIdx i,
        Answering packet ∧ packet.CMD ≠ .ACT_GET := fun packet member =>
      placed.vaults cube packet (List.mem_of_mem_eraseIdx member)
    obtain ⟨answer, answers, done⟩ := bind_eq_ok.mp replies
    cases answer with
    | none =>
      obtain rfl := pure_eq_ok.mp done
      exact placed.setVault others
    | some response =>
      obtain ⟨answering', notGet, positive⟩ := vaultReply_answering answering.1 answers
      simp only at done
      split at done
      · obtain rfl := pure_eq_ok.mp done
        exact (placed.setVault others).setCube ((placed.cubes cube).receiveUp
          ⟨answering', fun isGet => absurd isGet notGet⟩ positive)
      · obtain rfl := pure_eq_ok.mp done
        exact placed

theorem WellPlaced.commitFlow [AddCommMonoid M] (placed : WellPlaced c network)
    (connected : c.Connected) (answers : Answers) (flow : BitVec 64) :
    WellPlaced c (network.commitFlow c cube flow answers) := by
  obtain ⟨isPlaced, sends⟩ := (placed.cubes cube).commit connected answers flow
  have sent := (placed.setCube isPlaced).sendUp sends
  rw [CubeNetwork.commitFlow]
  split
  · exact sent
  · exact sent.congr rfl rfl rfl rfl

theorem ofCube_eq_ok {α : Type} {x : Except CubeError α} {a : α} (succeeds : ofCube x = .ok a) :
    x = .ok a := by
  cases x with
  | error error => cases succeeds
  | ok b => exact congrArg Except.ok (Except.ok.inj succeeds)

theorem WellPlaced.issue [AddCommMonoid M] (placed : WellPlaced c network) (connected : c.Connected)
    {cont : ℕ} (positive : 0 < packet.LNG) (updates : isUpdate packet = true → Updates c network cont packet)
    (asks : packet.CMD = .ACT_GET → Asks c network cont packet) :
    WellPlaced c ((network.setRequests (.hmcCont cont)
      (network.requests (.hmcCont cont) ++ [packet])).note c packet) := by
  have travels : Travels c (.hmcCont cont) packet := by
    by_cases isUpd : isUpdate packet = true
    · exact (updates isUpd).travels connected isUpd positive
    · by_cases isGet : packet.CMD = .ACT_GET
      · exact (asks isGet).travels connected isGet positive
      · exact .of_plain positive (plain_iff.mpr ⟨by simpa using isUpd, isGet⟩)
  have sent := placed.setRequests (List.forall_mem_append.mpr
    ⟨placed.requests (.hmcCont cont), List.forall_mem_singleton.mpr travels⟩)
  rw [note]
  split
  · exact sent.congr rfl rfl rfl rfl
  · split
    · exact sent.congr rfl rfl rfl rfl
    · exact sent

/-- Every step leaves every packet in its place. -/
theorem WellPlaced.step [AddCommMonoid M] (placed : WellPlaced c network) (connected : c.Connected)
    {action : Action} (stepped : network.step c action = .ok network')
    (guarded : Guard c network action network') : WellPlaced c network' := by
  cases action with
  | issue cont packet =>
    obtain ⟨positive, updates, asks⟩ := guarded
    obtain rfl := pure_eq_ok.mp stepped
    exact placed.issue connected positive updates asks
  | request m =>
    obtain rfl := pure_eq_ok.mp stepped
    exact placed.arriveDown connected m
  | response m =>
    obtain rfl := pure_eq_ok.mp stepped
    exact placed.arriveUp connected m
  | visitUp cube l i answers =>
    obtain ⟨⟨switch, sent⟩, visits, done⟩ := bind_eq_ok.mp stepped
    obtain rfl := pure_eq_ok.mp done
    obtain ⟨isPlaced, sends⟩ := (placed.cubes cube).visitUp (ofCube_eq_ok visits)
    exact (placed.setCube isPlaced).sendUp sends
  | visitDown cube l i answers =>
    obtain ⟨⟨switch, sent⟩, visits, done⟩ := bind_eq_ok.mp stepped
    obtain rfl := pure_eq_ok.mp done
    obtain ⟨isPlaced, sends⟩ := (placed.cubes cube).visitDown connected (ofCube_eq_ok visits)
    exact (placed.setCube isPlaced).sendDown sends
  | processOperands cube =>
    obtain ⟨tables, processes, done⟩ := bind_eq_ok.mp stepped
    obtain rfl := pure_eq_ok.mp done
    exact (placed.setCube ((placed.cubes cube).processOperands (ofCube_eq_ok processes))).congr
      rfl rfl rfl rfl
  | commit cube flow answers =>
    obtain rfl := pure_eq_ok.mp stepped
    exact placed.commitFlow connected answers flow
  | reply cube i => exact placed.reply stepped

end CubeNetwork

end ActiveRouting

import ActiveRouting.Host.Transaction
import ActiveRouting.Vault.VaultController

/-!
# Segmentation of large requests

A request for more than a block is divided by the crossbar switch of its cube
into segments of a block (`CrossbarSwitch::Update`), which different vaults
serve.  Their responses are combined into one.
-/

namespace ActiveRouting

/-- The part of `CrossbarSwitch` that keeps track of segments. -/
structure SegmentTable where
  pendingSegTag : List ℕ := []
  pendingSegPacket : List Packet := []

namespace SegmentTable

variable (c : DRAMConfig)

/-! ## Division -/

/-- `segPacket`: the size in blocks, rounded up. -/
def segPacket (request : Packet) : ℕ :=
  (request.reqDataSize + c.addressMapping - 1) / c.addressMapping

/-- Segment `j` of a request. -/
def vaultPacket (request : Packet) (j : ℕ) : Packet :=
  { request with
    reqDataSize := c.addressMapping
    LNG := if 1 < request.LNG then 1 + c.addressMapping / 16 else request.LNG
    ADRS := request.ADRS + BitVec.ofNat 64 (j * c.addressMapping)
    segment := true }

def segments (request : Packet) : List Packet :=
  (List.range (segPacket c request)).map (vaultPacket c request)

/-- The tags of the segments of a request are noted. -/
def divide (s : SegmentTable) (request : Packet) : SegmentTable :=
  { s with
    pendingSegTag := s.pendingSegTag ++ List.replicate (segPacket c request) request.TAG }

/-! ## Combination -/

/-- A stored segment takes up another. -/
def lengthen (stored packet : Packet) : Packet :=
  { stored with LNG := if 1 < packet.LNG then stored.LNG + c.addressMapping / 16 else stored.LNG }

/-- The combined packet is no segment. -/
def combPacket (packet : Packet) : Packet := { packet with segment := false }

/-- A segment meets the first stored one of its tag; the last one completes it. -/
def combine (packet : Packet) (last : Bool) : List Packet → Option (List Packet × Option Packet)
  | [] => none
  | stored :: rest =>
    if packet.TAG = stored.TAG then
      if last then some (rest, some (combPacket (lengthen c stored packet)))
      else some (lengthen c stored packet :: rest, none)
    else (combine packet last rest).map fun (rest', combined) => (stored :: rest', combined)

/-- What `Update` does with a segment that arrives, and the packet that is
    complete then; a tag that is not pending ends the simulation.  The tag is erased
    where it is found first, so that the search for another one behind that place
    is a search in the whole list. -/
def arrive (s : SegmentTable) (packet : Packet) : Option (SegmentTable × Option Packet) :=
  if packet.TAG ∈ s.pendingSegTag then
    match combine c packet (packet.TAG ∉ s.pendingSegTag.erase packet.TAG) s.pendingSegPacket with
    | some (packets, combined) => some (⟨s.pendingSegTag.erase packet.TAG, packets⟩, combined)
    | none => some (⟨s.pendingSegTag.erase packet.TAG, s.pendingSegPacket ++ [packet]⟩, none)
  else none

/-! ## The rest of the way -/

/-- The operands of active requests are read for the crossbar switch itself. -/
def isOperand (packet : Packet) : Bool :=
  packet.CMD = .ACT_ADD || packet.CMD = .ACT_DOT || packet.CMD = .ACT_MULT

/-- A packet as it goes to a vault: the crossbar switch of cube `cubeID` asks for
    operands in its own name. -/
def toVault (cubeID : ℤ) (packet : Packet) : Packet :=
  if isOperand packet then { packet with SRCCUB := cubeID, DESTCUB := cubeID } else packet

/-- The response of a vault to a request: that to its last command. -/
def respond (request : Packet) : Except VaultError Packet :=
  match VaultController.requestKind c request.CMD with
  | none => throw .wrongPacket
  | some kind => do
    let last := VaultController.rwCMD c request kind (VaultController.blocks request - 1)
    let (response, _) ← VaultController.respondPacket
      (last.withType (if kind.tempCMD.isRead then .READ_DATA else .WRITE_DATA))
    pure response

/-- A response is passed on upstream, unless it is for the crossbar switch itself. -/
def goesUp (cubeID : ℤ) (packet : Packet) : Bool :=
  !(packet.CMD = .ACT_ADD || packet.CMD = .ACT_DOT ||
    packet.CMD = .ACT_MULT && packet.DESTCUB = cubeID ||
    packet.CMD = .ACT_GET && packet.DESTCUB = cubeID && packet.SRCCUB ≠ cubeID)

/-- What happens to the table: a request is divided, or the response to a segment
    arrives. -/
inductive Event where
  | divide (request : Packet)
  | arrive (response : Packet)

def Event.TAG : Event → ℕ
  | .divide request => request.TAG
  | .arrive response => response.TAG

/-- The table after an event, with what is sent upstream. -/
def handle (cubeID : ℤ) (s : SegmentTable) : Event → Option (SegmentTable × List Packet)
  | .divide request => some (s.divide c request, [])
  | .arrive response =>
    (s.arrive c response).map fun (s', combined) => (s', combined.toList.filter (goesUp cubeID))

def run (cubeID : ℤ) : SegmentTable → List Event → Option (SegmentTable × List Packet)
  | s, [] => some (s, [])
  | s, event :: events =>
    (handle c cubeID s event).bind fun (s', sent) =>
      (run cubeID s' events).map fun (s'', more) => (s'', sent ++ more)

/-! ## Reassembled in order -/

/-- No segment of a tag is pending. -/
structure Fresh (s : SegmentTable) (tag : ℕ) : Prop where
  tags : tag ∉ s.pendingSegTag
  packets : ∀ packet ∈ s.pendingSegPacket, packet.TAG ≠ tag

/-- The bytes of a request. -/
def bytes (request : Packet) : List ℕ := List.range' request.ADRS.toNat request.reqDataSize

/-- The responses of a tag that arrive among events. -/
def arrivals (tag : ℕ) (events : List Event) : List Packet :=
  events.filterMap fun event => match event with
    | .divide _ => none
    | .arrive response => if response.TAG = tag then some response else none

/-- In whatever order the responses to the segments arrive, among whatever events of
    other tags, one response is sent upstream, of the length of the response to the
    whole request, and nothing of it stays pending. -/
def Returns (cubeID : ℤ) (request : Packet) : Prop :=
  ∃ responses whole,
    List.Forall₂ (fun segment response => respond c (toVault cubeID segment) = .ok response)
      (segments c request) responses ∧
    respond c (toVault cubeID request) = .ok whole ∧
    ∀ (s : SegmentTable) (events : List Event), s.Fresh request.TAG →
      (∀ other, .divide other ∈ events → other.TAG ≠ request.TAG) →
      (arrivals request.TAG events).Perm responses →
      (run c cubeID s (events.filter fun event => event.TAG ≠ request.TAG)).isSome →
      ∃ s' sent, run c cubeID (s.divide c request) events = some (s', sent) ∧
        (∃ response, (sent.filter fun packet => packet.TAG = request.TAG) = [response] ∧
          response.LNG = whole.LNG) ∧ s'.Fresh request.TAG

/-- A request is divided and its responses combined; the segments cover its bytes
    once each. -/
structure RoundTrip (cubeID : ℤ) (request : Packet) : Prop where
  covers : (segments c request).flatMap bytes = bytes request
  returns : Returns c cubeID request

/-! ## One tag among others -/

variable {c}

@[simp] theorem lengthen_TAG (stored packet : Packet) : (lengthen c stored packet).TAG = stored.TAG :=
  rfl

@[simp] theorem combPacket_TAG (packet : Packet) : (combPacket packet).TAG = packet.TAG := rfl

/-- The packets of a tag. -/
def ofTag (tag : ℕ) (packets : List Packet) : List Packet :=
  packets.filter fun packet => packet.TAG = tag

/-- The packets of other tags. -/
def notOfTag (tag : ℕ) (packets : List Packet) : List Packet :=
  packets.filter fun packet => packet.TAG ≠ tag

theorem ofTag_cons_self {tag : ℕ} {packet : Packet} (isTag : packet.TAG = tag)
    (packets : List Packet) : ofTag tag (packet :: packets) = packet :: ofTag tag packets := by
  simp [ofTag, isTag]

theorem ofTag_cons_other {tag : ℕ} {packet : Packet} (notTag : packet.TAG ≠ tag)
    (packets : List Packet) : ofTag tag (packet :: packets) = ofTag tag packets := by
  simp [ofTag, notTag]

theorem notOfTag_cons_self {tag : ℕ} {packet : Packet} (isTag : packet.TAG = tag)
    (packets : List Packet) : notOfTag tag (packet :: packets) = notOfTag tag packets := by
  simp [notOfTag, isTag]

theorem notOfTag_cons_other {tag : ℕ} {packet : Packet} (notTag : packet.TAG ≠ tag)
    (packets : List Packet) :
    notOfTag tag (packet :: packets) = packet :: notOfTag tag packets := by
  simp [notOfTag, notTag]

theorem ofTag_append (tag : ℕ) (packets more : List Packet) :
    ofTag tag (packets ++ more) = ofTag tag packets ++ ofTag tag more :=
  List.filter_append packets more

/-- Where no segment of the tag is stored, none is combined. -/
theorem combine_of_none {packet : Packet} {last : Bool} : ∀ {packets : List Packet},
    ofTag packet.TAG packets = [] → combine c packet last packets = none
  | [], _ => rfl
  | stored :: rest, noneStored => by
    by_cases same : packet.TAG = stored.TAG
    · rw [ofTag_cons_self same.symm] at noneStored
      cases noneStored
    · rw [ofTag_cons_other (Ne.symm same)] at noneStored
      rw [combine, if_neg same, combine_of_none noneStored]
      rfl

/-- Where one segment of the tag is stored, it takes up the one that arrives, and
    the others stay as they are. -/
theorem combine_of_one {packet first : Packet} (last : Bool) : ∀ {packets : List Packet},
    ofTag packet.TAG packets = [first] → ∃ packets',
      combine c packet last packets = some (packets',
        if last then some (combPacket (lengthen c first packet)) else none) ∧
      ofTag packet.TAG packets' = (if last then [] else [lengthen c first packet]) ∧
      notOfTag packet.TAG packets' = notOfTag packet.TAG packets
  | [], one => nomatch one
  | stored :: rest, one => by
    by_cases same : packet.TAG = stored.TAG
    · rw [ofTag_cons_self same.symm] at one
      obtain ⟨rfl, noMore⟩ := List.cons.inj one
      have lengthened : (lengthen c stored packet).TAG = packet.TAG := same.symm
      cases last with
      | true =>
        refine ⟨rest, by rw [combine, if_pos same]; rfl, noMore, ?_⟩
        rw [notOfTag_cons_self same.symm]
      | false =>
        refine ⟨lengthen c stored packet :: rest, by rw [combine, if_pos same]; rfl, ?_, ?_⟩
        · rw [ofTag_cons_self lengthened, noMore]
          rfl
        · rw [notOfTag_cons_self lengthened, notOfTag_cons_self same.symm]
    · rw [ofTag_cons_other (Ne.symm same)] at one
      obtain ⟨packets', combined, own, others⟩ := combine_of_one last one
      refine ⟨stored :: packets', by rw [combine, if_neg same, combined]; rfl, ?_, ?_⟩
      · rw [ofTag_cons_other (Ne.symm same), own]
      · rw [notOfTag_cons_other (Ne.symm same), notOfTag_cons_other (Ne.symm same), others]

/-- A segment of another tag meets the same packets whether those of the tag are
    there or not. -/
theorem combine_other {tag : ℕ} {packet : Packet} (last : Bool) (notTag : packet.TAG ≠ tag) :
    ∀ packets : List Packet,
      match combine c packet last packets with
      | none => combine c packet last (notOfTag tag packets) = none
      | some (packets', combined) =>
        combine c packet last (notOfTag tag packets) = some (notOfTag tag packets', combined) ∧
          ofTag tag packets' = ofTag tag packets ∧
          ∀ whole ∈ combined, whole.TAG = packet.TAG
  | [] => rfl
  | stored :: rest => by
    have inductionHypothesis := combine_other last notTag rest
    by_cases isTag : stored.TAG = tag
    · have other : packet.TAG ≠ stored.TAG := isTag ▸ notTag
      rw [combine, if_neg other, notOfTag_cons_self isTag]
      cases result : combine c packet last rest with
      | none =>
        rw [result] at inductionHypothesis
        exact inductionHypothesis
      | some parts =>
        rw [result] at inductionHypothesis
        obtain ⟨combined, own, tags⟩ := inductionHypothesis
        refine ⟨?_, ?_, tags⟩
        · rw [notOfTag_cons_self isTag, combined]
        · rw [ofTag_cons_self isTag, ofTag_cons_self isTag, own]
    · rw [notOfTag_cons_other isTag]
      by_cases same : packet.TAG = stored.TAG
      · cases last with
        | true =>
          rw [combine, if_pos same]
          refine ⟨by rw [combine, if_pos same]; rfl, by rw [ofTag_cons_other isTag], ?_⟩
          intro whole isWhole
          cases isWhole
          exact same.symm
        | false =>
          have lengthened : (lengthen c stored packet).TAG ≠ tag := isTag
          rw [combine, if_pos same]
          refine ⟨?_, ?_, fun whole isWhole => (nomatch isWhole)⟩
          · rw [combine, if_pos same, notOfTag_cons_other lengthened]
            rfl
          · rw [ofTag_cons_other lengthened, ofTag_cons_other isTag]
      · rw [combine, if_neg same]
        cases result : combine c packet last rest with
        | none =>
          rw [result] at inductionHypothesis
          show combine c packet last (stored :: notOfTag tag rest) = none
          rw [combine, if_neg same, inductionHypothesis]
          rfl
        | some parts =>
          rw [result] at inductionHypothesis
          obtain ⟨combined, own, tags⟩ := inductionHypothesis
          refine ⟨?_, ?_, tags⟩
          · rw [combine, if_neg same, combined, notOfTag_cons_other isTag]
            rfl
          · rw [ofTag_cons_other isTag, ofTag_cons_other isTag, own]

theorem filter_erase_self {tag : ℕ} (tags : List ℕ) :
    (tags.erase tag).filter (fun other => other ≠ tag) = tags.filter fun other => other ≠ tag := by
  induction tags with
  | nil => rfl
  | cons first rest inductionHypothesis =>
    by_cases isTag : first = tag
    · simp [isTag]
    · rw [List.erase_cons_tail (by simpa using isTag)]
      simp only [List.filter_cons, inductionHypothesis]

theorem filter_erase_other {tag other : ℕ} (ne : other ≠ tag) (tags : List ℕ) :
    (tags.erase other).filter (fun t => t ≠ tag) = (tags.filter fun t => t ≠ tag).erase other := by
  induction tags with
  | nil => rfl
  | cons first rest inductionHypothesis =>
    by_cases isOther : first = other
    · subst isOther
      simp [ne]
    · rw [List.erase_cons_tail (by simpa using isOther)]
      by_cases isTag : first = tag
      · simp only [List.filter_cons, isTag, inductionHypothesis]
        simp
      · simp only [List.filter_cons, inductionHypothesis]
        simp [isTag, List.erase_cons_tail (b := first) (by simpa using isOther)]

/-- A table in which `count` segments of a tag are pending and `stored` is what has
    arrived of it, beside the table of all other tags. -/
structure Beside (tag : ℕ) (others s : SegmentTable) (count : ℕ) (stored : Option Packet) :
    Prop where
  tags : s.pendingSegTag.filter (fun other => other ≠ tag) = others.pendingSegTag
  packets : notOfTag tag s.pendingSegPacket = others.pendingSegPacket
  count : s.pendingSegTag.count tag = count
  stored : ofTag tag s.pendingSegPacket = stored.toList

/-- Nothing of a fresh tag is in the table. -/
theorem Fresh.beside {s : SegmentTable} {tag : ℕ} (fresh : s.Fresh tag) :
    Beside tag s s 0 none where
  tags := List.filter_eq_self.mpr fun other member => by
    have notTag : other ≠ tag := fun isTag => fresh.tags (isTag ▸ member)
    exact decide_eq_true notTag
  packets := List.filter_eq_self.mpr fun packet member =>
    decide_eq_true (fresh.packets packet member)
  count := List.count_eq_zero.mpr fresh.tags
  stored := List.filter_eq_nil_iff.mpr fun packet member => by
    simpa using fresh.packets packet member

theorem Beside.fresh {tag : ℕ} {others s : SegmentTable} (beside : Beside tag others s 0 none) :
    s.Fresh tag where
  tags := List.count_eq_zero.mp beside.count
  packets packet member isTag := by
    have inTag : packet ∈ ofTag tag s.pendingSegPacket :=
      List.mem_filter.mpr ⟨member, decide_eq_true isTag⟩
    rw [beside.stored] at inTag
    cases inTag

/-- The division of a request notes its segments. -/
theorem Beside.divide_self {others s : SegmentTable} {request : Packet} {count : ℕ}
    {stored : Option Packet} (beside : Beside request.TAG others s count stored) :
    Beside request.TAG others (s.divide c request) (count + segPacket c request) stored where
  tags := by
    show (s.pendingSegTag ++ List.replicate _ request.TAG).filter _ = _
    have noneOther : (List.replicate (segPacket c request) request.TAG).filter
        (fun other => other ≠ request.TAG) = [] := by simp
    rw [List.filter_append, noneOther, List.append_nil, beside.tags]
  packets := beside.packets
  count := by
    show (s.pendingSegTag ++ List.replicate _ request.TAG).count request.TAG = _
    rw [List.count_append, beside.count, List.count_replicate_self]
  stored := beside.stored

theorem Beside.divide_other {tag : ℕ} {others s : SegmentTable} {request : Packet} {count : ℕ}
    {stored : Option Packet} (beside : Beside tag others s count stored)
    (notTag : request.TAG ≠ tag) :
    Beside tag (others.divide c request) (s.divide c request) count stored where
  tags := by
    show (s.pendingSegTag ++ List.replicate _ request.TAG).filter _ =
      others.pendingSegTag ++ List.replicate _ request.TAG
    have allOther : (List.replicate (segPacket c request) request.TAG).filter
        (fun other => other ≠ tag) = List.replicate (segPacket c request) request.TAG := by
      simp [notTag]
    rw [List.filter_append, beside.tags, allOther]
  packets := beside.packets
  count := by
    show (s.pendingSegTag ++ List.replicate _ request.TAG).count tag = _
    rw [List.count_append, beside.count, List.count_replicate]
    simp [notTag]
  stored := beside.stored

/-! ## Arrivals -/

theorem Beside.mem {tag : ℕ} {others s : SegmentTable} {count : ℕ} {stored : Option Packet}
    (beside : Beside tag others s (count + 1) stored) : tag ∈ s.pendingSegTag := by
  apply List.count_pos_iff.mp
  rw [beside.count]
  exact Nat.succ_pos count

theorem Beside.not_mem_erase {tag : ℕ} {others s : SegmentTable} {count : ℕ}
    {stored : Option Packet} (beside : Beside tag others s (count + 1) stored) :
    decide (tag ∉ s.pendingSegTag.erase tag) = decide (count = 0) := by
  apply decide_eq_decide.mpr
  rw [← List.count_eq_zero, List.count_erase_self, beside.count]
  exact Iff.rfl

/-- The first segment of a tag that arrives is stored. -/
theorem Beside.arrive_first {others s : SegmentTable} {packet : Packet} {count : ℕ}
    (beside : Beside packet.TAG others s (count + 1) none) : ∃ s',
      s.arrive c packet = some (s', none) ∧
        Beside packet.TAG others s' count (some packet) := by
  have noneStored : ofTag packet.TAG s.pendingSegPacket = [] := beside.stored
  refine ⟨⟨s.pendingSegTag.erase packet.TAG, s.pendingSegPacket ++ [packet]⟩, ?_, ?_⟩
  · rw [arrive, if_pos beside.mem, combine_of_none noneStored]
  · exact {
      tags := (filter_erase_self s.pendingSegTag).trans beside.tags
      packets := by
        rw [← beside.packets]
        simp [notOfTag]
      count := by rw [List.count_erase_self, beside.count, Nat.add_sub_cancel]
      stored := by
        have appended : ofTag packet.TAG (s.pendingSegPacket ++ [packet]) =
            ofTag packet.TAG s.pendingSegPacket ++ [packet] := by simp [ofTag]
        rw [appended, noneStored]
        rfl }

/-- A further segment lengthens the stored one; the last one completes it. -/
theorem Beside.arrive_next {others s : SegmentTable} {packet first : Packet} {count : ℕ}
    (beside : Beside packet.TAG others s (count + 1) (some first)) : ∃ s',
      s.arrive c packet =
        some (s', if count = 0 then some (combPacket (lengthen c first packet)) else none) ∧
      Beside packet.TAG others s' count
        (if count = 0 then none else some (lengthen c first packet)) := by
  obtain ⟨packets', combined, own, notOwn⟩ :=
    combine_of_one (c := c) (decide (count = 0)) beside.stored
  refine ⟨⟨s.pendingSegTag.erase packet.TAG, packets'⟩, ?_, ?_⟩
  · rw [arrive, if_pos beside.mem, beside.not_mem_erase, combined]
    simp
  · exact {
      tags := (filter_erase_self s.pendingSegTag).trans beside.tags
      packets := notOwn.trans beside.packets
      count := by rw [List.count_erase_self, beside.count, Nat.add_sub_cancel]
      stored := by
        rw [own]
        by_cases last : count = 0
        · simp [last]
        · simp [last] }

/-- A segment of another tag does what it would do alone. -/
theorem Beside.arrive_other {tag : ℕ} {others others' s : SegmentTable} {packet : Packet}
    {count : ℕ} {stored combined : Option Packet} (beside : Beside tag others s count stored)
    (notTag : packet.TAG ≠ tag) (alone : others.arrive c packet = some (others', combined)) :
    ∃ s', s.arrive c packet = some (s', combined) ∧ Beside tag others' s' count stored ∧
      ∀ whole ∈ combined, whole.TAG ≠ tag := by
  unfold arrive at alone
  split at alone
  · rename_i pending
    rw [← beside.tags] at pending
    have isPending : packet.TAG ∈ s.pendingSegTag := (List.mem_filter.mp pending).1
    have sameLast : decide (packet.TAG ∉ others.pendingSegTag.erase packet.TAG) =
        decide (packet.TAG ∉ s.pendingSegTag.erase packet.TAG) := by
      apply decide_eq_decide.mpr
      rw [← beside.tags, ← filter_erase_other notTag, List.mem_filter]
      simp [notTag]
    have tags : (s.pendingSegTag.erase packet.TAG).filter (fun other => other ≠ tag) =
        others.pendingSegTag.erase packet.TAG := by
      rw [filter_erase_other notTag, beside.tags]
    have sameCount : (s.pendingSegTag.erase packet.TAG).count tag = count := by
      rw [List.count_erase_of_ne (Ne.symm notTag), beside.count]
    have both := combine_other (c := c)
      (decide (packet.TAG ∉ s.pendingSegTag.erase packet.TAG)) notTag s.pendingSegPacket
    rw [beside.packets, ← sameLast] at both
    unfold arrive
    rw [if_pos isPending, ← sameLast]
    cases result : combine c packet
        (decide (packet.TAG ∉ others.pendingSegTag.erase packet.TAG)) s.pendingSegPacket with
    | none =>
      rw [result] at both
      rw [both] at alone
      obtain ⟨rfl, rfl⟩ := Prod.mk.inj (Option.some.inj alone)
      refine ⟨_, rfl, ?_, fun whole isWhole => (nomatch isWhole)⟩
      exact {
        tags := tags
        packets := by
          rw [← beside.packets]
          simp [notOfTag, notTag]
        count := sameCount
        stored := by
          rw [← beside.stored]
          simp [ofTag, notTag] }
    | some parts =>
      obtain ⟨packets', whole⟩ := parts
      rw [result] at both
      obtain ⟨aloneCombined, own, wholeTag⟩ := both
      rw [aloneCombined] at alone
      obtain ⟨rfl, rfl⟩ := Prod.mk.inj (Option.some.inj alone)
      refine ⟨_, rfl, ?_, fun packet' isWhole => (wholeTag packet' isWhole).symm ▸ notTag⟩
      exact {
        tags := tags
        packets := rfl
        count := sameCount
        stored := own.trans beside.stored }
  · cases alone

/-! ## Runs -/

variable (c) in
/-- What a segment of length `lng` adds to the one that is stored. -/
def segmentLength (lng : ℕ) : ℕ := if 1 < lng then c.addressMapping / 16 else 0

variable (c) in
/-- The length that the combined packet will have when `count` more segments of length
    `lng` arrive. -/
def combinedLength (lng count : ℕ) : Option Packet → ℕ
  | none => lng + (count - 1) * segmentLength c lng
  | some first => first.LNG + count * segmentLength c lng

theorem lengthen_LNG (first packet : Packet) :
    (lengthen c first packet).LNG = first.LNG + segmentLength c packet.LNG := by
  rw [lengthen, segmentLength]
  split <;> rfl

/-- What is still to come of a tag: `count` segments of one length, all of them for
    upstream or none. -/
structure Awaits (cubeID : ℤ) (tag lng : ℕ) (up : Bool) (events : List Event) (count : ℕ)
    (stored : Option Packet) : Prop where
  noDivide : ∀ request, .divide request ∈ events → request.TAG ≠ tag
  number : (arrivals tag events).length = count
  lng : ∀ response ∈ arrivals tag events, response.LNG = lng
  upstream : ∀ response ∈ arrivals tag events, goesUp cubeID response = up
  storedUpstream : ∀ first ∈ stored, goesUp cubeID first = up
  /-- One segment alone is never completed. -/
  notOne : stored = none → count ≠ 1
  notNone : stored ≠ none → count ≠ 0

theorem arrivals_cons_self {response : Packet} (events : List Event) :
    arrivals response.TAG (.arrive response :: events) =
      response :: arrivals response.TAG events := by
  simp [arrivals]

theorem arrivals_cons_other {tag : ℕ} {event : Event} (notTag : event.TAG ≠ tag)
    (events : List Event) : arrivals tag (event :: events) = arrivals tag events := by
  cases event with
  | divide request => rfl
  | arrive response =>
    have notTag : response.TAG ≠ tag := notTag
    simp [arrivals, notTag]

/-- An event of another tag changes nothing of what is awaited. -/
theorem Awaits.other {cubeID : ℤ} {tag lng count : ℕ} {up : Bool} {event : Event}
    {events : List Event} {stored : Option Packet}
    (awaits : Awaits cubeID tag lng up (event :: events) count stored)
    (notTag : event.TAG ≠ tag) : Awaits cubeID tag lng up events count stored where
  noDivide request member := awaits.noDivide request (List.mem_cons_of_mem event member)
  number := arrivals_cons_other notTag events ▸ awaits.number
  lng := arrivals_cons_other notTag events ▸ awaits.lng
  upstream := arrivals_cons_other notTag events ▸ awaits.upstream
  storedUpstream := awaits.storedUpstream
  notOne := awaits.notOne
  notNone := awaits.notNone

/-- When a segment has arrived, the others are awaited. -/
theorem Awaits.next {cubeID : ℤ} {lng count : ℕ} {up : Bool} {response : Packet}
    {events : List Event} {stored stored' : Option Packet}
    (awaits : Awaits cubeID response.TAG lng up (.arrive response :: events) (count + 1) stored)
    (storedUpstream : ∀ first ∈ stored', goesUp cubeID first = up)
    (notOne : stored' = none → count = 0) (notNone : stored' ≠ none → count ≠ 0) :
    Awaits cubeID response.TAG lng up events count stored' where
  noDivide request member := awaits.noDivide request (List.mem_cons_of_mem _ member)
  number := by
    have number := awaits.number
    rw [arrivals_cons_self, List.length_cons] at number
    exact Nat.succ.inj number
  lng other member := awaits.lng other (arrivals_cons_self events ▸ List.mem_cons_of_mem _ member)
  upstream other member :=
    awaits.upstream other (arrivals_cons_self events ▸ List.mem_cons_of_mem _ member)
  storedUpstream := storedUpstream
  notOne isNone := by
    rw [notOne isNone]
    exact Nat.zero_ne_one
  notNone := notNone

theorem Awaits.response_eq {cubeID : ℤ} {lng count : ℕ} {up : Bool} {response : Packet}
    {events : List Event} {stored : Option Packet}
    (awaits : Awaits cubeID response.TAG lng up (.arrive response :: events) count stored) :
    response.LNG = lng ∧ goesUp cubeID response = up := by
  have member : response ∈ arrivals response.TAG (.arrive response :: events) := by
    rw [arrivals_cons_self]
    exact List.mem_cons_self
  exact ⟨awaits.lng response member, awaits.upstream response member⟩

/-- After its first event a run continues from there. -/
theorem run_cons {cubeID : ℤ} {s s' s'' : SegmentTable} {event : Event} {events : List Event}
    {sent more : List Packet} (handled : handle c cubeID s event = some (s', sent))
    (rest : run c cubeID s' events = some (s'', more)) :
    run c cubeID s (event :: events) = some (s'', sent ++ more) := by
  simp only [run, handled, Option.bind_some, rest, Option.map_some]

theorem isSome_run_cons {cubeID : ℤ} {s : SegmentTable} {event : Event} {events : List Event}
    (runs : (run c cubeID s (event :: events)).isSome) :
    ∃ s' sent, handle c cubeID s event = some (s', sent) ∧ (run c cubeID s' events).isSome := by
  cases handled : handle c cubeID s event with
  | none =>
    rw [run, handled] at runs
    cases runs
  | some result =>
    obtain ⟨s', sent⟩ := result
    refine ⟨s', sent, rfl, ?_⟩
    simpa only [run, handled, Option.bind_some, Option.isSome_map] using runs

/-- What the events of a tag make the table send upstream: one packet of length `lng`, or
    none. -/
structure Sends (tag : ℕ) (lengths : List ℕ) (s' : SegmentTable) (sent : List Packet) : Prop where
  lengths : (ofTag tag sent).map Packet.LNG = lengths
  fresh : s'.Fresh tag

variable (c) in
/-- The lengths of the packets that are sent upstream when `count` more segments arrive. -/
def sentLengths (lng count : ℕ) (up : Bool) (stored : Option Packet) : List ℕ :=
  if 0 < count ∧ up then [combinedLength c lng count stored] else []

/-- An event of another tag does what it would do alone. -/
theorem Beside.handle_other {cubeID : ℤ} {tag count : ℕ} {others others' s : SegmentTable}
    {event : Event} {stored : Option Packet} {sent : List Packet}
    (beside : Beside tag others s count stored) (notTag : event.TAG ≠ tag)
    (alone : handle c cubeID others event = some (others', sent)) :
    ∃ s', handle c cubeID s event = some (s', sent) ∧ Beside tag others' s' count stored ∧
      ofTag tag sent = [] := by
  cases event with
  | divide request =>
    obtain ⟨rfl, rfl⟩ := Prod.mk.inj (Option.some.inj alone)
    exact ⟨s.divide c request, rfl, beside.divide_other notTag, rfl⟩
  | arrive response =>
    obtain ⟨⟨others'', combined⟩, arrived, same⟩ := Option.map_eq_some_iff.mp alone
    obtain ⟨rfl, rfl⟩ := Prod.mk.inj same
    obtain ⟨s', arrives, beside', notOwn⟩ := beside.arrive_other notTag arrived
    refine ⟨s', by rw [handle, arrives]; rfl, beside', ?_⟩
    apply List.filter_eq_nil_iff.mpr
    intro whole member
    have isWhole : whole ∈ combined := Option.mem_toList.mp (List.mem_filter.mp member).1
    simpa using notOwn whole isWhole

theorem Sends.cons {tag : ℕ} {lengths : List ℕ} {s' : SegmentTable} {sent more : List Packet}
    (sends : Sends tag lengths s' more) (none : ofTag tag sent = []) :
    Sends tag lengths s' (sent ++ more) where
  lengths := by
    rw [ofTag_append, none]
    exact sends.lengths
  fresh := sends.fresh

/-- The first segment of several. -/
theorem sentLengths_first {lng count : ℕ} {up : Bool} {first : Packet} (sameLength : first.LNG = lng)
    (more : count ≠ 0) :
    sentLengths c lng count up (some first) = sentLengths c lng (count + 1) up none := by
  have pos : 0 < count := Nat.pos_of_ne_zero more
  simp only [sentLengths, combinedLength, sameLength, Nat.add_sub_cancel, pos, Nat.succ_pos]

/-- A further segment, and others after it. -/
theorem sentLengths_next {lng count : ℕ} {up : Bool} {first response : Packet}
    (sameLength : response.LNG = lng) (more : count ≠ 0) :
    sentLengths c lng count up (some (lengthen c first response)) =
      sentLengths c lng (count + 1) up (some first) := by
  have pos : 0 < count := Nat.pos_of_ne_zero more
  have total : first.LNG + segmentLength c lng + count * segmentLength c lng =
      first.LNG + (count + 1) * segmentLength c lng := by
    rw [Nat.succ_mul]
    omega
  simp only [sentLengths, combinedLength, lengthen_LNG, sameLength, total, pos, Nat.succ_pos]

/-- The last segment completes the packet, which is sent if it is for upstream. -/
theorem ofTag_last {cubeID : ℤ} {lng : ℕ} {up : Bool} {first response : Packet}
    (sameLength : response.LNG = lng) (sameTag : first.TAG = response.TAG)
    (upstream : goesUp cubeID first = up) :
    (ofTag response.TAG
        ((some (combPacket (lengthen c first response))).toList.filter (goesUp cubeID))).map
      Packet.LNG = sentLengths c lng 1 up (some first) := by
  have combinedUp : goesUp cubeID (combPacket (lengthen c first response)) = up := upstream
  have combinedTag : (combPacket (lengthen c first response)).TAG = response.TAG := sameTag
  have combinedLNG : (combPacket (lengthen c first response)).LNG =
      first.LNG + segmentLength c response.LNG := lengthen_LNG first response
  cases up with
  | false => simp [ofTag, combinedUp, sentLengths]
  | true =>
    have sentUp : (some (combPacket (lengthen c first response))).toList.filter (goesUp cubeID) =
        [combPacket (lengthen c first response)] := by simp [combinedUp]
    rw [sentUp, ofTag_cons_self combinedTag]
    show [(combPacket (lengthen c first response)).LNG] = _
    rw [combinedLNG, sameLength]
    simp [sentLengths, combinedLength]

/-- In whatever order the segments that a tag awaits arrive, they are sent upstream as
    one packet, if they are for upstream, and nothing of them stays pending. -/
theorem Beside.sends {cubeID : ℤ} {tag lng : ℕ} {up : Bool} :
    ∀ {events : List Event} {others s : SegmentTable} {count : ℕ} {stored : Option Packet},
    Beside tag others s count stored → Awaits cubeID tag lng up events count stored →
    (run c cubeID others (events.filter fun event => event.TAG ≠ tag)).isSome →
    ∃ s' sent, run c cubeID s events = some (s', sent) ∧
      Sends tag (sentLengths c lng count up stored) s' sent
  | [], others, s, count, stored, beside, awaits, _ => by
    have noMore : count = 0 := awaits.number.symm
    have noneStored : stored = none := by
      by_contra isStored
      exact awaits.notNone isStored noMore
    subst noMore noneStored
    exact ⟨s, [], rfl, rfl, beside.fresh⟩
  | event :: events, others, s, count, stored, beside, awaits, runs => by
    by_cases isTag : event.TAG = tag
    · have alone : (run c cubeID others (events.filter fun event => event.TAG ≠ tag)).isSome := by
        simpa [isTag] using runs
      cases event with
      | divide request => exact (awaits.noDivide request List.mem_cons_self isTag).elim
      | arrive response =>
        have isTag : response.TAG = tag := isTag
        subst isTag
        obtain ⟨sameLength, sameUp⟩ := awaits.response_eq
        have counted : count = (arrivals response.TAG events).length + 1 := by
          rw [← awaits.number, arrivals_cons_self, List.length_cons]
        generalize (arrivals response.TAG events).length = left at counted
        subst counted
        cases stored with
        | none =>
          have more : left ≠ 0 := by simpa using awaits.notOne rfl
          obtain ⟨s', arrives, beside'⟩ := beside.arrive_first
          have awaits' : Awaits cubeID response.TAG lng up events left (some response) :=
            awaits.next (by simpa using sameUp) (fun isNone => (nomatch isNone)) fun _ => more
          obtain ⟨s'', sent, ran, sends⟩ := beside'.sends awaits' alone
          refine ⟨s'', [] ++ sent, run_cons (by rw [handle, arrives]; rfl) ran, ?_⟩
          rw [← sentLengths_first sameLength more]
          exact sends
        | some first =>
          have firstUp : goesUp cubeID first = up := awaits.storedUpstream first rfl
          obtain ⟨s', arrives, beside'⟩ := beside.arrive_next
          by_cases last : left = 0
          · subst last
            have awaits' : Awaits cubeID response.TAG lng up events 0 none :=
              awaits.next (fun first isFirst => (nomatch isFirst)) (fun _ => rfl)
                fun isSome => (isSome rfl).elim
            obtain ⟨s'', sent, ran, sends⟩ := beside'.sends awaits' alone
            have sameTag : first.TAG = response.TAG := by
              have member : first ∈ ofTag response.TAG s.pendingSegPacket := by
                rw [beside.stored]
                exact List.mem_singleton_self first
              exact of_decide_eq_true (List.mem_filter.mp member).2
            refine ⟨s'', _, run_cons (by rw [handle, arrives]; rfl) ran, ?_, sends.fresh⟩
            have noMore : ofTag response.TAG sent = [] := List.map_eq_nil_iff.mp sends.lengths
            rw [ofTag_append, noMore, List.append_nil]
            exact ofTag_last sameLength sameTag firstUp
          · rw [if_neg last] at beside'
            have awaits' : Awaits cubeID response.TAG lng up events left
                (some (lengthen c first response)) :=
              awaits.next (fun _ isNext => Option.some.inj isNext ▸ firstUp)
                (fun isNone => (nomatch isNone)) fun _ => last
            obtain ⟨s'', sent, ran, sends⟩ := beside'.sends awaits' alone
            refine ⟨s'', [] ++ sent,
              run_cons (by rw [handle, arrives, if_neg last]; rfl) ran, ?_⟩
            rw [← sentLengths_next sameLength last]
            exact sends
    · have alone : (run c cubeID others
          (event :: events.filter fun event => event.TAG ≠ tag)).isSome := by
        simpa [isTag] using runs
      obtain ⟨others', sent, handled, alone'⟩ := isSome_run_cons alone
      obtain ⟨s', handles, beside', notOwn⟩ := beside.handle_other isTag handled
      obtain ⟨s'', more, ran, sends⟩ := beside'.sends (awaits.other isTag) alone'
      exact ⟨s'', sent ++ more, run_cons handles ran, sends.cons notOwn⟩

end SegmentTable

end ActiveRouting

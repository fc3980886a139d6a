import ActiveRouting.Cache.MSHR

/-!
# The second-level cache

`CacheL2` of `PTSCache.cc`.  An entry has a state between the two levels and one
between this cache and the directory; an event changes at most one entry, the
one that holds its line or, for a fill, the one at the front of its set.
-/

namespace ActiveRouting

structure L2Entry where
  tag : ℕ := 0
  type : CoherenceState := .cs_invalid
  type_l1l2 : CoherenceState := .cs_invalid
  sharedl1 : List Component := []
  pending : Option NocElement := none

/-- The constructor's parameters, and those of the global event queue. -/
structure CacheL2Config where
  num_sets : ℕ
  num_ways : ℕ
  set_lsb : ℕ
  num_mshrs : ℕ
  num_flits_per_packet : ℕ
  always_hit : Bool
  is_nuca : Bool
  is_asymmetric : Bool
  which_mc : BitVec 64 → ℕ
  self : Component
  directory : Option Component
  sets_pos : 0 < num_sets
  ways_pos : 0 < num_ways

/-- `next_id` is the address of the next new element. -/
structure CacheL2 where
  tags : ℕ → WaySet L2Entry
  mshrs : MSHRs := {}
  next_id : ℕ := 0

/-- What an event does to an entry: its new contents, whether it becomes the one used last, what
    is handed over, and the address of the next new element. -/
structure L2Edit where
  entry : L2Entry
  moved : Bool := false
  sent : List CacheSend := []
  next_id : ℕ

namespace L2Entry

variable (e : L2Entry)

/-- `sharedl1.insert`; the order of the pointers in the set is not modelled. -/
def share (l1 : Component) : L2Entry :=
  if l1 ∈ e.sharedl1 then e else { e with sharedl1 := e.sharedl1 ++ [l1] }

/-- A line that is valid and has the tag. -/
def holds (tag : ℕ) : Bool := e.type ≠ .cs_invalid ∧ e.tag = tag

/-- A request passes over a line that is about to become exclusive. -/
def answers (tag : ℕ) : Bool := e.type ≠ .cs_invalid ∧ e.type ≠ .cs_tr_to_e ∧ e.tag = tag

/-- An entry in one of these states is not replaced. -/
def inTransit : Bool :=
  e.type = .cs_tr_to_s ∨ e.type = .cs_tr_to_m ∨ e.type = .cs_tr_to_e ∨ e.type = .cs_tr_to_i

/-- The owner between the levels is about to change. -/
def l1InTransit : Bool :=
  e.type_l1l2 = .cs_tr_to_s ∨ e.type_l1l2 = .cs_tr_to_m ∨ e.type_l1l2 = .cs_tr_to_i

end L2Entry

namespace CacheL2Config

variable (c : CacheL2Config)

def start : CacheL2 where
  tags _ := .build c.num_ways c.ways_pos {}

def setOf (address : BitVec 64) : ℕ := (address >>> c.set_lsb).toNat % c.num_sets

def tagOf (address : BitVec 64) : ℕ := (address >>> c.set_lsb).toNat / c.num_sets

def lineAddr (address : BitVec 64) : BitVec 64 := (address >>> c.set_lsb) <<< c.set_lsb

/-- The address of a line whose tag and set are known. -/
def lineAddress (tag set : ℕ) : BitVec 64 := BitVec.ofNat 64 (tag * c.num_sets + set) <<< c.set_lsb

/-- To a first-level cache of the same tile, or through the network.  `sender` is this cache, or
    the first-level cache itself. -/
def sendToL1 (l1 : Component) (lqe : NocElement) (sender : Component) : CacheSend :=
  if !c.is_nuca ∨ l1.num = c.self.num then .direct ⟨l1, .add_rep_event, lqe⟩
  else .noc .add_rep_event ⟨lqe, sender⟩ none

/-- A reply to the first-level cache on the top of its stack. -/
def replyToTop (lqe : NocElement) : Except NocError CacheSend :=
  match lqe.top with
  | .error error => throw error
  | .ok top => pure (c.sendToL1 top lqe c.self)

def add_event_to_LL (lqe : NocElement) (check_top is_data : Bool) : Except NocError CacheSend :=
  let through : CacheSend := .noc .add_rep_event ⟨lqe, c.self⟩
    (if is_data then some c.num_flits_per_packet else none)
  if !c.is_nuca ∧ c.is_asymmetric then pure through
  else if check_top then
    match lqe.top with
    | .error error => throw error
    | .ok top =>
      pure (if c.directory = some top then .direct ⟨top, .add_rep_event, lqe⟩ else through)
  else
    match c.directory with
    | none => pure through
    | some directory => pure (if c.which_mc lqe.address = directory.num then
      .direct ⟨directory, .add_rep_event, lqe⟩ else through)

/-- `new LocalQueueElement(this, type, address)`. -/
def element (next_id : ℕ) (type : EventType) (address : BitVec 64) (th_id : ℕ) : NocElement where
  id := next_id
  type := type
  address := address
  from_stack := [c.self]
  th_id := th_id

/-- An `et_evict` to each of some first-level caches. -/
def evictAll (next_id : ℕ) (address : BitVec 64) (th_id : ℕ) (l1s : List Component) :
    List CacheSend :=
  l1s.mapIdx fun idx l1 => c.sendToL1 l1 (c.element (next_id + idx) .et_evict address th_id) l1

end CacheL2Config

namespace L2Entry

variable (c : CacheL2Config) (e : L2Entry) (set next_id : ℕ) (rep_lqe req_lqe : NocElement)

/-- All sharers but one give up the line. -/
def evictOthers (th_id : ℕ) (top : Component) : L2Edit :=
  let others := e.sharedl1.filter (· ≠ top)
  { entry := { e with sharedl1 := [] }
    sent := c.evictAll next_id (c.lineAddress e.tag set) th_id others
    next_id := next_id + others.length }

/-- All sharers give up the line. -/
def evictSharers (th_id : ℕ) : L2Edit where
  entry := { e with sharedl1 := [] }
  sent := c.evictAll next_id (c.lineAddress e.tag set) th_id e.sharedl1
  next_id := next_id + e.sharedl1.length

/-- `et_write_nd` for a line that waits for it: the element is popped. -/
def upgraded (popped : NocElement) : Except NocError L2Edit :=
  match popped.top with
  | .error error => throw error
  | .ok top =>
    let edit := e.evictOthers c set next_id popped.th_id top
    match c.add_event_to_LL
        (c.element edit.next_id .et_e_to_m popped.address popped.th_id) false false with
    | .error error => throw error
    | .ok told => pure
      { entry := { edit.entry with
          type := .cs_modified
          type_l1l2 := .cs_modified
          sharedl1 := [top] }
        moved := true
        sent := edit.sent ++ [c.sendToL1 top { popped with type := .et_write } c.self, told]
        next_id := edit.next_id + 1 }

/-- The element that comes back for a line that the directory has asked for is refused. -/
def refused (popped : NocElement) : Except NocError L2Edit :=
  if e.type_l1l2 = .cs_tr_to_i then pure { entry := e, next_id }
  else match popped.top with
    | .error error => throw error
    | .ok top =>
      let nack := c.sendToL1 top { popped with type := .et_nack } c.self
      if e.type_l1l2 = .cs_tr_to_m then pure { entry := e, sent := [nack], next_id }
      else
        let edit := (e.share top).evictSharers c set next_id popped.th_id
        pure { edit with sent := nack :: edit.sent }

/-- `et_m_to_s` and `et_m_to_m`, back from a first-level cache: the element is popped. -/
def fromOwner (popped : NocElement) : Except NocError L2Edit :=
  match e.pending with
  | some pending =>
    if e.type = .cs_tr_to_i then
      match e.refused c set next_id popped, c.add_event_to_LL pending true true with
      | .ok edit, .ok told => pure
        { entry := { edit.entry with
            pending := none
            type_l1l2 := .cs_invalid
            type := .cs_invalid }
          moved := true
          sent := edit.sent ++ [told]
          next_id := edit.next_id }
      | .error error, _ => throw error
      | _, .error error => throw error
    else if e.type_l1l2 = .cs_tr_to_m ∨ e.type_l1l2 = .cs_tr_to_s then
      match popped.top, c.add_event_to_LL pending true true with
      | .ok top, .ok told =>
        let type := if popped.type = .et_m_to_s then .et_read else .et_nack
        pure
          { entry := { e.share top with
              type_l1l2 := if e.type_l1l2 = .cs_tr_to_s then .cs_shared else .cs_invalid
              pending := none
              type := .cs_shared }
            moved := true
            sent := [c.sendToL1 top { popped with type } c.self, told]
            next_id }
      | .error error, _ => throw error
      | _, .error error => throw error
    else throw .assertion
  | none =>
    if e.type_l1l2 = .cs_tr_to_m ∨ e.type_l1l2 = .cs_tr_to_s then
      match popped.top with
      | .error error => throw error
      | .ok top =>
        let type := if popped.type = .et_m_to_s then .et_read else .et_write
        pure
          { entry := { e.share top with
              type_l1l2 := if e.type_l1l2 = .cs_tr_to_s then .cs_shared else .cs_modified }
            moved := true
            sent := [c.sendToL1 top { popped with type } c.self]
            next_id }
    else throw .assertion

/-- `et_evict` and `et_evict_nd` of a first-level cache. -/
def evictedByL1 : Except NocError L2Edit :=
  match rep_lqe.top with
  | .error error => throw error
  | .ok top =>
    if e.type = .cs_tr_to_s then
      match e.pending with
      | none => throw .assertion
      | some pending =>
        match c.add_event_to_LL pending true true with
        | .error error => throw error
        | .ok told => pure
          { entry := { e.share top with type := .cs_shared, pending := none }
            sent := [told]
            next_id }
    else
      let e := { e with sharedl1 := e.sharedl1.erase top }
      pure
        { entry := { e with
            type_l1l2 := if e.sharedl1 = [] ∧ !e.l1InTransit then .cs_invalid else e.type_l1l2 }
          moved := true
          next_id }

/-- A message to the one cache that holds the line modified, for which the line waits. -/
def askOwner (type : EventType) (waiting : L2Entry) : Except NocError L2Edit :=
  match e.sharedl1 with
  | [owner] => pure
    { entry := { waiting with pending := some rep_lqe, sharedl1 := [] }
      sent := [c.sendToL1 owner
        (c.element next_id type (c.lineAddress e.tag set) rep_lqe.th_id) owner]
      next_id := next_id + 1 }
  | _ => throw .assertion

/-- `et_dir_rd`. -/
def dir_rd : Except NocError L2Edit :=
  if e.type ≠ .cs_modified then throw .assertion
  else match e.type_l1l2 with
    | .cs_invalid | .cs_exclusive | .cs_shared =>
      match c.add_event_to_LL rep_lqe true true with
      | .error error => throw error
      | .ok told => pure { entry := { e with type := .cs_shared }, sent := [told], next_id }
    | .cs_modified =>
      e.askOwner c set next_id rep_lqe .et_dir_rd
        { e with type_l1l2 := .cs_exclusive, type := .cs_tr_to_s }
    | .cs_tr_to_m | .cs_tr_to_s =>
      if e.pending.isSome then throw .assertion
      else pure { entry := { e with pending := some rep_lqe }, next_id }
    | _ => throw .assertion

/-- `et_e_to_s` and `et_s_to_s`. -/
def toShared : Except NocError L2Edit :=
  if e.type ≠ .cs_exclusive ∧ e.type ≠ .cs_shared ∧ e.type ≠ .cs_tr_to_m then throw .assertion
  else match c.add_event_to_LL rep_lqe true true with
    | .error error => throw error
    | .ok told => pure { entry := { e with type := .cs_shared }, sent := [told], next_id }

/-- `et_invalidate` and `et_invalidate_nd`. -/
def invalidate : Except NocError L2Edit :=
  if e.type = .cs_tr_to_s ∨ e.type = .cs_tr_to_e ∨ e.type = .cs_tr_to_i then throw .assertion
  else if e.type = .cs_modified ∧ e.type_l1l2 = .cs_modified then
    e.askOwner c set next_id rep_lqe .et_m_to_m
      { e with type_l1l2 := .cs_tr_to_i, type := .cs_tr_to_i }
  else if e.type = .cs_modified ∧ (e.type_l1l2 = .cs_tr_to_m ∨ e.type_l1l2 = .cs_tr_to_s) then
    if e.pending.isSome then throw .assertion
    else pure { entry := { e with type := .cs_tr_to_i, pending := some rep_lqe }, next_id }
  else
    let edit := e.evictSharers c set next_id rep_lqe.th_id
    match c.add_event_to_LL rep_lqe true (rep_lqe.type = .et_invalidate) with
    | .error error => throw error
    | .ok told => pure
      { entry := { edit.entry with type := .cs_invalid, type_l1l2 := .cs_invalid }
        sent := edit.sent ++ [told]
        next_id := edit.next_id }

/-- A read that hits, for a first-level cache. -/
def readBy (top : Component) : Except NocError (L2Edit × Bool × NocElement) :=
  let stable : Bool := e.type = .cs_exclusive ∨ e.type = .cs_shared ∨ e.type = .cs_modified
  let answer (e : L2Entry) (lqe : NocElement) : Except NocError (L2Edit × Bool × NocElement) :=
    pure ({ entry := e, moved := true, next_id }, false, lqe)
  if e.type_l1l2 = .cs_invalid ∧ stable then
    if e.sharedl1 = [] then answer { e with type_l1l2 := .cs_exclusive, sharedl1 := [top] } req_lqe
    else throw .assertion
  else if e.type_l1l2 = .cs_exclusive ∧ stable then
    answer { e.share top with
      type_l1l2 := if 1 < (e.share top).sharedl1.length then .cs_shared else .cs_exclusive } req_lqe
  else if e.type_l1l2 = .cs_shared ∧ stable then answer (e.share top) req_lqe
  else if e.type_l1l2 = .cs_modified ∧ e.type = .cs_modified then
    match e.sharedl1 with
    | [] => answer { e with type_l1l2 := .cs_shared, sharedl1 := [top] } req_lqe
    | [owner] =>
      if owner = top then answer e req_lqe
      else
        let asked :=
          { req_lqe with type := .et_m_to_s, from_stack := c.self :: req_lqe.from_stack }
        pure (
          { entry := { e with type_l1l2 := .cs_tr_to_s, sharedl1 := [] }
            moved := true
            sent := [c.sendToL1 owner asked owner]
            next_id }, true, asked)
    | _ => throw .assertion
  else if e.type_l1l2 = .cs_exclusive ∧ e.type = .cs_tr_to_s ∨ e.l1InTransit ∨
      e.type = .cs_tr_to_m then
    answer e { req_lqe with type := .et_nack }
  else throw .assertion

/-- A write that misses since the line is not modified: the line waits for the upgrade, or is
    given up. -/
def upgradeBy (top : Component) (mayWait : Bool) : L2Edit :=
  if e.type = .cs_exclusive ∧ e.sharedl1 = [top] then
    { entry := { e with type := if mayWait then .cs_tr_to_m else e.type }, next_id }
  else if e.sharedl1 = [] then { entry := e, next_id }
  else
    let edit := e.evictOthers c set next_id req_lqe.th_id top
    { edit with entry := { edit.entry with type := .cs_invalid } }

/-- A write that hits. -/
def writeBy (top : Component) : Except NocError (L2Edit × Bool × NocElement) :=
  let answer (edit : L2Edit) : Except NocError (L2Edit × Bool × NocElement) :=
    pure ({ edit with
      entry := { edit.entry with type_l1l2 := .cs_modified }.share top
      moved := true }, false, req_lqe)
  if e.type = .cs_modified ∧ e.type_l1l2 = .cs_invalid then answer { entry := e, next_id }
  else if e.type = .cs_modified ∧ e.type_l1l2 = .cs_modified then
    match e.sharedl1 with
    | [owner] =>
      if owner = top then answer { entry := e, next_id }
      else
        let asked :=
          { req_lqe with type := .et_m_to_m, from_stack := c.self :: req_lqe.from_stack }
        pure (
          { entry := { e with type_l1l2 := .cs_tr_to_m, sharedl1 := [] }
            moved := true
            sent := [c.sendToL1 owner asked owner]
            next_id }, true, asked)
    | _ => throw .assertion
  else if e.type = .cs_modified ∧ e.type_l1l2 = .cs_exclusive then
    if 1 < e.sharedl1.length then throw .assertion
    else if e.sharedl1 = [top] then answer { entry := e, next_id }
    else answer (e.evictSharers c set next_id req_lqe.th_id)
  else if e.type = .cs_modified ∧ e.type_l1l2 = .cs_shared then
    answer (e.evictOthers c set next_id req_lqe.th_id top)
  else if e.type_l1l2 = .cs_exclusive ∧ e.type = .cs_tr_to_s ∨ e.l1InTransit ∨
      e.type = .cs_tr_to_m then
    pure ({ entry := e, moved := true, next_id }, false, { req_lqe with type := .et_nack })
  else throw .assertion

end L2Entry

/-- A fill on its way: the entry it takes, what is handed over before, and the element. -/
structure L2Fill where
  entry : L2Entry
  bypass : Bool := false
  shared : Bool := false
  sent : List CacheSend := []
  next_id : ℕ
  rep_lqe : NocElement

namespace L2Fill

variable (c : CacheL2Config) (set next_id : ℕ)

/-- A fill that takes the entry at the front, unless that one is in transit. -/
def replace (e : L2Entry) (popped : NocElement) : Except NocError L2Fill :=
  if e.inTransit then
    match c.add_event_to_LL
        (c.element next_id .et_evict popped.address popped.th_id) false false with
    | .error error => throw error
    | .ok told =>
      match popped.from_stack with
      | top :: _ :: _ =>
        let nack := { popped with type := .et_nack }
        pure
          { entry := e
            bypass := true
            sent := [c.sendToL1 top nack c.self, told]
            next_id := next_id + 1
            rep_lqe := nack }
      | _ => pure
        { entry := e, bypass := true, sent := [told], next_id := next_id + 1, rep_lqe := popped }
  else if e.type = .cs_invalid then pure { entry := e, next_id, rep_lqe := popped }
  else
    let edit := e.evictSharers c set next_id popped.th_id
    if e.type_l1l2 = .cs_modified then
      pure { entry := edit.entry, sent := edit.sent, next_id := edit.next_id, rep_lqe := popped }
    else
      match c.add_event_to_LL
          (c.element edit.next_id .et_evict (c.lineAddress e.tag set) popped.th_id) false
          (e.type = .cs_modified) with
      | .error error => throw error
      | .ok told => pure
        { entry := edit.entry
          sent := edit.sent ++ [told]
          next_id := edit.next_id + 1
          rep_lqe := popped }

/-- A fill of a line that is there; an older read leaves it as it is. -/
def refresh (e : L2Entry) (popped : NocElement) : Except NocError L2Fill :=
  if popped.type = .et_write then
    match e.sharedl1, popped.top with
    | [], _ => pure { entry := e, next_id, rep_lqe := popped }
    | _, .error error => throw error
    | _, .ok top =>
      let edit := e.evictOthers c set next_id popped.th_id top
      pure { entry := edit.entry, sent := edit.sent, next_id := edit.next_id, rep_lqe := popped }
  else if e.type = .cs_modified ∨ e.type = .cs_tr_to_e then
    match popped.from_stack with
    | top :: _ :: _ =>
      let bypassed := { popped with type := .et_rd_bypass }
      pure
        { entry := e
          bypass := true
          sent := [c.sendToL1 top bypassed c.self]
          next_id
          rep_lqe := bypassed }
    | _ => pure { entry := e, bypass := true, next_id, rep_lqe := popped }
  else pure { entry := e, shared := popped.type = .et_s_rd, next_id, rep_lqe := popped }

/-- The state that the reply brings. -/
def newType : EventType → CoherenceState
  | .et_e_rd => .cs_exclusive
  | .et_s_rd => .cs_shared
  | _ => .cs_modified

/-- The entry after the fill, for a reply of type `etype`. -/
def filled (f : L2Fill) (etype : EventType) (tag : ℕ) (merged : List NocElement) : L2Entry :=
  match f.rep_lqe.from_stack with
  | top :: _ :: _ =>
    let entry : L2Entry := { f.entry with
      type := newType etype
      type_l1l2 :=
        if etype = .et_write then .cs_modified
        else if f.shared ∨ merged ≠ [] then .cs_shared
        else .cs_exclusive
      tag }
    entry.share top
  | _ => { f.entry with type := newType etype, type_l1l2 := .cs_invalid, tag }

/-- A read that was merged into the register: its stack still holds a first-level cache. -/
def mergedTop (lqe : NocElement) : Except NocError Component :=
  match lqe.type, lqe.from_stack with
  | .et_read, top :: _ :: _ => pure top
  | _, _ => throw .assertion

/-- The reply itself, where a first-level cache waits for it. -/
def answer (f : L2Fill) (etype : EventType) : List CacheSend :=
  match f.rep_lqe.from_stack with
  | top :: _ :: _ =>
    [c.sendToL1 top
      { f.rep_lqe with type := if etype = .et_write then .et_write else .et_read } c.self]
  | _ => []

end L2Fill

namespace CacheL2

variable (c : CacheL2Config) (x : CacheL2)

/-- The set after an edit of one of its entries. -/
def edited (set idx way : ℕ) (edit : L2Edit) : CacheL2 :=
  let written := (x.tags set).write way edit.entry
  { x with
    tags := Function.update x.tags set (if edit.moved then written.moveToBack idx way else written)
    next_id := edit.next_id }

/-- The register of a reply or a nack is released. -/
def release (line_addr : BitVec 64) (mshr_idx : ℕ) : CacheL2 :=
  { x with mshrs := x.mshrs.release line_addr mshr_idx }

/-- The entry that holds the line of an address. -/
def line (address : BitVec 64) : Option (ℕ × ℕ) :=
  (x.tags (c.setOf address)).search (L2Entry.holds · (c.tagOf address))

/-- An upgrade of a line that does not wait for it is refused, and the directory is told. -/
def refuseUpgrade (popped : NocElement) : Except NocError (CacheL2 × List CacheSend) :=
  match c.replyToTop { popped with type := .et_nack }, c.add_event_to_LL
      (c.element x.next_id .et_e_to_i popped.address popped.th_id) false false with
  | .ok nack, .ok told => pure ({ x with next_id := x.next_id + 1 }, [nack, told])
  | .error error, _ => throw error
  | _, .error error => throw error

def upgrade (popped : NocElement) : Except NocError (CacheL2 × List CacheSend) :=
  let set := c.setOf popped.address
  match x.line c popped.address with
  | none => x.refuseUpgrade c popped
  | some (idx, way) =>
    if ((x.tags set).entry way).type ≠ .cs_tr_to_m then x.refuseUpgrade c popped
    else match ((x.tags set).entry way).upgraded c set x.next_id popped with
      | .error error => throw error
      | .ok edit => pure (x.edited set idx way edit, edit.sent)

/-- `et_write_nd`. -/
def write_nd (rep_lqe : NocElement) : Except NocError (CacheL2 × List CacheSend) :=
  let line_addr := c.lineAddr rep_lqe.address
  match rep_lqe.pop with
  | .error error => throw error
  | .ok popped =>
    match x.upgrade c popped, x.mshrs.registerOf line_addr popped with
    | .ok (x', sent), .ok mshr_idx =>
      if (x.mshrs.entries mshr_idx).target_list ≠ [] then throw .assertion
      else pure (x'.release line_addr mshr_idx, sent)
    | .error error, _ => throw error
    | _, .error error => throw error

/-- `et_e_rd`, `et_s_rd` and `et_write`: a line that is not there takes the entry at the front. -/
def fill (rep_lqe : NocElement) : Except NocError (CacheL2 × List CacheSend) :=
  let set := c.setOf rep_lqe.address
  let line_addr := c.lineAddr rep_lqe.address
  let found := x.line c rep_lqe.address
  let (idx, way) := found.getD (0, (x.tags set).front)
  let e := (x.tags set).entry way
  match rep_lqe.pop with
  | .error error => throw error
  | .ok popped =>
    match (if found.isSome then L2Fill.refresh c set x.next_id e popped
        else L2Fill.replace c set x.next_id e popped),
      x.mshrs.registerOf line_addr popped with
    | .ok f, .ok mshr_idx =>
      let merged := (x.mshrs.entries mshr_idx).target_list
      match merged.mapM L2Fill.mergedTop with
      | .error error => throw error
      | .ok tops =>
        let answers (retype : NocElement → NocElement) : List CacheSend :=
          (merged.zip tops).map fun (lqe, top) => c.sendToL1 top (retype lqe) c.self
        if f.bypass then
          pure ({ x with next_id := f.next_id }.release line_addr mshr_idx,
            f.sent ++ answers fun lqe => { lqe with type := f.rep_lqe.type })
        else
          let entry :=
            tops.foldl L2Entry.share (f.filled rep_lqe.type (c.tagOf popped.address) merged)
          pure ((x.edited set idx way { entry, moved := true, next_id := f.next_id }).release
              line_addr mshr_idx,
            f.sent ++ f.answer c rep_lqe.type ++ answers id)
    | .error error, _ => throw error
    | _, .error error => throw error

/-- `et_nack`: the requests that wait for the line are refused. -/
def nack (rep_lqe : NocElement) : Except NocError (CacheL2 × List CacheSend) :=
  match rep_lqe.pop with
  | .error error => throw error
  | .ok popped =>
    match popped.from_stack with
    | top :: _ :: _ =>
      match x.mshrs.registerOf (c.lineAddr rep_lqe.address) popped with
      | .error error => throw error
      | .ok mshr_idx =>
        let merged := (x.mshrs.entries mshr_idx).target_list
        match merged.mapM L2Fill.mergedTop with
        | .error error => throw error
        | .ok tops => pure (x.release (c.lineAddr rep_lqe.address) mshr_idx,
          ((merged.zip tops).map fun (lqe, top) =>
            c.sendToL1 top { lqe with type := .et_nack } c.self) ++ [c.sendToL1 top popped c.self])
    -- the register of a prefetch is not released
    | _ => pure (x, [])

/-- An event for the entry that holds its line, if there is one. -/
def visit (rep_lqe : NocElement) (hit : L2Entry → Except NocError L2Edit)
    (missed : Except NocError (List CacheSend)) : Except NocError (CacheL2 × List CacheSend) :=
  let set := c.setOf rep_lqe.address
  match x.line c rep_lqe.address with
  | none =>
    match missed with
    | .error error => throw error
    | .ok sent => pure (x, sent)
  | some (idx, way) =>
    match hit ((x.tags set).entry way) with
    | .error error => throw error
    | .ok edit => pure (x.edited set idx way edit, edit.sent)

/-- The part of `process_event` for a reply. -/
def reply (rep_lqe : NocElement) : Except NocError (CacheL2 × List CacheSend) :=
  let set := c.setOf rep_lqe.address
  let tell (lqe : NocElement) (check_top is_data : Bool) : Except NocError (List CacheSend) :=
    (c.add_event_to_LL lqe check_top is_data).map fun told => [told]
  match rep_lqe.type with
  | .et_write_nd => x.write_nd c rep_lqe
  | .et_e_rd | .et_s_rd | .et_write => x.fill c rep_lqe
  | .et_m_to_s | .et_m_to_m =>
    match rep_lqe.pop with
    | .error error => throw error
    | .ok popped => x.visit c rep_lqe (·.fromOwner c set x.next_id popped) (throw .assertion)
  | .et_evict => x.visit c rep_lqe (·.evictedByL1 c x.next_id rep_lqe)
      (if c.always_hit then pure []
      else tell { rep_lqe with from_stack := c.self :: rep_lqe.from_stack } true true)
  | .et_evict_nd => x.visit c rep_lqe (·.evictedByL1 c x.next_id rep_lqe) (pure [])
  | .et_dir_rd => x.visit c rep_lqe (·.dir_rd c set x.next_id rep_lqe)
      (tell { rep_lqe with type := .et_dir_rd_nd } false false)
  | .et_nack => x.nack c rep_lqe
  | .et_e_to_s => x.visit c rep_lqe (·.toShared c x.next_id rep_lqe)
      (tell { rep_lqe with type := .et_e_to_s_nd } false false)
  | .et_s_to_s => x.visit c rep_lqe (·.toShared c x.next_id rep_lqe)
      (tell { rep_lqe with type := .et_s_to_s_nd } false false)
  | .et_invalidate | .et_invalidate_nd =>
    x.visit c rep_lqe (·.invalidate c set x.next_id rep_lqe)
      (tell { rep_lqe with type := .et_invalidate_nd } true false)
  | .et_nop => pure (x, [])
  | _ => throw .assertion

/-- A refusal of a miss, of which a prefetch is none. -/
def refuse (req_lqe : NocElement) : Except NocError (CacheL2 × List CacheSend) :=
  match req_lqe.from_stack with
  | top :: _ :: _ =>
    let nack := { req_lqe with type := .et_nack }
    pure (x, [if c.is_nuca ∧ top.num = c.self.num then .direct ⟨top, .add_rep_event, nack⟩
      else .noc .add_rep_event ⟨nack, c.self⟩ none])
  | _ => throw .assertion

/-- A miss is merged into the register of its line, refused, or sent on with a new one. -/
def miss (etype : EventType) (req_lqe : NocElement) : Except NocError (CacheL2 × List CacheSend) :=
  let line_addr := c.lineAddr req_lqe.address
  match x.mshrs.at? line_addr with
  | .error error => throw error
  | .ok (some (mshr_idx, entry)) =>
    if req_lqe.type = .et_read ∧ entry.etype = .et_read then
      match x.mshrs.add mshr_idx req_lqe with
      | .error error => throw error
      | .ok mshrs => pure ({ x with mshrs }, [])
    else x.refuse c req_lqe
  | .ok none =>
    if x.mshrs.indices.size = c.num_mshrs then x.refuse c req_lqe
    else match x.mshrs.allocate c.num_mshrs line_addr req_lqe etype with
      | .error error => throw error
      | .ok mshrs =>
        let asked := { req_lqe with from_stack := c.self :: req_lqe.from_stack }
        let near (directory : Component) : Bool :=
          c.which_mc req_lqe.address = directory.num ∧ (c.is_nuca ∨ !c.is_asymmetric)
        pure ({ x with mshrs }, [match c.directory.filter near with
          | some directory => .direct ⟨directory, .add_req_event, asked⟩
          | none => .noc .add_req_event ⟨asked, c.self⟩ none])

/-- The answer to a hit; a prefetch gets none. -/
def answer (req_lqe : NocElement) : List CacheSend :=
  match req_lqe.from_stack with
  | top :: _ :: _ => [c.sendToL1 top req_lqe c.self]
  | _ => []

/-- A line that answers requests. -/
def answering (address : BitVec 64) : Option (ℕ × ℕ) :=
  (x.tags (c.setOf address)).search (L2Entry.answers · (c.tagOf address))

/-- After a request has edited its line it is answered, or waits for another cache. -/
def finish (set idx way : ℕ) (done : Except NocError (L2Edit × Bool × NocElement)) :
    Except NocError (CacheL2 × List CacheSend) :=
  match done with
  | .error error => throw error
  | .ok (edit, enter_intermediate_state, req_lqe) =>
    pure (x.edited set idx way edit,
      edit.sent ++ if enter_intermediate_state then [] else answer c req_lqe)

/-- No line answers the request. -/
def missed (etype : EventType) (req_lqe : NocElement) :
    Except NocError (CacheL2 × List CacheSend) :=
  if c.always_hit then pure (x, answer c req_lqe) else x.miss c etype req_lqe

/-- What was handed over before. -/
def sentBefore (sent : List CacheSend) (done : Except NocError (CacheL2 × List CacheSend)) :
    Except NocError (CacheL2 × List CacheSend) :=
  match done with
  | .error error => throw error
  | .ok (x, more) => pure (x, sent ++ more)

def read (req_lqe : NocElement) : Except NocError (CacheL2 × List CacheSend) :=
  let set := c.setOf req_lqe.address
  match x.answering c req_lqe.address with
  | none => x.missed c .et_read req_lqe
  | some (idx, way) =>
    match req_lqe.from_stack with
    | [] => throw .emptyStack
    | [_] => pure (x, [])
    | top :: _ =>
      x.finish c set idx way (((x.tags set).entry way).readBy c x.next_id req_lqe top)

def write (req_lqe : NocElement) : Except NocError (CacheL2 × List CacheSend) :=
  let set := c.setOf req_lqe.address
  match x.answering c req_lqe.address, req_lqe.top with
  | none, _ => x.missed c .et_write req_lqe
  | _, .error error => throw error
  | some (idx, way), .ok top =>
    let e := (x.tags set).entry way
    if e.type = .cs_exclusive ∨ e.type = .cs_shared then
      let mayWait : Bool := (x.mshrs.indices.lookup (c.lineAddr req_lqe.address)).isNone ∧
        x.mshrs.indices.size < c.num_mshrs
      let edit := e.upgradeBy c set x.next_id req_lqe top mayWait
      sentBefore edit.sent ((x.edited set idx way edit).missed c .et_write req_lqe)
    else x.finish c set idx way (e.writeBy c set x.next_id req_lqe top)

/-- The part of `process_event` for a request. -/
def request (req_lqe : NocElement) : Except NocError (CacheL2 × List CacheSend) :=
  match req_lqe.type with
  | .et_read => x.read c req_lqe
  | .et_write => x.write c req_lqe
  | _ => throw .assertion

/-- The debugging check that the valid lines of a set have tags of their own. -/
def test_tags (set : ℕ) : Except NocError (List ℕ) :=
  (x.tags set).ways.foldlM (fun tag_set way =>
    let e := (x.tags set).entry way
    if e.type = .cs_invalid then pure tag_set
    else if e.tag ∈ tag_set then throw .assertion
    else pure (e.tag :: tag_set)) []

/-- What a cache is asked. -/
inductive Event where
  | reply (rep_lqe : NocElement)
  | request (req_lqe : NocElement)

def step (x : CacheL2) : Event → Except NocError CacheL2
  | .reply rep_lqe => (x.reply c rep_lqe).map Prod.fst
  | .request req_lqe => (x.request c req_lqe).map Prod.fst

end CacheL2

end ActiveRouting

import ActiveRouting.Cache.MSHR

/-!
# The first-level cache

`CacheL1` of `PTSCache.cc`: a reply from the second level is looked at once for
each of its lines that the second level's line holds, and a request of a core
finds its line, waits for it in a register or is sent on.
-/

namespace ActiveRouting

/-- The constructor's parameters.  `which_l2` is that of the global event queue. -/
structure CacheL1Config where
  num_sets : ℕ
  num_ways : ℕ
  set_lsb : ℕ
  l2_set_lsb : ℕ
  num_mshrs : ℕ
  num_pre_entries : ℕ
  always_hit : Bool
  use_prefetch : Bool
  is_nuca : Bool
  which_l2 : BitVec 64 → ℕ
  self : Component
  cachel2 : Component
  sets_pos : 0 < num_sets
  ways_pos : 0 < num_ways
  /-- As of now, only this case is supported. -/
  lsb_le : set_lsb ≤ l2_set_lsb
  pre_entries_pos : 0 < num_pre_entries

structure PrefetchEntry where
  addr : BitVec 64 := 0
  hit : Bool := false

/-- An entry of a set is a tag with a state.  `next_id` is the address of the next new element. -/
structure CacheL1 where
  tags : ℕ → WaySet (ℕ × CoherenceState)
  mshrs : MSHRs := {}
  pres : ℕ → PrefetchEntry := fun _ => {}
  oldest_pre_entry_idx : ℕ := 0
  next_id : ℕ := 0

/-- The loop of a reply over the lines.  `set_iter` is the set and the pointer of the entry that
    was found last. -/
structure L1Reply where
  cache : CacheL1
  rep_lqe : NocElement
  set_iter : Option (ℕ × ℕ) := none
  sent_to_l2 : Bool := false
  sent : List CacheSend := []

/-- The request of a core in progress. -/
structure L1Request where
  cache : CacheL1
  sent : List CacheSend := []

namespace CacheL1Config

variable (c : CacheL1Config)

def start : CacheL1 where
  tags _ := .build c.num_ways c.ways_pos (0, .cs_invalid)

def setOf (address : BitVec 64) : ℕ := (address >>> c.set_lsb).toNat % c.num_sets

def tagOf (address : BitVec 64) : ℕ := (address >>> c.set_lsb).toNat / c.num_sets

/-- The address of a line whose tag and set are known. -/
def lineAddress (tag set : ℕ) : BitVec 64 := BitVec.ofNat 64 (tag * c.num_sets + set) <<< c.set_lsb

def isData : Bool :=
  c.self.type = .ct_cachel1d ∨ c.self.type = .ct_cachel1d_t1 ∨ c.self.type = .ct_cachel1d_t2

/-- To the bank of the second level that holds the address. -/
def sendToL2 (entry : NocEntry) (lqe : NocElement) : CacheSend :=
  if !c.is_nuca ∨ c.which_l2 lqe.address = c.cachel2.num then .direct ⟨c.cachel2, entry, lqe⟩
  else .noc entry ⟨lqe, c.self⟩ none

def add_event_to_lsu (lqe : NocElement) : Except NocError CacheSend :=
  match lqe.top with
  | .error error => throw error
  | .ok top => pure (.direct ⟨top, if c.isData then .add_rep_event else .add_req_event, lqe⟩)

/-- A line of the set that is valid and has the tag. -/
def holds (tag : ℕ) (e : ℕ × CoherenceState) : Bool := e.2 ≠ .cs_invalid ∧ e.1 = tag

/-- The address of the line number `index` of the reply. -/
def replyAddress (address : BitVec 64) (index : ℕ) : BitVec 64 :=
  ((address >>> c.l2_set_lsb) <<< c.l2_set_lsb) +
    (address + BitVec.ofNat 64 (index * 2 ^ c.set_lsb)) % BitVec.ofNat 64 (2 ^ c.l2_set_lsb)

/-- A reply looks for its register by the line of the first level. -/
def replyLine (address : BitVec 64) : BitVec 64 := (address >>> c.set_lsb) <<< c.set_lsb

/-- A request takes a register by the line of the second level. -/
def requestLine (address : BitVec 64) : BitVec 64 := (address >>> c.l2_set_lsb) <<< c.l2_set_lsb

end CacheL1Config

namespace CacheL1

variable (x : CacheL1)

def write (set way : ℕ) (e : ℕ × CoherenceState) : CacheL1 :=
  { x with tags := Function.update x.tags set ((x.tags set).write way e) }

def moveToBack (set idx way : ℕ) : CacheL1 :=
  { x with tags := Function.update x.tags set ((x.tags set).moveToBack idx way) }

end CacheL1

namespace L1Reply

variable (c : CacheL1Config) (r : L1Reply)

/-- The state of the entry that was found. -/
def found? : Option CoherenceState :=
  r.set_iter.map fun (set, way) => ((r.cache.tags set).entry way).2

/-- The state of the entry that was found is set. -/
def setState (state : CoherenceState) : L1Reply :=
  match r.set_iter with
  | none => r
  | some (set, way) =>
    { r with cache := r.cache.write set way (((r.cache.tags set).entry way).1, state) }

/-- The element goes back to the second level, from here. -/
def backToL2 : Except NocError L1Reply :=
  match r.rep_lqe.pop with
  | .error error => throw error
  | .ok popped => pure
    { r with
      rep_lqe := { popped with from_stack := c.self :: popped.from_stack }
      sent_to_l2 := true
      sent := r.sent ++
        [c.sendToL2 .add_rep_event { popped with from_stack := c.self :: popped.from_stack }] }

/-- The elements of a register go to the cores, and it is released. -/
def answer (retype : NocElement → NocElement) : Except NocError L1Reply :=
  match r.cache.mshrs.registerOf (c.replyLine r.rep_lqe.address) r.rep_lqe with
  | .error error => throw error
  | .ok mshr_idx =>
    match ((r.cache.mshrs.entries mshr_idx).target_list.map retype ++ [r.rep_lqe]).mapM
        c.add_event_to_lsu with
    | .error error => throw error
    | .ok sent => pure
      { r with
        cache := { r.cache with
          mshrs := r.cache.mshrs.release (c.replyLine r.rep_lqe.address) mshr_idx }
        sent := r.sent ++ sent }

/-- `et_nack` and `et_rd_bypass`. -/
def bypass : Except NocError L1Reply :=
  if r.sent_to_l2 then pure r
  else match r.rep_lqe.pop with
    | .error error => throw error
    | .ok popped =>
      { r with rep_lqe := popped, sent_to_l2 := true }.answer c fun lqe =>
        { lqe with type := popped.type }

/-- `et_evict`. -/
def evict : Except NocError L1Reply :=
  match r.found? with
  | none => pure r
  | some state =>
    if state = .cs_modified ∧ !r.sent_to_l2 then (r.setState .cs_invalid).backToL2 c
    else pure (r.setState .cs_invalid)

/-- `et_m_to_s` and `et_m_to_m`. -/
def modifiedTo : Except NocError L1Reply :=
  match r.found? with
  | some .cs_modified =>
    if r.sent_to_l2 then pure (r.setState (if r.rep_lqe.type = .et_m_to_m then .cs_invalid
      else .cs_shared))
    else (r.setState (if r.rep_lqe.type = .et_m_to_m then .cs_invalid else .cs_shared)).backToL2 c
  | none | some .cs_invalid => if r.sent_to_l2 then pure r else r.backToL2 c
  | some _ => throw .assertion

/-- `et_dir_rd`, which goes on as an `et_evict`. -/
def dir_rd : Except NocError L1Reply :=
  match r.found? with
  | none => pure r
  | some state =>
    if r.sent_to_l2 then pure r
    else if state ≠ .cs_modified then throw .assertion
    else
      let r := r.setState .cs_exclusive
      let rep_lqe :=
        { r.rep_lqe with type := .et_evict, from_stack := c.self :: r.rep_lqe.from_stack }
      pure
        { r with
          rep_lqe
          sent_to_l2 := true
          sent := r.sent ++ [c.sendToL2 .add_rep_event rep_lqe] }

/-- The line that is replaced goes back to the second level. -/
def replace (set way : ℕ) : L1Reply :=
  let (tag, state) := (r.cache.tags set).entry way
  if state = .cs_invalid then r
  else { r with
    cache := { r.cache with next_id := r.cache.next_id + 1 }
    sent := r.sent ++ [c.sendToL2 .add_rep_event
      { id := r.cache.next_id
        type := if state = .cs_modified then .et_evict else .et_evict_nd
        address := c.lineAddress tag set
        from_stack := [c.self]
        th_id := r.rep_lqe.th_id }] }

/-- `et_read` and `et_write` of the line itself: it takes its entry, or else the one at the
    front, and becomes the one used last. -/
def fill (set tag : ℕ) (found : Option (ℕ × ℕ)) : Except NocError L1Reply :=
  match r.rep_lqe.pop with
  | .error error => throw error
  | .ok popped =>
    let r := { r with rep_lqe := popped }
    match found with
    | none =>
      let way := (r.cache.tags set).front
      let r := r.replace c set way
      let state := if popped.type = .et_read then .cs_exclusive else .cs_modified
      { r with
        cache := (r.cache.write set way (tag, state)).moveToBack set 0 way
        set_iter := some (set, way) }.answer c id
    | some (idx, way) =>
      let state := if popped.type = .et_read ∧ ((r.cache.tags set).entry way).2 ≠ .cs_modified
        then .cs_exclusive else .cs_modified
      { r with cache := (r.cache.write set way (tag, state)).moveToBack set idx way }.answer c id

/-- One pass of the loop. -/
def step (r : L1Reply) (index : ℕ) : Except NocError L1Reply :=
  let address := c.replyAddress r.rep_lqe.address index
  let set := c.setOf address
  let found : Option (ℕ × ℕ) :=
    (r.cache.tags set).search (CacheL1Config.holds (c.tagOf address))
  -- an entry that an earlier pass has found stays where this one finds none
  let r : L1Reply := { r with set_iter := (found.map fun place => (set, place.2)).or r.set_iter }
  match r.rep_lqe.type with
  | .et_nack | .et_rd_bypass => r.bypass c
  | .et_evict => r.evict c
  | .et_m_to_s | .et_m_to_m => r.modifiedTo c
  | .et_dir_rd => r.dir_rd c
  | .et_read | .et_write => if index ≠ 0 then pure r else r.fill c set (c.tagOf address) found
  | _ => throw .assertion

end L1Reply

namespace CacheL1

variable (c : CacheL1Config) (x : CacheL1)

/-- The part of `process_event` for a reply. -/
def reply (rep_lqe : NocElement) : Except NocError L1Reply :=
  (List.range (2 ^ (c.l2_set_lsb - c.set_lsb))).foldlM (L1Reply.step c) { cache := x, rep_lqe }

/-- The line is looked up; a hit makes it the one used last, and a write to a line that is
    not modified gives it up. -/
def access (etype : EventType) (set tag : ℕ) : CacheL1 × Bool :=
  if c.always_hit then (x, true)
  else match (x.tags set).search (CacheL1Config.holds tag) with
    | none => (x, false)
    | some (idx, way) =>
      let state := ((x.tags set).entry way).2
      if state = .cs_modified ∨ etype = .et_read ∧ (state = .cs_shared ∨ state = .cs_exclusive) then
        (x.moveToBack set idx way, true)
      else if etype = .et_write ∧ (state = .cs_shared ∨ state = .cs_exclusive) then
        (x.write set way (((x.tags set).entry way).1, .cs_invalid), false)
      else (x, false)

/-- A line is in the cache. -/
def contains (address : BitVec 64) : Bool :=
  ((x.tags (c.setOf address)).search (CacheL1Config.holds (c.tagOf address))).isSome

end CacheL1

namespace L1Request

variable (c : CacheL1Config) (r : L1Request)

def answer (lqe : NocElement) : Except NocError L1Request :=
  match c.add_event_to_lsu lqe with
  | .error error => throw error
  | .ok send => pure { r with sent := r.sent ++ [send] }

/-- A miss is merged into the register of its line, refused, or sent on with a new one. -/
def miss (etype : EventType) (req_lqe : NocElement) : Except NocError L1Request :=
  let line_addr := c.requestLine req_lqe.address
  match r.cache.mshrs.at? line_addr with
  | .error error => throw error
  | .ok (some (mshr_idx, entry)) =>
    if req_lqe.type = .et_read ∧ entry.etype = .et_read then
      match r.cache.mshrs.add mshr_idx req_lqe with
      | .error error => throw error
      | .ok mshrs => pure { r with cache := { r.cache with mshrs } }
    else r.answer c { req_lqe with type := .et_nack }
  | .ok none =>
    if r.cache.mshrs.indices.size = c.num_mshrs then r.answer c { req_lqe with type := .et_nack }
    else match r.cache.mshrs.allocate c.num_mshrs line_addr req_lqe etype with
      | .error error => throw error
      | .ok mshrs => pure
        { cache := { r.cache with mshrs }
          sent := r.sent ++ [c.sendToL2 .add_req_event
            { req_lqe with from_stack := c.self :: req_lqe.from_stack }] }

/-- An entry of the prefetcher for an address. -/
def prefetched (addr : BitVec 64) : Option ℕ :=
  (List.range c.num_pre_entries).find? fun idx =>
    (r.cache.pres idx).addr ≠ 0 ∧ (r.cache.pres idx).addr = addr

def hitPrefetch (idx : ℕ) : L1Request :=
  { r with cache := { r.cache with
      pres := Function.update r.cache.pres idx { r.cache.pres idx with hit := true } } }

/-- The line after the request is fetched, and `addr` is noted. -/
def prefetch (next_addr addr : BitVec 64) (th_id : ℕ) : L1Request :=
  { cache := { r.cache with
      pres := Function.update r.cache.pres r.cache.oldest_pre_entry_idx { addr }
      oldest_pre_entry_idx := (r.cache.oldest_pre_entry_idx + 1) % c.num_pre_entries
      next_id := r.cache.next_id + 1 }
    sent := r.sent ++ [c.sendToL2 .add_req_event
      { id := r.cache.next_id
        type := .et_read
        address := next_addr
        from_stack := [c.self]
        th_id }] }

/-- The line after the request is looked for in the prefetcher, then the one before it in the
    cache; the flag is `prev_addr_exist`. -/
def fetchNext (prev_addr next_addr : BitVec 64) (th_id : ℕ) : L1Request × Bool :=
  match r.prefetched c next_addr with
  | some idx => (r.hitPrefetch idx, false)
  | none =>
    if r.cache.contains c prev_addr then (r.prefetch c next_addr next_addr th_id, true)
    else (r, false)

/-- The line before the request is looked for in the prefetcher, then the one after it in the
    cache; it is again the line after the request that is fetched. -/
def fetchPrev (prev_addr next_addr : BitVec 64) (th_id : ℕ) : L1Request :=
  match r.prefetched c prev_addr with
  | some idx => r.hitPrefetch idx
  | none =>
    if r.cache.contains c next_addr then r.prefetch c next_addr prev_addr th_id else r

/-- The lines before and after the request. -/
def neighbours (req_lqe : NocElement) : L1Request :=
  let address := c.replyLine req_lqe.address
  let prev_addr := address - BitVec.ofNat 64 (2 ^ c.set_lsb)
  let next_addr := address + BitVec.ofNat 64 (2 ^ c.set_lsb)
  let looked := r.fetchNext c prev_addr next_addr req_lqe.th_id
  if looked.2 then looked.1 else looked.1.fetchPrev c prev_addr next_addr req_lqe.th_id

end L1Request

namespace CacheL1

variable (c : CacheL1Config) (x : CacheL1)

/-- The part of `process_event` for a request. -/
def request (req_lqe : NocElement) : Except NocError L1Request :=
  if req_lqe.type = .et_read ∨ req_lqe.type = .et_write then
    let looked := x.access c req_lqe.type (c.setOf req_lqe.address) (c.tagOf req_lqe.address)
    let r : L1Request := { cache := looked.1 }
    match if looked.2 then r.answer c req_lqe else r.miss c req_lqe.type req_lqe with
    | .error error => throw error
    | .ok r => pure (if req_lqe.type = .et_read ∧ c.use_prefetch then r.neighbours c req_lqe else r)
  else throw .assertion

/-- What a cache is asked. -/
inductive Event where
  | reply (rep_lqe : NocElement)
  | request (req_lqe : NocElement)

def step (x : CacheL1) : Event → Except NocError CacheL1
  | .reply rep_lqe => (x.reply c rep_lqe).map L1Reply.cache
  | .request req_lqe => (x.request c req_lqe).map L1Request.cache

end CacheL1

end ActiveRouting

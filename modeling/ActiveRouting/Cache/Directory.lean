import ActiveRouting.Cache.MSHR

/-!
# The directory

`Directory` of `PTSDirectory.cc`: the map `dir` from line numbers to entries, and
the sets of line numbers that the directory cache holds.
-/

namespace ActiveRouting

structure DirEntry where
  type : CoherenceState := .cs_invalid
  sharedl2 : List Component := []
  pending : Option NocElement := none
  /-- Whether the entry got a cache line during an invalidation. -/
  got_cl : Bool := false
  /-- The entry is not in the directory cache; it is on its way from memory. -/
  not_in_dc : Bool := false

/-- The constructor's parameters, and those of the simulator that are read. -/
structure DirectoryConfig where
  set_lsb : ℕ
  num_sets : ℕ
  num_ways : ℕ
  num_flits_per_packet : ℕ
  has_directory_cache : Bool
  use_limitless : Bool
  limitless_broadcast_threshold : ℕ
  art_scheme : ArtScheme
  which_mc : BitVec 64 → ℕ
  l2s : List Component
  self : Component
  cachel2 : Component
  sets_pos : 0 < num_sets

/-- `next_id` is the address of the next new element. -/
structure Directory where
  dir : ℕ → Option DirEntry := fun _ => none
  dir_cache : ℕ → List ℕ := fun _ => []
  next_id : ℕ := 0

/-- What the directory hands over: to the HMC controller, to its second-level cache, to the
    network, or to itself at a later time. -/
inductive DirSend where
  | toMC (element : NocElement)
  | toL2 (element : NocElement)
  | noc (priority : NocPriority) (element : NocElement) (num_flits : Option ℕ)
  | retry (entry : NocEntry) (element : NocElement)

namespace DirEntry

variable (e : DirEntry)

/-- The states that are not stable. -/
def inTransit : Bool :=
  e.type = .cs_tr_to_s ∨ e.type = .cs_tr_to_m ∨ e.type = .cs_tr_to_i ∨ e.type = .cs_tr_to_e ∨
    e.type = .cs_m_to_s

/-- An entry that stays in the directory cache. -/
def busy : Bool := e.inTransit ∨ e.pending.isSome ∨ e.not_in_dc

/-- `sharedl2.insert`; the order of the pointers in the set is not modelled. -/
def share (l2 : Component) : DirEntry :=
  if l2 ∈ e.sharedl2 then e else { e with sharedl2 := e.sharedl2 ++ [l2] }

def unshare (l2 : Component) : DirEntry := { e with sharedl2 := e.sharedl2.erase l2 }

end DirEntry

/-- The requests for a computation in the memory network. -/
def EventType.isActive (type : EventType) : Bool :=
  type = .et_art_add ∨ type = .et_art_mult ∨ type = .et_art_dot ∨ type = .et_pei_dot ∨
    type = .et_pei_atomic

/-- `new LocalQueueElement(comp, type, address)`, and the components that are pushed. -/
def newElement (next_id : ℕ) (type : EventType) (address : BitVec 64) (th_id : ℕ)
    (from_stack : List Component) : NocElement where
  id := next_id
  type := type
  address := address
  from_stack := from_stack
  th_id := th_id

namespace DirectoryConfig

variable (c : DirectoryConfig)

def lineOf (address : BitVec 64) : ℕ := (address >>> c.set_lsb).toNat

def setOf (line : ℕ) : ℕ := line % c.num_sets

def add_event_to_UL (lqe : NocElement) (is_data : Bool) : Except NocError DirSend :=
  match lqe.top with
  | .error error => throw error
  | .ok top =>
    pure (if top = c.cachel2 then .toL2 lqe
      else .noc .noc_crq { lqe with from_stack := top :: lqe.from_stack }
        (if is_data then some c.num_flits_per_packet else none))

/-- The overload with the component that the element is for. -/
def sendToL2 (comp : Component) (lqe : NocElement) : DirSend :=
  if comp = c.cachel2 then .toL2 lqe
  else .noc .noc_crq { lqe with from_stack := comp :: lqe.from_stack } none

def add_event_to_ULpp (lqe : NocElement) (is_data : Bool) : Except NocError DirSend :=
  match lqe.top with
  | .error error => throw error
  | .ok top =>
    pure (if top = c.cachel2 then .toL2 lqe
      else .noc .noc_rep lqe (if is_data then some c.num_flits_per_packet else none))

def nack (lqe : NocElement) : Except NocError DirSend :=
  c.add_event_to_ULpp { lqe with type := .et_nack } false

/-- An active request goes on to the HMC controller of this directory, or through the network. -/
def offload (lqe : NocElement) : DirSend :=
  let here : Bool := lqe.type = .et_pei_dot ∨ lqe.type = .et_pei_atomic ∨
    c.art_scheme = .art_naive ∧ c.self.num = 0 ∨
    c.art_scheme = .art_tid ∧ lqe.th_id % 4 = c.self.num ∨
    c.art_scheme = .art_addr ∧ (lqe.type = .et_art_add ∨ lqe.type = .et_art_dot ∨
      c.which_mc lqe.src_addr1 = c.self.num)
  if here then .toMC lqe
  else .noc .noc_req { lqe with from_stack := c.self :: lqe.from_stack } none

/-- The address of the line that a request is for. -/
def requestAddress (lqe : NocElement) : BitVec 64 :=
  match lqe.type with
  | .et_art_add => lqe.src_addr1
  | .et_art_mult => if lqe.twin_lqe1 = none then lqe.src_addr1 else lqe.src_addr2
  | .et_art_dot | .et_pei_dot => lqe.src_addr2
  | .et_pei_atomic => lqe.dest_addr
  | _ => lqe.address

/-- Invalidations of all sharers, of which the first is to send the line back. -/
def invalidations (next_id : ℕ) (e : DirEntry) (address : BitVec 64) (th_id : ℕ) : List DirSend :=
  let type (l2 : Component) : EventType :=
    if e.sharedl2.head? = some l2 then .et_invalidate
    else if l2 ∈ e.sharedl2 then .et_invalidate_nd
    else .et_nop
  let l2s := if c.use_limitless ∧ c.limitless_broadcast_threshold < e.sharedl2.length then c.l2s
    else e.sharedl2
  l2s.mapIdx fun idx l2 =>
    c.sendToL2 l2 (newElement (next_id + idx) (type l2) address th_id [c.self, l2])

end DirectoryConfig

namespace Directory

variable (c : DirectoryConfig) (d : Directory)

def setEntry (line : ℕ) (e : DirEntry) : Directory :=
  { d with dir := Function.update d.dir line (some e) }

/-- `remove_directory_cache_entry`. -/
def remove_directory_cache_entry (line : ℕ) : Directory :=
  if c.has_directory_cache then
    { d with
      dir_cache :=
        Function.update d.dir_cache (c.setOf line) ((d.dir_cache (c.setOf line)).erase line) }
  else d

/-- `dir.erase`, and the line leaves the directory cache. -/
def eraseLine (line : ℕ) : Directory :=
  { d with dir := Function.update d.dir line none }.remove_directory_cache_entry c line

/-- The line becomes the first one of its set. -/
def toFront (line : ℕ) : Directory :=
  { d with
    dir_cache := Function.update d.dir_cache (c.setOf line)
      (line :: (d.dir_cache (c.setOf line)).erase line) }

/-- `dir[line]`, which adds an entry that is not there. -/
def entryOf (line : ℕ) : DirEntry × Directory :=
  match d.dir line with
  | some e => (e, d)
  | none => ({}, d.setEntry line {})

/-- The first line of a set that is not busy. -/
def findVictim (d : Directory) : List ℕ → Option ℕ × Directory
  | [] => (none, d)
  | line :: lines =>
    if (d.entryOf line).1.busy then findVictim (d.entryOf line).2 lines
    else (some line, (d.entryOf line).2)

/-- A line that is not in its set enters it at the front, in the place of another one if the set
    is full: whether it has entered, and whether another one had to leave. -/
def enter (line : ℕ) : Bool × Bool × Directory :=
  let curr_set := d.dir_cache (c.setOf line)
  if curr_set.length = c.num_ways then
    match d.findVictim curr_set with
    | (none, d) => (false, false, d)
    | (some victim, d) => (true, true,
      { d with dir_cache :=
          Function.update d.dir_cache (c.setOf line) (line :: curr_set.erase victim) })
  else (true, false,
    { d with dir_cache := Function.update d.dir_cache (c.setOf line) (line :: curr_set) })

/-- A new element for the HMC controller. -/
def tellMC (type : EventType) (address : BitVec 64) (th_id : ℕ) : Directory × DirSend :=
  ({ d with next_id := d.next_id + 1 }, .toMC (newElement d.next_id type address th_id [c.self]))

/-- The state change of `et_evict` at the entry of its line. -/
def leave (line : ℕ) (e : DirEntry) (rep_lqe : NocElement) :
    Except NocError (Directory × List DirSend) :=
  match rep_lqe.top with
  | .error error => if e.type = .cs_tr_to_m then pure (d, []) else throw error
  | .ok top =>
    if e.type = .cs_modified ∨ e.type = .cs_m_to_s then
      let returned : DirSend := .toMC { rep_lqe with from_stack := c.self :: rep_lqe.from_stack }
      if 1 < e.sharedl2.length then throw .assertion
      else if top ∉ e.sharedl2 then pure (d, [])
      else if e.type = .cs_modified then pure (d.eraseLine c line, [returned])
      else pure (d.setEntry line (e.unshare top), [returned])
    else if e.type = .cs_tr_to_s then pure (d.setEntry line (e.unshare top), [])
    else if e.type = .cs_tr_to_m then pure (d, [])
    else if (e.unshare top).sharedl2 = [] then pure (d.eraseLine c line, [])
    else pure (d.setEntry line (e.unshare top), [])

/-- `et_evict` and `et_rd_dir_info_rep`. -/
def evicted (rep_lqe : NocElement) : Except NocError (Directory × List DirSend) :=
  let line := c.lineOf rep_lqe.address
  match d.dir line with
  | none => pure (d, [])
  | some e =>
    if c.has_directory_cache then
      if line ∈ d.dir_cache (c.setOf line) then
        let d := d.toFront c line
        if rep_lqe.type = .et_rd_dir_info_rep then
          pure (d.setEntry line { e with not_in_dc := false }, [])
        else if e.not_in_dc then pure (d, [.retry .add_rep_event rep_lqe])
        else d.leave c line e rep_lqe
      else match d.enter c line with
        | (false, _, d) => pure (d, [.retry .add_rep_event rep_lqe])
        | (true, replaced, d) =>
          let e := { e with not_in_dc := true }
          let (d, told) := if replaced then
              let (d, send) := d.tellMC c .et_dir_evict rep_lqe.address 0
              (d, [send])
            else (d, [])
          let (d, asked) := d.tellMC c .et_rd_dir_info_rep rep_lqe.address 0
          match (d.setEntry line e).leave c line e rep_lqe with
          | .error error => throw error
          | .ok (d, sent) => pure (d, told ++ asked :: sent)
    else d.leave c line e rep_lqe

/-- `et_e_to_i` and `et_e_to_m`. -/
def upgraded (rep_lqe : NocElement) : Except NocError (Directory × List DirSend) :=
  let line := c.lineOf rep_lqe.address
  match d.dir line with
  | none => pure (d, [])
  | some e =>
    if e.type ≠ .cs_tr_to_m then throw .assertion
    else if rep_lqe.type = .et_e_to_i then pure (d.eraseLine c line, [])
    else pure (d.setEntry line { e with type := .cs_modified, pending := none }, [])

/-- The last sharer has given up the line, for which a request waits. -/
def invalidated (line : ℕ) (e : DirEntry) (pending : NocElement) :
    Except NocError (Directory × List DirSend) :=
  if pending.type.isActive then pure (d.eraseLine c line, [c.offload pending])
  else match pending.top with
    | .error error => throw error
    | .ok top =>
      let e := { e.share top with pending := none }
      if e.got_cl then
        match c.add_event_to_UL pending true with
        | .error error => throw error
        | .ok send =>
          pure (d.setEntry line { e with type := .cs_modified, got_cl := false }, [send])
      else pure (d.setEntry line e, [.toMC
        { pending with type := .et_e_rd, from_stack := c.self :: pending.from_stack }])

/-- `et_invalidate` and `et_invalidate_nd`. -/
def invalidate (rep_lqe : NocElement) : Except NocError (Directory × List DirSend) :=
  let line := c.lineOf rep_lqe.address
  match d.dir line with
  | none => pure (d, [])
  | some e =>
    if e.type ≠ .cs_tr_to_m ∧ e.type ≠ .cs_tr_to_i then throw .assertion
    else match rep_lqe.from_stack, e.pending with
      | _ :: top :: _, some pending =>
        let e := { e.unshare top with got_cl := rep_lqe.type = .et_invalidate ∨ e.got_cl }
        if e.sharedl2 = [] then d.invalidated c line e pending
        else pure (d.setEntry line e, [])
      | _ :: _ :: _, none => throw .assertion
      | _, _ => throw .emptyStack

/-- `et_e_to_s_nd`, `et_s_to_s_nd` and `et_dir_rd_nd`. -/
def notShared (rep_lqe : NocElement) : Except NocError (Directory × List DirSend) :=
  let line := c.lineOf rep_lqe.address
  match d.dir line with
  | none => throw .assertion
  | some e =>
    match e.pending with
    | none => throw .assertion
    | some pending =>
      if e.type ≠ .cs_tr_to_s ∧ e.type ≠ .cs_m_to_s then throw .assertion
      else match c.nack pending with
        | .error error => throw error
        | .ok send =>
          if e.sharedl2 = [] then pure (d.eraseLine c line, [send])
          else pure (d.setEntry line { e with type := .cs_shared, pending := none }, [send])

/-- `et_dir_rd`, `et_e_to_s` and `et_s_to_s`. -/
def shared (rep_lqe : NocElement) : Except NocError (Directory × List DirSend) :=
  let line := c.lineOf rep_lqe.address
  match d.dir line with
  | none => throw .assertion
  | some e =>
    match e.pending with
    | none => throw .assertion
    | some pending =>
      if e.type ≠ .cs_m_to_s ∧ e.type ≠ .cs_tr_to_s then throw .assertion
      else match pending.top, c.add_event_to_UL { pending with type := .et_s_rd } true with
        | .ok top, .ok send =>
          let (d, told) := if rep_lqe.type = .et_dir_rd then
              let (d, evict) := d.tellMC c .et_evict rep_lqe.address rep_lqe.th_id
              (d, [evict])
            else (d, [])
          pure (d.setEntry line { e.share top with type := .cs_shared, pending := none },
            told ++ [send])
        | .error error, _ => throw error
        | _, .error error => throw error

/-- A reply from the HMC controller. -/
def fromMC (rep_lqe : NocElement) : Except NocError (Directory × List DirSend) :=
  let line := c.lineOf rep_lqe.address
  match rep_lqe.pop with
  | .error error => throw error
  | .ok popped =>
    let pass (d : Directory) (lqe : NocElement) : Except NocError (Directory × List DirSend) :=
      (c.add_event_to_ULpp lqe true).map fun send => (d, [send])
    match d.dir line with
    | none => pass d popped
    | some e =>
      if e.type = .cs_tr_to_e ∧ popped.type = .et_e_rd then
        pass (d.setEntry line { e with type := .cs_exclusive }) popped
      else if e.type = .cs_tr_to_m ∧ popped.type = .et_e_rd then
        pass (d.setEntry line { e with type := .cs_modified }) { popped with type := .et_write }
      else pass d popped

/-- The part of `process_event` for a reply. -/
def reply (rep_lqe : NocElement) : Except NocError (Directory × List DirSend) :=
  match rep_lqe.type with
  | .et_evict | .et_rd_dir_info_rep => d.evicted c rep_lqe
  | .et_e_to_i | .et_e_to_m => d.upgraded c rep_lqe
  | .et_invalidate | .et_invalidate_nd => d.invalidate c rep_lqe
  | .et_e_to_s_nd | .et_s_to_s_nd | .et_dir_rd_nd => d.notShared c rep_lqe
  | .et_dir_rd | .et_e_to_s | .et_s_to_s => d.shared c rep_lqe
  | _ => d.fromMC c rep_lqe

/-- A request for a line that has no entry. -/
def newEntry (line : ℕ) (req_lqe : NocElement) : Except NocError (Directory × List DirSend) :=
  let load (d : Directory) (told : List DirSend) : Except NocError (Directory × List DirSend) :=
    match req_lqe.top with
    | .error error => throw error
    | .ok top =>
      let type := if req_lqe.type = .et_read then .cs_tr_to_e else .cs_tr_to_m
      pure (d.setEntry line { type, sharedl2 := [top] }, told ++ [.toMC
        { req_lqe with type := .et_e_rd, from_stack := c.self :: req_lqe.from_stack }])
  if c.has_directory_cache then
    match d.enter c line with
    | (false, _, d) => (c.nack req_lqe).map fun send => (d, [send])
    | (true, true, d) =>
      let (d, send) := d.tellMC c .et_dir_evict req_lqe.address 0
      load d [send]
    | (true, false, d) => load d []
  else load d []

/-- A read of a line with a stable entry. -/
def read (line : ℕ) (e : DirEntry) (address : BitVec 64) (req_lqe : NocElement) :
    Except NocError (Directory × List DirSend) :=
  let ask (type : CoherenceState) (event : EventType) (owner : Component) :
      Except NocError (Directory × List DirSend) :=
    pure ({ d with next_id := d.next_id + 1 }.setEntry line
        { e with type, pending := some req_lqe },
      [c.sendToL2 owner (newElement d.next_id event address req_lqe.th_id [c.self])])
  match req_lqe.top with
  | .error error => throw error
  | .ok top =>
    if top ∈ e.sharedl2 then (c.nack req_lqe).map fun send => (d, [send])
    else match e.type, e.sharedl2 with
      | .cs_exclusive, [owner] => ask .cs_tr_to_s .et_e_to_s owner
      | .cs_modified, [owner] => ask .cs_m_to_s .et_dir_rd owner
      | .cs_shared, owner :: _ => ask .cs_tr_to_s .et_s_to_s owner
      | _, _ => throw .assertion

/-- The request waits while the sharers give up the line. -/
def hold (line : ℕ) (e : DirEntry) (type : CoherenceState) (address : BitVec 64)
    (req_lqe : NocElement) : Directory × List DirSend :=
  let sent := c.invalidations d.next_id e address req_lqe.th_id
  ({ d with next_id := d.next_id + sent.length }.setEntry line
    { e with type, pending := some req_lqe }, sent)

/-- The one sharer is told to give up the line. -/
def holdOwner (line : ℕ) (e : DirEntry) (type : CoherenceState) (address : BitVec 64)
    (req_lqe : NocElement) (owner : Component) : Directory × List DirSend :=
  ({ d with next_id := d.next_id + 1 }.setEntry line { e with type, pending := some req_lqe },
    [c.sendToL2 owner
      (newElement d.next_id .et_invalidate address req_lqe.th_id [c.self, owner])])

/-- A write of a line with a stable entry. -/
def write (line : ℕ) (e : DirEntry) (address : BitVec 64) (req_lqe : NocElement) :
    Except NocError (Directory × List DirSend) :=
  match req_lqe.top with
  | .error error => throw error
  | .ok top =>
    match e.type, e.sharedl2 with
    | .cs_exclusive, [owner] =>
      if owner = top then
        (c.add_event_to_ULpp { req_lqe with type := .et_write_nd } false).map fun send =>
          (d.setEntry line { e with type := .cs_tr_to_m }, [send])
      else
        pure (d.holdOwner c line { e with got_cl := false } .cs_tr_to_m address req_lqe owner)
    | .cs_shared, _ :: _ => pure (d.hold c line e .cs_tr_to_m address req_lqe)
    | .cs_modified, [owner] =>
      if e.pending.isSome then throw .assertion
      else if owner = top then
        (c.add_event_to_UL { req_lqe with type := .et_nack } false).map fun send => (d, [send])
      else pure (d.holdOwner c line e .cs_tr_to_m address req_lqe owner)
    | _, _ => throw .assertion

/-- An active request of a line with a stable entry: the caches give up the line. -/
def active (line : ℕ) (e : DirEntry) (address : BitVec 64) (req_lqe : NocElement) :
    Except NocError (Directory × List DirSend) :=
  match e.type, e.sharedl2 with
  | .cs_exclusive, [owner] => pure (d.holdOwner c line e .cs_tr_to_i address req_lqe owner)
  | .cs_modified, [owner] =>
    if e.pending.isSome then throw .assertion
    else pure (d.holdOwner c line e .cs_tr_to_i address req_lqe owner)
  | .cs_shared, _ :: _ => pure (d.hold c line e .cs_tr_to_i address req_lqe)
  | _, _ => throw .assertion

/-- A request for a line whose entry is at hand. -/
def serve (line : ℕ) (e : DirEntry) (address : BitVec 64) (is_active_req : Bool)
    (req_lqe : NocElement) : Except NocError (Directory × List DirSend) :=
  if e.inTransit then
    if is_active_req then pure (d, [.retry .add_req_event req_lqe])
    else (c.nack req_lqe).map fun send => (d, [send])
  else if req_lqe.type = .et_read then d.read c line e address req_lqe
  else if req_lqe.type = .et_write then d.write c line e address req_lqe
  else if req_lqe.type.isActive then d.active c line e address req_lqe
  else throw .assertion

/-- A request for a line whose entry is in the directory cache. -/
def hit (line : ℕ) (e : DirEntry) (address : BitVec 64) (req_lqe : NocElement) :
    Except NocError (Directory × List DirSend) :=
  let d := d.toFront c line
  match req_lqe.type, e.pending with
  | .et_rd_dir_info_req, none => throw .assertion
  | .et_rd_dir_info_req, some pending =>
    -- the request that waits takes the place of the information
    let e := { e with pending := none, not_in_dc := false }
    (d.setEntry line e).serve c line e address false pending
  | type, some _ =>
    if type.isActive then pure (d, [.retry .add_req_event req_lqe])
    else (c.nack req_lqe).map fun send => (d, [send])
  | type, none => d.serve c line e address type.isActive req_lqe

/-- A request for a line whose entry is not in the directory cache. -/
def miss (line : ℕ) (e : DirEntry) (req_lqe : NocElement) :
    Except NocError (Directory × List DirSend) :=
  let load (d : Directory) (told : List DirSend) : Directory × List DirSend :=
    let (d, asked) := d.tellMC c .et_rd_dir_info_req req_lqe.address 0
    (d.setEntry line { e with pending := some req_lqe, not_in_dc := true }, told ++ [asked])
  if req_lqe.type.isActive then pure (d.eraseLine c line, [c.offload req_lqe])
  else if req_lqe.type = .et_rd_dir_info_req then throw .assertion
  else match d.enter c line with
    | (false, _, d) => (c.nack req_lqe).map fun send => (d, [send])
    | (true, true, d) =>
      let (d, send) := d.tellMC c .et_evict req_lqe.address 0
      pure (load d [send])
    | (true, false, d) => pure (load d [])

/-- The part of `process_event` for a request. -/
def request (req_lqe : NocElement) : Except NocError (Directory × List DirSend) :=
  let address := DirectoryConfig.requestAddress req_lqe
  let line := c.lineOf address
  match d.dir line with
  | none =>
    if req_lqe.type.isActive then pure (d, [c.offload req_lqe]) else d.newEntry c line req_lqe
  | some e =>
    if c.has_directory_cache then
      if line ∈ d.dir_cache (c.setOf line) then d.hit c line e address req_lqe
      else d.miss c line e req_lqe
    else d.serve c line e address req_lqe.type.isActive req_lqe

/-- What the directory is sent. -/
inductive Event where
  | reply (rep_lqe : NocElement)
  | request (req_lqe : NocElement)

def step (d : Directory) : Event → Except NocError Directory
  | .reply rep_lqe => (d.reply c rep_lqe).map Prod.fst
  | .request req_lqe => (d.request c req_lqe).map Prod.fst

end Directory

end ActiveRouting

import ActiveRouting.Noc.Component

/-!
# The crossbar

`Crossbar` of `PTSXbar.cc`: events wait for their time, then in the queue of a
port, and each component takes one of them in a round.
-/

namespace ActiveRouting

/-- The multimaps of the events that wait for their time, and the queues of the
    ports, ordered by priority. -/
structure Crossbar where
  req_events : List (ℕ × NocEvent) := []
  crq_events : List (ℕ × NocEvent) := []
  rep_events : List (ℕ × NocEvent) := []
  queues : ℕ → List (NocPriority × NocElement × Component) := fun _ => []
  clockwise : Bool := true
  top_priority : ℕ := 0

instance : LE NocPriority := ⟨fun first second => first.rank ≤ second.rank⟩

instance : DecidableLE NocPriority := fun first second =>
  inferInstanceAs (Decidable (first.rank ≤ second.rank))

/-- How the crossbar sends an event on: the port whose queue it enters, its
    target, and the element as it is sent. -/
structure Route where
  port : ℕ
  target : Component
  element : NocElement

namespace Crossbar

variable (c : NocConfig)

/-! ## Routing -/

/-- A reply to the first-level caches of type `l1`. -/
def routeToL1 (l1 : component_type) (e : NocElement) (top sender : Component) : Route where
  port := if sender.type = l1 then top.num else sender.num
  target := ⟨l1, if sender.type = l1 then sender.num else top.num⟩
  element := e

/-- The tests of `process_event` for a reply, in their order. -/
def repRoute (e : NocElement) (top sender : Component) : Except NocError Route :=
  if replyToL1 .ct_cachel1i top sender then pure (routeToL1 .ct_cachel1i e top sender)
  else if replyToL1 .ct_cachel1d top sender then pure (routeToL1 .ct_cachel1d e top sender)
  else if fromL1 top sender then pure ⟨sender.num, ⟨.ct_cachel2, c.which_l2 e.address⟩, e⟩
  else if toDirectory e.type sender then
    pure ⟨sender.num, ⟨.ct_directory, c.host.which_mc e.address⟩, e⟩
  else if e.type ∈ [.et_art_get, .et_art_add, .et_art_mult, .et_art_dot] then
    if top.type = .ct_o3core ∧ sender.type = .ct_hmc_controller then
      pure ⟨sender.num, ⟨.ct_o3core, top.num⟩, e⟩
    else throw .assertion
  else pure ⟨sender.num, top, e⟩

/-- A request of a directory goes to the cache on the top of the stack. -/
def crqRoute (e : NocElement) (top sender : Component) : Except NocError Route := do
  let popped ← e.pop
  pure ⟨sender.num, top, popped⟩

/-- The controller to which a directory sends an update. -/
def updateController (e : NocElement) : ℕ :=
  match c.host.art_scheme with
  | .art_naive => 0
  | .art_tid => e.th_id % 4
  | .art_addr => c.host.which_mc e.src_addr1

/-- The request of a core.  One of another type enters no queue. -/
def coreRoute (e : NocElement) (sender : Component) : Option Route :=
  match e.type with
  | .et_art_add => some ⟨sender.num, ⟨.ct_directory, c.host.which_mc e.src_addr1⟩, e⟩
  | .et_art_mult =>
    some ⟨sender.num,
      ⟨.ct_directory, if e.twin_lqe1 = none then c.host.which_mc e.src_addr1
        else c.host.which_mc e.src_addr2⟩, e⟩
  | .et_art_get => some ⟨sender.num, ⟨.ct_hmc_controller, c.gatherController e.th_id⟩, e⟩
  | _ => none

/-- The tests for a request. -/
def reqRoute (e : NocElement) (top sender : Component) : Except NocError (Option Route) :=
  if fromL1 top sender then pure (some ⟨sender.num, ⟨.ct_cachel2, c.which_l2 e.address⟩, e⟩)
  else if top.type = .ct_o3core then pure (coreRoute c e sender)
  else if top.type = .ct_directory ∧ (e.type = .et_art_mult ∨ e.type = .et_art_add) then do
    let popped ← e.pop
    pure (some ⟨sender.num, ⟨.ct_hmc_controller, updateController c e⟩, popped⟩)
  else if top.type = .ct_cachel2 then
    pure (some ⟨sender.num, ⟨.ct_directory, c.host.which_mc e.address⟩, e⟩)
  else throw .assertion

/-- The route of an event of any priority. -/
def route (priority : NocPriority) (event : NocEvent) : Except NocError (Option Route) := do
  let e := event.element
  let top ← e.top
  match priority with
  | .noc_rep => (repRoute c e top event.sender).map some
  | .noc_crq => (crqRoute e top event.sender).map some
  | .noc_req => reqRoute c e top event.sender

/-! ## Events -/

/-- `add_rep_event`, `add_crq_event` and `add_req_event` of a single flit. -/
def addEvent (s : Crossbar) (priority : NocPriority) (event_time : ℕ) (event : NocEvent) : Crossbar :=
  match priority with
  | .noc_rep =>
    { s with rep_events := Multimap.insert (c.alignTime event_time) event s.rep_events }
  | .noc_crq =>
    { s with crq_events := Multimap.insert (c.alignTime event_time) event s.crq_events }
  | .noc_req =>
    { s with req_events := Multimap.insert (c.alignTime event_time) event s.req_events }

/-- A flit with no data of its own. -/
def dummyEvent (event : NocEvent) : NocEvent := { event with element := event.element.dummyFlit }

/-- The same of `num_flits`, of which the last is the event. -/
def addFlits (s : Crossbar) (priority : NocPriority) (event_time num_flits : ℕ) (event : NocEvent) :
    Crossbar :=
  let s := (List.replicate (num_flits - 1) (dummyEvent event)).foldl
    (fun s dummy => s.addEvent c priority event_time dummy) s
  s.addEvent c priority event_time event

def enqueue (s : Crossbar) (priority : NocPriority) (route : Route) : Crossbar :=
  { s with
    queues := Function.update s.queues route.port
      (Multimap.insert priority (route.element, route.target) (s.queues route.port)) }

/-- An event whose time has come enters the queue of its port. -/
def queueEvent (s : Crossbar) (priority : NocPriority) (event : NocEvent) :
    Except NocError Crossbar := do
  match ← route c priority event with
  | some route => pure (s.enqueue priority route)
  | none => pure s

def queueEvents (s : Crossbar) (priority : NocPriority) (entries : List (ℕ × NocEvent)) :
    Except NocError Crossbar :=
  entries.foldlM (fun s entry => s.queueEvent c priority entry.2) s

/-- The first part of `process_event`. -/
def collect (s : Crossbar) (curr_time : ℕ) : Except NocError Crossbar := do
  let queued ← s.queueEvents c .noc_rep (Multimap.first curr_time s.rep_events)
  let queued ← queued.queueEvents c .noc_crq (Multimap.first curr_time s.crq_events)
  let queued ← queued.queueEvents c .noc_req (Multimap.first curr_time s.req_events)
  pure { queued with
    req_events := Multimap.erase curr_time s.req_events
    crq_events := Multimap.erase curr_time s.crq_events
    rep_events := Multimap.erase curr_time s.rep_events }

/-! ## Sending -/

/-- `already_sent` holds the numbers of the targets that have got an element. -/
structure Sending where
  queues : ℕ → List (NocPriority × NocElement × Component)
  already_sent : ℕ → Bool := fun _ => false
  delivered : List Delivery := []

/-- The function that the second part of `process_event` calls. -/
def entryOf : NocPriority → NocEntry
  | .noc_req => .add_req_event
  | .noc_crq | .noc_rep => .add_rep_event

/-- What the target of a queued element gets.  A dummy is deleted. -/
def delivery (entry : NocPriority × NocElement × Component) : List Delivery :=
  if entry.2.1.dummy then [] else [⟨entry.2.2, entryOf entry.1, entry.2.1⟩]

/-- The element at `place` of a queue is sent, if there is one and its target has
    not got another. -/
def Sending.trySend (s : Sending) (port place : ℕ) : Option Sending :=
  match (s.queues port)[place]? with
  | none => none
  | some entry =>
    if s.already_sent entry.2.2.num then none
    else some {
      queues := Function.update s.queues port ((s.queues port).eraseIdx place)
      already_sent := Function.update s.already_sent entry.2.2.num true
      delivered := s.delivered ++ delivery entry }

/-- A port sends its first element and then its next, or else its second. -/
def Sending.sendPort (s : Sending) (port : ℕ) : Sending :=
  match s.trySend port 0 with
  | some s' => (s'.trySend port 0).getD s'
  | none => (s.trySend port 1).getD s

/-- The port that comes at step `i` of the round. -/
def portAt (s : Crossbar) (i : ℕ) : ℕ :=
  (if s.clockwise then s.top_priority + c.num_ports + i else s.top_priority + c.num_ports - i) %
    c.num_ports

def sendPorts (s : Crossbar) : Sending :=
  ((List.range c.num_ports).map (s.portAt c)).foldl Sending.sendPort { queues := s.queues }

/-- The other direction comes next, and then another port first. -/
def turn (s : Crossbar) : Crossbar :=
  { s with
    clockwise := !s.clockwise
    top_priority := if s.clockwise then s.top_priority else (s.top_priority + 1) % c.num_ports }

/-- `process_event`, with what the targets get. -/
def process_event (s : Crossbar) (curr_time : ℕ) : Except NocError (Crossbar × List Delivery) := do
  let s ← s.collect c curr_time
  let sent := s.sendPorts c
  pure ({ s with queues := sent.queues }.turn c, sent.delivered)

/-- Whether `process_event` asks the global event queue for another round. -/
def again (s : Crossbar) : Bool := (List.range c.num_ports).any fun port => !(s.queues port).isEmpty

end Crossbar

end ActiveRouting

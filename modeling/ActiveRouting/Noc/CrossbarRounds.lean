import ActiveRouting.Library.Ledger
import ActiveRouting.Noc.Agreement
import Mathlib.Algebra.BigOperators.Group.List.Basic
import Mathlib.Algebra.Order.BigOperators.Group.Finset

/-!
# Rounds of the crossbar

What the crossbar holds is what has been handed to it and not been delivered,
and a round in which a queue is not empty delivers something.
-/

namespace ActiveRouting

open Outcome Finset

namespace Crossbar

/-- An element in the queue of a port. -/
abbrev Entry := NocPriority × NocElement × Component

/-- The sum of the weights of a list. -/
def weigh (w : Entry → ℕ) (entries : List Entry) : ℕ := (entries.map w).sum

section Weights

variable (w : Entry → ℕ)

@[simp] theorem weigh_nil : weigh w [] = 0 := rfl

@[simp] theorem weigh_cons (entry : Entry) (entries : List Entry) :
    weigh w (entry :: entries) = w entry + weigh w entries := by
  simp [weigh]

@[simp] theorem weigh_append (first second : List Entry) :
    weigh w (first ++ second) = weigh w first + weigh w second := by
  simp [weigh]

theorem weigh_perm {first second : List Entry} (perm : first.Perm second) :
    weigh w first = weigh w second := (perm.map w).sum_eq

end Weights

/-- The entry that an event becomes. -/
def entriesOf (c : NocConfig) (priority : NocPriority) (event : NocEvent) : List Entry :=
  match route c priority event with
  | .ok (some route) => [(priority, route.element, route.target)]
  | _ => []

def waitingOf (c : NocConfig) (priority : NocPriority) (events : List (ℕ × NocEvent)) : List Entry :=
  events.flatMap fun entry => entriesOf c priority entry.2

/-- What waits for its time. -/
def waiting (c : NocConfig) (s : Crossbar) : List Entry :=
  waitingOf c .noc_rep s.rep_events ++ waitingOf c .noc_crq s.crq_events ++
    waitingOf c .noc_req s.req_events

/-- The weight of what is in the queues. -/
def queueLoad (c : NocConfig) (w : Entry → ℕ) (queues : ℕ → List Entry) : ℕ :=
  ∑ port ∈ range c.num_ports, weigh w (queues port)

def load (c : NocConfig) (w : Entry → ℕ) (s : Crossbar) : ℕ :=
  weigh w (waiting c s) + queueLoad c w s.queues

variable {c : NocConfig}

/-! ## Queues -/

theorem queueLoad_update (queues : ℕ → List Entry) {port : ℕ} (isPort : port < c.num_ports)
    (w : Entry → ℕ) (queue : List Entry) :
    queueLoad c w (Function.update queues port queue) + weigh w (queues port) =
      queueLoad c w queues + weigh w queue :=
  Ledger.sum_update (mem_range.mpr isPort) (weigh w) queues queue

theorem queueLoad_enqueue (s : Crossbar) (priority : NocPriority) {route : Route}
    (isPort : route.port < c.num_ports) (w : Entry → ℕ) :
    queueLoad c w (s.enqueue priority route).queues =
      queueLoad c w s.queues + w (priority, route.element, route.target) := by
  have updated := queueLoad_update s.queues isPort w
    (Multimap.insert priority (route.element, route.target) (s.queues route.port))
  rw [weigh_perm w (Multimap.insert_perm _ _ _), weigh_cons] at updated
  show queueLoad c w (Function.update s.queues _ _) = _
  omega

/-! ## Events whose time has come -/

theorem entriesOf_eq {priority : NocPriority} {event : NocEvent} {route : Route} {target : MeshTarget}
    (agree : c.Agree priority event route target) :
    entriesOf c priority event = [(priority, route.element, route.target)] := by
  rw [entriesOf, agree.crossbar]

/-- The parts of a crossbar that a queued event leaves alone. -/
structure SameEvents (s s' : Crossbar) : Prop where
  rep_events : s'.rep_events = s.rep_events
  crq_events : s'.crq_events = s.crq_events
  req_events : s'.req_events = s.req_events
  clockwise : s'.clockwise = s.clockwise
  top_priority : s'.top_priority = s.top_priority

theorem SameEvents.refl (s : Crossbar) : SameEvents s s := ⟨rfl, rfl, rfl, rfl, rfl⟩

theorem SameEvents.trans {s s' s'' : Crossbar} (first : SameEvents s s') (second : SameEvents s' s'') :
    SameEvents s s'' where
  rep_events := second.rep_events.trans first.rep_events
  crq_events := second.crq_events.trans first.crq_events
  req_events := second.req_events.trans first.req_events
  clockwise := second.clockwise.trans first.clockwise
  top_priority := second.top_priority.trans first.top_priority

/-- Events move to the queues. -/
structure Queues (c : NocConfig) (s s' : Crossbar) (entries : List Entry) : Prop where
  same : SameEvents s s'
  load : ∀ w, queueLoad c w s'.queues = queueLoad c w s.queues + weigh w entries

theorem Queues.trans {s s' s'' : Crossbar} {entries entries' : List Entry}
    (first : Queues c s s' entries) (second : Queues c s' s'' entries') :
    Queues c s s'' (entries ++ entries') where
  same := first.same.trans second.same
  load w := by rw [second.load, first.load, weigh_append, Nat.add_assoc]

theorem queueEvent_queues (s : Crossbar) {priority : NocPriority} {event : NocEvent}
    (carries : c.Carries priority event) :
    ∃ s', s.queueEvent c priority event = .ok s' ∧ Queues c s s' (entriesOf c priority event) := by
  obtain ⟨route, target, agree⟩ := carries
  refine ⟨s.enqueue priority route, ?_, ⟨rfl, rfl, rfl, rfl, rfl⟩, ?_⟩
  · rw [queueEvent, agree.crossbar]
    rfl
  · intro w
    rw [queueLoad_enqueue s priority agree.port, entriesOf_eq agree, weigh_cons, weigh_nil]
    rfl

theorem queueEvents_queues {priority : NocPriority} :
    ∀ (entries : List (ℕ × NocEvent)) (s : Crossbar),
      (∀ entry ∈ entries, c.Carries priority entry.2) →
      ∃ s', s.queueEvents c priority entries = .ok s' ∧
        Queues c s s' (waitingOf c priority entries)
  | [], s, _ => ⟨s, rfl, SameEvents.refl s, fun _ => rfl⟩
  | entry :: rest, s, carried => by
    obtain ⟨s', queued, first⟩ := queueEvent_queues s (carried entry List.mem_cons_self)
    obtain ⟨s'', queuedRest, second⟩ := queueEvents_queues rest s' fun other member =>
      carried other (List.mem_cons_of_mem _ member)
    refine ⟨s'', ?_, ?_⟩
    · rw [queueEvents, List.foldlM_cons, queued]
      exact queuedRest
    · exact first.trans second

/-- The events that wait, each for one of the times. -/
structure Pending (c : NocConfig) (times : Finset ℕ) (priority : NocPriority)
    (events : List (ℕ × NocEvent)) : Prop where
  sorted : Multimap.Sorted events
  scheduled : ∀ entry ∈ events, entry.1 ∈ times
  carried : ∀ entry ∈ events, c.Carries priority entry.2

section Pending

variable {times : Finset ℕ} {time : ℕ} {priority : NocPriority} {events : List (ℕ × NocEvent)}

theorem Pending.nil (priority : NocPriority) : Pending c ∅ priority [] :=
  ⟨.nil, fun _ h => (nomatch h), fun _ h => (nomatch h)⟩

theorem Pending.mono {times' : Finset ℕ} (pending : Pending c times priority events)
    (more : times ⊆ times') : Pending c times' priority events :=
  ⟨pending.sorted, fun entry member => more (pending.scheduled entry member), pending.carried⟩

theorem Pending.insert {event : NocEvent} (pending : Pending c times priority events) (time : ℕ)
    (carried : c.Carries priority event) :
    Pending c (insert time times) priority (Multimap.insert time event events) where
  sorted := pending.sorted.insert time event
  scheduled entry member := by
    cases Multimap.mem_insert.mp member with
    | inl isNew => exact isNew ▸ mem_insert_self time times
    | inr wasThere => exact mem_insert_of_mem (pending.scheduled entry wasThere)
  carried entry member := by
    cases Multimap.mem_insert.mp member with
    | inl isNew => exact isNew ▸ carried
    | inr wasThere => exact pending.carried entry wasThere

theorem Pending.first (pending : Pending c times priority events) (time : ℕ) :
    ∀ entry ∈ Multimap.first time events, c.Carries priority entry.2 :=
  fun entry member => pending.carried entry (Multimap.mem_of_mem_first member)

theorem Pending.erase (pending : Pending c times priority events) (time : ℕ) :
    Pending c (times.erase time) priority (Multimap.erase time events) where
  sorted := pending.sorted.filter _
  scheduled entry member := by
    obtain ⟨wasThere, other⟩ := Multimap.mem_erase.mp member
    exact mem_erase.mpr ⟨other, pending.scheduled entry wasThere⟩
  carried entry member := pending.carried entry (Multimap.mem_erase.mp member).1

/-- The events of the first time and the others together are all. -/
theorem Pending.weigh_first (pending : Pending c times priority events)
    (least : ∀ other ∈ times, time ≤ other) (w : Entry → ℕ) :
    weigh w (waitingOf c priority (Multimap.first time events)) +
        weigh w (waitingOf c priority (Multimap.erase time events)) =
      weigh w (waitingOf c priority events) := by
  have perm := (pending.sorted.first_perm time fun entry member =>
    least entry.1 (pending.scheduled entry member)).flatMap_right
    fun entry => entriesOf c priority entry.2
  rw [← weigh_append, waitingOf, waitingOf, ← List.flatMap_append]
  exact weigh_perm w perm

end Pending

/-- Every event has a route, and waits for one of the times. -/
structure Ok (c : NocConfig) (times : Finset ℕ) (s : Crossbar) : Prop where
  rep : Pending c times .noc_rep s.rep_events
  crq : Pending c times .noc_crq s.crq_events
  req : Pending c times .noc_req s.req_events

/-- Nothing waits at the start. -/
theorem ok_start : Ok c ∅ ({} : Crossbar) := ⟨.nil _, .nil _, .nil _⟩

theorem again_start : ({} : Crossbar).again c = false := by simp [again]

theorem Ok.mono {times times' : Finset ℕ} {s : Crossbar} (ok : Ok c times s)
    (more : times ⊆ times') : Ok c times' s :=
  ⟨ok.rep.mono more, ok.crq.mono more, ok.req.mono more⟩

theorem collect_ok {times : Finset ℕ} {time : ℕ} {s : Crossbar} (ok : Ok c times s)
    (least : ∀ other ∈ times, time ≤ other) :
    ∃ s', s.collect c time = .ok s' ∧ Ok c (times.erase time) s' ∧
      ∀ w, load c w s' = load c w s := by
  obtain ⟨s₁, queued₁, first⟩ := queueEvents_queues _ s (ok.rep.first time)
  obtain ⟨s₂, queued₂, second⟩ := queueEvents_queues _ s₁ (ok.crq.first time)
  obtain ⟨s₃, queued₃, third⟩ := queueEvents_queues _ s₂ (ok.req.first time)
  have queues := (first.trans second).trans third
  refine ⟨{ s₃ with
    req_events := Multimap.erase time s.req_events
    crq_events := Multimap.erase time s.crq_events
    rep_events := Multimap.erase time s.rep_events }, ?_,
    ⟨ok.rep.erase time, ok.crq.erase time, ok.req.erase time⟩, ?_⟩
  · rw [collect, queued₁, ok_bind, queued₂, ok_bind, queued₃, ok_bind]
    rfl
  · intro w
    have rep := ok.rep.weigh_first least w
    have crq := ok.crq.weigh_first least w
    have req := ok.req.weigh_first least w
    have moved := queues.load w
    simp only [weigh_append] at moved
    simp only [load, waiting, weigh_append, moved]
    omega

/-! ## Sending -/

/-- Elements leave the queues, and their targets get them. -/
structure Sends (c : NocConfig) (s s' : Sending) (entries : List Entry) : Prop where
  load : ∀ w, queueLoad c w s'.queues + weigh w entries = queueLoad c w s.queues
  delivered : s'.delivered = s.delivered ++ entries.flatMap delivery

theorem Sends.refl (s : Sending) : Sends c s s [] :=
  ⟨fun _ => rfl, (List.append_nil _).symm⟩

theorem Sends.trans {s s' s'' : Sending} {entries entries' : List Entry}
    (first : Sends c s s' entries) (second : Sends c s' s'' entries') :
    Sends c s s'' (entries ++ entries') where
  load w := by
    rw [weigh_append, ← first.load w, ← second.load w]
    omega
  delivered := by
    rw [second.delivered, first.delivered, List.flatMap_append, List.append_assoc]

/-- What takes no element out has done nothing, as far as the number of elements
    shows. -/
theorem Sends.ne {s s' : Sending} {entries : List Entry} (sends : Sends c s s' entries)
    (some : entries ≠ []) : s' ≠ s := by
  rintro rfl
  have weight : weigh (fun _ => 1) entries = 0 := by
    have load := sends.load fun _ => 1
    omega
  cases entries with
  | nil => exact some rfl
  | cons entry rest =>
    rw [weigh_cons] at weight
    omega

theorem weigh_eraseIdx (w : Entry → ℕ) {entry : Entry} :
    ∀ (queue : List Entry) (place : ℕ), queue[place]? = some entry →
      weigh w (queue.eraseIdx place) + w entry = weigh w queue
  | first :: rest, 0, found => by
    obtain rfl := Option.some.inj found
    rw [List.eraseIdx_zero, weigh_cons, List.tail_cons, Nat.add_comm]
  | first :: rest, place + 1, found => by
    have inductionHypothesis := weigh_eraseIdx w rest place found
    rw [List.eraseIdx_cons_succ, weigh_cons, weigh_cons, ← inductionHypothesis, Nat.add_assoc]

theorem trySend_sends {s s' : Sending} {port place : ℕ} (isPort : port < c.num_ports)
    (sent : s.trySend port place = some s') : ∃ entry, Sends c s s' [entry] := by
  unfold Sending.trySend at sent
  split at sent
  · cases sent
  · rename_i entry found
    split at sent
    · cases sent
    · obtain rfl := Option.some.inj sent
      refine ⟨entry, ?_, ?_⟩
      · intro w
        have updated := queueLoad_update s.queues isPort w
          ((s.queues port).eraseIdx place)
        have erased := weigh_eraseIdx w _ _ found
        rw [weigh_cons, weigh_nil]
        show queueLoad c w (Function.update s.queues port _) + _ = _
        omega
      · show s.delivered ++ delivery entry = _
        rw [List.flatMap_cons, List.flatMap_nil, List.append_nil]

theorem trySend_getD (s : Sending) {port : ℕ} (isPort : port < c.num_ports) (place : ℕ) :
    ∃ entries, Sends c s ((s.trySend port place).getD s) entries ∧
      (entries = [] → (s.trySend port place).getD s = s) := by
  cases sent : s.trySend port place with
  | none => exact ⟨[], Sends.refl s, fun _ => rfl⟩
  | some s' =>
    obtain ⟨entry, sends⟩ := trySend_sends isPort sent
    exact ⟨[entry], sends, fun isEmpty => nomatch isEmpty⟩

theorem sendPort_sends (s : Sending) {port : ℕ} (isPort : port < c.num_ports) :
    ∃ entries, Sends c s (s.sendPort port) entries ∧ (entries = [] → s.sendPort port = s) := by
  unfold Sending.sendPort
  split
  · rename_i s' sent
    obtain ⟨entry, first⟩ := trySend_sends isPort sent
    obtain ⟨entries, second, -⟩ := trySend_getD s' isPort 0
    exact ⟨_, first.trans second, fun isEmpty => nomatch isEmpty⟩
  · exact trySend_getD s isPort 1

/-- The first element of a port is sent while no target has got one. -/
theorem sendPort_ne {s : Sending} {port : ℕ} (isPort : port < c.num_ports)
    (nonempty : s.queues port ≠ []) (free : ∀ num, s.already_sent num = false) :
    s.sendPort port ≠ s := by
  obtain ⟨entry, rest, queue⟩ := List.exists_cons_of_ne_nil nonempty
  cases sent : s.trySend port 0 with
  | none => simp [Sending.trySend, queue, free] at sent
  | some s' =>
    obtain ⟨entry', first⟩ := trySend_sends isPort sent
    obtain ⟨entries, second, -⟩ := trySend_getD s' isPort 0
    have result : s.sendPort port = (s'.trySend port 0).getD s' := by
      rw [Sending.sendPort, sent]
    rw [result]
    exact (first.trans second).ne (List.cons_ne_nil _ _)

/-- A round in which nothing is sent has left every port as it was. -/
theorem foldl_sends :
    ∀ {ports : List ℕ} (s : Sending), (∀ port ∈ ports, port < c.num_ports) →
      ∃ entries, Sends c s (ports.foldl Sending.sendPort s) entries ∧
        (entries = [] → ∀ port ∈ ports, s.sendPort port = s)
  | [], s, _ => ⟨[], Sends.refl s, fun _ _ h => (nomatch h)⟩
  | port :: rest, s, arePorts => by
    obtain ⟨entries, first, same⟩ := sendPort_sends s (arePorts port List.mem_cons_self)
    obtain ⟨entries', second, unchanged⟩ := foldl_sends (s.sendPort port) fun other member =>
      arePorts other (List.mem_cons_of_mem port member)
    refine ⟨entries ++ entries', first.trans second, ?_⟩
    intro nothing other member
    obtain ⟨isEmpty, isEmpty'⟩ := List.append_eq_nil_iff.mp nothing
    cases member with
    | head => exact same isEmpty
    | tail _ member =>
      have unchangedOther := unchanged isEmpty' other member
      rw [same isEmpty] at unchangedOther
      exact unchangedOther

/-! ## The order of the ports -/

/-- Each port comes at some step of the round. -/
theorem exists_portAt (s : Crossbar) {port : ℕ} (isPort : port < c.num_ports) :
    ∃ i < c.num_ports, s.portAt c i = port := by
  have pos : 0 < c.num_ports := Nat.lt_of_le_of_lt (Nat.zero_le _) isPort
  unfold portAt
  cases s.clockwise with
  | true =>
    -- upwards from the first port
    refine ⟨(port + (c.num_ports - s.top_priority % c.num_ports)) % c.num_ports,
      Nat.mod_lt _ pos, ?_⟩
    have small := Nat.mod_lt s.top_priority pos
    have split := Nat.mod_add_div s.top_priority c.num_ports
    rw [if_pos rfl, Nat.add_mod_mod]
    have total : s.top_priority + c.num_ports +
        (port + (c.num_ports - s.top_priority % c.num_ports)) =
        port + c.num_ports * (s.top_priority / c.num_ports + 2) := by
      rw [Nat.mul_add]
      omega
    rw [total, Nat.add_mul_mod_self_left, Nat.mod_eq_of_lt isPort]
  | false =>
    -- and downwards
    have above : port ≤ s.top_priority + c.num_ports := by omega
    refine ⟨(s.top_priority + c.num_ports - port) % c.num_ports, Nat.mod_lt _ pos, ?_⟩
    rw [if_neg Bool.false_ne_true]
    have split := Nat.mod_add_div (s.top_priority + c.num_ports - port) c.num_ports
    have total : s.top_priority + c.num_ports -
        (s.top_priority + c.num_ports - port) % c.num_ports =
        port + c.num_ports * ((s.top_priority + c.num_ports - port) / c.num_ports) := by
      omega
    rw [total, Nat.add_mul_mod_self_left, Nat.mod_eq_of_lt isPort]

theorem portAt_lt (s : Crossbar) (i : ℕ) : s.portAt c i < c.num_ports :=
  Nat.mod_lt _ (Nat.lt_of_lt_of_le c.hthreads_pos c.hthreads_le_ports)

/-- A round sends something if a queue is not empty. -/
theorem sendPorts_sends (s : Crossbar) :
    ∃ entries, Sends c { queues := s.queues } (s.sendPorts c) entries ∧
      ((∃ port < c.num_ports, s.queues port ≠ []) → entries ≠ []) := by
  have arePorts : ∀ port ∈ (List.range c.num_ports).map (s.portAt c), port < c.num_ports := by
    intro port member
    obtain ⟨i, -, rfl⟩ := List.mem_map.mp member
    exact portAt_lt s i
  obtain ⟨entries, sends, unchanged⟩ := foldl_sends (c := c) { queues := s.queues } arePorts
  refine ⟨entries, sends, ?_⟩
  rintro ⟨port, isPort, nonempty⟩ nothing
  obtain ⟨i, small, rfl⟩ := exists_portAt s isPort
  exact sendPort_ne isPort nonempty (fun _ => rfl)
    (unchanged nothing _ (List.mem_map_of_mem (List.mem_range.mpr small)))

/-! ## The round -/

theorem queueLoad_pos {queues : ℕ → List Entry} (busy : 0 < queueLoad c (fun _ => 1) queues) :
    ∃ port < c.num_ports, queues port ≠ [] := by
  obtain ⟨port, member, notZero⟩ := exists_ne_zero_of_sum_ne_zero busy.ne'
  refine ⟨port, mem_range.mp member, ?_⟩
  intro isEmpty
  rw [isEmpty] at notZero
  exact notZero rfl

/-- A round keeps what it does not deliver. -/
theorem process_ok {times : Finset ℕ} {time : ℕ} {s : Crossbar} (ok : Ok c times s)
    (least : ∀ other ∈ times, time ≤ other) :
    ∃ s' entries, s.process_event c time = .ok (s', entries.flatMap delivery) ∧
      Ok c (times.erase time) s' ∧ (∀ w, load c w s' + weigh w entries = load c w s) ∧
      (0 < queueLoad c (fun _ => 1) s'.queues → entries ≠ []) := by
  obtain ⟨collected, isCollected, ok', load⟩ := collect_ok ok least
  obtain ⟨entries, sends, busy⟩ := sendPorts_sends (c := c) collected
  refine ⟨({ collected with queues := (collected.sendPorts c).queues } : Crossbar).turn c, entries,
    ?_, ⟨ok'.rep, ok'.crq, ok'.req⟩, ?_, ?_⟩
  · have delivered : (collected.sendPorts c).delivered = entries.flatMap delivery :=
      sends.delivered.trans (List.nil_append _)
    rw [process_event, isCollected, ok_bind, ← delivered]
    rfl
  · intro w
    have sent := sends.load w
    rw [← load w]
    show weigh w (waiting c collected) + queueLoad c w (collected.sendPorts c).queues + _ =
      weigh w (waiting c collected) + queueLoad c w collected.queues
    rw [← sent, Nat.add_assoc]
  · intro left
    have sent := sends.load fun _ => 1
    have more : 0 < queueLoad c (fun _ => 1) collected.queues :=
      Nat.lt_of_lt_of_le left (Nat.le.intro sent)
    exact busy (queueLoad_pos more)

/-! ## New events -/

theorem Ok.addEvent {times : Finset ℕ} {s : Crossbar} {priority : NocPriority} {event : NocEvent}
    (ok : Ok c times s) (event_time : ℕ) (carried : c.Carries priority event) :
    Ok c (insert (c.alignTime event_time) times) (s.addEvent c priority event_time event) := by
  have more := subset_insert (c.alignTime event_time) times
  cases priority with
  | noc_rep => exact ⟨ok.rep.insert _ carried, ok.crq.mono more, ok.req.mono more⟩
  | noc_crq => exact ⟨ok.rep.mono more, ok.crq.insert _ carried, ok.req.mono more⟩
  | noc_req => exact ⟨ok.rep.mono more, ok.crq.mono more, ok.req.insert _ carried⟩

theorem weigh_insert (w : Entry → ℕ) (priority : NocPriority) (time : ℕ) (event : NocEvent)
    (events : List (ℕ × NocEvent)) :
    weigh w (waitingOf c priority (Multimap.insert time event events)) =
      weigh w (waitingOf c priority events) + weigh w (entriesOf c priority event) := by
  have perm := (Multimap.insert_perm time event events).flatMap_right
    fun entry => entriesOf c priority entry.2
  rw [waitingOf, weigh_perm w perm, List.flatMap_cons, weigh_append, Nat.add_comm]
  rfl

theorem load_addEvent (s : Crossbar) (priority : NocPriority) (event_time : ℕ) (event : NocEvent)
    (w : Entry → ℕ) :
    load c w (s.addEvent c priority event_time event) =
      load c w s + weigh w (entriesOf c priority event) := by
  cases priority <;> simp only [addEvent, load, waiting, weigh_append, weigh_insert] <;> omega

/-! ## The end -/

/-- The crossbar asks for another round as long as a queue is not empty. -/
theorem again_iff {s : Crossbar} : s.again c = true ↔ ∃ port < c.num_ports, s.queues port ≠ [] := by
  simp only [again, List.any_eq_true, List.mem_range, Bool.not_eq_true', List.isEmpty_eq_false_iff]

theorem queueLoad_of_again {s : Crossbar} (busy : s.again c = true) :
    0 < queueLoad c (fun _ => 1) s.queues := by
  obtain ⟨port, isPort, nonempty⟩ := again_iff.mp busy
  obtain ⟨entry, rest, queue⟩ := List.exists_cons_of_ne_nil nonempty
  have one : 0 < weigh (fun _ => 1) (s.queues port) := by
    rw [queue, weigh_cons]
    omega
  exact one.trans_le (single_le_sum (f := fun port => weigh (fun _ => 1) (s.queues port))
    (fun _ _ => Nat.zero_le _) (mem_range.mpr isPort))

/-- Where no event waits and no round is to come, nothing is held. -/
theorem Ok.load_eq_zero {s : Crossbar} (ok : Ok c ∅ s) (rests : s.again c = false) (w : Entry → ℕ) :
    load c w s = 0 := by
  have noEvents : ∀ {priority : NocPriority} {events : List (ℕ × NocEvent)},
      Pending c ∅ priority events → events = [] := by
    intro priority events pending
    exact List.eq_nil_iff_forall_not_mem.mpr fun entry member =>
      notMem_empty _ (pending.scheduled entry member)
  have queues : queueLoad c w s.queues = 0 := by
    refine sum_eq_zero fun port member => ?_
    have isEmpty : s.queues port = [] := by
      by_contra nonempty
      have busy := again_iff.mpr ⟨port, mem_range.mp member, nonempty⟩
      rw [rests] at busy
      cases busy
    rw [isEmpty, weigh_nil]
  rw [load, waiting, noEvents ok.rep, noEvents ok.crq, noEvents ok.req, queues]
  rfl

end Crossbar

end ActiveRouting

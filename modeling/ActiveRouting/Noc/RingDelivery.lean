import ActiveRouting.Noc.RingRounds

/-!
# Delivery round the ring

Runs of the ring: the caches and the directories hand events to it at any times, and it
runs at the times that are in the global event queue for it.
-/

namespace ActiveRouting

open Outcome Transition

namespace Ring

/-- The ring, its times in the global event queue, the events that have been handed to it,
    and the log of what its nodes have sent. -/
structure Traffic where
  ring : Ring := {}
  times : Finset ℕ := ∅
  handed : List (NocPriority × NocEvent) := []
  sends : List RingSend := []
  delivered : List Delivery := []

inductive Action where
  | hand (priority : NocPriority) (event_time : ℕ) (event : NocEvent)
  | process (time : ℕ)

variable (c : RingConfig)

def step (s : Traffic) : Action → Except NocError Traffic
  | .hand priority event_time event =>
    pure { s with
      ring := s.ring.addEvent c priority event_time event
      times := Insert.insert (alignTime c event_time) s.times
      handed := s.handed ++ [(priority, event)] }
  | .process time => do
    let (ring, delivered, sends) ← process_event c s.ring time
    pure { s with
      ring := ring
      times := QueueTable.nextTimes ring.again c.process_interval s.times time
      sends := s.sends ++ sends
      delivered := s.delivered ++ delivered }

/-- The requests and the replies that caches send to directories. -/
def upwards (priority : NocPriority) (event : NocEvent) : Prop :=
  priority = .noc_req ∨ priority = .noc_rep ∧ toDirectory event.element.type event.sender

/-- An event is between components of the ring. -/
structure Promised (priority : NocPriority) (event : NocEvent) : Prop where
  up : upwards priority event → event.sender.num < c.num_l2s
  down : ¬ upwards priority event → event.sender.num < c.host.num_mcs ∧
    ∃ top, event.element.top = .ok top ∧ top.num < c.num_l2s

def Guard (s : Traffic) (action : Action) (_ : Traffic) : Prop :=
  match action with
  | .hand priority _ event => Promised c priority event
  | .process time => time ∈ s.times ∧ ∀ other ∈ s.times, time ≤ other

abbrev Reaches (first : Traffic) (actions : List Action) (last : Traffic) : Prop :=
  Run (step c) (Guard c) first actions last

/-! ## Components -/

section Components

variable {c} {priority : NocPriority} {event : NocEvent}

@[simp] theorem startKey_priority (priority : NocPriority) (event : NocEvent) :
    (startKey c priority event).priority = priority := by
  cases priority with
  | noc_rep =>
    simp only [startKey]
    split <;> rfl
  | noc_crq => rfl
  | noc_req => rfl

theorem Promised.startKey_mem (promised : Promised c priority event) :
    startKey c priority event ∈ keys c := by
  have atCache : event.sender.num < c.num_l2s →
      (⟨priority, c.l2_pos event.sender.num, l2_port_num c event.sender.num⟩ : RingKey) ∈ keys c :=
    fun isCache => mem_keys.mpr ⟨c.l2_pos_lt _ isCache, l2_port_num_lt isCache⟩
  have atDirectory : event.sender.num < c.host.num_mcs →
      (⟨priority, c.mc_pos event.sender.num, mc_port_num c event.sender.num⟩ : RingKey) ∈ keys c :=
    fun isController => mem_keys.mpr ⟨c.mc_pos_lt _ isController, mc_port_num_lt isController⟩
  cases priority with
  | noc_req => exact atCache (promised.up (.inl rfl))
  | noc_crq => exact atDirectory (promised.down (by simp [upwards])).1
  | noc_rep =>
    simp only [startKey]
    split
    · rename_i isUp
      exact atCache (promised.up (.inr ⟨rfl, isUp⟩))
    · rename_i notUp
      exact atDirectory (promised.down (by simp [upwards, notUp])).1

theorem Promised.good (promised : Promised c priority event) : Good c priority event := by
  have controller : ∀ address, (directoryOf c address).target_pos < c.num_nodes :=
    fun address => c.mc_pos_lt _ (Nat.mod_lt _ c.mcs_pos)
  have cache : ¬ upwards priority event →
      ∃ top, event.element.top = .ok top ∧ (cacheL2 c top.num).target_pos < c.num_nodes := by
    intro notUp
    obtain ⟨-, top, isTop, isCache⟩ := promised.down notUp
    exact ⟨top, isTop, c.l2_pos_lt _ isCache⟩
  cases priority with
  | noc_req => exact ⟨_, rfl, controller _⟩
  | noc_crq =>
    obtain ⟨top, isTop, inside⟩ := cache (by simp [upwards])
    refine ⟨_, ?_, inside⟩
    rw [target, isTop]
    rfl
  | noc_rep =>
    by_cases isUp : toDirectory event.element.type event.sender
    · exact ⟨_, if_pos isUp, controller _⟩
    · obtain ⟨top, isTop, inside⟩ := cache (by simp [upwards, isUp])
      refine ⟨cacheL2 c top.num, ?_, inside⟩
      rw [target, if_neg isUp, isTop]
      rfl

end Components

/-! ## Runs -/

/-- The ring and its log as a network of switches. -/
def Traffic.view (s : Traffic) : Switches RingKey ℕ NocPriority NocEvent where
  qs := s.ring.qs
  count := s.ring.num_req_in_ring
  sends := s.sends

theorem view_traffic (log : List RingSend) (ring : Ring) :
    Ring.view log { ring := ring } = Traffic.view { ring := ring, sends := log } := by
  simp only [Ring.view, Traffic.view, List.append_nil]

section Orderly

variable {c} {small : c.num_nodes ≤ 2 ^ 31}

/-- The ring is in order, every event is in a queue or has left, and the ring is woken as
    long as an event is in it. -/
structure Inv (small : c.num_nodes ≤ 2 ^ 31) (s : Traffic) : Prop where
  ok : (carrier c small).Ok s.view
  told : (carrier c small).Told s.view
  balance : ∀ w, (carrier c small).total w s.view = (s.handed.map w).sum
  woken : 0 < s.ring.num_req_in_ring → s.times.Nonempty

theorem Inv.start : Inv small {} where
  ok := by
    exact ⟨fun _ _ _ h => (nomatch h), (QueueTable.load_empty _ _).symm⟩
  told := by
    refine ⟨fun _ h => (nomatch h), ?_, fun _ h => (nomatch h)⟩
    rintro key packet ⟨-, -, due, member⟩
    cases member
  balance w := congrArg (· + 0) (QueueTable.load_empty _ _)
  woken some := absurd some (Nat.lt_irrefl 0)

theorem Inv.hand {s : Traffic} {priority : NocPriority} {event : NocEvent} (inv : Inv small s)
    (event_time : ℕ) (promised : Promised c priority event) :
    Inv small { s with
      ring := s.ring.addEvent c priority event_time event
      times := Insert.insert (alignTime c event_time) s.times
      handed := s.handed ++ [(priority, event)] } := by
  have isKey := promised.startKey_mem
  have isLabel : (routing c).label (startKey c priority event) = priority :=
    startKey_priority priority event
  refine ⟨?_, ?_, ?_, fun _ => Finset.insert_nonempty _ _⟩
  · refine inv.ok.enter isKey ?_ _
    show Good c (startKey c priority event).priority event
    rw [startKey_priority]
    exact promised.good
  · refine inv.told.enter ?_
    show startKey c ((routing c).label (startKey c priority event)) event = _
    rw [isLabel]
  · intro w
    have entered := (carrier c small).total_enter s.view event isKey (alignTime c event_time) w
    rw [isLabel, inv.balance w] at entered
    rw [List.map_append, List.sum_append, List.map_singleton, List.sum_singleton]
    exact entered

/-- The round at the first time. -/
theorem Inv.process {s : Traffic} {time : ℕ} (inv : Inv small s) (isTime : time ∈ s.times) :
    ∃ s', step c s (.process time) = .ok s' ∧ Inv small s' ∧ s'.handed = s.handed ∧
      (carrier c small).wakeRank c.process_interval s'.times s'.view <
        (carrier c small).wakeRank c.process_interval s.times s.view := by
  have inOrder : (carrier c small).Ok (Ring.view s.sends { ring := s.ring }) := by
    rw [view_traffic]
    exact inv.ok
  obtain ⟨ring, delivered, sends, processed, isView⟩ :=
    process_event_round time s.sends inOrder
  rw [view_traffic, view_traffic] at isView
  have areKeys : ∀ queues ∈ turns c s.ring.token, ∀ key ∈ queues, key ∈ keys c :=
    fun queues member key isKey => mem_turns.mpr ⟨queues, member, isKey⟩
  obtain ⟨ok, told, keeps, -⟩ := inv.ok.round areKeys time
  refine ⟨{ s with
      ring := ring
      times := QueueTable.nextTimes ring.again c.process_interval s.times time
      sends := s.sends ++ sends
      delivered := s.delivered ++ delivered }, ?_, ⟨?_, ?_, ?_, ?_⟩, rfl, ?_⟩
  · rw [step, processed]
    rfl
  · show (carrier c small).Ok (Traffic.view { ring := ring, sends := s.sends ++ sends })
    rw [isView]
    exact ok.fresh
  · show (carrier c small).Told (Traffic.view { ring := ring, sends := s.sends ++ sends })
    rw [isView]
    exact (told inv.told).fresh
  · intro w
    rw [← inv.balance w]
    show (carrier c small).total w (Traffic.view { ring := ring, sends := s.sends ++ sends }) = _
    rw [isView]
    exact keeps w
  · intro some
    have again : ring.again = true := decide_eq_true some
    rw [again]
    exact Finset.insert_nonempty _ _
  · have sameCount : ((routing c).round time s.view (turns c s.ring.token)).count =
        ring.num_req_in_ring := (congrArg Switches.count isView).symm
    have falls := inv.ok.round_rank ring.again (fun key => mem_turns)
      c.process_interval_pos isTime fun busy => by
        rw [sameCount]
        exact of_decide_eq_true busy
    show (carrier c small).wakeRank c.process_interval _
      (Traffic.view { ring := ring, sends := s.sends ++ sends }) < _
    rw [isView]
    exact falls

/-! ## Delivery -/

/-- The queue in which a packet starts. -/
def firstKey (c : RingConfig) (packet : NocPriority × NocEvent) : RingKey :=
  startKey c packet.1 packet.2

/-- An event is in a queue of the ring. -/
def Queued (c : RingConfig) (s : Ring) (key : RingKey) (packet : NocPriority × NocEvent) : Prop :=
  key ∈ keys c ∧ packet.1 = key.priority ∧ ∃ due, (due, packet.2) ∈ s.qs key

/-- What is in the ring goes one way from its source to its target, the shorter one, and
    leaves there; and all of it does so in the rounds that follow. -/
structure Delivers (c : RingConfig) (s : Traffic) : Prop where
  traced : Traced s.sends (firstKey c) (Queued c s.ring)
  oneWay : ∀ packet key outs, Trail s.sends packet (firstKey c packet) key outs →
    ∃ way : ring_dir, outs = List.replicate outs.length way.port
  nearer : ∀ packet key outs target, Trail s.sends packet (firstKey c packet) key outs →
    Ring.target c packet.1 packet.2 = .ok target →
    outs.length + hops c.num_nodes key.node target.target_pos =
      hops c.num_nodes (firstKey c packet).node target.target_pos
  leaves : ∀ send ∈ s.sends, send.next = none →
    ∃ target, Ring.target c send.packet.1 send.packet.2 = .ok target ∧
      send.key.node = target.target_pos ∧ send.out = target.target_port_num ∧
      ∀ outs, Trail s.sends send.packet (firstKey c send.packet) send.key outs →
        outs.length = min (clockwise c.num_nodes (firstKey c send.packet).node target.target_pos)
          (counterClockwise c.num_nodes (firstKey c send.packet).node target.target_pos)
  arrives : ∃ actions s', Reaches c s actions s' ∧ s'.handed = s.handed ∧
    (Switches.departed s'.sends).Perm s.handed

section Delivery

variable {s : Traffic}

/-- An event has come to a queue by `outs`, in the direction that it has at its source. -/
structure OnItsWay (c : RingConfig) (priority : NocPriority) (source target_pos : ℕ) (key : RingKey)
    (outs : List ℕ) : Prop where
  inside : key.node < c.num_nodes
  priority : key.priority = priority
  way : outs = List.replicate outs.length (direction c.num_nodes source target_pos).port
  nearer : outs.length + hops c.num_nodes key.node target_pos = hops c.num_nodes source target_pos
  keeps : key.node ≠ target_pos →
    direction c.num_nodes key.node target_pos = direction c.num_nodes source target_pos

theorem left_eq_hops {way : ring_dir} {node target_pos : ℕ} (inside : node < c.num_nodes)
    (targetInside : target_pos < c.num_nodes)
    (isWay : node ≠ target_pos → direction c.num_nodes node target_pos = way) :
    left c.num_nodes way node target_pos = hops c.num_nodes node target_pos := by
  by_cases there : node = target_pos
  · subst there
    have up := clockwise_eq inside inside
    have down := counterClockwise_eq inside inside
    rw [if_pos le_rfl, Nat.sub_self] at up down
    rw [hops, up, down]
    cases way with
    | ring_cw => exact up
    | ring_ccw => exact down
  · rw [← left_direction inside targetInside, isWay there]

theorem OnItsWay.hop {priority : NocPriority} {source target_pos next : ℕ} {key : RingKey}
    {outs : List ℕ} {dir port : ring_dir} (small : c.num_nodes ≤ 2 ^ 31)
    (onWay : OnItsWay c priority source target_pos key outs) (targetInside : target_pos < c.num_nodes)
    (hop : nextHop c.num_nodes key.node target_pos = some (dir, next, port)) :
    OnItsWay c priority source target_pos ⟨key.priority, next, port.port⟩ (outs ++ [dir.port]) := by
  obtain ⟨nextInside, isDir, fewer, kept⟩ := nextHop_nearer small onWay.inside targetInside hop
  have notThere : key.node ≠ target_pos := by
    intro there
    rw [there, nextHop_eq small targetInside targetInside, if_pos rfl] at hop
    cases hop
  have isWay := isDir.trans (onWay.keeps notThere)
  have leftHere := left_eq_hops onWay.inside targetInside fun _ => isDir.symm
  have leftThere := left_eq_hops nextInside targetInside kept
  have nearer := onWay.nearer
  refine ⟨nextInside, onWay.priority, ?_, ?_, fun there => (kept there).trans isWay⟩
  · rw [List.length_append, List.length_singleton, List.replicate_succ', ← onWay.way, isWay]
  · show (outs ++ [dir.port]).length + hops c.num_nodes next target_pos = _
    rw [List.length_append, List.length_singleton]
    omega

/-- An event on a trail is on its way. -/
theorem Inv.onItsWay (inv : Inv small s) {packet : NocPriority × NocEvent} {key : RingKey}
    {outs : List ℕ} {target : RingTarget} (trail : Trail s.sends packet (firstKey c packet) key outs)
    (isTarget : Ring.target c packet.1 packet.2 = .ok target)
    (sourceInside : (firstKey c packet).node < c.num_nodes)
    (inside : target.target_pos < c.num_nodes) :
    OnItsWay c packet.1 (firstKey c packet).node target.target_pos key outs := by
  have isPosition : targetOf c packet.1 packet.2 = target.target_pos := by
    rw [targetOf, isTarget]
  refine trail.induct ⟨sourceInside, startKey_priority _ _, rfl, Nat.zero_add _, fun _ => rfl⟩ ?_
  intro send member isPacket next isNext outs onWay
  have routed := inv.told.routed send member
  have isHop : (routing c).next send.key packet.2 = some next := by
    rw [← isNext, routed.next, isPacket]
  obtain ⟨dir, router_pos, port, hop, rfl, isPort⟩ := next_eq_some isHop
  rw [onWay.priority, isPosition] at hop
  have isOut : send.out = dir.port := by
    rw [routed.out, isPacket]
    exact isPort
  rw [isOut]
  exact onWay.hop small inside hop

/-- What is sent has a target and started inside the ring. -/
theorem Inv.sent (inv : Inv small s) {send : RingSend} (member : send ∈ s.sends) :
    ∃ target, Ring.target c send.packet.1 send.packet.2 = .ok target ∧
      target.target_pos < c.num_nodes ∧ (carrier c small).Routed send := by
  have routed := inv.told.routed send member
  have good : Good c send.key.priority send.packet.2 := routed.good
  have label : send.packet.1 = send.key.priority := routed.label
  rw [← label] at good
  obtain ⟨target, isTarget, inside⟩ := good
  exact ⟨target, isTarget, inside, routed⟩

/-- The ring goes on as long as it has times. -/
theorem Inv.rests_or_moves {handed : List (NocPriority × NocEvent)} (inv : Inv small s)
    (sameHanded : s.handed = handed) :
    s.times = ∅ ∨ ∃ action s', step c s action = .ok s' ∧ Guard c s action s' ∧
      (Inv small s' ∧ s'.handed = handed) ∧
        (carrier c small).wakeRank c.process_interval s'.times s'.view <
          (carrier c small).wakeRank c.process_interval s.times s.view := by
  cases s.times.eq_empty_or_nonempty with
  | inl isEmpty => exact .inl isEmpty
  | inr nonempty =>
    have isTime := s.times.min'_mem nonempty
    obtain ⟨s', stepped, inv', same, falls⟩ := inv.process isTime
    exact .inr ⟨_, s', stepped, ⟨isTime, s.times.min'_le⟩, ⟨inv', same.trans sameHanded⟩, falls⟩

/-- The rounds that follow empty the ring. -/
theorem Inv.drains (inv : Inv small s) :
    ∃ actions s', Reaches c s actions s' ∧ s'.handed = s.handed ∧
      (Switches.departed s'.sends).Perm s.handed := by
  let rank := fun other : Traffic =>
    (carrier c small).wakeRank c.process_interval other.times other.view
  have drained : ∃ actions s', Reaches c s actions s' ∧
      (Inv small s' ∧ s'.handed = s.handed) ∧ s'.times = ∅ :=
    Run.exists_rest rank (fun _ holds => holds.1.rests_or_moves holds.2) ⟨inv, rfl⟩
  obtain ⟨actions, s', run, ⟨inv', sameHanded⟩, rests⟩ := drained
  refine ⟨actions, s', run, sameHanded, Carrier.count_of_sums fun w => ?_⟩
  have empty : s'.ring.num_req_in_ring = 0 := by
    by_contra some
    exact Finset.not_nonempty_empty (rests ▸ inv'.woken (Nat.pos_of_ne_zero some))
  rw [← sameHanded, ← inv'.balance w]
  exact (inv'.ok.total_rest empty w).symm

theorem Inv.delivers (inv : Inv small s) : Delivers c s := by
  have onItsWay : ∀ packet key outs target, Trail s.sends packet (firstKey c packet) key outs →
      outs ≠ [] → Ring.target c packet.1 packet.2 = .ok target →
      OnItsWay c packet.1 (firstKey c packet).node target.target_pos key outs := by
    intro packet key outs target trail some isTarget
    obtain ⟨-, send, member, isPacket, isFirst⟩ :=
      trail.first_hop.resolve_left fun both => some both.1
    obtain ⟨other, isOther, inside, routed⟩ := inv.sent member
    rw [isPacket, isTarget] at isOther
    obtain rfl := Except.ok.inj isOther
    exact inv.onItsWay trail isTarget (isFirst ▸ (mem_keys.mp routed.isKey).1) inside
  have nearer : ∀ packet key outs target, Trail s.sends packet (firstKey c packet) key outs →
      Ring.target c packet.1 packet.2 = .ok target →
      outs.length + hops c.num_nodes key.node target.target_pos =
        hops c.num_nodes (firstKey c packet).node target.target_pos := by
    intro packet key outs target trail isTarget
    by_cases isStart : outs = []
    · cases trail.first_hop with
      | inl both => rw [both.1, both.2, List.length_nil, Nat.zero_add]
      | inr moved => exact absurd isStart moved.1
    · exact (onItsWay packet key outs target trail isStart isTarget).nearer
  refine ⟨inv.told.traced, ?_, nearer, ?_, inv.drains⟩
  · intro packet key outs trail
    by_cases isStart : outs = []
    · exact ⟨.ring_cw, by rw [isStart]; rfl⟩
    · obtain ⟨-, send, member, isPacket, -⟩ :=
        trail.first_hop.resolve_left fun both => isStart both.1
      obtain ⟨target, isTarget, -, -⟩ := inv.sent member
      rw [isPacket] at isTarget
      exact ⟨_, (onItsWay packet key outs target trail isStart isTarget).way⟩
  · intro send member stops
    obtain ⟨target, isTarget, inside, routed⟩ := inv.sent member
    have label : send.packet.1 = send.key.priority := routed.label
    have nodeInside := (mem_keys.mp routed.isKey).1
    have isTarget' : Ring.target c send.key.priority send.packet.2 = .ok target := label ▸ isTarget
    have isPosition : targetOf c send.key.priority send.packet.2 = target.target_pos := by
      rw [targetOf, isTarget']
    have noHop := next_eq_none routed.good (routed.next.symm.trans stops)
    rw [isPosition] at noHop
    have there := nextHop_none small nodeInside inside noHop
    refine ⟨target, isTarget, there, ?_, ?_⟩
    · rw [routed.out]
      simp only [routing, isTarget', noHop]
    · intro outs trail
      have sum := nearer send.packet send.key outs target trail isTarget
      rw [there, hops, clockwise_eq inside inside, if_pos le_rfl, Nat.sub_self, Nat.zero_min] at sum
      exact sum

theorem Inv.run {actions : List Action} (small : c.num_nodes ≤ 2 ^ 31)
    (run : Reaches c {} actions s) : Inv small s := by
  refine run.invariant .start ?_
  intro s action s' inv stepped guarded
  cases action with
  | hand priority event_time event =>
    obtain rfl := pure_eq_ok.mp stepped
    exact inv.hand event_time guarded
  | process time =>
    obtain ⟨s'', stepped', inv', -, -⟩ := inv.process guarded.1
    exact Except.ok.inj (stepped.symm.trans stepped') ▸ inv'

end Delivery

end Orderly

/-! ## Larger rings -/

section Larger

variable {c}

theorem foldlM_idle {α σ : Type} {f : σ → α → Except NocError σ} {s : σ} :
    ∀ {xs : List α}, (∀ x ∈ xs, f s x = .ok s) → xs.foldlM f s = .ok s
  | [], _ => rfl
  | x :: xs, idle => by
    rw [List.foldlM_cons, idle x List.mem_cons_self, ok_bind]
    exact foldlM_idle fun other member => idle other (List.mem_cons_of_mem x member)

theorem process_qs_empty {curr_time : ℕ} {s : Switching} {key : RingKey}
    (isEmpty : s.ring.qs key = []) : process_qs c curr_time s key = .ok s := by
  rw [process_qs, isEmpty]
  rfl

/-- A ring with one event, at the last node, sends it to the next one. -/
theorem process_event_single {curr_time : ℕ} {s : Ring} {key : RingKey} {event : NocEvent}
    {target : RingTarget} {out port : ring_dir} {next : ℕ}
    (isLast : key.node + 1 = c.num_nodes) (isPort : key.port < max_radix c)
    (queue : s.qs key = [(curr_time, event)]) (others : ∀ other ≠ key, s.qs other = [])
    (isTarget : Ring.target c key.priority event = .ok target)
    (hop : nextHop c.num_nodes key.node target.target_pos = some (out, next, port))
    (away : next ≠ key.node) :
    ∃ ring, process_event c s curr_time = .ok (ring, [],
      [⟨key, out.port, some ⟨key.priority, next, port.port⟩, (key.priority, event)⟩]) := by
  have nodes : List.range c.num_nodes = List.range key.node ++ [key.node] := by
    rw [← isLast, List.range_succ]
  have before : (List.range key.node).foldlM (processNode c curr_time) { ring := s } =
      .ok { ring := s } := by
    refine foldlM_idle fun node isBefore => foldlM_idle fun other member => process_qs_empty ?_
    refine others other ?_
    rintro rfl
    exact absurd (mem_nodeKeys.mp member).1 (List.mem_range.mp isBefore).ne'
  obtain ⟨first, second, isSplit, notFirst⟩ := List.eq_append_cons_of_mem
    (mem_nodeKeys.mpr ⟨rfl, isPort⟩ : key ∈ nodeKeys c s.token key.node)
  have sends : process_qs c curr_time { ring := s } key =
      .ok (Switching.hop { ring := s } key [] out ⟨key.priority, next, port.port⟩
        (curr_time + c.sw_to_sw_t) event) := by
    rw [process_qs, queue]
    simp only [lt_irrefl, if_false, isTarget, ok_bind, hop]
    rfl
  have last : processNode c curr_time { ring := s } key.node =
      .ok (Switching.hop { ring := s } key [] out ⟨key.priority, next, port.port⟩
        (curr_time + c.sw_to_sw_t) event) := by
    show (nodeKeys c s.token key.node).foldlM (process_qs c curr_time) { ring := s } = _
    rw [isSplit, List.foldlM_append, foldlM_idle, ok_bind, List.foldlM_cons, sends, ok_bind]
    · refine foldlM_idle fun other member => process_qs_empty ?_
      have atNode : other.node = key.node :=
        (mem_nodeKeys.mp (isSplit ▸ List.mem_append_right _ (List.mem_cons_of_mem key member))).1
      have notNext : other ≠ ⟨key.priority, next, port.port⟩ := by
        rintro rfl
        exact away atNode
      show Function.update (Function.update s.qs key []) _ _ other = []
      rw [Function.update_of_ne notNext]
      by_cases same : other = key
      · rw [same, Function.update_self]
      · rw [Function.update_of_ne same, others other same]
    · intro other member
      exact process_qs_empty (others other fun same => notFirst (same ▸ member))
  refine ⟨{ (Switching.hop { ring := s } key [] out ⟨key.priority, next, port.port⟩
    (curr_time + c.sw_to_sw_t) event).ring with token := (s.token + 1) % max_radix c }, ?_⟩
  rw [process_event, nodes, List.foldlM_append, before, ok_bind, List.foldlM_cons, last, ok_bind,
    List.foldlM_nil]
  rfl

/-- A ring with a cache at its last node and a directory at the one before. -/
def neighbours (num_nodes : ℕ) (some : 1 < num_nodes) (word : num_nodes < 2 ^ 32) : RingConfig where
  host := {
    art_scheme := .art_addr
    hmc_top := .DFLY
    hmcs_size := 4
    num_mcs := 1
    num_mcs_log2 := 0
    process_interval := 10
    cubes_per_mc := 4
    cube_interleave_base_bit := 14
    interleave_xor_base_bit := 20
    geq_interleave_base_bit := 12
    geq_interleave_xor_base_bit := 20 }
  num_nodes := num_nodes
  num_l2s := 1
  process_interval := 10
  sw_to_sw_t := 10
  mc_pos _ := num_nodes - 2
  l2_pos _ := num_nodes - 1
  num_nodes_lt := word
  process_interval_pos := Nat.succ_pos 9
  mcs_pos := by decide
  mc_pos_lt _ _ := by omega
  l2_pos_lt _ _ := by omega

/-- A read of the second-level cache. -/
def readRequest : NocEvent := ⟨{ id := 1, type := .et_read, from_stack := [] }, ⟨.ct_cachel2, 0⟩⟩

/-- What the last node sends. -/
def wrongHop (num_nodes : ℕ) (some : 1 < num_nodes) (word : num_nodes < 2 ^ 32) (node : ℕ) :
    RingSend where
  key := firstKey (neighbours num_nodes some word) (.noc_req, readRequest)
  out := 1
  next := Option.some ⟨.noc_req, node, 0⟩
  packet := (.noc_req, readRequest)

/-- In a larger ring the sum of two positions wraps around, and the request is sent away
    from the directory next to it. -/
theorem not_delivers_neighbours {num_nodes : ℕ} (large : 2 ^ 31 < num_nodes)
    (word : num_nodes < 2 ^ 32) :
    ∃ actions s, Reaches (neighbours num_nodes (by omega) word) {} actions s ∧
      s.handed = [(.noc_req, readRequest)] ∧ ¬ Delivers (neighbours num_nodes (by omega) word) s := by
  have two : 1 < num_nodes := by omega
  have promised : Promised (neighbours num_nodes two word) .noc_req readRequest :=
    ⟨fun _ => Nat.one_pos, fun notUp => absurd (.inl rfl) notUp⟩
  have isPort := (mem_keys.mp promised.startKey_mem).2
  -- the sum of the number of nodes and a position near to it
  obtain ⟨node, isNode⟩ : ∃ node, node + 2 ^ 32 = 2 * num_nodes - 2 :=
    ⟨2 * num_nodes - 2 - 2 ^ 32, by omega⟩
  have wraps : wrap (num_nodes + (num_nodes - 1) - 1) % num_nodes = node := by
    have split : num_nodes + (num_nodes - 1) - 1 = node + 2 ^ 32 := by omega
    rw [wrap, split, Nat.add_mod_right, Nat.mod_eq_of_lt (by omega : node < 2 ^ 32),
      Nat.mod_eq_of_lt (by omega)]
  have fits : wrap (num_nodes + (num_nodes - 2) - (num_nodes - 1)) = num_nodes - 1 := by
    rw [wrap, Nat.mod_eq_of_lt (by omega)]
    omega
  have hop : nextHop num_nodes (num_nodes - 1) (num_nodes - 2) =
      some (.ring_ccw, node, .ring_cw) := by
    rw [nextHop, fits, wraps, if_neg (by omega), if_pos (by omega)]
  have queue : (addEvent (neighbours num_nodes two word) {} .noc_req 0 readRequest).qs
      (firstKey (neighbours num_nodes two word) (.noc_req, readRequest)) = [(0, readRequest)] :=
    Function.update_self _ _ _
  have others : ∀ other ≠ firstKey (neighbours num_nodes two word) (.noc_req, readRequest),
      (addEvent (neighbours num_nodes two word) {} .noc_req 0 readRequest).qs other = [] :=
    fun other different => Function.update_of_ne different _ _
  obtain ⟨ring, processed⟩ := process_event_single (by
    show num_nodes - 1 + 1 = num_nodes
    omega) isPort queue others rfl hop (by
    show node ≠ num_nodes - 1
    omega)
  have handed : Reaches (neighbours num_nodes two word) {} [.hand .noc_req 0 readRequest] {
      ring := addEvent (neighbours num_nodes two word) {} .noc_req 0 readRequest
      times := {0}
      handed := [(.noc_req, readRequest)] } := .next (.start _) rfl promised
  have stepped : step (neighbours num_nodes two word) {
      ring := addEvent (neighbours num_nodes two word) {} .noc_req 0 readRequest
      times := {0}
      handed := [(.noc_req, readRequest)] } (.process 0) = .ok {
      ring := ring
      times := QueueTable.nextTimes ring.again 10 {0} 0
      handed := [(.noc_req, readRequest)]
      sends := [wrongHop num_nodes two word node] } := by
    rw [step, processed]
    rfl
  refine ⟨_, _, handed.next stepped ⟨Finset.mem_singleton_self 0, fun _ _ => Nat.zero_le _⟩, rfl, ?_⟩
  intro delivers
  have atSource : Trail [wrongHop num_nodes two word node] (.noc_req, readRequest)
      (firstKey (neighbours num_nodes two word) (.noc_req, readRequest))
      (wrongHop num_nodes two word node).key [] := .start
  have trail := atSource.hop (List.mem_singleton_self _) rfl rfl
  have nearer : 1 + hops num_nodes node (num_nodes - 2) =
      hops num_nodes (num_nodes - 1) (num_nodes - 2) :=
    delivers.nearer _ _ _ (directoryOf (neighbours num_nodes two word) 0) trail rfl
  have inside : num_nodes - 2 < num_nodes := by omega
  have up := clockwise_eq (by omega : node < num_nodes) inside
  have down := counterClockwise_eq (by omega : node < num_nodes) inside
  have source := counterClockwise_eq (by omega : num_nodes - 1 < num_nodes) inside
  rw [if_pos (by omega)] at up source
  rw [if_neg (by omega)] at down
  unfold hops at nearer
  omega

theorem not_delivers_large :
    ∃ actions s, Reaches (neighbours (2 ^ 31 + 1) (by decide) (by decide)) {} actions s ∧
      s.handed = [(.noc_req, readRequest)] ∧
      ¬ Delivers (neighbours (2 ^ 31 + 1) (by decide) (by decide)) s :=
  not_delivers_neighbours (Nat.lt_succ_self _) (by decide)

/-- Events go round the ring the shorter way exactly if it has at most `2 ^ 31` nodes. -/
theorem delivers_iff (num_nodes : BitVec 32) :
    (∀ c : RingConfig, c.num_nodes = num_nodes.toNat →
      ∀ actions s, Reaches c {} actions s → Delivers c s) ↔ num_nodes.toNat ≤ 2 ^ 31 := by
  constructor
  · intro all
    by_contra large
    obtain ⟨actions, s, run, -, fails⟩ :=
      not_delivers_neighbours (Nat.lt_of_not_le large) num_nodes.isLt
    exact fails (all _ rfl actions s run)
  · intro small c same actions s run
    exact (Inv.run (same ▸ small) run).delivers

end Larger

end Ring

end ActiveRouting

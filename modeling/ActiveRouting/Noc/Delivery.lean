import ActiveRouting.Library.Run
import ActiveRouting.Noc.CrossbarRounds
import ActiveRouting.Noc.MeshRounds
import Mathlib.Data.Prod.Lex
import Mathlib.Order.WellFounded

/-!
# The two networks deliver alike

A network runs at the times that are in the global event queue for it.  Whatever
the components hand to it, at whatever times, a network delivers each event once,
and `Crossbar` and `Mesh2D` deliver the same.
-/

namespace ActiveRouting

open Outcome Transition

/-- A network as the components and the global event queue use it. -/
structure NoC where
  State : Type
  start : State
  addEvent : State → NocPriority → ℕ → NocEvent → State
  process_event : State → ℕ → Except NocError (State × List Delivery)
  again : State → Bool

namespace NoC

abbrev crossbar (c : NocConfig) : NoC where
  State := Crossbar
  start := {}
  addEvent := Crossbar.addEvent c
  process_event := Crossbar.process_event c
  again := Crossbar.again c

abbrev mesh2D (c : NocConfig) : NoC where
  State := Mesh2D
  start := {}
  addEvent := Mesh2D.addEvent c
  process_event := Mesh2D.process_event c
  again := Mesh2D.again

/-- `add_crq_event` and `add_rep_event` of `num_flits`, of which the last is the event. -/
def addFlits (noc : NoC) (s : noc.State) (priority : NocPriority) (event_time num_flits : ℕ)
    (event : NocEvent) : noc.State :=
  let s := (List.replicate (num_flits - 1) { event with element := event.element.dummyFlit }).foldl
    (fun s dummy => noc.addEvent s priority event_time dummy) s
  noc.addEvent s priority event_time event

/-- A network, its times in the global event queue, what the components have handed
    to it, and what they have got. -/
structure Traffic (noc : NoC) where
  state : noc.State := noc.start
  times : Finset ℕ := ∅
  handed : List (NocPriority × NocEvent) := []
  delivered : List Delivery := []

inductive Action where
  | hand (priority : NocPriority) (event_time num_flits : ℕ) (event : NocEvent)
  | process (time : ℕ)

/-- The times after a round. -/
def nextTimes (noc : NoC) (c : NocConfig) (s : noc.State) (times : Finset ℕ) (time : ℕ) :
    Finset ℕ :=
  if noc.again s then insert (time + c.process_interval) (times.erase time) else times.erase time

def step (noc : NoC) (c : NocConfig) (s : Traffic noc) : Action → Except NocError (Traffic noc)
  | .hand priority event_time num_flits event =>
    pure { s with
      state := noc.addFlits s.state priority event_time num_flits event
      times := insert (c.alignTime event_time) s.times
      handed := s.handed ++ [(priority, event)] }
  | .process time => do
    let (state, delivered) ← noc.process_event s.state time
    pure { s with
      state := state
      times := noc.nextTimes c state s.times time
      delivered := s.delivered ++ delivered }

/-- A component hands an event to the network in some flits. -/
structure Promised (c : NocConfig) (priority : NocPriority) (num_flits : ℕ) (event : NocEvent) :
    Prop where
  hands : c.Hands priority event
  isEvent : event.element.dummy = false
  flits : 0 < num_flits
  -- requests and the replies of the controllers are single flits
  single : 1 < num_flits → priority ≠ .noc_req ∧ event.sender.type ≠ .ct_hmc_controller

/-- The components keep to their calls, and the global event queue to the order of the times. -/
def Guard (noc : NoC) (c : NocConfig) (s : Traffic noc) (action : Action) (_ : Traffic noc) : Prop :=
  match action with
  | .hand priority _ num_flits event => Promised c priority num_flits event
  | .process time => time ∈ s.times ∧ ∀ other ∈ s.times, time ≤ other

abbrev Reaches (noc : NoC) (c : NocConfig) (first : Traffic noc) (actions : List Action)
    (last : Traffic noc) : Prop :=
  Run (noc.step c) (noc.Guard c) first actions last

end NoC

/-! ## What an event becomes -/

namespace NocConfig

variable {c : NocConfig} {priority : NocPriority} {event : NocEvent}

/-- What the target of an event gets. -/
def deliveries (c : NocConfig) (priority : NocPriority) (event : NocEvent) : List Delivery :=
  (Crossbar.entriesOf c priority event).flatMap Crossbar.delivery

theorem deliveries_eq {route : Route} {target : MeshTarget}
    (agree : c.Agree priority event route target) :
    c.deliveries priority event = Crossbar.delivery (priority, route.element, route.target) := by
  rw [deliveries, Crossbar.entriesOf_eq agree, List.flatMap_singleton]

theorem mesh_deliveries (carries : c.Carries priority event) :
    Mesh2D.deliveriesOf c priority event = c.deliveries priority event := by
  obtain ⟨route, target, agree⟩ := carries
  rw [Mesh2D.deliveriesOf, agree.mesh, ok_bind, agree.arrives, deliveries_eq agree]

theorem Carries.meshGood (carries : c.Carries priority event) : Mesh2D.Good c priority event := by
  obtain ⟨route, target, agree⟩ := carries
  exact ⟨target, _, agree.mesh, agree.place, agree.arrives⟩

end NocConfig

namespace Crossbar

variable (c : NocConfig) (e : NocElement) (top sender : Component)

/-- A network changes no more of an element than its stack. -/
def OnlyStack (route : Route) : Prop :=
  route.element = { e with from_stack := route.element.from_stack }

theorem onlyStack_rep : Yields (OnlyStack e) (fun _ => False) (repRoute c e top sender) := by
  unfold repRoute
  repeat' split
  all_goals first | exact .pure rfl | exact .throw not_false

theorem onlyStack_pop (port : ℕ) (target : Component) :
    Yields (fun popped => OnlyStack e ⟨port, target, popped⟩) (fun _ => False) e.pop := by
  unfold NocElement.pop
  split
  · exact .throw not_false
  · exact .pure rfl

theorem onlyStack_req :
    Yields (fun route? => ∀ route ∈ route?, OnlyStack e route) (fun _ => False)
      (reqRoute c e top sender) := by
  have some : ∀ {route}, OnlyStack e route → ∀ other ∈ Option.some route, OnlyStack e other := by
    intro route onlyStack other isOther
    exact Option.some.inj isOther ▸ onlyStack
  unfold reqRoute
  split
  · exact .pure (some rfl)
  · split
    · refine .pure fun route isRoute => ?_
      unfold coreRoute at isRoute
      split at isRoute
      · exact Option.some.inj isRoute ▸ rfl
      · exact Option.some.inj isRoute ▸ rfl
      · exact Option.some.inj isRoute ▸ rfl
      · cases isRoute
    · split
      · exact (onlyStack_pop e _ _).bind fun popped onlyStack => .pure (some onlyStack)
      · split
        · exact .pure (some rfl)
        · exact .throw not_false

variable {c}

theorem onlyStack {priority : NocPriority} {event : NocEvent} {route : Route}
    (isRoute : Crossbar.route c priority event = .ok (some route)) : OnlyStack event.element route := by
  obtain ⟨top, -, routed⟩ := bind_eq_ok.mp isRoute
  cases priority with
  | noc_rep =>
    have yields := onlyStack_rep c event.element top event.sender
    cases result : repRoute c event.element top event.sender with
    | error error => simp [result, Except.map] at routed
    | ok other =>
      rw [result] at yields routed
      obtain rfl := Option.some.inj (Except.ok.inj routed)
      exact yields
  | noc_crq =>
    cases popped : event.element.pop with
    | error error => simp [crqRoute, popped, Except.map, bind, Except.bind] at routed
    | ok other =>
      have yields := onlyStack_pop event.element event.sender.num top
      rw [popped] at yields
      simp only [crqRoute, popped] at routed
      obtain rfl := Option.some.inj (Except.ok.inj routed)
      exact yields
  | noc_req =>
    have yields := onlyStack_req c event.element top event.sender
    have routed' : reqRoute c event.element top event.sender = .ok (some route) := routed
    rw [routed'] at yields
    exact yields route rfl

end Crossbar

namespace NocConfig

variable {c : NocConfig} {priority : NocPriority} {event : NocEvent}

/-- A dummy is deleted where it arrives. -/
theorem deliveries_dummy (isDummy : event.element.dummy = true) :
    c.deliveries priority event = [] := by
  rw [deliveries, Crossbar.entriesOf]
  split
  · rename_i route isRoute
    have dummyRoute : route.element.dummy = true := by
      rw [Crossbar.onlyStack isRoute]
      exact isDummy
    rw [List.flatMap_singleton, Crossbar.delivery, if_pos dummyRoute]
  · rfl

theorem Hands.connected (hands : c.Hands priority event) : c.Connected event.sender := by
  cases hands <;> assumption

/-- The flits of an event are handed as the event is. -/
theorem hands_dummyFlit {num_flits : ℕ} (promised : NoC.Promised c priority num_flits event)
    (more : 1 < num_flits) :
    c.Hands priority { event with element := event.element.dummyFlit } := by
  obtain ⟨notReq, notController⟩ := promised.single more
  cases promised.hands with
  | core => exact absurd rfl notReq
  | l1Request => exact absurd rfl notReq
  | l1Reply isL1 connected stack types => exact .l1Reply isL1 connected stack types
  | l2Reply isL2 connectedL2 isL1 connectedL1 stack =>
    exact .l2Reply isL2 connectedL2 isL1 connectedL1 stack
  | l2Coherence isL2 connectedL2 isL1 connectedL1 stack =>
    exact .l2Coherence isL2 connectedL2 isL1 connectedL1 stack
  | l2Request => exact absurd rfl notReq
  | l2ToDirectory isL2 connected isTop stack => exact .l2ToDirectory isL2 connected isTop stack
  | directoryUpdate => exact absurd rfl notReq
  | directoryRequest isDirectory connected isL2 connectedL2 stack =>
    exact .directoryRequest isDirectory connected isL2 connectedL2 stack
  | directoryReply isDirectory connected isL2 connectedL2 stack types =>
    exact .directoryReply isDirectory connected isL2 connectedL2 stack types
  | controllerReply isController => exact absurd isController notController

theorem size_le_mesh (type : component_type) : c.size type ≤ c.num_rows * c.num_cols := by
  unfold size
  split <;> first | exact c.hthreads_le_mesh | exact c.mcs_le_mesh | exact Nat.zero_le _

theorem Connected.atController {component : Component} (connected : c.Connected component)
    (isController : c.size component.type = c.host.num_mcs) :
    c.mc_pos component.num < c.num_rows * c.num_cols :=
  c.mc_pos_lt _ (isController ▸ connected)

/-- An event starts at a switch of the mesh. -/
theorem Hands.startKey_mem (hands : c.Hands priority event) :
    Mesh2D.startKey c priority event ∈ Mesh2D.keys c := by
  have connected := hands.connected
  have atCluster : ∀ priority, Mesh2D.keyAt c priority event.sender.num .mesh_cluster ∈
      Mesh2D.keys c := fun priority =>
    Mesh2D.keyAt_mem priority _ (Nat.lt_of_lt_of_le connected (size_le_mesh _))
  cases priority with
  | noc_req => exact atCluster _
  | noc_crq =>
    cases hands with
    | directoryRequest isDirectory =>
      exact Mesh2D.keyAt_mem _ _ (connected.atController (by rw [isDirectory]; rfl))
  | noc_rep =>
    unfold Mesh2D.startKey
    dsimp only
    split
    · exact atCluster _
    · rename_i notCluster
      -- only a directory or a controller is left
      have isController : c.size event.sender.type = c.host.num_mcs := by
        cases hands with
        | l1Reply isL1 =>
          obtain isI | isD := isL1
          · exact absurd (.inr (by simp [isI])) notCluster
          · exact absurd (.inr (by simp [isD])) notCluster
        | l2Reply isL2 => exact absurd (.inl (.inr (.inl isL2))) notCluster
        | l2Coherence isL2 connectedL2 isL1 =>
          obtain isI | isD := isL1
          · exact absurd (.inr (by simp [isI])) notCluster
          · exact absurd (.inr (by simp [isD])) notCluster
        | l2ToDirectory isL2 => exact absurd (.inl (.inr (.inl isL2))) notCluster
        | directoryReply isDirectory => rw [isDirectory]; rfl
        | controllerReply isController => rw [isController]; rfl
      exact Mesh2D.keyAt_mem _ _ (connected.atController isController)

end NocConfig

/-! ## Accounts -/

namespace NoC

/-- What is true of a network between the calls, what it holds, and a rank that falls with
    each round. -/
structure Accounts (noc : NoC) (c : NocConfig) where
  inv : Finset ℕ → noc.State → Prop
  held : Delivery → noc.State → ℕ
  rank : Finset ℕ → noc.State → ℕ ×ₗ ℕ
  inv_start : inv ∅ noc.start
  held_start : ∀ delivery, held delivery noc.start = 0
  inv_add : ∀ {times s priority event} event_time, inv times s → c.Hands priority event →
    c.Carries priority event →
    inv (insert (c.alignTime event_time) times) (noc.addEvent s priority event_time event)
  held_add : ∀ {times s priority event} event_time delivery, inv times s →
    c.Hands priority event → c.Carries priority event →
    held delivery (noc.addEvent s priority event_time event) =
      held delivery s + (c.deliveries priority event).count delivery
  process : ∀ {times s time}, inv times s → time ∈ times → (∀ other ∈ times, time ≤ other) →
    ∃ s' delivered, noc.process_event s time = .ok (s', delivered) ∧
      inv (noc.nextTimes c s' times time) s' ∧
      (∀ delivery, held delivery s' + delivered.count delivery = held delivery s) ∧
      rank (noc.nextTimes c s' times time) s' < rank times s
  held_rest : ∀ {s}, inv ∅ s → ∀ delivery, held delivery s = 0

/-! ### The crossbar -/

theorem card_nextTimes (noc : NoC) (c : NocConfig) (s : noc.State) {times : Finset ℕ} {time : ℕ}
    (isTime : time ∈ times) :
    (noc.nextTimes c s times time).card ≤ times.card ∧
      (noc.again s = false → (noc.nextTimes c s times time).card < times.card) := by
  have erased := Finset.card_erase_add_one isTime
  unfold nextTimes
  split
  · rename_i busy
    refine ⟨?_, fun rests => absurd busy (by rw [rests]; exact Bool.false_ne_true)⟩
    exact (Finset.card_insert_le _ _).trans (by omega)
  · exact ⟨by omega, fun _ => by omega⟩

theorem erase_subset_nextTimes (noc : NoC) (c : NocConfig) (s : noc.State) (times : Finset ℕ)
    (time : ℕ) : times.erase time ⊆ noc.nextTimes c s times time := by
  unfold nextTimes
  split
  · exact Finset.subset_insert _ _
  · exact subset_rfl

theorem nextTimes_nonempty (noc : NoC) (c : NocConfig) {s : noc.State} (times : Finset ℕ)
    (time : ℕ) (busy : noc.again s = true) : (noc.nextTimes c s times time).Nonempty := by
  rw [nextTimes, if_pos busy]
  exact Finset.insert_nonempty _ _

/-- The weight of an entry of which the target gets `delivery`. -/
def countOf (delivery : Delivery) (entry : Crossbar.Entry) : ℕ :=
  (Crossbar.delivery entry).count delivery

theorem weigh_countOf (delivery : Delivery) (entries : List Crossbar.Entry) :
    Crossbar.weigh (countOf delivery) entries =
      (entries.flatMap Crossbar.delivery).count delivery := by
  rw [List.count_flatMap]
  rfl

def crossbarAccounts (c : NocConfig) : Accounts (crossbar c) c where
  inv times s := Crossbar.Ok c times s ∧ (s.again c = true → times.Nonempty)
  held delivery s := Crossbar.load c (countOf delivery) s
  rank times s := toLex (Crossbar.load c (fun _ => 1) s + times.card, 0)
  inv_start := ⟨Crossbar.ok_start, fun busy => absurd busy (by simp [Crossbar.again_start])⟩
  held_start delivery := Crossbar.ok_start.load_eq_zero Crossbar.again_start _
  inv_add event_time inv _ carries :=
    ⟨inv.1.addEvent event_time carries, fun _ => Finset.insert_nonempty _ _⟩
  held_add event_time delivery _ _ _ := by
    rw [NocConfig.deliveries, ← weigh_countOf]
    exact Crossbar.load_addEvent _ _ event_time _ _
  process inv isTime least := by
    rename_i times s time
    obtain ⟨s', entries, processed, ok, load, busy⟩ := Crossbar.process_ok inv.1 least
    refine ⟨s', entries.flatMap Crossbar.delivery, processed,
      ⟨ok.mono (erase_subset_nextTimes _ _ _ _ _), nextTimes_nonempty (crossbar c) c times time⟩, ?_, ?_⟩
    · intro delivery
      rw [← weigh_countOf]
      exact load (countOf delivery)
    · have total := load fun _ => 1
      obtain ⟨card_le, card_lt⟩ := card_nextTimes (crossbar c) c s' isTime
      rw [Prod.Lex.lt_iff]
      refine .inl ?_
      show Crossbar.load c (fun _ => 1) s' + _ < Crossbar.load c (fun _ => 1) s + _
      cases again : s'.again c with
      | true =>
        have sent := busy (Crossbar.queueLoad_of_again again)
        obtain ⟨entry, rest, isCons⟩ := List.exists_cons_of_ne_nil sent
        rw [isCons, Crossbar.weigh_cons] at total
        omega
      | false =>
        have fewer := card_lt again
        omega
  held_rest inv delivery := by
    refine inv.1.load_eq_zero ?_ _
    rw [← Bool.not_eq_true]
    exact fun busy => Finset.not_nonempty_empty (inv.2 busy)

/-! ### The mesh -/

/-- How often a delivery is still to be made by the mesh. -/
def heldByMesh (c : NocConfig) (delivery : Delivery) (s : Mesh2D) : ℕ :=
  QueueTable.load (Mesh2D.keys c)
    (fun key event => (Mesh2D.deliveriesOf c key.priority event).count delivery) s.qs

theorem count_deliveredBy (c : NocConfig) (delivery : Delivery) (sends : List Mesh2D.MeshSend) :
    (Mesh2D.deliveredBy c sends).count delivery = ((Switches.departed sends).map fun packet =>
      (Mesh2D.deliveriesOf c packet.1 packet.2).count delivery).sum := by
  rw [Mesh2D.deliveredBy, List.count_flatMap]
  rfl

def mesh2DAccounts (c : NocConfig) : Accounts (mesh2D c) c where
  inv times s := (Mesh2D.carrier c).Ok (Mesh2D.network s []) ∧
    (0 < s.num_req_in_mesh → times.Nonempty)
  held delivery s := heldByMesh c delivery s
  rank times s := (Mesh2D.carrier c).wakeRank c.process_interval times (Mesh2D.network s [])
  inv_start := ⟨Mesh2D.network_start, fun busy => absurd busy (Nat.lt_irrefl 0)⟩
  held_start _ := QueueTable.load_empty _ _
  inv_add event_time inv hands carries :=
    ⟨Mesh2D.ok_addEvent inv.1 event_time hands.startKey_mem carries.meshGood,
      fun _ => Finset.insert_nonempty _ _⟩
  held_add event_time delivery _ hands carries := by
    rename_i times s priority event _
    have added := QueueTable.load_insert s.qs hands.startKey_mem (c.alignTime event_time) event
      fun key event => (Mesh2D.deliveriesOf c key.priority event).count delivery
    rw [Mesh2D.startKey_priority, NocConfig.mesh_deliveries carries] at added
    exact added
  process inv isTime least := by
    rename_i times s time
    obtain ⟨s', processed, isNetwork, isDelivered⟩ := Mesh2D.process_round_network time [] inv.1
    have areKeys : ∀ queues ∈ Mesh2D.turns c s.token, ∀ key ∈ queues, key ∈ Mesh2D.keys c :=
      fun queues member key isKey => Mesh2D.mem_turns.mpr ⟨queues, member, isKey⟩
    obtain ⟨ok, -, keeps, -⟩ := inv.1.round areKeys time
    have falls := inv.1.round_rank s'.finish.again (fun key => Mesh2D.mem_turns)
      c.process_interval_pos isTime fun busy => by
        rw [← isNetwork]
        exact of_decide_eq_true busy
    rw [← isNetwork] at ok falls
    refine ⟨s'.finish, s'.delivered, ?_, ⟨⟨ok.good, ok.counted⟩, fun busy => ?_⟩, ?_, falls⟩
    · show Mesh2D.process_event c s time = _
      rw [Mesh2D.process_event, processed]
      rfl
    · exact nextTimes_nonempty (mesh2D c) c times time (decide_eq_true busy)
    · intro delivery
      rw [isDelivered, count_deliveredBy]
      have kept := keeps fun packet => (Mesh2D.deliveriesOf c packet.1 packet.2).count delivery
      rw [← isNetwork] at kept
      exact kept
  held_rest inv delivery := by
    rename_i s
    have rests : s.num_req_in_mesh = 0 := by
      by_contra busy
      exact Finset.not_nonempty_empty (inv.2 (Nat.pos_of_ne_zero busy))
    exact QueueTable.load_eq_zero (inv.1.counted.symm.trans rests) _

/-! ## Runs -/

section Runs

variable {noc : NoC} {c : NocConfig}

/-- What is handed over is held or has been delivered. -/
structure Inv (accounts : Accounts noc c) (s : Traffic noc) : Prop where
  inv : accounts.inv s.times s.state
  balance : ∀ delivery, accounts.held delivery s.state + s.delivered.count delivery =
    (s.handed.flatMap fun handed => c.deliveries handed.1 handed.2).count delivery

theorem Inv.start (accounts : Accounts noc c) : Inv accounts {} where
  inv := accounts.inv_start
  balance delivery := accounts.held_start delivery

/-- The dummies of an event have no effect on what is to be delivered. -/
theorem addDummies (accounts : Accounts noc c) {priority : NocPriority} {event : NocEvent}
    (event_time : ℕ) (isDummy : event.element.dummy = true) (hands : c.Hands priority event)
    (carries : c.Carries priority event) :
    ∀ (n : ℕ) {times : Finset ℕ} {s : noc.State}, accounts.inv times s →
      ∃ times' ⊆ insert (c.alignTime event_time) times,
        accounts.inv times' ((List.replicate n event).foldl
          (fun s dummy => noc.addEvent s priority event_time dummy) s) ∧
        times ⊆ times' ∧
        ∀ delivery, accounts.held delivery ((List.replicate n event).foldl
          (fun s dummy => noc.addEvent s priority event_time dummy) s) = accounts.held delivery s
  | 0, times, s, inv => ⟨times, Finset.subset_insert _ _, inv, subset_rfl, fun _ => rfl⟩
  | n + 1, times, s, inv => by
    obtain ⟨times', fewer, inv', more, held⟩ := addDummies accounts event_time isDummy hands carries n
      (accounts.inv_add event_time inv hands carries)
    rw [Finset.insert_idem] at fewer
    refine ⟨times', fewer, inv', (Finset.subset_insert _ _).trans more, ?_⟩
    intro delivery
    refine (held delivery).trans ?_
    rw [accounts.held_add event_time delivery inv hands carries,
      NocConfig.deliveries_dummy isDummy]
    rfl

/-- A component hands an event over. -/
theorem Inv.hand {accounts : Accounts noc c} {s : Traffic noc} {priority : NocPriority}
    {event : NocEvent} {num_flits : ℕ} (inv : Inv accounts s) (event_time : ℕ)
    (promised : Promised c priority num_flits event)
    (carried : NocConfig.Carried priority event) :
    Inv accounts { s with
      state := noc.addFlits s.state priority event_time num_flits event
      times := insert (c.alignTime event_time) s.times
      handed := s.handed ++ [(priority, event)] } := by
  have carries := promised.hands.agree carried
  obtain ⟨times', fewer, inv', more, held⟩ : ∃ times' ⊆ insert (c.alignTime event_time) s.times,
      accounts.inv times' ((List.replicate (num_flits - 1)
        { event with element := event.element.dummyFlit }).foldl
          (fun s dummy => noc.addEvent s priority event_time dummy) s.state) ∧
      s.times ⊆ times' ∧ ∀ delivery, accounts.held delivery ((List.replicate (num_flits - 1)
        { event with element := event.element.dummyFlit }).foldl
          (fun s dummy => noc.addEvent s priority event_time dummy) s.state) =
        accounts.held delivery s.state := by
    by_cases more : 1 < num_flits
    · have hands := NocConfig.hands_dummyFlit promised more
      exact addDummies accounts event_time rfl hands (hands.agree carried) (num_flits - 1) inv.inv
    · have single : num_flits - 1 = 0 := by omega
      rw [single]
      exact ⟨s.times, Finset.subset_insert _ _, inv.inv, subset_rfl, fun _ => rfl⟩
  have sameTimes : insert (c.alignTime event_time) times' =
      insert (c.alignTime event_time) s.times :=
    (Finset.insert_subset (Finset.mem_insert_self _ _) fewer).antisymm
      (Finset.insert_subset_insert _ more)
  refine ⟨?_, ?_⟩
  · exact sameTimes ▸ accounts.inv_add event_time inv' promised.hands carries
  · intro delivery
    have added := accounts.held_add event_time delivery inv' promised.hands carries
    have balance := inv.balance delivery
    rw [held] at added
    rw [List.flatMap_append, List.count_append, List.flatMap_singleton]
    show accounts.held delivery (noc.addEvent _ _ _ _) + s.delivered.count delivery =
      _ + (c.deliveries priority event).count delivery
    omega

/-- The round at the first time. -/
theorem Inv.process {accounts : Accounts noc c} {s : Traffic noc} {time : ℕ}
    (inv : Inv accounts s) (isTime : time ∈ s.times) (least : ∀ other ∈ s.times, time ≤ other) :
    ∃ s', noc.step c s (.process time) = .ok s' ∧ Inv accounts s' ∧ s'.handed = s.handed ∧
      accounts.rank s'.times s'.state < accounts.rank s.times s.state := by
  obtain ⟨state, delivered, processed, inv', held, falls⟩ := accounts.process inv.inv isTime least
  refine ⟨{ s with
    state := state
    times := noc.nextTimes c state s.times time
    delivered := s.delivered ++ delivered }, ?_, ⟨inv', ?_⟩, rfl, falls⟩
  · rw [step, processed]
    rfl
  · intro delivery
    have kept := held delivery
    have balance := inv.balance delivery
    show accounts.held delivery state + (s.delivered ++ delivered).count delivery =
      (s.handed.flatMap fun handed => c.deliveries handed.1 handed.2).count delivery
    rw [List.count_append]
    omega

/-- The accounts balance as long as the crossbar has a place for what is handed over. -/
def Balanced (accounts : Accounts noc c) (s : Traffic noc) : Prop :=
  (∀ handed ∈ s.handed, NocConfig.Carried handed.1 handed.2) → Inv accounts s

theorem Balanced.step {accounts : Accounts noc c} {s s' : Traffic noc} {action : Action}
    (inv : Balanced accounts s) (stepped : noc.step c s action = .ok s')
    (guarded : noc.Guard c s action s') : Balanced accounts s' := by
  intro carried
  cases action with
  | hand priority event_time num_flits event =>
    obtain rfl := pure_eq_ok.mp stepped
    refine (inv fun handed member => carried handed (List.mem_append_left _ member)).hand event_time
      guarded (carried (priority, event) ?_)
    exact List.mem_append_right _ List.mem_cons_self
  | process time =>
    have sameHanded : s'.handed = s.handed := by
      obtain ⟨result, -, rest⟩ := bind_eq_ok.mp stepped
      obtain rfl := pure_eq_ok.mp rest
      rfl
    obtain ⟨s'', stepped', inv', -, -⟩ :=
      (inv (sameHanded ▸ carried)).process guarded.1 guarded.2
    exact Except.ok.inj (stepped.symm.trans stepped') ▸ inv'

theorem Balanced.run (accounts : Accounts noc c) {actions : List Action} {s : Traffic noc}
    (run : Reaches noc c {} actions s) : Balanced accounts s :=
  run.invariant (fun _ => Inv.start accounts) fun _ _ _ inv stepped guarded =>
    inv.step stepped guarded

/-- Rounds end with nothing left to deliver. -/
theorem Inv.drains {accounts : Accounts noc c} {s : Traffic noc} (inv : Inv accounts s) :
    ∃ actions s', Reaches noc c s actions s' ∧ Inv accounts s' ∧ s'.handed = s.handed ∧
      s'.times = ∅ := by
  generalize isRank : accounts.rank s.times s.state = rank
  induction rank using WellFoundedLT.induction generalizing s with
  | ind rank inductionHypothesis =>
    cases s.times.eq_empty_or_nonempty with
    | inl isEmpty => exact ⟨[], s, .start s, inv, rfl, isEmpty⟩
    | inr nonempty =>
      have isTime := s.times.min'_mem nonempty
      have least := s.times.min'_le
      obtain ⟨s', stepped, inv', sameHanded, falls⟩ := inv.process isTime least
      obtain ⟨actions, s'', run, inv'', same, isEmpty⟩ :=
        inductionHypothesis _ (isRank ▸ falls) inv' rfl
      exact ⟨_, s'', .cons stepped ⟨isTime, least⟩ run, inv'', same.trans sameHanded, isEmpty⟩

/-- Nothing is delivered more often than it has been handed over, and in the end
    everything is. -/
theorem Inv.subperm {accounts : Accounts noc c} {s : Traffic noc} (inv : Inv accounts s) :
    s.delivered.Subperm (s.handed.flatMap fun handed => c.deliveries handed.1 handed.2) := by
  refine List.subperm_ext_iff.mpr fun delivery _ => ?_
  have balance := inv.balance delivery
  omega

theorem Inv.perm {accounts : Accounts noc c} {s : Traffic noc} (inv : Inv accounts s)
    (rests : s.times = ∅) :
    s.delivered.Perm (s.handed.flatMap fun handed => c.deliveries handed.1 handed.2) := by
  refine List.perm_iff_count.mpr fun delivery => ?_
  have balance := inv.balance delivery
  have rest := accounts.held_rest (rests ▸ inv.inv) delivery
  omega

/-- What has been handed over keeps to the calls. -/
def CallsOnly (c : NocConfig) (s : Traffic noc) : Prop :=
  ∀ handed ∈ s.handed, c.Hands handed.1 handed.2 ∧ handed.2.element.dummy = false

theorem callsOnly_run {actions : List Action} {s : Traffic noc} (run : Reaches noc c {} actions s) :
    CallsOnly c s := by
  have start : CallsOnly c ({} : Traffic noc) := fun _ h => (nomatch h)
  refine run.invariant start ?_
  intro s action s' promised stepped guarded
  cases action with
  | hand priority event_time num_flits event =>
    obtain rfl := pure_eq_ok.mp stepped
    intro handed member
    cases List.mem_append.mp member with
    | inl wasThere => exact promised handed wasThere
    | inr isNew =>
      rw [List.mem_singleton.mp isNew]
      exact ⟨guarded.hands, guarded.isEvent⟩
  | process time =>
    obtain ⟨result, -, rest⟩ := bind_eq_ok.mp stepped
    obtain rfl := pure_eq_ok.mp rest
    exact promised

end Runs

end NoC

/-! ## Agreement -/

/-- Both networks have `delivery` for an event: its target, the function that takes it,
    and the element with its stack. -/
structure NocConfig.Delivers (c : NocConfig) (handed : NocPriority × NocEvent)
    (delivery : Delivery) : Prop where
  crossbar : ∃ port,
    Crossbar.route c handed.1 handed.2 = .ok (some ⟨port, delivery.target, delivery.element⟩)
  entry : delivery.entry = Crossbar.entryOf handed.1
  mesh : ∃ target, Mesh2D.target c handed.1 handed.2 = .ok target ∧
    Mesh2D.arrive handed.1 handed.2 target.component = .ok [delivery]
  element : delivery.element =
    { handed.2.element with from_stack := delivery.element.from_stack }

namespace NocConfig

variable {c : NocConfig}

theorem delivers_of_carried {handed : NocPriority × NocEvent} (hands : c.Hands handed.1 handed.2)
    (isEvent : handed.2.element.dummy = false) (carried : Carried handed.1 handed.2) :
    ∃ delivery, c.Delivers handed delivery ∧ c.deliveries handed.1 handed.2 = [delivery] := by
  obtain ⟨route, target, agree⟩ := hands.agree carried
  have element := Crossbar.onlyStack agree.crossbar
  have isRouted : route.element.dummy = false := by
    rw [element]
    exact isEvent
  have delivered : Crossbar.delivery (handed.1, route.element, route.target) =
      [⟨route.target, Crossbar.entryOf handed.1, route.element⟩] := by
    simp [Crossbar.delivery, isRouted]
  refine ⟨⟨route.target, Crossbar.entryOf handed.1, route.element⟩,
    ⟨⟨route.port, agree.crossbar⟩, rfl, ⟨target, agree.mesh, ?_⟩, element⟩, ?_⟩
  · rw [agree.arrives, delivered]
  · rw [deliveries_eq agree, delivered]

theorem delivers_all :
    ∀ {handed : List (NocPriority × NocEvent)},
      (∀ event ∈ handed, c.Hands event.1 event.2 ∧ event.2.element.dummy = false) →
      (∀ event ∈ handed, Carried event.1 event.2) →
      List.Forall₂ c.Delivers handed (handed.flatMap fun event => c.deliveries event.1 event.2)
  | [], _, _ => .nil
  | event :: rest, hands, carried => by
    obtain ⟨delivery, delivers, isDelivery⟩ := delivers_of_carried
      (hands event List.mem_cons_self).1 (hands event List.mem_cons_self).2
      (carried event List.mem_cons_self)
    rw [List.flatMap_cons, isDelivery]
    exact .cons delivers (delivers_all
      (fun other member => hands other (List.mem_cons_of_mem event member))
      fun other member => carried other (List.mem_cons_of_mem event member))

/-- The crossbar has no route for the other requests. -/
theorem carried_of_delivers {handed : NocPriority × NocEvent} {delivery : Delivery}
    (hands : c.Hands handed.1 handed.2) (delivers : c.Delivers handed delivery) :
    Carried handed.1 handed.2 := by
  obtain ⟨priority, event⟩ := handed
  obtain ⟨port, isRoute⟩ := delivers.crossbar
  rintro rfl isLeft
  cases hands with
  | @core core rest e isCore connected stack active isEvent =>
    rw [Crossbar.route_req stack, Crossbar.reqRoute, if_neg (by simp [fromL1, isCore]),
      if_pos isCore] at isRoute
    simp only [List.mem_cons, List.not_mem_nil, or_false] at isLeft
    rcases isLeft with type | type | type <;> simp [Crossbar.coreRoute, type] at isRoute
  | l1Request isL1 connected stack types =>
    rcases types with type | type <;> simp [type] at isLeft
  | l2Request isL2 connected stack types =>
    rcases types with type | type <;> simp [type] at isLeft
  | @directoryUpdate directory rest e isDirectory connected stack types =>
    have notUpdate : ¬ (e.type = .et_art_mult ∨ e.type = .et_art_add) := by
      rintro (type | type) <;> simp [type] at isLeft
    rw [Crossbar.route_req stack, Crossbar.reqRoute, if_neg (by simp [fromL1, isDirectory]),
      if_neg (by simp [isDirectory]), if_neg (fun both => notUpdate both.2),
      if_neg (by simp [isDirectory])] at isRoute
    cases isRoute

end NocConfig

namespace NoC

/-- Both networks deliver each of the events once, alike, and nothing else: no more of
    them at any time, and all of them by the rounds that follow. -/
def AgreeOnDelivery (c : NocConfig) (xbar : Traffic (crossbar c)) (mesh : Traffic (mesh2D c)) :
    Prop :=
  ∃ deliveries, List.Forall₂ c.Delivers xbar.handed deliveries ∧
    xbar.delivered.Subperm deliveries ∧ mesh.delivered.Subperm deliveries ∧
    (∃ actions xbar', Reaches (crossbar c) c xbar actions xbar' ∧ xbar'.handed = xbar.handed ∧
      xbar'.times = ∅ ∧ xbar'.delivered.Perm deliveries) ∧
    ∃ actions mesh', Reaches (mesh2D c) c mesh actions mesh' ∧ mesh'.handed = mesh.handed ∧
      mesh'.times = ∅ ∧ mesh'.delivered.Perm deliveries

section Agreement

variable {c : NocConfig} {xbar : Traffic (crossbar c)} {mesh : Traffic (mesh2D c)}
  {actions actions' : List Action}

theorem agree_of_carried (runXbar : Reaches (crossbar c) c {} actions xbar)
    (runMesh : Reaches (mesh2D c) c {} actions' mesh) (same : mesh.handed.Perm xbar.handed)
    (carried : ∀ handed ∈ xbar.handed, NocConfig.Carried handed.1 handed.2) :
    AgreeOnDelivery c xbar mesh := by
  have invXbar := Balanced.run (crossbarAccounts c) runXbar carried
  have invMesh := Balanced.run (mesh2DAccounts c) runMesh fun handed member =>
    carried handed (same.subset member)
  have sameDeliveries := same.flatMap_right fun handed => c.deliveries handed.1 handed.2
  refine ⟨_, NocConfig.delivers_all (callsOnly_run runXbar) carried, invXbar.subperm,
    invMesh.subperm.trans sameDeliveries.subperm, ?_, ?_⟩
  · obtain ⟨rounds, xbar', run, inv, sameHanded, rests⟩ := invXbar.drains
    exact ⟨rounds, xbar', run, sameHanded, rests, sameHanded ▸ inv.perm rests⟩
  · obtain ⟨rounds, mesh', run, inv, sameHanded, rests⟩ := invMesh.drains
    exact ⟨rounds, mesh', run, sameHanded, rests, (sameHanded ▸ inv.perm rests).trans sameDeliveries⟩

theorem carried_of_agree (runXbar : Reaches (crossbar c) c {} actions xbar)
    (agree : AgreeOnDelivery c xbar mesh) :
    ∀ handed ∈ xbar.handed, NocConfig.Carried handed.1 handed.2 := by
  obtain ⟨deliveries, delivers, -⟩ := agree
  have hands := callsOnly_run runXbar
  unfold CallsOnly at hands
  clear runXbar
  generalize xbar.handed = handed at delivers hands
  induction delivers with
  | nil => exact fun _ h => (nomatch h)
  | cons delivers _ inductionHypothesis =>
    intro other member
    cases member with
    | head => exact NocConfig.carried_of_delivers (hands _ List.mem_cons_self).1 delivers
    | tail _ member =>
      exact inductionHypothesis (fun event isRest => hands event (List.mem_cons_of_mem _ isRest))
        other member

/-- The networks agree on what the components hand to them exactly where no request is
    one that the crossbar has no place for. -/
theorem agree_on_delivery_iff (runXbar : Reaches (crossbar c) c {} actions xbar)
    (runMesh : Reaches (mesh2D c) c {} actions' mesh) (same : mesh.handed.Perm xbar.handed) :
    AgreeOnDelivery c xbar mesh ↔
      ∀ handed ∈ xbar.handed, NocConfig.Carried handed.1 handed.2 :=
  ⟨carried_of_agree runXbar, agree_of_carried runXbar runMesh same⟩

end Agreement

/-! ### Two requests of a core -/

/-- Four cores and four controllers in a mesh of two rows. -/
def fourCores : NocConfig where
  host := {
    art_scheme := .art_addr
    hmc_top := .DFLY
    hmcs_size := 4
    num_mcs := 4
    num_mcs_log2 := 2
    process_interval := 10
    cubes_per_mc := 4
    cube_interleave_base_bit := 14
    interleave_xor_base_bit := 20
    geq_interleave_base_bit := 12
    geq_interleave_xor_base_bit := 20 }
  num_hthreads := 4
  l2_set_lsb := 6
  l2_num_sets := 64
  process_interval := 10
  num_ports := 4
  num_rows := 2
  num_cols := 2
  sw_to_sw_t := 10
  mc_pos := id
  process_interval_pos := Nat.le_add_left 1 9
  hthreads_pos := Nat.succ_pos 3
  four_le_mcs := le_rfl
  hthreads_le_ports := le_rfl
  mcs_le_ports := le_rfl
  hthreads_le_mesh := le_rfl
  mcs_le_mesh := le_rfl
  mc_pos_lt := fun _ small => small

def coreZero : Component := ⟨.ct_o3core, 0⟩

/-- A request of core 0 with operands of controller 0. -/
def requestOf (type : EventType) : NocEvent :=
  ⟨{ id := 1, type := type, from_stack := [coreZero] }, coreZero⟩

theorem promised_requestOf {type : EventType} (active : type ∈ activeRequests) :
    Promised fourCores .noc_req 1 (requestOf type) where
  hands := .core rfl (by decide : 0 < 4) rfl active rfl
  isEvent := rfl
  flits := Nat.one_pos
  single := fun more => absurd more (Nat.lt_irrefl 1)

theorem reaches_handed (noc : NoC) {type : EventType} (active : type ∈ activeRequests) :
    Reaches noc fourCores {} [.hand .noc_req 0 1 (requestOf type)] {
      state := noc.addEvent noc.start .noc_req 0 (requestOf type)
      times := {0}
      handed := [(.noc_req, requestOf type)] } :=
  .next (.start _) rfl (promised_requestOf active)

theorem agree_on_delivery_iff_add :
    AgreeOnDelivery fourCores
      { state := (crossbar fourCores).addEvent {} .noc_req 0 (requestOf .et_art_add)
        times := {0}
        handed := [(.noc_req, requestOf .et_art_add)] }
      { state := (mesh2D fourCores).addEvent {} .noc_req 0 (requestOf .et_art_add)
        times := {0}
        handed := [(.noc_req, requestOf .et_art_add)] } :=
  (agree_on_delivery_iff (reaches_handed (crossbar fourCores) (by decide))
    (reaches_handed (mesh2D fourCores) (by decide)) (.refl _)).mpr (by decide)

/-- The mesh takes a dot product of a core to the directory of its second operand, and the
    crossbar takes it nowhere. -/
theorem crossbar_drops_pei_dot :
    ∃ actions actions' xbar mesh, Reaches (crossbar fourCores) fourCores {} actions xbar ∧
      Reaches (mesh2D fourCores) fourCores {} actions' mesh ∧
      xbar.handed = [(.noc_req, requestOf .et_pei_dot)] ∧ mesh.handed = xbar.handed ∧
      xbar.times = ∅ ∧ xbar.delivered = [] ∧ mesh.times = ∅ ∧
      mesh.delivered = [⟨⟨.ct_directory, 0⟩, .add_req_event, (requestOf .et_pei_dot).element⟩] ∧
      ¬ AgreeOnDelivery fourCores xbar mesh := by
  have active : EventType.et_pei_dot ∈ activeRequests := by decide
  have zero : ∀ noc : NoC, noc.Guard fourCores {
      state := noc.addEvent noc.start .noc_req 0 (requestOf .et_pei_dot)
      times := {0}
      handed := [(.noc_req, requestOf .et_pei_dot)] } (.process 0) {} :=
    fun noc => ⟨Finset.mem_singleton_self 0, fun _ _ => Nat.zero_le _⟩
  have runXbar := (reaches_handed (crossbar fourCores) active).next
    (rfl : (crossbar fourCores).step fourCores _ (.process 0) = _) (zero _)
  have runMesh := (reaches_handed (mesh2D fourCores) active).next
    (rfl : (mesh2D fourCores).step fourCores _ (.process 0) = _) (zero _)
  refine ⟨_, _, _, _, runXbar, runMesh, rfl, rfl, ?_, rfl, ?_, ?_, ?_⟩
  · decide +kernel
  · decide +kernel
  · rfl
  · intro agree
    exact absurd (carried_of_agree runXbar agree) (by decide)

end NoC

end ActiveRouting

import ActiveRouting.Host.EventQueue
import ActiveRouting.Host.HostSystem

/-!
# Waking the HMC controllers

The HMC controllers of the host with the global event queue.  A controller that
has work is woken again, also where another controller has given it the work.
-/

namespace ActiveRouting

open Outcome

/-- The components of the host with those that are HMC controllers. -/
structure WakeConfig (κ : Type) where
  host : HostConfig
  type : κ → component_type
  /-- `mcsim->hmcs`. -/
  controller : ℕ → κ
  /-- The source divides by the interval. -/
  interval_pos : 0 < host.process_interval
  controller_type : ∀ num < host.hmcs_size, type (controller num) = .ct_hmc_controller
  controller_inj : ∀ num < host.hmcs_size, ∀ other < host.hmcs_size,
    controller num = controller other → num = other

/-- The controllers, what they exchange with the network, and the event queue. -/
structure WakeSystem (κ : Type) where
  hosts : HostSystem := {}
  geq : GlobalEventQueue κ := {}

inductive WakeError where
  | host (error : HostError)
  | queue (error : QueueError)
  deriving DecidableEq, Repr

inductive WakeAction (κ : Type) where
  | add_req_event (num event_time : ℕ) (lqele : LocalQueueElement)
  | add_rep_event (num event_time : ℕ) (dest_addr : BitVec 64)
  /-- The network serves a transaction. -/
  | serve (num : ℕ) (served : BitVec 64) (cmd : PacketCommandType)
  /-- The event queue calls `process_event` of controller `num`, which returns. -/
  | process_event (num : ℕ) (accepts : Bool)
  /-- Another component runs, or wakes one. -/
  | other (action : QueueAction κ)

namespace PTSHMCController

/-- The condition under which `add_req_event` and `add_rep_event` wake the
    controller, and `process_event` does not. -/
def idle (h : PTSHMCController) : Bool :=
  h.outstanding_req.isEmpty && h.tran_buf.isEmpty && h.active_update_event.isEmpty &&
    h.req_event.isEmpty && h.active_gather_event.isEmpty && h.resp_queue.isEmpty

end PTSHMCController

/-! ## The controllers that are woken -/

namespace Host

variable (c : HostConfig)

/-- The controllers that get a dummy in `startGather`. -/
def dummies (m : Host) (lqele : LocalQueueElement) (bits : List Bool) : List ℕ :=
  (List.range c.hmcs_size).filter fun num =>
    bits[num]? = some true ∧
      ((m.hmcs num).active_gather_event.find? fun entry => entry.1 = lqele.dest_addr).isNone

/-- The controllers that `addGather` wakes. -/
def gatherWakes (m : Host) (num : ℕ) (lqele : LocalQueueElement) : Except HostError (List ℕ) := do
  let barrier ← m.countGather c num lqele
  let m := (m.holdGet num lqele).setBarrier lqele.dest_addr barrier
  if barrier.1.2 = lqele.nthreads then do
    let bits ← m.readForest c lqele.dest_addr
    pure (m.dummies c lqele bits)
  else pure []

/-- The controllers that are woken when the request is not a first half. -/
def readyWakes (m : Host) (num : ℕ) (lqele : LocalQueueElement) (ready : Bool) :
    Except HostError (List ℕ) :=
  if ready then
    match hmc_transaction_type lqele.type with
    | some .ART_GET => m.gatherWakes c num lqele
    | _ => pure []
  else pure []

/-- The controller itself, if it has nothing to do. -/
def wakesIdle (m : Host) (num : ℕ) : List ℕ :=
  if (m.hmcs num).idle then [num] else []

/-- The controllers that `add_req_event` wakes. -/
def requestWakes (m : Host) (num : ℕ) (lqele : LocalQueueElement) :
    Except HostError (List ℕ) := do
  let (h, ready) ← (m.hmcs num).pairTwins lqele
  let woken ← (m.setHmc num h).readyWakes c num lqele ready
  pure (m.wakesIdle num ++ woken)

/-- The controllers of which `ACT_GET`s of a flow are answered. -/
def answeredAt (m : Host) (dest_addr : BitVec 64) : List ℕ :=
  (List.range c.hmcs_size).filter fun num =>
    replies c num && (m.hmcs num).active_gather_event.any fun entry =>
      entry.1 = dest_addr ∧ entry.2.dummy = false

/-- The controllers that `add_rep_event` wakes. -/
def replyWakes (m : Host) (num : ℕ) (dest_addr : BitVec 64) : List ℕ :=
  m.wakesIdle num ++
    match m.gather_barrier dest_addr with
    | none => []
    | some ((_, count), ports) =>
      match ports[num]? with
      | none => []
      | some port => if count - port = 0 then m.answeredAt c dest_addr else []

/-- The controllers that are woken when controller `num` takes a served transaction. -/
def servedWakes (m : Host) (num : ℕ) : List (BitVec 64 × PacketCommandType) → List ℕ
  | (served, .ACT_GET) :: _ => m.replyWakes c num (c.flow_dest served)
  | _ => []

end Host

/-! ## Steps -/

namespace WakeSystem

variable {κ : Type} [LinearOrder κ] (c : WakeConfig κ)

/-- `geq->add_event` for each of the controllers. -/
def wake (q : GlobalEventQueue κ) (event_time : ℕ) (woken : List ℕ) : GlobalEventQueue κ :=
  woken.foldl (fun q num => q.add_event event_time (c.controller num)) q

def ofHost {α : Type} : Except HostError α → Except WakeError α := Except.mapError .host

def ofQueue {α : Type} : Except QueueError α → Except WakeError α := Except.mapError .queue

def add_req_event (s : WakeSystem κ) (num event_time : ℕ) (lqele : LocalQueueElement) :
    Except WakeError (WakeSystem κ) := do
  let woken ← ofHost (s.hosts.host.requestWakes c.host num lqele)
  let hosts ← ofHost (s.hosts.add_req_event c.host num event_time lqele)
  pure { hosts, geq := wake c s.geq (c.host.alignTime event_time) woken }

def add_rep_event (s : WakeSystem κ) (num event_time : ℕ) (dest_addr : BitVec 64) :
    Except WakeError (WakeSystem κ) := do
  let host ← ofHost (s.hosts.host.add_rep_event c.host num dest_addr)
  pure {
    hosts := { s.hosts with host }
    geq := wake c s.geq (c.host.alignTime event_time)
      (s.hosts.host.replyWakes c.host num dest_addr) }

/-- The first event goes to controller `num`, whose interval it meets. -/
def callController (s : WakeSystem κ) (num : ℕ) : Except WakeError (GlobalEventQueue κ) := do
  let called ← ofQueue (s.geq.dispatch c.type)
  if called.running ≠ some (c.controller num) then throw (.queue .disabled)
  else if called.curr_time % c.host.process_interval ≠ 0 then throw (.host .assertion)
  else pure called

/-- At the end of `process_event` the controller wakes itself if it has work. -/
def wakeSelf (q : GlobalEventQueue κ) (hosts : HostSystem) (num : ℕ) : GlobalEventQueue κ :=
  if (hosts.host.hmcs num).idle then q
  else q.add_event (q.curr_time + c.host.process_interval) (c.controller num)

/-- `process_event`, called by the event queue.  What it sends to the directory
    and to the network on chip wakes these: events of others. -/
def process_event (s : WakeSystem κ) (num : ℕ) (accepts : Bool) :
    Except WakeError (WakeSystem κ) := do
  let called ← s.callController c num
  let sent ← ofHost (s.hosts.sendTran num called.curr_time accepts)
  -- the response of a gather calls `add_rep_event` for the current time
  let woken := wake c called called.curr_time
    (sent.host.servedWakes c.host num (sent.served num))
  let taken ← ofHost (sent.takeServed c.host num)
  let hosts ← ofHost (taken.respond num)
  let geq ← ofQueue ((wakeSelf c woken hosts num).finish c.type)
  pure { hosts, geq }

/-- Whether the running component is a controller. -/
def runsController (q : GlobalEventQueue κ) : Prop :=
  ∃ num < c.host.hmcs_size, q.running = some (c.controller num)

instance (q : GlobalEventQueue κ) : Decidable (runsController c q) :=
  inferInstanceAs (Decidable (∃ num < c.host.hmcs_size, q.running = some (c.controller num)))

/-- A step of the event queue that is none of a controller. -/
def other (s : WakeSystem κ) (action : QueueAction κ) : Except WakeError (WakeSystem κ) := do
  let geq ← ofQueue (s.geq.step c.type action)
  if runsController c geq then throw (.queue .disabled) else pure { s with geq }

def step (s : WakeSystem κ) : WakeAction κ → Except WakeError (WakeSystem κ)
  | .add_req_event num event_time lqele => s.add_req_event c num event_time lqele
  | .add_rep_event num event_time dest_addr => s.add_rep_event c num event_time dest_addr
  | .serve num served cmd => pure { s with hosts := s.hosts.serve num served cmd }
  | .process_event num accepts => s.process_event c num accepts
  | .other action => s.other c action

/-- The calls are of controllers that exist, and for the current time or later. -/
def InTime (s : WakeSystem κ) : WakeAction κ → WakeSystem κ → Prop
  | .add_req_event num event_time _, _ => num < c.host.hmcs_size ∧ s.geq.curr_time ≤ event_time
  | .add_rep_event num event_time _, _ => num < c.host.hmcs_size ∧ s.geq.curr_time ≤ event_time
  | .serve _ _ _, _ => True
  | .process_event num _, _ => num < c.host.hmcs_size
  | .other action, s' => GlobalEventQueue.InTime s.geq action s'.geq

instance : ∀ s action s', Decidable (InTime c s action s')
  | s, .add_req_event num event_time _, _ =>
    inferInstanceAs (Decidable (num < c.host.hmcs_size ∧ s.geq.curr_time ≤ event_time))
  | s, .add_rep_event num event_time _, _ =>
    inferInstanceAs (Decidable (num < c.host.hmcs_size ∧ s.geq.curr_time ≤ event_time))
  | _, .serve _ _ _, _ => .isTrue trivial
  | _, .process_event num _, _ => inferInstanceAs (Decidable (num < c.host.hmcs_size))
  | s, .other action, s' => inferInstanceAs (Decidable (GlobalEventQueue.InTime s.geq action s'.geq))

end WakeSystem

/-! ## An idle controller that is not woken stays idle -/

namespace PTSHMCController

variable {h : PTSHMCController}

theorem idle_iff : h.idle ↔ h.outstanding_req = [] ∧ h.tran_buf = [] ∧
    h.active_update_event = [] ∧ h.req_event = [] ∧ h.active_gather_event = [] ∧
    h.resp_queue = [] := by
  simp only [idle, Bool.and_eq_true, List.isEmpty_iff, and_assoc]

theorem gathers_of_idle (isIdle : h.idle) : h.active_gather_event = [] :=
  (idle_iff.mp isIdle).2.2.2.2.1

/-- There is nobody to answer at an idle controller. -/
theorem idle_replyGather (c : HostConfig) (num : ℕ) (dest_addr : BitVec 64) (isIdle : h.idle) :
    (h.replyGather c num dest_addr).idle := by
  obtain ⟨outstanding, buffer, updates, requests, gathers, responses⟩ := idle_iff.mp isIdle
  rw [idle_iff, replyGather, gathers]
  exact ⟨outstanding, buffer, updates, requests, rfl, by rw [responses]; rfl⟩

end PTSHMCController

namespace Host

variable {c : HostConfig} {m m' : Host} {num event_time : ℕ} {lqele : LocalQueueElement}
  {woken : List ℕ} {idler : ℕ}

/-- A controller of the forest that has nothing to do gets a dummy. -/
theorem idle_startGather (result : m.startGather c event_time lqele = .ok m') {bits : List Bool}
    (forest : m.readForest c lqele.dest_addr = .ok bits) (isSmall : idler < c.hmcs_size)
    (isIdle : (m.hmcs idler).idle) (asleep : idler ∉ m.dummies c lqele bits) :
    (m'.hmcs idler).idle := by
  unfold startGather at result
  obtain ⟨bits', forest', sent⟩ := bind_eq_ok.mp result
  cases forest.symm.trans forest'
  split at sent
  · obtain rfl := pure_eq_ok.mp sent
    have unmarked : bits[idler]? ≠ some true := by
      intro marked
      apply asleep
      refine List.mem_filter.mpr ⟨List.mem_range.mpr isSmall, decide_eq_true ⟨marked, ?_⟩⟩
      rw [PTSHMCController.gathers_of_idle isIdle]
      rfl
    show (if bits[idler]? = some true then _ else m.hmcs idler).idle = true
    rw [if_neg unmarked]
    exact isIdle
  · exact absurd sent throw_ne_ok

theorem idle_addGather (result : m.addGather c num event_time lqele = .ok m')
    (wakes : m.gatherWakes c num lqele = .ok woken) (isSmall : idler < c.hmcs_size)
    (isOther : idler ≠ num) (isIdle : (m.hmcs idler).idle) (asleep : idler ∉ woken) :
    (m'.hmcs idler).idle := by
  unfold addGather at result
  unfold gatherWakes at wakes
  obtain ⟨barrier, counted, result⟩ := bind_eq_ok.mp result
  obtain ⟨barrier', counted', wakes⟩ := bind_eq_ok.mp wakes
  cases counted.symm.trans counted'
  have stillIdle :
      (((m.holdGet num lqele).setBarrier lqele.dest_addr barrier).hmcs idler).idle := by
    show ((m.setHmc num _).hmcs idler).idle = true
    rw [setHmc_of_ne isOther]
    exact isIdle
  split at result
  · rename_i complete
    rw [if_pos complete] at wakes
    obtain ⟨bits, forest, dummies⟩ := bind_eq_ok.mp wakes
    obtain rfl := pure_eq_ok.mp dummies
    exact idle_startGather result forest isSmall stillIdle asleep
  · obtain rfl := pure_eq_ok.mp result
    exact stillIdle

/-- Only an `ACT_GET` gives work to other controllers. -/
theorem idle_add_req_event (result : m.add_req_event c num event_time lqele = .ok m')
    (wakes : m.requestWakes c num lqele = .ok woken) (isSmall : idler < c.hmcs_size)
    (isIdle : (m.hmcs idler).idle) (asleep : idler ∉ woken) : (m'.hmcs idler).idle := by
  unfold add_req_event at result
  unfold requestWakes at wakes
  obtain ⟨⟨h, ready⟩, paired, result⟩ := bind_eq_ok.mp result
  obtain ⟨⟨h', ready'⟩, paired', wakes⟩ := bind_eq_ok.mp wakes
  cases paired.symm.trans paired'
  obtain ⟨readyWoken, readyWakes, wakes⟩ := bind_eq_ok.mp wakes
  obtain rfl := pure_eq_ok.mp wakes
  obtain ⟨notSelf, notReady⟩ := not_or.mp (mt List.mem_append.mpr asleep)
  have isOther : idler ≠ num := by
    rintro rfl
    rw [wakesIdle, if_pos isIdle] at notSelf
    exact notSelf (List.mem_singleton_self _)
  have stillIdle : ((m.setHmc num h).hmcs idler).idle := by
    rw [setHmc_of_ne isOther]
    exact isIdle
  have addTran_idle : ∀ host : Host, host.hmcs = (m.setHmc num h).hmcs → ∀ type,
      ((host.addTran c num (c.alignTime event_time) lqele type).hmcs idler).idle := by
    intro host same type
    show ((host.setHmc num _).hmcs idler).idle = true
    rw [setHmc_of_ne isOther, same]
    exact stillIdle
  dsimp only at result
  split at result
  · rename_i isReady
    simp only [Host.readyWakes, isReady, if_true] at readyWakes
    split at result
    · exact absurd result throw_ne_ok
    · rename_i isGet
      rw [isGet] at readyWakes
      exact idle_addGather result readyWakes isSmall isOther stillIdle notReady
    · split at result
      · obtain ⟨marked, isMarked, result⟩ := bind_eq_ok.mp result
        split at result
        · obtain rfl := pure_eq_ok.mp result
          refine addTran_idle marked ?_ _
          unfold markForest at isMarked
          dsimp only at isMarked
          split at isMarked
          · obtain rfl := pure_eq_ok.mp isMarked
            rfl
          · exact absurd isMarked throw_ne_ok
        · exact absurd result throw_ne_ok
      · obtain rfl := pure_eq_ok.mp result
        exact addTran_idle _ rfl _
  · obtain rfl := pure_eq_ok.mp result
    exact stillIdle

theorem idle_add_rep_event {dest_addr : BitVec 64}
    (result : m.add_rep_event c num dest_addr = .ok m') (isIdle : (m.hmcs idler).idle) :
    (m'.hmcs idler).idle := by
  unfold add_rep_event at result
  split at result
  · exact absurd result throw_ne_ok
  · split at result
    · exact absurd result throw_ne_ok
    · split at result
      · split at result
        · obtain rfl := pure_eq_ok.mp result
          show (if replies c idler then _ else m.hmcs idler).idle = true
          split
          · exact PTSHMCController.idle_replyGather c idler dest_addr isIdle
          · exact isIdle
        · exact absurd result throw_ne_ok
      · obtain rfl := pure_eq_ok.mp result
        exact isIdle

theorem idle_takeServed {served_trans : List (BitVec 64 × PacketCommandType)}
    (result : m.takeServed c num served_trans = .ok m') (isOther : idler ≠ num)
    (isIdle : (m.hmcs idler).idle) : (m'.hmcs idler).idle := by
  unfold takeServed at result
  split at result
  · obtain rfl := pure_eq_ok.mp result
    exact isIdle
  · exact idle_add_rep_event result isIdle
  · obtain ⟨h, -, result⟩ := bind_eq_ok.mp result
    obtain rfl := pure_eq_ok.mp result
    rw [setHmc_of_ne isOther]
    exact isIdle

end Host

/-! ## The queue -/

namespace WakeSystem

variable {κ : Type} [LinearOrder κ] {c : WakeConfig κ} {s s' : WakeSystem κ}

theorem ofHost_eq_ok {α : Type} {x : Except HostError α} {a : α} :
    ofHost x = .ok a ↔ x = .ok a := by
  cases x with
  | error e => exact ⟨fun h => (nomatch h), fun h => (nomatch h)⟩
  | ok a' => exact ⟨fun h => Except.ok.inj h ▸ rfl, fun h => Except.ok.inj h ▸ rfl⟩

theorem ofQueue_eq_ok {α : Type} {x : Except QueueError α} {a : α} :
    ofQueue x = .ok a ↔ x = .ok a := by
  cases x with
  | error e => exact ⟨fun h => (nomatch h), fun h => (nomatch h)⟩
  | ok a' => exact ⟨fun h => Except.ok.inj h ▸ rfl, fun h => Except.ok.inj h ▸ rfl⟩

theorem wake_cons (q : GlobalEventQueue κ) (event_time num : ℕ) (woken : List ℕ) :
    wake c q event_time (num :: woken) =
      wake c (q.add_event event_time (c.controller num)) event_time woken := rfl

@[simp] theorem wake_curr_time (event_time : ℕ) (woken : List ℕ) :
    ∀ q : GlobalEventQueue κ, (wake c q event_time woken).curr_time = q.curr_time := by
  induction woken with
  | nil => exact fun _ => rfl
  | cons num woken inductionHypothesis => exact fun q => inductionHypothesis _

@[simp] theorem wake_running (event_time : ℕ) (woken : List ℕ) :
    ∀ q : GlobalEventQueue κ, (wake c q event_time woken).running = q.running := by
  induction woken with
  | nil => exact fun _ => rfl
  | cons num woken inductionHypothesis => exact fun q => inductionHypothesis _

theorem mem_wake {event_time : ℕ} {woken : List ℕ} {event : ℕ ×ₗ κ} :
    ∀ {q : GlobalEventQueue κ}, event ∈ (wake c q event_time woken).event_queue ↔
      (∃ num ∈ woken, event = toLex (event_time, c.controller num)) ∨ event ∈ q.event_queue := by
  induction woken with
  | nil => exact ⟨.inr, fun h => h.elim (fun ⟨_, nobody, _⟩ => (nomatch nobody)) id⟩
  | cons num woken inductionHypothesis =>
    intro q
    rw [wake_cons, inductionHypothesis, GlobalEventQueue.add_event, Finset.mem_insert,
      List.exists_mem_cons_iff]
    exact ⟨fun h => h.elim (fun h => .inl (.inr h)) fun h => h.elim (fun h => .inl (.inl h)) .inr,
      fun h => h.elim (fun h => h.elim (fun h => .inr (.inl h)) .inl) fun h => .inr (.inr h)⟩

/-! ## Every controller with work is awake -/

variable (c) in
/-- The events have not passed, no controller is in the middle of its round, and
    a controller with work has an event. -/
structure Awake (s : WakeSystem κ) : Prop where
  queued : ∀ event ∈ s.geq.event_queue, s.geq.curr_time ≤ (ofLex event).1
  between : ¬ runsController c s.geq
  awake : ∀ num < c.host.hmcs_size, ¬ (s.hosts.host.hmcs num).idle →
    ∃ time, toLex (time, c.controller num) ∈ s.geq.event_queue

omit [LinearOrder κ] in
theorem Awake.start : Awake c {} where
  queued _ h := absurd h (Finset.notMem_empty _)
  between := fun ⟨_, _, isRunning⟩ => (nomatch isRunning)
  awake _ _ busy := absurd rfl busy

/-- A call from outside, which gives work only to controllers that it wakes or
    that have had work before. -/
theorem Awake.call (awake : Awake c s) {hosts : HostSystem} {event_time : ℕ} {woken : List ℕ}
    (inTime : s.geq.curr_time ≤ event_time)
    (asleep : ∀ num < c.host.hmcs_size, (s.hosts.host.hmcs num).idle → num ∉ woken →
      (hosts.host.hmcs num).idle) :
    Awake c { hosts, geq := wake c s.geq event_time woken } := by
  refine ⟨?_, ?_, ?_⟩
  · intro event member
    show (wake c s.geq event_time woken).curr_time ≤ _
    rw [wake_curr_time]
    cases mem_wake.mp member with
    | inl isWoken =>
      obtain ⟨num, -, rfl⟩ := isWoken
      exact inTime
    | inr wasQueued => exact awake.queued event wasQueued
  · rintro ⟨num, isSmall, isRunning⟩
    exact awake.between ⟨num, isSmall, (wake_running event_time woken s.geq).symm.trans isRunning⟩
  · intro num isSmall busy
    by_cases isWoken : num ∈ woken
    · exact ⟨event_time, mem_wake.mpr (.inl ⟨num, isWoken, rfl⟩)⟩
    · have wasBusy : ¬ (s.hosts.host.hmcs num).idle :=
        fun isIdle => busy (asleep num isSmall isIdle isWoken)
      obtain ⟨time, isQueued⟩ := awake.awake num isSmall wasBusy
      exact ⟨time, mem_wake.mpr (.inr isQueued)⟩

theorem le_alignTime (c : HostConfig) (event_time : ℕ) : event_time ≤ c.alignTime event_time := by
  unfold HostConfig.alignTime
  split
  · exact Nat.le_add_right _ _
  · exact le_rfl

theorem Awake.add_req_event (awake : Awake c s) {num event_time : ℕ} {lqele : LocalQueueElement}
    (result : s.add_req_event c num event_time lqele = .ok s')
    (inTime : s.geq.curr_time ≤ event_time) : Awake c s' := by
  unfold WakeSystem.add_req_event at result
  obtain ⟨woken, wakes, result⟩ := bind_eq_ok.mp result
  obtain ⟨hosts, added, result⟩ := bind_eq_ok.mp result
  obtain rfl := pure_eq_ok.mp result
  obtain ⟨host, requested, isHosts⟩ := bind_eq_ok.mp (ofHost_eq_ok.mp added)
  obtain rfl := pure_eq_ok.mp isHosts
  refine awake.call (inTime.trans (le_alignTime _ _)) ?_
  intro idler isSmall isIdle asleep
  exact Host.idle_add_req_event requested (ofHost_eq_ok.mp wakes) isSmall isIdle asleep

theorem Awake.add_rep_event (awake : Awake c s) {num event_time : ℕ} {dest_addr : BitVec 64}
    (result : s.add_rep_event c num event_time dest_addr = .ok s')
    (inTime : s.geq.curr_time ≤ event_time) : Awake c s' := by
  unfold WakeSystem.add_rep_event at result
  obtain ⟨host, replied, result⟩ := bind_eq_ok.mp result
  obtain rfl := pure_eq_ok.mp result
  refine awake.call (inTime.trans (le_alignTime _ _)) ?_
  intro idler _ isIdle _
  exact Host.idle_add_rep_event (ofHost_eq_ok.mp replied) isIdle

/-- The event queue calls a controller at the first of its times, and the event
    stays queued. -/
theorem callController_cases {num : ℕ} {called : GlobalEventQueue κ}
    (isSmall : num < c.host.hmcs_size) (result : s.callController c num = .ok called) :
    called.event_queue = s.geq.event_queue ∧ called.running = some (c.controller num) ∧
      ∀ event ∈ called.event_queue, called.curr_time ≤ (ofLex event).1 := by
  unfold callController at result
  obtain ⟨called', dispatched, result⟩ := bind_eq_ok.mp result
  split at result
  · exact absurd result throw_ne_ok
  · rename_i isSelf
    split at result
    · exact absurd result throw_ne_ok
    · obtain rfl := pure_eq_ok.mp result
      have isSelf := not_not.mp isSelf
      obtain ⟨first, -, least, isCalled⟩ :=
        GlobalEventQueue.dispatch_cases (ofQueue_eq_ok.mp dispatched)
      obtain ⟨isCore, rfl⟩ | ⟨-, rfl⟩ := isCalled
      · -- a controller is not a core
        have isController := Option.some.inj isSelf
        rw [isController, c.controller_type num isSmall] at isCore
        cases isCore
      · exact ⟨rfl, isSelf, least⟩

theorem wakeSelf_running (q : GlobalEventQueue κ) (hosts : HostSystem) (num : ℕ) :
    (wakeSelf c q hosts num).running = q.running := by
  unfold wakeSelf
  split <;> rfl

theorem wakeSelf_curr_time (q : GlobalEventQueue κ) (hosts : HostSystem) (num : ℕ) :
    (wakeSelf c q hosts num).curr_time = q.curr_time := by
  unfold wakeSelf
  split <;> rfl

theorem mem_wakeSelf {q : GlobalEventQueue κ} {hosts : HostSystem} {num : ℕ} {event : ℕ ×ₗ κ} :
    event ∈ (wakeSelf c q hosts num).event_queue ↔
      (¬ (hosts.host.hmcs num).idle ∧
          event = toLex (q.curr_time + c.host.process_interval, c.controller num)) ∨
        event ∈ q.event_queue := by
  unfold wakeSelf
  split
  · rename_i isIdle
    exact ⟨.inr, fun h => h.elim (fun h => absurd isIdle h.1) id⟩
  · rename_i busy
    rw [GlobalEventQueue.add_event, Finset.mem_insert]
    exact ⟨fun h => h.elim (fun h => .inl ⟨busy, h⟩) .inr, fun h => h.elim (fun h => .inl h.2) .inr⟩

omit [LinearOrder κ] in
/-- The round of a controller gives no work to others that have none. -/
theorem idle_process {num curr_time idler : ℕ} {accepts : Bool} {hosts sent taken hosts' : HostSystem}
    (isSent : hosts.sendTran num curr_time accepts = .ok sent)
    (isTaken : sent.takeServed c.host num = .ok taken) (responded : taken.respond num = .ok hosts')
    (isOther : idler ≠ num) (isIdle : (hosts.host.hmcs idler).idle) :
    (hosts'.host.hmcs idler).idle := by
  obtain ⟨⟨h, tran⟩, -, isSent⟩ := bind_eq_ok.mp isSent
  obtain rfl := pure_eq_ok.mp isSent
  obtain ⟨host, isHost, isTaken⟩ := bind_eq_ok.mp isTaken
  obtain rfl := pure_eq_ok.mp isTaken
  obtain ⟨⟨h', answer⟩, -, responded⟩ := bind_eq_ok.mp responded
  obtain rfl := pure_eq_ok.mp responded
  have afterSent : ((hosts.host.setHmc num h).hmcs idler).idle := by
    rw [Host.setHmc_of_ne isOther]
    exact isIdle
  have afterTaken := Host.idle_takeServed isHost isOther afterSent
  show ((host.setHmc num h').hmcs idler).idle = true
  rw [Host.setHmc_of_ne isOther]
  exact afterTaken

/-- The event of the round is erased.  The others stay, and the controller has
    one of a later time if it has work. -/
theorem Awake.process_event (awake : Awake c s) {num : ℕ} {accepts : Bool}
    (isSmall : num < c.host.hmcs_size) (result : s.process_event c num accepts = .ok s') :
    Awake c s' := by
  unfold WakeSystem.process_event at result
  obtain ⟨called, isCalled, result⟩ := bind_eq_ok.mp result
  obtain ⟨sent, isSent, result⟩ := bind_eq_ok.mp result
  obtain ⟨taken, isTaken, result⟩ := bind_eq_ok.mp result
  obtain ⟨hosts, responded, result⟩ := bind_eq_ok.mp result
  obtain ⟨geq, finished, result⟩ := bind_eq_ok.mp result
  obtain rfl := pure_eq_ok.mp result
  obtain ⟨sameEvents, isRunning, least⟩ := callController_cases isSmall isCalled
  obtain ⟨p_comp, isRunning', isReturned⟩ :=
    GlobalEventQueue.finish_cases (ofQueue_eq_ok.mp finished)
  rw [wakeSelf_running, wake_running, isRunning] at isRunning'
  obtain rfl := Option.some.inj isRunning'
  obtain ⟨-, rfl⟩ | ⟨notUncore, -⟩ := isReturned
  · rw [wakeSelf_curr_time, wake_curr_time]
    have isQueued : ∀ event ∈ s.geq.event_queue, event ∈ (wakeSelf c (wake c called called.curr_time
        (sent.host.servedWakes c.host num (sent.served num))) hosts num).event_queue :=
      fun event member => mem_wakeSelf.mpr (.inr (mem_wake.mpr (.inr (sameEvents ▸ member))))
    refine ⟨?_, fun ⟨_, _, isRunning⟩ => (nomatch isRunning), ?_⟩
    · intro event member
      show (wakeSelf c _ hosts num).curr_time ≤ _
      rw [wakeSelf_curr_time, wake_curr_time]
      cases mem_wakeSelf.mp (Finset.mem_of_mem_erase member) with
      | inl isSelf =>
        obtain ⟨-, rfl⟩ := isSelf
        rw [wake_curr_time]
        exact Nat.le_add_right _ _
      | inr before =>
        cases mem_wake.mp before with
        | inl isWoken =>
          obtain ⟨_, -, rfl⟩ := isWoken
          exact le_rfl
        | inr wasQueued => exact least event wasQueued
    · intro num' isSmall' busy
      by_cases isSelf : num' = num
      · subst isSelf
        refine ⟨called.curr_time + c.host.process_interval, Finset.mem_erase.mpr ⟨?_, ?_⟩⟩
        · intro same
          have sameTime := (Prod.mk.inj (toLex.injective same)).1
          have later := c.interval_pos
          omega
        · exact mem_wakeSelf.mpr (.inl ⟨busy, by rw [wake_curr_time]⟩)
      · have wasBusy : ¬ (s.hosts.host.hmcs num').idle := fun isIdle =>
          busy (idle_process (ofHost_eq_ok.mp isSent) (ofHost_eq_ok.mp isTaken)
            (ofHost_eq_ok.mp responded) isSelf isIdle)
        obtain ⟨time, member⟩ := awake.awake num' isSmall' wasBusy
        refine ⟨time, Finset.mem_erase.mpr ⟨?_, isQueued _ member⟩⟩
        intro same
        exact isSelf (c.controller_inj num' isSmall' num isSmall
          (Prod.mk.inj (toLex.injective same)).2)
  · rw [c.controller_type num isSmall] at notUncore
    exact absurd rfl notUncore

/-- Other components keep the events of the controllers. -/
theorem Awake.other (awake : Awake c s) {action : QueueAction κ}
    (result : s.other c action = .ok s')
    (inTime : GlobalEventQueue.InTime s.geq action s'.geq) : Awake c s' := by
  unfold WakeSystem.other at result
  obtain ⟨geq, stepped, result⟩ := bind_eq_ok.mp result
  split at result
  · exact absurd result throw_ne_ok
  · rename_i between
    obtain rfl := pure_eq_ok.mp result
    have stepped := ofQueue_eq_ok.mp stepped
    cases action with
    | add_event event_time event_target =>
      obtain rfl := Except.ok.inj stepped
      refine ⟨?_, between, ?_⟩
      · intro event member
        cases Finset.mem_insert.mp member with
        | inl isAdded => exact isAdded ▸ inTime
        | inr wasQueued => exact awake.queued event wasQueued
      · intro num isSmall busy
        obtain ⟨time, member⟩ := awake.awake num isSmall busy
        exact ⟨time, Finset.mem_insert_of_mem member⟩
    | dispatch =>
      obtain ⟨first, -, least, isCalled⟩ := GlobalEventQueue.dispatch_cases stepped
      obtain ⟨-, rfl⟩ | ⟨-, rfl⟩ := isCalled
      · -- the event of a core is erased
        refine ⟨fun event member => least event (Finset.mem_of_mem_erase member), between, ?_⟩
        intro num isSmall busy
        obtain ⟨time, member⟩ := awake.awake num isSmall busy
        refine ⟨time, Finset.mem_erase.mpr ⟨?_, member⟩⟩
        rintro rfl
        exact between ⟨num, isSmall, rfl⟩
      · exact ⟨least, between, awake.awake⟩
    | finish =>
      obtain ⟨p_comp, isRunning, isReturned⟩ := GlobalEventQueue.finish_cases stepped
      obtain ⟨-, rfl⟩ | ⟨-, rfl⟩ := isReturned
      · refine ⟨fun event member => awake.queued event (Finset.mem_of_mem_erase member), between, ?_⟩
        intro num isSmall busy
        obtain ⟨time, member⟩ := awake.awake num isSmall busy
        refine ⟨time, Finset.mem_erase.mpr ⟨?_, member⟩⟩
        intro same
        have isController := (Prod.mk.inj (toLex.injective same)).2
        exact awake.between ⟨num, isSmall, isController ▸ isRunning⟩
      · exact ⟨awake.queued, between, awake.awake⟩

theorem Awake.step (awake : Awake c s) {action : WakeAction κ}
    (stepped : s.step c action = .ok s') (inTime : InTime c s action s') : Awake c s' := by
  cases action with
  | add_req_event num event_time lqele => exact awake.add_req_event stepped inTime.2
  | add_rep_event num event_time dest_addr => exact awake.add_rep_event stepped inTime.2
  | serve num served cmd =>
    obtain rfl := pure_eq_ok.mp stepped
    exact ⟨awake.queued, awake.between, awake.awake⟩
  | process_event num accepts => exact awake.process_event inTime stepped
  | other action => exact awake.other stepped inTime

/-- In every run, a controller that has something in one of its containers has an
    event in the queue that has not passed. -/
theorem run_awake {actions : List (WakeAction κ)}
    (run : Transition.Run (step c) (InTime c) {} actions s) {num : ℕ}
    (isSmall : num < c.host.hmcs_size)
    (busy : (s.hosts.host.hmcs num).tran_buf ≠ [] ∨ (s.hosts.host.hmcs num).req_event ≠ [] ∨
      (s.hosts.host.hmcs num).outstanding_req ≠ [] ∨
      (s.hosts.host.hmcs num).active_update_event ≠ [] ∨
      (s.hosts.host.hmcs num).active_gather_event ≠ [] ∨
      (s.hosts.host.hmcs num).resp_queue ≠ []) :
    ∃ time, s.geq.curr_time ≤ time ∧ toLex (time, c.controller num) ∈ s.geq.event_queue := by
  have awake : Awake c s :=
    run.invariant .start fun _ _ _ awake stepped inTime => awake.step stepped inTime
  have notIdle : ¬ (s.hosts.host.hmcs num).idle := by
    rw [PTSHMCController.idle_iff]
    tauto
  obtain ⟨time, member⟩ := awake.awake num isSmall notIdle
  exact ⟨time, awake.queued _ member, member⟩

/-- A core, and two controllers that come after it. -/
def coreAndTwo : WakeConfig ℕ where
  host :=
    { art_scheme := .art_addr, hmc_top := .DFLY, hmcs_size := 2, num_mcs := 2, num_mcs_log2 := 1
      process_interval := 10, cubes_per_mc := 4, cube_interleave_base_bit := 32
      interleave_xor_base_bit := 20, geq_interleave_base_bit := 12
      geq_interleave_xor_base_bit := 20 }
  type p_comp := if p_comp = 0 then .ct_core else .ct_hmc_controller
  controller num := num + 1
  interval_pos := by decide
  controller_type num _ := if_neg (Nat.succ_ne_zero num)
  controller_inj _ _ _ _ same := Nat.succ.inj same

/-- An update at controller 1 and the `ACT_GET` of its flow at controller 0,
    which runs first. -/
def updateAndGet : List (WakeAction ℕ) :=
  [.other (.add_event 0 0), .other .dispatch,
    .add_req_event 1 5 { id := 0, type := .et_art_add, dest_addr := 5 },
    .add_req_event 0 7 { id := 1, type := .et_art_get, dest_addr := 5, nthreads := 1 },
    .other .finish, .process_event 0 true]

theorem run_awake_updateAndGet :
    ∃ s, Transition.Run (step coreAndTwo) (InTime coreAndTwo) {} updateAndGet s ∧
      s.geq.curr_time = 10 ∧ (s.hosts.host.hmcs 1).active_gather_event ≠ [] ∧
      ∃ time, 10 ≤ time ∧ toLex (time, 2) ∈ s.geq.event_queue := by
  have executed : (Transition.execute (step coreAndTwo) (InTime coreAndTwo) {} updateAndGet).map
      (fun s => (s.geq.curr_time, (s.hosts.host.hmcs 1).active_gather_event.length)) =
        some (10, 1) := by
    decide +kernel
  obtain ⟨s, executed, state⟩ := Option.map_eq_some_iff.mp executed
  obtain ⟨isTen, isDummy⟩ := Prod.mk.inj state
  have run := Transition.execute_run executed
  have busy : (s.hosts.host.hmcs 1).active_gather_event ≠ [] := by
    intro none
    rw [none] at isDummy
    cases isDummy
  obtain ⟨time, isLater, isQueued⟩ :=
    run_awake run (by decide) (.inr (.inr (.inr (.inr (.inl busy)))))
  exact ⟨s, run, isTen, busy, time, isTen ▸ isLater, isQueued⟩

end WakeSystem

end ActiveRouting

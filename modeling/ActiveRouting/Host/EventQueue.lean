import ActiveRouting.Library.Run
import Mathlib.Data.Finset.Max
import Mathlib.Data.Prod.Lex

/-!
# The global event queue

The components of the host and the queue that wakes them.  A wakeup is recorded
when it is added and when it is dispatched, so that a lost one shows.
-/

namespace ActiveRouting

inductive component_type where
  | ct_core | ct_lsu | ct_o3core | ct_o3core_t1 | ct_o3core_t2
  | ct_cachel1d | ct_cachel1d_t1 | ct_cachel1d_t2
  | ct_cachel1i | ct_cachel1i_t1 | ct_cachel1i_t2
  | ct_cachel2 | ct_cachel2_t1 | ct_cachel2_t2
  | ct_directory | ct_crossbar | ct_rbol | ct_memory_controller | ct_hmc_controller
  | ct_tlbl1d | ct_tlbl1i | ct_tlbl2 | ct_mesh | ct_ring
  deriving DecidableEq, Repr

/-- The three cases of the `switch` of `process_event`. -/
inductive Dispatch where
  /-- The entry is erased before the component runs. -/
  | core
  /-- The entry is erased after the component has run. -/
  | uncore
  | unsupported
  deriving DecidableEq, Repr

def component_type.dispatch : component_type → Dispatch
  | ct_core | ct_o3core | ct_o3core_t1 | ct_o3core_t2 => .core
  | ct_cachel1d | ct_cachel1d_t1 | ct_cachel1d_t2
  | ct_cachel1i | ct_cachel1i_t1 | ct_cachel1i_t2
  | ct_cachel2 | ct_cachel2_t1 | ct_cachel2_t2
  | ct_directory | ct_rbol | ct_memory_controller | ct_hmc_controller | ct_crossbar
  | ct_tlbl1d | ct_tlbl1i | ct_mesh | ct_ring => .uncore
  | ct_lsu | ct_tlbl2 => .unsupported

inductive QueueError where
  /-- `exit(1)` for a component type that `process_event` does not know. -/
  | unsupported
  /-- An iterator of one set is erased from another. -/
  | foreignIterator
  /-- The step is not enabled. -/
  | disabled
  deriving DecidableEq, Repr

inductive QueueEvent (κ : Type) where
  | added (event : ℕ ×ₗ κ)
  | dispatched (event : ℕ ×ₗ κ)
  deriving DecidableEq

/-- `event_queue` maps a time to a set of components that is never empty: it is
    the finite set of its pairs, ordered by time and then by component.
    `running` is the component whose `process_event` the queue has called, and
    `log` what has happened, the latest first. -/
structure GlobalEventQueue (κ : Type) where
  event_queue : Finset (ℕ ×ₗ κ) := ∅
  curr_time : ℕ := 0
  running : Option κ := none
  log : List (QueueEvent κ) := []

inductive QueueAction (κ : Type) where
  /-- A call of `add_event`, from outside or from the running component. -/
  | add_event (event_time : ℕ) (event_target : κ)
  /-- The loop takes the first event up to the call of its `process_event`. -/
  | dispatch
  /-- The component's `process_event` returns. -/
  | finish
  deriving DecidableEq

namespace GlobalEventQueue

variable {κ : Type} [LinearOrder κ] (type : κ → component_type)

def add_event (q : GlobalEventQueue κ) (event_time : ℕ) (event_target : κ) : GlobalEventQueue κ :=
  { q with
    event_queue := insert (toLex (event_time, event_target)) q.event_queue
    log := .added (toLex (event_time, event_target)) :: q.log }

/-- `process_event` of the event's component is called. -/
def call (q : GlobalEventQueue κ) (event : ℕ ×ₗ κ) : GlobalEventQueue κ :=
  { q with
    curr_time := (ofLex event).1
    running := some (ofLex event).2
    log := .dispatched event :: q.log }

def erase (q : GlobalEventQueue κ) (event : ℕ ×ₗ κ) : GlobalEventQueue κ :=
  { q with event_queue := q.event_queue.erase event }

def returned (q : GlobalEventQueue κ) : GlobalEventQueue κ :=
  { q with running := none }

/-- The event at `begin()` goes to its component. -/
def dispatchFirst (q : GlobalEventQueue κ) (first : ℕ ×ₗ κ) :
    Except QueueError (GlobalEventQueue κ) :=
  match (type (ofLex first).2).dispatch with
  | .core => .ok ((q.erase first).call first)
  | .uncore => .ok (q.call first)
  | .unsupported => .error .unsupported

def dispatch (q : GlobalEventQueue κ) : Except QueueError (GlobalEventQueue κ) :=
  match q.running with
  | some _ => .error .disabled
  | none => if h : q.event_queue.Nonempty then q.dispatchFirst type (q.event_queue.min' h)
    else .error .disabled

/-- What the loop does after `process_event` has returned: an uncore component
    is erased from the set of the first time. -/
def finish (q : GlobalEventQueue κ) : Except QueueError (GlobalEventQueue κ) :=
  match q.running with
  | none => .error .disabled
  | some p_comp =>
    match (type p_comp).dispatch with
    | .uncore =>
      if ∀ event ∈ q.event_queue, q.curr_time ≤ (ofLex event).1 then
        .ok (q.erase (toLex (q.curr_time, p_comp))).returned
      else .error .foreignIterator
    | _ => .ok q.returned

def step (q : GlobalEventQueue κ) : QueueAction κ → Except QueueError (GlobalEventQueue κ)
  | .add_event event_time event_target => .ok (q.add_event event_time event_target)
  | .dispatch => q.dispatch type
  | .finish => q.finish type

/-- An event that has been added and not dispatched since. -/
def Awaits : List (QueueEvent κ) → ℕ ×ₗ κ → Prop
  | [], _ => False
  | .added event' :: log, event => event' = event ∨ Awaits log event
  | .dispatched event' :: log, event => event' ≠ event ∧ Awaits log event

instance decidableAwaits [DecidableEq (ℕ ×ₗ κ)] : ∀ log event, Decidable (Awaits (κ := κ) log event)
  | [], _ => .isFalse id
  | .added event' :: log, event =>
    let _ := decidableAwaits log event
    inferInstanceAs (Decidable (event' = event ∨ Awaits log event))
  | .dispatched event' :: log, event =>
    let _ := decidableAwaits log event
    inferInstanceAs (Decidable (event' ≠ event ∧ Awaits log event))

/-- The times at which components have been dispatched, the latest first. -/
def dispatchTimes : List (QueueEvent κ) → List ℕ
  | [] => []
  | .added _ :: log => dispatchTimes log
  | .dispatched event :: log => (ofLex event).1 :: dispatchTimes log

/-- Components are woken at the current time or later. -/
def InTime (q : GlobalEventQueue κ) : QueueAction κ → GlobalEventQueue κ → Prop
  | .add_event event_time _, _ => q.curr_time ≤ event_time
  | _, _ => True

/-- And they are of a known type, and an uncore component that runs is not woken
    for the time at which it runs. -/
def Kept (q : GlobalEventQueue κ) : QueueAction κ → GlobalEventQueue κ → Prop
  | .add_event event_time event_target, _ => q.curr_time ≤ event_time ∧
      (type event_target).dispatch ≠ .unsupported ∧
      ¬ (event_time = q.curr_time ∧ q.running = some event_target ∧
        (type event_target).dispatch = .uncore)
  | _, _ => True

instance : ∀ (q : GlobalEventQueue κ) action q', Decidable (InTime q action q')
  | q, .add_event event_time _, _ => inferInstanceAs (Decidable (q.curr_time ≤ event_time))
  | _, .dispatch, _ => .isTrue trivial
  | _, .finish, _ => .isTrue trivial

instance : ∀ q action q', Decidable (Kept type q action q')
  | q, .add_event event_time event_target, _ =>
    inferInstanceAs (Decidable (q.curr_time ≤ event_time ∧
      (type event_target).dispatch ≠ .unsupported ∧
      ¬ (event_time = q.curr_time ∧ q.running = some event_target ∧
        (type event_target).dispatch = .uncore)))
  | _, .dispatch, _ => .isTrue trivial
  | _, .finish, _ => .isTrue trivial

/-! ## What the queue keeps -/

/-- Every awaited event is queued, and the one that `finish` will erase is not
    awaited. -/
structure Ok (q : GlobalEventQueue κ) : Prop where
  queued : ∀ event ∈ q.event_queue, q.curr_time ≤ (ofLex event).1
  supported : ∀ event ∈ q.event_queue, (type (ofLex event).2).dispatch ≠ .unsupported
  awaited : ∀ event, Awaits q.log event → event ∈ q.event_queue
  running : ∀ p_comp, q.running = some p_comp → (type p_comp).dispatch = .uncore →
    ¬ Awaits q.log (toLex (q.curr_time, p_comp))
  passed : ∀ time ∈ dispatchTimes q.log, time ≤ q.curr_time
  ordered : (dispatchTimes q.log).Pairwise (· ≥ ·)

variable {type} {q q' : GlobalEventQueue κ}

omit [LinearOrder κ] in
theorem Ok.start : Ok type ({} : GlobalEventQueue κ) where
  queued _ h := absurd h (Finset.notMem_empty _)
  supported _ h := absurd h (Finset.notMem_empty _)
  awaited _ h := h.elim
  running _ h := nomatch h
  passed _ h := nomatch h
  ordered := .nil

theorem Ok.add_event (ok : Ok type q) {event_time : ℕ} {event_target : κ}
    (kept : Kept type q (.add_event event_time event_target) q') :
    Ok type (q.add_event event_time event_target) := by
  obtain ⟨inTime, known, other⟩ := kept
  refine ⟨?_, ?_, ?_, ?_, ok.passed, ok.ordered⟩
  · intro event member
    cases Finset.mem_insert.1 member with
    | inl isAdded => exact isAdded ▸ inTime
    | inr wasQueued => exact ok.queued event wasQueued
  · intro event member
    cases Finset.mem_insert.1 member with
    | inl isAdded => exact isAdded ▸ known
    | inr wasQueued => exact ok.supported event wasQueued
  · intro event awaits
    cases awaits with
    | inl isAdded => exact Finset.mem_insert.2 (.inl isAdded.symm)
    | inr before => exact Finset.mem_insert_of_mem (ok.awaited event before)
  · intro p_comp isRunning isUncore awaits
    cases awaits with
    | inl isAdded =>
      -- the running component has been woken for its own time
      have isSelf := Prod.mk.inj (toLex.injective isAdded)
      exact other ⟨isSelf.1, isSelf.2 ▸ isRunning, isSelf.2 ▸ isUncore⟩
    | inr before => exact ok.running p_comp isRunning isUncore before

/-- The first event is queued, and no queued event is earlier. -/
theorem dispatch_cases (dispatched : q.dispatch type = .ok q') :
    ∃ first ∈ q.event_queue, (∀ event ∈ q.event_queue, (ofLex first).1 ≤ (ofLex event).1) ∧
      ((type (ofLex first).2).dispatch = .core ∧ q' = (q.erase first).call first ∨
        (type (ofLex first).2).dispatch = .uncore ∧ q' = q.call first) := by
  unfold dispatch at dispatched
  cases isRunning : q.running with
  | some p_comp => rw [isRunning] at dispatched; cases dispatched
  | none =>
    simp only [isRunning] at dispatched
    by_cases nonempty : q.event_queue.Nonempty
    · rw [dif_pos nonempty] at dispatched
      refine ⟨q.event_queue.min' nonempty, Finset.min'_mem _ _, ?_, ?_⟩
      · intro event member
        exact Prod.Lex.monotone_fst _ _ (Finset.min'_le _ event member)
      · unfold dispatchFirst at dispatched
        split at dispatched
        · rename_i isCore
          exact .inl ⟨isCore, (Except.ok.inj dispatched).symm⟩
        · rename_i isUncore
          exact .inr ⟨isUncore, (Except.ok.inj dispatched).symm⟩
        · cases dispatched
    · rw [dif_neg nonempty] at dispatched
      cases dispatched

omit [LinearOrder κ] in
/-- A call of `process_event` keeps what awaits, its own event apart. -/
theorem Ok.call (ok : Ok type q) {first : ℕ ×ₗ κ} {rest : Finset (ℕ ×ₗ κ)}
    (member : first ∈ q.event_queue)
    (least : ∀ event ∈ q.event_queue, (ofLex first).1 ≤ (ofLex event).1)
    (isPart : rest ⊆ q.event_queue) (others : ∀ event ∈ q.event_queue, event ≠ first → event ∈ rest) :
    Ok type ({ q with event_queue := rest }.call first) where
  queued event inRest := least event (isPart inRest)
  supported event inRest := ok.supported event (isPart inRest)
  awaited event awaits := others event (ok.awaited event awaits.2) fun same => awaits.1 same.symm
  running p_comp isRunning _ awaits := awaits.1 (by
    obtain rfl := Option.some.inj isRunning
    rfl)
  passed time isTime := by
    cases isTime with
    | head => exact le_rfl
    | tail _ before => exact (ok.passed time before).trans (ok.queued first member)
  ordered := .cons (fun time before => (ok.passed time before).trans (ok.queued first member))
    ok.ordered

theorem Ok.dispatch (ok : Ok type q) (dispatched : q.dispatch type = .ok q') : Ok type q' := by
  obtain ⟨first, member, least, ⟨_, rfl⟩ | ⟨_, rfl⟩⟩ := dispatch_cases dispatched
  · exact ok.call member least (Finset.erase_subset _ _)
      fun event isQueued other => Finset.mem_erase.2 ⟨other, isQueued⟩
  · exact ok.call member least subset_rfl fun _ isQueued _ => isQueued

theorem finish_cases (finished : q.finish type = .ok q') :
    ∃ p_comp, q.running = some p_comp ∧
      ((type p_comp).dispatch = .uncore ∧
          q' = (q.erase (toLex (q.curr_time, p_comp))).returned ∨
        (type p_comp).dispatch ≠ .uncore ∧ q' = q.returned) := by
  unfold finish at finished
  cases isRunning : q.running with
  | none => rw [isRunning] at finished; cases finished
  | some p_comp =>
    simp only [isRunning] at finished
    refine ⟨p_comp, rfl, ?_⟩
    split at finished
    · rename_i isUncore
      split at finished
      · exact .inl ⟨isUncore, (Except.ok.inj finished).symm⟩
      · cases finished
    · rename_i notUncore
      exact .inr ⟨notUncore, (Except.ok.inj finished).symm⟩

theorem Ok.finish (ok : Ok type q) (finished : q.finish type = .ok q') : Ok type q' := by
  obtain ⟨p_comp, isRunning, ⟨isUncore, rfl⟩ | ⟨_, rfl⟩⟩ := finish_cases finished
  · refine ⟨?_, ?_, ?_, fun _ none => (nomatch none), ok.passed, ok.ordered⟩
    · intro event member
      exact ok.queued event (Finset.mem_of_mem_erase member)
    · intro event member
      exact ok.supported event (Finset.mem_of_mem_erase member)
    · intro event awaits
      refine Finset.mem_erase.2 ⟨?_, ok.awaited event awaits⟩
      rintro rfl
      exact ok.running p_comp isRunning isUncore awaits
  · exact ⟨ok.queued, ok.supported, ok.awaited, fun _ none => (nomatch none), ok.passed, ok.ordered⟩

theorem Ok.step (ok : Ok type q) {action : QueueAction κ} (stepped : q.step type action = .ok q')
    (kept : Kept type q action q') : Ok type q' := by
  cases action with
  | add_event event_time event_target =>
    cases Except.ok.inj stepped
    exact ok.add_event kept
  | dispatch => exact ok.dispatch stepped
  | finish => exact ok.finish stepped

/-! ## Draining the queue -/

theorem dispatch_enabled (ok : Ok type q) (idle : q.running = none)
    (nonempty : q.event_queue.Nonempty) : ∃ q', q.dispatch type = .ok q' := by
  unfold dispatch
  simp only [idle]
  rw [dif_pos nonempty]
  have known := ok.supported _ (Finset.min'_mem _ nonempty)
  unfold dispatchFirst
  split
  · exact ⟨_, rfl⟩
  · exact ⟨_, rfl⟩
  · rename_i unknown
    exact absurd unknown known

theorem finish_enabled (ok : Ok type q) {p_comp : κ} (isRunning : q.running = some p_comp) :
    ∃ q', q.finish type = .ok q' := by
  unfold finish
  simp only [isRunning]
  split
  · rw [if_pos ok.queued]
    exact ⟨_, rfl⟩
  · exact ⟨_, rfl⟩

theorem running_of_dispatch (dispatched : q.dispatch type = .ok q') :
    ∃ first ∈ q.event_queue, q'.running = some (ofLex first).2 ∧
      (q'.event_queue = q.event_queue.erase first ∧ (type (ofLex first).2).dispatch = .core ∨
        q'.event_queue = q.event_queue ∧ q'.curr_time = (ofLex first).1 ∧
          (type (ofLex first).2).dispatch = .uncore) := by
  obtain ⟨first, member, _, ⟨isCore, rfl⟩ | ⟨isUncore, rfl⟩⟩ := dispatch_cases dispatched
  · exact ⟨first, member, rfl, .inl ⟨rfl, isCore⟩⟩
  · exact ⟨first, member, rfl, .inr ⟨rfl, rfl, isUncore⟩⟩

/-- One round of the loop, in which the component adds no event, leaves one
    event fewer. -/
theorem round_enabled (ok : Ok type q) (idle : q.running = none)
    (nonempty : q.event_queue.Nonempty) :
    ∃ called returned, q.step type .dispatch = .ok called ∧
      called.step type .finish = .ok returned ∧ returned.running = none ∧
      returned.event_queue.card < q.event_queue.card := by
  obtain ⟨called, dispatched⟩ := dispatch_enabled ok idle nonempty
  obtain ⟨first, member, isRunning, entry⟩ := running_of_dispatch dispatched
  obtain ⟨returned, finished⟩ := finish_enabled (ok.dispatch dispatched) isRunning
  refine ⟨called, returned, dispatched, finished, ?_⟩
  obtain ⟨p_comp, isRunning', isReturned⟩ := finish_cases finished
  obtain rfl := Option.some.inj (isRunning.symm.trans isRunning')
  cases entry with
  | inl core =>
    obtain ⟨isUncore, _⟩ | ⟨_, rfl⟩ := isReturned
    · exact absurd (core.2.symm.trans isUncore) (by decide)
    · refine ⟨rfl, ?_⟩
      show called.event_queue.card < _
      rw [core.1]
      exact Finset.card_erase_lt_of_mem member
  | inr uncore =>
    obtain ⟨_, rfl⟩ | ⟨notUncore, _⟩ := isReturned
    · refine ⟨rfl, ?_⟩
      show (called.event_queue.erase _).card < _
      rw [uncore.1, uncore.2.1]
      exact Finset.card_erase_lt_of_mem member
    · exact absurd uncore.2.2 notUncore

/-- When no more events are added, the loop dispatches all of them. -/
theorem drains : ∀ (events : ℕ) (q : GlobalEventQueue κ), Ok type q → q.running = none →
    q.event_queue.card ≤ events → ∃ actions q', Transition.Run (step type) (Kept type) q actions q' ∧
      (∀ action ∈ actions, action = .dispatch ∨ action = .finish) ∧ q'.event_queue = ∅
  | 0, q, _, _, few =>
    ⟨[], q, .start q, fun _ none => (nomatch none), Finset.card_eq_zero.1 (Nat.le_zero.1 few)⟩
  | events + 1, q, ok, idle, few => by
    by_cases nonempty : q.event_queue.Nonempty
    · obtain ⟨called, returned, dispatched, finished, idle', fewer⟩ :=
        round_enabled ok idle nonempty
      have ok' := (ok.dispatch dispatched).finish finished
      obtain ⟨actions, q', run, noAdd, drained⟩ := drains events returned ok' idle' (by omega)
      refine ⟨.dispatch :: .finish :: actions, q',
        .cons dispatched trivial (.cons finished trivial run), ?_, drained⟩
      intro action member
      cases member with
      | head => exact .inl rfl
      | tail _ member =>
        cases member with
        | head => exact .inr rfl
        | tail _ member => exact noAdd action member
    · exact ⟨[], q, .start q, fun _ none => (nomatch none),
        Finset.not_nonempty_iff_eq_empty.1 nonempty⟩

/-! ## Runs -/

/-- In every run in which no uncore component wakes itself for the time at which
    it runs: an event that awaits its dispatch is queued at its time, which has
    not passed; dispatch times do not decrease; and the loop, left alone,
    dispatches all that is queued. -/
theorem every_event_dispatched {actions : List (QueueAction κ)}
    (run : Transition.Run (step type) (Kept type) {} actions q) :
    (∀ event, Awaits q.log event → event ∈ q.event_queue ∧ q.curr_time ≤ (ofLex event).1) ∧
      (dispatchTimes q.log).Pairwise (· ≥ ·) ∧
      (q.running = none → ∃ actions' q', Transition.Run (step type) (Kept type) q actions' q' ∧
        (∀ action ∈ actions', action = .dispatch ∨ action = .finish) ∧
        ∀ event, ¬ Awaits q'.log event) := by
  have ok : Ok type q := run.invariant .start fun _ _ _ ok stepped kept => ok.step stepped kept
  refine ⟨?_, ok.ordered, ?_⟩
  · intro event awaits
    have isQueued := ok.awaited event awaits
    exact ⟨isQueued, ok.queued event isQueued⟩
  · intro idle
    obtain ⟨actions', q', run', noAdd, drained⟩ := drains _ q ok idle le_rfl
    have ok' : Ok type q' := run'.invariant ok fun _ _ _ ok stepped kept => ok.step stepped kept
    refine ⟨actions', q', run', noAdd, ?_⟩
    intro event awaits
    exact absurd (drained ▸ ok'.awaited event awaits) (Finset.notMem_empty event)

/-- A core and an HMC controller. -/
def coreAndController : ℕ → component_type
  | 0 => .ct_core
  | _ => .ct_hmc_controller

/-- The core wakes the controller, which wakes itself for the next interval. -/
def wokenLater : List (QueueAction ℕ) :=
  [.add_event 0 0, .dispatch, .add_event 10 1, .finish, .dispatch, .add_event 20 1, .finish]

theorem every_event_dispatched_wokenLater :
    ∃ q, Transition.Run (step coreAndController) (Kept coreAndController) {} wokenLater q ∧
      Awaits q.log (toLex (20, 1)) ∧ toLex (20, 1) ∈ q.event_queue ∧ q.curr_time ≤ 20 := by
  have executed : (Transition.execute (step coreAndController) (Kept coreAndController) {}
      wokenLater).map (fun q => q.log) = some [.added (toLex (20, 1)), .dispatched (toLex (10, 1)),
        .added (toLex (10, 1)), .dispatched (toLex (0, 0)), .added (toLex (0, 0))] := by
    decide +kernel
  obtain ⟨q, executed, logged⟩ := Option.map_eq_some_iff.mp executed
  have run := Transition.execute_run executed
  have awaits : Awaits q.log (toLex (20, 1)) := logged ▸ .inl rfl
  exact ⟨q, run, awaits, (every_event_dispatched run).1 _ awaits⟩

/-- The controller wakes itself for the time at which it runs, as
    `add_rep_event` does for a `gather` that its own round completes. -/
def wokenAtOwnTime : List (QueueAction ℕ) :=
  [.add_event 10 1, .dispatch, .add_event 10 1, .finish]

theorem wokenAtOwnTime_lost :
    ∃ q, Transition.Run (step coreAndController) InTime {} wokenAtOwnTime q ∧
      Awaits q.log (toLex (10, 1)) ∧ q.event_queue = ∅ := by
  have executed : (Transition.execute (step coreAndController) InTime {} wokenAtOwnTime).map
      (fun q => (q.log, q.event_queue)) =
        some ([.added (toLex (10, 1)), .dispatched (toLex (10, 1)), .added (toLex (10, 1))], ∅) := by
    decide +kernel
  obtain ⟨q, executed, state⟩ := Option.map_eq_some_iff.mp executed
  obtain ⟨logged, empty⟩ := Prod.mk.inj state
  exact ⟨q, Transition.execute_run executed, logged ▸ .inl rfl, empty⟩

end GlobalEventQueue

end ActiveRouting

import ActiveRouting.Host.EventQueue
import ActiveRouting.Library.Outcome
import Mathlib.Data.List.Chain
import Mathlib.Logic.Function.Basic
import Mathlib.Tactic.Ring

/-!
# The clock of the memory network

The HMC controllers share one network and one `last_process_time`.  Each call of
`PTSHMCController::process_event` steps the network for the intervals that have
passed, and once for its own.
-/

namespace ActiveRouting

inductive ClockError where
  /-- `curr_time % process_interval == 0` fails. -/
  | assertion
  | queue (error : QueueError)
  deriving DecidableEq, Repr

/-- `ticks` holds the time of each call of the network's `Update`, `processed`
    that of each `process_event` of a controller, the earliest first. -/
structure NetworkClock where
  last_process_time : ℕ := 0
  ticks : List ℕ := []
  processed : List ℕ := []
  deriving DecidableEq

namespace NetworkClock

variable (process_interval : ℕ)

/-- The loop `for (c = …; c < curr_time; c = c + process_interval) update_hmc(c)`. -/
def catchUp (curr_time c : ℕ) : List ℕ :=
  if c < curr_time ∧ 0 < process_interval then c :: catchUp curr_time (c + process_interval) else []
termination_by curr_time - c

/-- The steps of the network in one `process_event`. -/
def stepsAt (last_process_time curr_time : ℕ) : List ℕ :=
  (if last_process_time + process_interval < curr_time then
    catchUp process_interval curr_time (last_process_time + process_interval) else []) ++ [curr_time]

/-- The part of `process_event` that concerns the network's clock. -/
def process_event (n : NetworkClock) (curr_time : ℕ) : Except ClockError NetworkClock :=
  if curr_time % process_interval = 0 then .ok
    { last_process_time := curr_time
      ticks := n.ticks ++ stepsAt process_interval n.last_process_time curr_time
      processed := n.processed ++ [curr_time] }
  else .error .assertion

/-- The network is stepped for each interval from the first on, once. -/
def EachOnce (ticks : List ℕ) : Prop := ticks.IsChain fun tick next => next = tick + process_interval

variable {process_interval} {n n' : NetworkClock} {curr_time : ℕ}

theorem EachOnce.getLast? {first : ℕ} : ∀ {ticks : List ℕ},
    EachOnce process_interval (first :: ticks) →
      (first :: ticks).getLast? = some (first + ticks.length * process_interval)
  | [], _ => by simp
  | next :: ticks, chain => by
    have step : next = first + process_interval := chain.rel
    rw [List.getLast?_cons_cons, EachOnce.getLast? (List.IsChain.tail chain), step, List.length_cons,
      Nat.succ_mul]
    congr 1
    omega

/-- From a time at which an interval begins the loop steps through the
    intervals that are left. -/
theorem catchUp_eachOnce (intervals : ℕ) (positive : 0 < process_interval) (c : ℕ) :
    EachOnce process_interval
      (catchUp process_interval (c + intervals * process_interval) c ++
        [c + intervals * process_interval]) ∧
      (catchUp process_interval (c + intervals * process_interval) c ++
        [c + intervals * process_interval]).head? = some c := by
  induction intervals generalizing c with
  | zero =>
    rw [Nat.zero_mul, Nat.add_zero, catchUp, if_neg (fun enters => Nat.lt_irrefl c enters.1)]
    exact ⟨.singleton c, rfl⟩
  | succ intervals inductionHypothesis =>
    have step : c + (intervals + 1) * process_interval =
        c + process_interval + intervals * process_interval := by rw [Nat.succ_mul]; omega
    obtain ⟨chain, isFirst⟩ := inductionHypothesis (c + process_interval)
    have enters : c < c + process_interval + intervals * process_interval := by omega
    rw [step, catchUp, if_pos ⟨enters, positive⟩]
    refine ⟨List.IsChain.cons chain ?_, rfl⟩
    intro next isNext
    exact (Option.some.inj (isFirst.symm.trans isNext)).symm

/-- The steps of one `process_event` begin with the first interval that has not
    been stepped through. -/
theorem stepsAt_eachOnce (positive : 0 < process_interval) {last_process_time : ℕ}
    (last : last_process_time % process_interval = 0) (curr : curr_time % process_interval = 0) :
    EachOnce process_interval (stepsAt process_interval last_process_time curr_time) ∧
      (stepsAt process_interval last_process_time curr_time).head? =
        some (if last_process_time < curr_time then last_process_time + process_interval
          else curr_time) := by
  obtain ⟨before, rfl⟩ := Nat.dvd_of_mod_eq_zero last
  obtain ⟨now, rfl⟩ := Nat.dvd_of_mod_eq_zero curr
  unfold stepsAt
  by_cases behind : process_interval * before + process_interval < process_interval * now
  · have isLater : before + 1 < now := by
      rw [← Nat.mul_succ] at behind
      exact Nat.lt_of_mul_lt_mul_left behind
    obtain ⟨intervals, rfl⟩ := Nat.exists_eq_add_of_lt isLater
    have target : process_interval * (before + 1 + intervals + 1) =
        process_interval * before + process_interval + (intervals + 1) * process_interval := by
      ring
    rw [if_pos behind, if_pos (by omega), target]
    exact catchUp_eachOnce (intervals + 1) positive _
  · rw [if_neg behind]
    refine ⟨.singleton _, ?_⟩
    by_cases later : process_interval * before < process_interval * now
    · have isNext : before + 1 ≤ now := Nat.lt_of_mul_lt_mul_left later
      have least := Nat.mul_le_mul_left process_interval isNext
      rw [Nat.mul_succ] at least
      rw [if_pos later]
      show some _ = _
      congr 1
      omega
    · rw [if_neg later]
      rfl

/-- The last step was for the last time a controller was processed; every
    interval has been stepped through once exactly if these times increase. -/
structure Ok (process_interval : ℕ) (n : NetworkClock) : Prop where
  aligned : n.last_process_time % process_interval = 0
  latest : n.ticks = [] ∧ n.processed = [] ∧ n.last_process_time = 0 ∨
    n.ticks.getLast? = some n.last_process_time ∧ n.processed.getLast? = some n.last_process_time
  once : EachOnce process_interval n.ticks ↔ n.processed.IsChain (· < ·)

theorem Ok.start : Ok process_interval {} where
  aligned := Nat.zero_mod _
  latest := .inl ⟨rfl, rfl, rfl⟩
  once := ⟨fun _ => .nil, fun _ => .nil⟩

theorem stepsAt_getLast? {last_process_time : ℕ} {ticks : List ℕ} :
    (ticks ++ stepsAt process_interval last_process_time curr_time).getLast? = some curr_time := by
  unfold stepsAt
  rw [← List.append_assoc, List.getLast?_append]
  rfl

theorem Ok.process_event (positive : 0 < process_interval) (ok : Ok process_interval n)
    (processed : n.process_event process_interval curr_time = .ok n') : Ok process_interval n' := by
  unfold NetworkClock.process_event at processed
  by_cases curr : curr_time % process_interval = 0
  · rw [if_pos curr] at processed
    cases processed
    obtain ⟨chain, isFirst⟩ := stepsAt_eachOnce positive ok.aligned curr
    refine ⟨curr, .inr ⟨stepsAt_getLast?, by rw [List.getLast?_append]; rfl⟩, ?_⟩
    show List.IsChain _ (_ ++ _) ↔ List.IsChain _ (_ ++ _)
    rw [List.isChain_append, List.isChain_append, isFirst]
    obtain ⟨noTicks, notProcessed, _⟩ | ⟨lastTick, lastProcessed⟩ := ok.latest
    · rw [noTicks, notProcessed]
      exact ⟨fun _ => ⟨.nil, .singleton _, fun _ none => (nomatch none)⟩,
        fun _ => ⟨.nil, chain, fun _ none => (nomatch none)⟩⟩
    · rw [lastTick, lastProcessed]
      constructor
      · rintro ⟨before, _, connects⟩
        refine ⟨ok.once.1 before, .singleton _, ?_⟩
        intro last isLast curr isCurr
        rw [← Option.mem_some_iff.1 isLast, ← Option.mem_some_iff.1 isCurr]
        have next := connects _ rfl _ rfl
        by_cases later : n.last_process_time < curr_time
        · exact later
        · rw [if_neg later] at next
          omega
      · rintro ⟨before, _, increases⟩
        refine ⟨ok.once.2 before, chain, ?_⟩
        intro last isLast tick isTick
        rw [← Option.mem_some_iff.1 isLast, ← Option.mem_some_iff.1 isTick]
        exact if_pos (increases _ rfl _ rfl)
  · rw [if_neg curr] at processed
    cases processed

end NetworkClock

/-! ## The controllers at the event queue -/

/-- The event queue, the network's clock and, for each controller whose last
    `process_event` left requests outstanding, the time of that event. -/
structure ClockSystem (κ : Type) where
  queue : GlobalEventQueue κ := {}
  clock : NetworkClock := {}
  outstanding : κ → Option ℕ := fun _ => none

inductive ClockAction (κ : Type) where
  | add_event (event_time : ℕ) (event_target : κ)
  | dispatch
  /-- The component that runs returns.  `outstanding` says whether, if it is an
      HMC controller, any of its queues holds an element. -/
  | finish (outstanding : Bool)
  deriving DecidableEq

namespace ClockSystem

variable {κ : Type} [LinearOrder κ] (process_interval : ℕ) (type : κ → component_type)

def queueStep (s : ClockSystem κ) (stepped : Except QueueError (GlobalEventQueue κ)) :
    Except ClockError (ClockSystem κ) :=
  match stepped with
  | .ok queue => .ok { s with queue := queue }
  | .error e => .error (.queue e)

/-- The rest of `process_event`: a controller with outstanding requests wakes
    itself for the next interval. -/
def reschedule (s : ClockSystem κ) (p_comp : κ) (clock : NetworkClock) (outstanding : Bool) :
    ClockSystem κ :=
  { queue :=
      if outstanding then s.queue.add_event (s.queue.curr_time + process_interval) p_comp
      else s.queue
    clock := clock
    outstanding :=
      Function.update s.outstanding p_comp (if outstanding then some s.queue.curr_time else none) }

def process_event (s : ClockSystem κ) (p_comp : κ) (outstanding : Bool) :
    Except ClockError (ClockSystem κ) := do
  let clock ← s.clock.process_event process_interval s.queue.curr_time
  pure (s.reschedule process_interval p_comp clock outstanding)

def finish (s : ClockSystem κ) (outstanding : Bool) : Except ClockError (ClockSystem κ) := do
  match s.queue.running with
  | none => throw (.queue .disabled)
  | some p_comp =>
    if type p_comp = .ct_hmc_controller then do
      let s ← s.process_event process_interval p_comp outstanding
      s.queueStep (s.queue.finish type)
    else s.queueStep (s.queue.finish type)

def step (s : ClockSystem κ) : ClockAction κ → Except ClockError (ClockSystem κ)
  | .add_event event_time event_target => s.queueStep (.ok (s.queue.add_event event_time event_target))
  | .dispatch => s.queueStep (s.queue.dispatch type)
  | .finish outstanding => s.finish process_interval type outstanding

/-- No component is woken for a time that has passed. -/
def InTime (s : ClockSystem κ) : ClockAction κ → ClockSystem κ → Prop
  | .add_event event_time _, _ => s.queue.curr_time ≤ event_time
  | _, _ => True

instance : ∀ (s : ClockSystem κ) action s', Decidable (InTime s action s')
  | s, .add_event event_time _, _ => inferInstanceAs (Decidable (s.queue.curr_time ≤ event_time))
  | _, .dispatch, _ => .isTrue trivial
  | _, .finish _, _ => .isTrue trivial

/-- A controller with outstanding requests is queued for the next interval. -/
structure Ok (s : ClockSystem κ) : Prop where
  queued : ∀ event ∈ s.queue.event_queue, s.queue.curr_time ≤ (ofLex event).1
  due : ∀ p_comp time, s.outstanding p_comp = some time →
    type p_comp = .ct_hmc_controller ∧
      toLex (time + process_interval, p_comp) ∈ s.queue.event_queue
  clock : NetworkClock.Ok process_interval s.clock

variable {process_interval type} {s s' : ClockSystem κ}

omit [LinearOrder κ] in
theorem Ok.start : Ok process_interval type ({} : ClockSystem κ) where
  queued _ h := absurd h (Finset.notMem_empty _)
  due _ _ h := nomatch h
  clock := .start

omit [LinearOrder κ] in
theorem queueStep_eq_ok {stepped : Except QueueError (GlobalEventQueue κ)}
    (isOk : s.queueStep stepped = .ok s') :
    ∃ queue, stepped = .ok queue ∧ s' = { s with queue := queue } := by
  cases stepped with
  | error e => cases isOk
  | ok queue => exact ⟨queue, rfl, (Except.ok.inj isOk).symm⟩

theorem Ok.add_event (ok : Ok process_interval type s) {event_time : ℕ} {event_target : κ}
    (inTime : s.queue.curr_time ≤ event_time) :
    Ok process_interval type { s with queue := s.queue.add_event event_time event_target } where
  queued event member := by
    cases Finset.mem_insert.1 member with
    | inl isAdded => exact isAdded ▸ inTime
    | inr wasQueued => exact ok.queued event wasQueued
  due p_comp time isOutstanding := by
    obtain ⟨isController, isDue⟩ := ok.due p_comp time isOutstanding
    exact ⟨isController, Finset.mem_insert_of_mem isDue⟩
  clock := ok.clock

theorem Ok.dispatch (ok : Ok process_interval type s) {queue : GlobalEventQueue κ}
    (dispatched : s.queue.dispatch type = .ok queue) :
    Ok process_interval type { s with queue := queue } := by
  obtain ⟨first, _, least, ⟨isCore, rfl⟩ | ⟨_, rfl⟩⟩ := GlobalEventQueue.dispatch_cases dispatched
  · refine ⟨?_, ?_, ok.clock⟩
    · intro event member
      exact least event (Finset.mem_of_mem_erase member)
    · intro p_comp time isOutstanding
      obtain ⟨isController, isDue⟩ := ok.due p_comp time isOutstanding
      refine ⟨isController, Finset.mem_erase.2 ⟨?_, isDue⟩⟩
      rintro rfl
      -- the event of a core is not that of a controller
      rw [show type (ofLex (toLex (time + process_interval, p_comp))).2 = _ from isController]
        at isCore
      cases isCore
  · exact ⟨least, ok.due, ok.clock⟩

@[simp] theorem reschedule_outstanding_self {p_comp : κ} {clock : NetworkClock}
    {outstanding : Bool} :
    (s.reschedule process_interval p_comp clock outstanding).outstanding p_comp =
      if outstanding then some s.queue.curr_time else none :=
  Function.update_self ..

theorem reschedule_outstanding_of_ne {p_comp other : κ} (isOther : other ≠ p_comp)
    {clock : NetworkClock} {outstanding : Bool} :
    (s.reschedule process_interval p_comp clock outstanding).outstanding other =
      s.outstanding other :=
  Function.update_of_ne isOther _ _

theorem Ok.reschedule (ok : Ok process_interval type s) {p_comp : κ} {clock : NetworkClock}
    (isController : type p_comp = .ct_hmc_controller)
    (clockOk : NetworkClock.Ok process_interval clock) (outstanding : Bool) :
    Ok process_interval type (s.reschedule process_interval p_comp clock outstanding) := by
  cases outstanding with
  | true =>
    have added : Ok process_interval type { s with
        queue := s.queue.add_event (s.queue.curr_time + process_interval) p_comp } :=
      ok.add_event (Nat.le_add_right s.queue.curr_time process_interval)
    refine ⟨added.queued, ?_, clockOk⟩
    intro other time isOutstanding
    by_cases same : other = p_comp
    · subst same
      rw [reschedule_outstanding_self] at isOutstanding
      cases isOutstanding
      exact ⟨isController, Finset.mem_insert_self _ _⟩
    · rw [reschedule_outstanding_of_ne same] at isOutstanding
      exact added.due other time isOutstanding
  | false =>
    refine ⟨ok.queued, ?_, clockOk⟩
    intro other time isOutstanding
    by_cases same : other = p_comp
    · subst same
      rw [reschedule_outstanding_self] at isOutstanding
      cases isOutstanding
    · rw [reschedule_outstanding_of_ne same] at isOutstanding
      exact ok.due other time isOutstanding

/-- The erased event is not one that a controller waits for. -/
theorem Ok.finish (ok : Ok process_interval type s) {queue : GlobalEventQueue κ}
    (finished : s.queue.finish type = .ok queue)
    (notDue : ∀ p_comp time, s.queue.running = some p_comp → s.outstanding p_comp = some time →
      time + process_interval ≠ s.queue.curr_time) :
    Ok process_interval type { s with queue := queue } := by
  obtain ⟨p_comp, isRunning, ⟨_, rfl⟩ | ⟨_, rfl⟩⟩ := GlobalEventQueue.finish_cases finished
  · refine ⟨?_, ?_, ok.clock⟩
    · intro event member
      exact ok.queued event (Finset.mem_of_mem_erase member)
    · intro other time isOutstanding
      obtain ⟨isController, isDue⟩ := ok.due other time isOutstanding
      refine ⟨isController, Finset.mem_erase.2 ⟨?_, isDue⟩⟩
      intro same
      obtain ⟨sameTime, rfl⟩ := Prod.mk.inj (toLex.injective same)
      exact notDue other time isRunning isOutstanding sameTime
  · exact ⟨ok.queued, ok.due, ok.clock⟩

theorem Ok.step (positive : 0 < process_interval) (ok : Ok process_interval type s)
    {action : ClockAction κ} (stepped : s.step process_interval type action = .ok s')
    (inTime : InTime s action s') : Ok process_interval type s' := by
  cases action with
  | add_event event_time event_target =>
    have stepped : s.queueStep (.ok (s.queue.add_event event_time event_target)) = .ok s' := stepped
    cases stepped
    exact ok.add_event inTime
  | dispatch =>
    have stepped : s.queueStep (s.queue.dispatch type) = .ok s' := stepped
    obtain ⟨queue, dispatched, rfl⟩ := queueStep_eq_ok stepped
    exact ok.dispatch dispatched
  | finish outstanding =>
    have stepped : s.finish process_interval type outstanding = .ok s' := stepped
    unfold ClockSystem.finish at stepped
    cases isRunning : s.queue.running with
    | none => rw [isRunning] at stepped; cases stepped
    | some p_comp =>
      simp only [isRunning] at stepped
      split at stepped
      · rename_i isController
        obtain ⟨t, processed, stepped⟩ := Outcome.bind_eq_ok.1 stepped
        obtain ⟨clock, clocked, rescheduled⟩ := Outcome.bind_eq_ok.1 processed
        cases Outcome.pure_eq_ok.1 rescheduled
        obtain ⟨queue, finished, rfl⟩ := queueStep_eq_ok stepped
        have rescheduled := ok.reschedule isController (ok.clock.process_event positive clocked)
          outstanding
        refine rescheduled.finish finished ?_
        intro other time isRunning' isOutstanding
        have same : other = p_comp := by
          cases outstanding <;> exact Option.some.inj (isRunning'.symm.trans isRunning)
        subst same
        rw [reschedule_outstanding_self] at isOutstanding
        cases outstanding with
        | true =>
          -- it has just been woken for the next interval
          cases isOutstanding
          show s.queue.curr_time + process_interval ≠ s.queue.curr_time
          omega
        | false => cases isOutstanding
      · rename_i notController
        obtain ⟨queue, finished, rfl⟩ := queueStep_eq_ok stepped
        refine ok.finish finished ?_
        intro other time isRunning' isOutstanding
        have same : other = p_comp := Option.some.inj (isRunning'.symm.trans isRunning)
        exact absurd (same ▸ (ok.due other time isOutstanding).1) notController

/-- In every run: the network is stepped once for each interval exactly if the
    controllers are processed at increasing times; then the number of its steps
    is that of the intervals from the first to the last.  And time does not pass
    the interval after a `process_event` that left requests outstanding before
    the controller has been processed in it. -/
theorem network_stepped_once_iff (positive : 0 < process_interval)
    {actions : List (ClockAction κ)}
    (run : Transition.Run (step process_interval type) InTime {} actions s) :
    (NetworkClock.EachOnce process_interval s.clock.ticks ↔ s.clock.processed.IsChain (· < ·)) ∧
      (s.clock.processed.IsChain (· < ·) → ∀ first rest, s.clock.ticks = first :: rest →
        s.clock.last_process_time = first + rest.length * process_interval) ∧
      ∀ p_comp time, s.outstanding p_comp = some time →
        s.queue.curr_time ≤ time + process_interval := by
  have ok : Ok process_interval type s :=
    run.invariant .start fun _ _ _ ok stepped inTime => ok.step positive stepped inTime
  refine ⟨ok.clock.once, ?_, ?_⟩
  · intro increasing first rest isTicks
    have once := ok.clock.once.2 increasing
    rw [isTicks] at once
    obtain ⟨noTicks, _⟩ | ⟨lastTick, _⟩ := ok.clock.latest
    · rw [isTicks] at noTicks
      cases noTicks
    · rw [isTicks, once.getLast?] at lastTick
      exact (Option.some.inj lastTick).symm
  · intro p_comp time isOutstanding
    exact ok.queued _ (ok.due p_comp time isOutstanding).2

/-- One controller is processed at the times 10 and 30. -/
def oneController : List (ClockAction ℕ) :=
  [.add_event 10 0, .dispatch, .finish false, .add_event 30 0, .dispatch, .finish true]

theorem network_stepped_once_iff_oneController :
    ∃ s, Transition.Run (step 10 fun _ : ℕ => .ct_hmc_controller) InTime {} oneController s ∧
      s.clock.ticks = [10, 20, 30] ∧ NetworkClock.EachOnce 10 s.clock.ticks := by
  have executed : (Transition.execute (step 10 fun _ : ℕ => .ct_hmc_controller) InTime {}
      oneController).map (fun s => (s.clock.ticks, s.clock.processed)) =
        some ([10, 20, 30], [10, 30]) := by
    decide +kernel
  obtain ⟨s, executed, clock⟩ := Option.map_eq_some_iff.mp executed
  obtain ⟨ticks, processed⟩ := Prod.mk.inj clock
  have run := Transition.execute_run executed
  refine ⟨s, run, ticks, (network_stepped_once_iff (by decide) run).1.2 ?_⟩
  rw [processed]
  decide

/-- Two controllers are processed at the time 10. -/
def twoControllers : List (ClockAction ℕ) :=
  [.add_event 10 0, .add_event 10 1, .dispatch, .finish false, .dispatch, .finish false]

theorem twoControllers_stepped_twice :
    ∃ s, Transition.Run (step 10 fun _ : ℕ => .ct_hmc_controller) InTime {} twoControllers s ∧
      s.clock.ticks = [10, 10] ∧ ¬ NetworkClock.EachOnce 10 s.clock.ticks := by
  have executed : (Transition.execute (step 10 fun _ : ℕ => .ct_hmc_controller) InTime {}
      twoControllers).map (fun s => s.clock.ticks) = some [10, 10] := by
    decide +kernel
  obtain ⟨s, executed, ticks⟩ := Option.map_eq_some_iff.mp executed
  refine ⟨s, Transition.execute_run executed, ticks, ?_⟩
  intro once
  rw [ticks] at once
  exact absurd once.rel (by decide)

end ClockSystem

end ActiveRouting

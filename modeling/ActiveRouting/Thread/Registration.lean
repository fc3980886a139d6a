import ActiveRouting.Library.WaitQueues
import ActiveRouting.Thread.Activity
import ActiveRouting.Thread.PthreadSim

/-!
# Where threads wait

The queues of the managers as one family, and what entering and leaving them
requires of the scheduler.
-/

namespace ActiveRouting

open Function WaitQueues

/-- What a thread may wait for. -/
inductive WaitPlace where
  | mutex (m : ℕ)
  | cond (cond : ℕ)
  | barrier (barrier : ℕ)
  | join (joinee : ℕ)
  deriving DecidableEq, Repr

namespace PthreadBarrierManager

/-- The threads that wait at a barrier. -/
def waiters (s : PthreadBarrierManager) (barrier : ℕ) : List ℕ :=
  (s.barriers barrier).elim [] fun entry => entry.waiters

theorem waiters_setBarrier (s : PthreadBarrierManager) (barrier : ℕ)
    (entry : Option PthreadBarrierWaiters) :
    (s.setBarrier barrier entry).waiters =
      update s.waiters barrier (entry.elim [] fun entry => entry.waiters) := by
  funext b
  by_cases same : b = barrier
  · subst same
    simp [waiters, setBarrier]
  · simp [waiters, setBarrier, same]

end PthreadBarrierManager

namespace PthreadJoinManager

/-- The thread that waits for another one to end. -/
def waiters (s : PthreadJoinManager) (joinee : ℕ) : List ℕ :=
  (s.joinables joinee).elim [] fun entry => if entry.joined then [entry.joiner] else []

theorem waiters_setJoinee (s : PthreadJoinManager) (joinee : ℕ) (entry : Option PthreadJoinee) :
    (s.setJoinee joinee entry).waiters = update s.waiters joinee
      (entry.elim [] fun entry => if entry.joined then [entry.joiner] else []) := by
  funext j
  by_cases same : j = joinee
  · subst same
    simp [waiters, setJoinee]
  · simp [waiters, setJoinee, same]

theorem AddThread_waiters {s s' : PthreadJoinManager} {thread : ℕ} {joinable : Bool}
    (added : s.AddThread thread joinable = .ok s') :
    s'.waiters = s.waiters ∧ s'.joinings = s.joinings := by
  unfold AddThread at added
  split at added
  · split at added
    · cases added
    · rename_i new
      obtain rfl := Except.ok.inj added
      refine ⟨?_, rfl⟩
      rw [waiters_setJoinee]
      apply update_eq_self_iff.mpr
      simp [waiters, new]
  · obtain rfl := Except.ok.inj added
    exact ⟨rfl, rfl⟩

/-- The thread that waits for the value gets it and waits no more. -/
theorem KillThread_waiters {s : PthreadJoinManager} {thread retval : ℕ}
    {killed : PthreadJoinManager × Option ℕ} (succeeded : s.KillThread thread retval = .ok killed) :
    killed.2 = none ∧ killed.1.waiters = s.waiters ∧ killed.1.joinings = s.joinings ∨
      ∃ joiner, killed.2 = some joiner ∧ s.waiters thread = [joiner] ∧
        killed.1.waiters = update s.waiters thread [] ∧
        killed.1.joinings = update s.joinings joiner none := by
  unfold KillThread at succeeded
  split at succeeded
  · obtain rfl := Except.ok.inj succeeded
    exact .inl ⟨rfl, rfl, rfl⟩
  · rename_i joinee isJoinee
    split at succeeded
    · rename_i joined
      split at succeeded
      · obtain rfl := Except.ok.inj succeeded
        refine .inr ⟨joinee.joiner, rfl, ?_, waiters_setJoinee _ _ _, rfl⟩
        simp [waiters, isJoinee, joined]
      · cases succeeded
    · rename_i free
      obtain rfl := Except.ok.inj succeeded
      refine .inl ⟨rfl, ?_, rfl⟩
      rw [waiters_setJoinee]
      apply update_eq_self_iff.mpr
      simp [waiters, isJoinee, free]

/-- The joiner waits, unless the value is there already. -/
theorem JoinThreads_waiters {s : PthreadJoinManager} {joiner joinee : ℕ}
    {joined : PthreadJoinManager × Bool} (succeeded : s.JoinThreads joiner joinee = .ok joined) :
    s.waiters joinee = [] ∧
      (joined.2 = false ∧ joined.1.waiters = s.waiters ∧ joined.1.joinings = s.joinings ∨
        joined.2 = true ∧ s.joinings joiner = none ∧
          joined.1.waiters = update s.waiters joinee [joiner] ∧
          joined.1.joinings = update s.joinings joiner (some joinee)) := by
  unfold JoinThreads at succeeded
  split at succeeded
  · cases succeeded
  · split at succeeded
    · cases succeeded
    · rename_i entry isEntry
      split at succeeded
      · cases succeeded
      · rename_i free
        have nobody : s.waiters joinee = [] := by simp [waiters, isEntry, free]
        refine ⟨nobody, ?_⟩
        split at succeeded
        · obtain rfl := Except.ok.inj succeeded
          refine .inl ⟨rfl, ?_, rfl⟩
          rw [waiters_setJoinee]
          apply update_eq_self_iff.mpr
          exact nobody.symm
        · split at succeeded
          · cases succeeded
          · rename_i idle
            obtain rfl := Except.ok.inj succeeded
            exact .inr ⟨rfl, idle, waiters_setJoinee _ _ _, rfl⟩

theorem DetachThread_waiters (s : PthreadJoinManager) (thread : ℕ) :
    (s.DetachThread thread).waiters = s.waiters ∧
      (s.DetachThread thread).joinings = s.joinings := by
  unfold DetachThread
  split
  · exact ⟨rfl, rfl⟩
  · rename_i joinee isJoinee
    split
    · exact ⟨rfl, rfl⟩
    · rename_i free
      refine ⟨?_, rfl⟩
      rw [waiters_setJoinee]
      apply update_eq_self_iff.mpr
      simp [waiters, isJoinee, free]

end PthreadJoinManager

namespace PthreadSim

/-- The threads that wait at a place. -/
def waiters (s : PthreadSim) : WaitPlace → List ℕ
  | .mutex m => s.mutexmanager.spinning m
  | .cond cond => (s.condmanager.waiters cond).map Prod.fst
  | .barrier barrier => s.barriermanager.waiters barrier
  | .join joinee => s.joinmanager.waiters joinee

/-- Threads wait at one place at most and only while they are inactive, except for one that is
    about to be blocked.  The count of the active threads is right. -/
structure Registered (c : PTSConfig) (entering : Option ℕ) (s : PthreadSim) : Prop where
  exclusive : Exclusive s.waiters
  waiting : ∀ t, Waits s.waiters t →
    t ∈ s.scheduler.live ∧ (s.scheduler.active t = true → entering = some t)
  joinings : ∀ joiner joinee,
    s.joinmanager.joinings joiner = some joinee ↔ joiner ∈ s.waiters (.join joinee)
  counted : s.scheduler.Counted c

/-! ## The queues after a change to one manager -/

variable {c : PTSConfig} {s s' : PthreadSim} {entering : Option ℕ} {thread : ℕ}

@[simp] theorem waiters_setScheduler (scheduler : PthreadScheduler) :
    (s.setScheduler scheduler).waiters = s.waiters := by
  funext place
  cases place <;> rfl

@[simp] theorem waiters_recordExit (thread retval : ℕ) :
    (s.recordExit thread retval).waiters = s.waiters := by
  funext place
  cases place <;> rfl

@[simp] theorem waiters_recordJoin (joiner joinee : ℕ) :
    (s.recordJoin joiner joinee).waiters = s.waiters := by
  funext place
  cases place <;> rfl

@[simp] theorem waiters_setCancelmanager (manager : PthreadCancelManager) :
    (s.setCancelmanager manager).waiters = s.waiters := by
  funext place
  cases place <;> rfl

theorem waiters_setMutexmanager {m : ℕ} {manager : PthreadMutexManager} {queue : List ℕ}
    (spinning : manager.spinning = update s.mutexmanager.spinning m queue) :
    (s.setMutexmanager manager).waiters = update s.waiters (.mutex m) queue := by
  funext place
  cases place with
  | mutex m' =>
    show manager.spinning m' = _
    rw [spinning]
    by_cases same : m' = m
    · simp [same]
    · simp [same, waiters]
  | cond => rfl
  | barrier => rfl
  | join => rfl

theorem waiters_setCondmanager {cond : ℕ} {manager : PthreadCondManager} {queue : List (ℕ × ℕ)}
    (waits : manager.waiters = update s.condmanager.waiters cond queue) :
    (s.setCondmanager manager).waiters = update s.waiters (.cond cond) (queue.map Prod.fst) := by
  funext place
  cases place with
  | mutex => rfl
  | cond cond' =>
    show (manager.waiters cond').map Prod.fst = _
    rw [waits]
    by_cases same : cond' = cond
    · simp [same]
    · simp [same, waiters]
  | barrier => rfl
  | join => rfl

theorem waiters_setBarriermanager {barrier : ℕ} {manager : PthreadBarrierManager} {queue : List ℕ}
    (waits : manager.waiters = update s.barriermanager.waiters barrier queue) :
    (s.setBarriermanager manager).waiters = update s.waiters (.barrier barrier) queue := by
  funext place
  cases place with
  | mutex => rfl
  | cond => rfl
  | barrier barrier' =>
    show manager.waiters barrier' = _
    rw [waits]
    by_cases same : barrier' = barrier
    · simp [same]
    · simp [same, waiters]
  | join => rfl

theorem waiters_setJoinmanager {joinee : ℕ} {manager : PthreadJoinManager} {queue : List ℕ}
    (waits : manager.waiters = update s.joinmanager.waiters joinee queue) :
    (s.setJoinmanager manager).waiters = update s.waiters (.join joinee) queue := by
  funext place
  cases place with
  | mutex => rfl
  | cond => rfl
  | barrier => rfl
  | join joinee' =>
    show manager.waiters joinee' = _
    rw [waits]
    by_cases same : joinee' = joinee
    · simp [same]
    · simp [same, waiters]

/-! ## Entering and leaving -/

/-- The parts that the invariant is about do not differ. -/
structure SameWaiting (s s' : PthreadSim) : Prop where
  waiters : s'.waiters = s.waiters
  joinings : s'.joinmanager.joinings = s.joinmanager.joinings
  activity : s.scheduler.SameActivity s'.scheduler

theorem Registered.of_same (registered : Registered c entering s) (same : SameWaiting s s') :
    Registered c entering s' where
  exclusive := same.waiters ▸ registered.exclusive
  waiting t waits := by
    rw [same.activity.live, same.activity.active]
    exact registered.waiting t (same.waiters ▸ waits)
  joinings joiner joinee := by
    rw [same.joinings, same.waiters]
    exact registered.joinings joiner joinee
  counted := same.activity.counted registered.counted

/-- An active thread waits nowhere. -/
theorem Registered.idle (registered : Registered c none s)
    (active : s.scheduler.active thread = true) : ¬ Waits s.waiters thread :=
  fun waits => nomatch (registered.waiting thread waits).2 active

theorem Registered.inactive (registered : Registered c none s) (waits : Waits s.waiters thread) :
    s.scheduler.active thread = false :=
  Bool.eq_false_iff.mpr fun active => registered.idle active waits

theorem Registered.weaken (registered : Registered c none s) : Registered c (some thread) s where
  exclusive := registered.exclusive
  waiting t waits := ⟨(registered.waiting t waits).1,
    fun active => absurd waits (registered.idle active)⟩
  joinings := registered.joinings
  counted := registered.counted

/-- A thread that is not active is not about to be blocked. -/
theorem Registered.settle (registered : Registered c (some thread) s)
    (inactive : s.scheduler.active thread = false) : Registered c none s where
  exclusive := registered.exclusive
  waiting t waits := by
    refine ⟨(registered.waiting t waits).1, fun active => ?_⟩
    have isThread := Option.some.inj ((registered.waiting t waits).2 active)
    rw [← isThread, inactive] at active
    cases active
  joinings := registered.joinings
  counted := registered.counted

/-- A thread that waits nowhere enters a queue. -/
theorem Registered.enter {place : WaitPlace} (registered : Registered c none s)
    (alive : thread ∈ s.scheduler.live) (idle : ¬ Waits s.waiters thread)
    (waiters : s'.waiters = update s.waiters place (s.waiters place ++ [thread]))
    (joinings : ∀ joiner joinee,
      s'.joinmanager.joinings joiner = some joinee ↔ joiner ∈ s'.waiters (.join joinee))
    (activity : s.scheduler.SameActivity s'.scheduler) : Registered c (some thread) s' where
  exclusive := waiters ▸ registered.exclusive.arrive idle
  waiting t waits := by
    rw [waiters, waits_arrive] at waits
    rw [activity.live, activity.active]
    rcases waits with old | rfl
    · refine ⟨(registered.waiting t old).1, fun active => ?_⟩
      exact absurd old (registered.idle active)
    · exact ⟨alive, fun _ => rfl⟩
  joinings := joinings
  counted := activity.counted registered.counted

/-- Threads leave a queue without going on. -/
theorem Registered.shrink {place : WaitPlace} {queue : List ℕ} (registered : Registered c none s)
    (part : queue.Sublist (s.waiters place))
    (waiters : s'.waiters = update s.waiters place queue)
    (joinings : ∀ joiner joinee,
      s'.joinmanager.joinings joiner = some joinee ↔ joiner ∈ s'.waiters (.join joinee))
    (activity : s.scheduler.SameActivity s'.scheduler) : Registered c none s' where
  exclusive := waiters ▸ registered.exclusive.shrink part
  waiting t waits := by
    rw [waiters] at waits
    rw [activity.live, activity.active]
    exact registered.waiting t (waits.of_shrink part)
  joinings := joinings
  counted := activity.counted registered.counted

/-- The first thread of a queue leaves it. -/
theorem Registered.leave {rest : List ℕ} (place : WaitPlace) (registered : Registered c none s)
    (first : s.waiters place = thread :: rest)
    (waiters : s'.waiters = update s.waiters place rest)
    (joinings : ∀ joiner joinee,
      s'.joinmanager.joinings joiner = some joinee ↔ joiner ∈ s'.waiters (.join joinee))
    (activity : s.scheduler.SameActivity s'.scheduler) :
    Registered c none s' ∧ ¬ Waits s'.waiters thread ∧ thread ∈ s'.scheduler.live ∧
      s'.scheduler.active thread = false := by
  have waited : Waits s.waiters thread := ⟨place, first ▸ List.mem_cons_self⟩
  have part : rest.Sublist (s.waiters place) := first ▸ List.sublist_cons_self thread rest
  refine ⟨registered.shrink part waiters joinings activity, ?_, ?_, ?_⟩
  · rw [waiters, waits_leave registered.exclusive first]
    exact fun waits => waits.2 rfl
  · exact activity.live ▸ (registered.waiting thread waited).1
  · rw [activity.active]
    exact registered.inactive waited

/-- The queues of joiners are not concerned where threads wait for something else. -/
theorem Registered.joinings_update {place : WaitPlace} {queue : List ℕ}
    (registered : Registered c entering s) (other : ∀ joinee, place ≠ .join joinee)
    (waiters : s'.waiters = update s.waiters place queue)
    (joinings : s'.joinmanager.joinings = s.joinmanager.joinings) (joiner joinee : ℕ) :
    s'.joinmanager.joinings joiner = some joinee ↔ joiner ∈ s'.waiters (.join joinee) := by
  rw [joinings, waiters, update_of_ne (other joinee).symm]
  exact registered.joinings joiner joinee

/-! ## Blocking and unblocking -/

theorem Registered.block {answer : Resume} (registered : Registered c (some thread) s)
    (blocked : s.block c thread answer = .ok s') : Registered c none s' := by
  obtain ⟨scheduler, byScheduler, isNext⟩ := Outcome.bind_eq_ok.mp blocked
  obtain rfl := Outcome.pure_eq_ok.mp isNext
  obtain ⟨_, _, _, live, active, _, _⟩ := PthreadScheduler.BlockThread_activity byScheduler
  refine ⟨?_, ?_, ?_, registered.counted.block byScheduler⟩
  · rw [waiters_setScheduler]
    exact registered.exclusive
  · intro t waits
    rw [waiters_setScheduler] at waits
    show t ∈ scheduler.live ∧ (scheduler.active t = true → none = some t)
    rw [live, active]
    refine ⟨(registered.waiting t waits).1, fun isActive => ?_⟩
    by_cases isThread : t = thread
    · subst isThread
      simp at isActive
    · rw [update_of_ne isThread] at isActive
      exact absurd (Option.some.inj ((registered.waiting t waits).2 isActive)).symm isThread
  · intro joiner joinee
    rw [waiters_setScheduler]
    exact registered.joinings joiner joinee

/-- A thread is blocked only while it is active. -/
theorem block_active {answer : Resume} (blocked : s.block c thread answer = .ok s') :
    thread ∈ s.scheduler.live ∧ s.scheduler.active thread = true := by
  obtain ⟨_, blocked, _⟩ := Outcome.bind_eq_ok.mp blocked
  obtain ⟨alive, active, _⟩ := PthreadScheduler.BlockThread_activity blocked
  exact ⟨alive, active⟩

/-- A thread enters a queue and is blocked. -/
theorem Registered.enter_block {s'' : PthreadSim} {place : WaitPlace} {answer : Resume}
    (registered : Registered c none s)
    (waiters : s'.waiters = update s.waiters place (s.waiters place ++ [thread]))
    (joinings : ∀ joiner joinee,
      s'.joinmanager.joinings joiner = some joinee ↔ joiner ∈ s'.waiters (.join joinee))
    (activity : s.scheduler.SameActivity s'.scheduler)
    (blocked : s'.block c thread answer = .ok s'') : Registered c none s'' := by
  obtain ⟨alive, active⟩ := block_active blocked
  rw [activity.live] at alive
  rw [activity.active] at active
  exact (registered.enter alive (registered.idle active) waiters joinings activity).block blocked

theorem Registered.unblock {isbarrier : Bool} (registered : Registered c none s)
    (idle : ¬ Waits s.waiters thread)
    (unblocked : s.unblock c thread isbarrier = .ok s') : Registered c none s' := by
  obtain ⟨scheduler, byScheduler, isNext⟩ := Outcome.bind_eq_ok.mp unblocked
  obtain rfl := Outcome.pure_eq_ok.mp isNext
  obtain ⟨_, _, live, active, _, _⟩ := PthreadScheduler.UnblockThread_activity byScheduler
  refine ⟨?_, ?_, ?_, registered.counted.unblock byScheduler⟩
  · rw [waiters_setScheduler]
    exact registered.exclusive
  · intro t waits
    rw [waiters_setScheduler] at waits
    show t ∈ scheduler.live ∧ (scheduler.active t = true → none = some t)
    have other : t ≠ thread := fun isThread => idle (isThread ▸ waits)
    rw [live, active, update_of_ne other]
    exact registered.waiting t waits
  · intro joiner joinee
    rw [waiters_setScheduler]
    exact registered.joinings joiner joinee

theorem synch_same {islock isunlock isbarrier : Bool}
    (synched : s.synch c islock isunlock isbarrier = .ok s') :
    SameWaiting s s' ∧ s'.current = s.current ∧ ∃ scheduler, s' = s.setScheduler scheduler := by
  obtain ⟨scheduler, added, isNext⟩ := Outcome.bind_eq_ok.mp synched
  obtain rfl := Outcome.pure_eq_ok.mp isNext
  obtain ⟨same, current⟩ := PthreadScheduler.add_synch_instruction_activity added
  exact ⟨⟨waiters_setScheduler scheduler, rfl, same⟩, current, scheduler, rfl⟩

end PthreadSim

end ActiveRouting

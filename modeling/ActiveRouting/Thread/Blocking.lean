import ActiveRouting.Thread.Joining
import ActiveRouting.Thread.Locking
import ActiveRouting.Thread.RunningThread

/-!
# Blocking

While no two threads share a hardware thread, whoever is inactive waits for
something, and whoever runs does not.
-/

namespace ActiveRouting

open Function WaitQueues

namespace PthreadSim

/-- Threads that are inactive wait, except for one that has just left its queue.  The current thread
    and those that the simulator may return to are active. -/
structure Orderly (c : PTSConfig) (leaving : Option ℕ) (s : PthreadSim) : Prop where
  scheduled : s.scheduler.Scheduled c
  runs : s.scheduler.Runs
  settled : ∀ t ∈ s.scheduler.live, s.scheduler.active t = false →
    Waits s.waiters t ∨ leaving = some t

variable {c : PTSConfig} {s s' : PthreadSim} {leaving : Option ℕ} {thread : ℕ}

theorem Orderly.current_active (orderly : Orderly c leaving s)
    (alive : s.current ∈ s.scheduler.live) : s.scheduler.active s.current = true :=
  (orderly.runs.resolve_left (Finset.ne_empty_of_mem alive)).2

/-- The current thread waits nowhere. -/
theorem Orderly.idle (orderly : Orderly c leaving s) (registered : Registered c none s)
    (alive : s.current ∈ s.scheduler.live) : ¬ Waits s.waiters s.current :=
  registered.idle (orderly.current_active alive)

/-- Queues of other managers than the scheduler change, and nobody leaves one. -/
theorem Orderly.grow (orderly : Orderly c leaving s) (scheduler : s'.scheduler = s.scheduler)
    (stays : ∀ t, Waits s.waiters t → Waits s'.waiters t) : Orderly c leaving s' where
  scheduled := scheduler ▸ orderly.scheduled
  runs := scheduler ▸ orderly.runs
  settled t alive inactive := by
    rw [scheduler] at alive inactive
    exact (orderly.settled t alive inactive).imp_left (stays t)

theorem Orderly.of_same (orderly : Orderly c leaving s) (waiters : s'.waiters = s.waiters)
    (scheduler : s'.scheduler = s.scheduler) : Orderly c leaving s' :=
  orderly.grow scheduler fun _ waits => waiters.symm ▸ waits

/-- A thread enters a queue. -/
theorem Orderly.push {place : WaitPlace} (orderly : Orderly c leaving s)
    (waiters : s'.waiters = update s.waiters place (s.waiters place ++ [thread]))
    (scheduler : s'.scheduler = s.scheduler) :
    Orderly c leaving s' ∧ Waits s'.waiters thread := by
  constructor
  · exact orderly.grow scheduler fun t waits => waiters ▸ waits_arrive.mpr (.inl waits)
  · exact waiters ▸ waits_arrive.mpr (.inr rfl)

/-- The first thread of a queue leaves it. -/
theorem Orderly.pop {rest : List ℕ} (place : WaitPlace) (orderly : Orderly c none s)
    (first : s.waiters place = thread :: rest) (waiters : s'.waiters = update s.waiters place rest)
    (scheduler : s'.scheduler = s.scheduler) : Orderly c (some thread) s' where
  scheduled := scheduler ▸ orderly.scheduled
  runs := scheduler ▸ orderly.runs
  settled t alive inactive := by
    rw [scheduler] at alive inactive
    obtain ⟨place', waits⟩ := (orderly.settled t alive inactive).resolve_right nofun
    by_cases isFirst : t = thread
    · exact .inr (congrArg some isFirst.symm)
    · refine .inl ⟨place', ?_⟩
      rw [waiters]
      by_cases same : place' = place
      · subst same
        rw [first] at waits
        rw [update_self]
        exact (List.mem_cons.mp waits).resolve_left isFirst
      · rw [update_of_ne same]
        exact waits

/-- The thread that has left a queue waits in another one. -/
theorem Orderly.landed (orderly : Orderly c (some thread) s) (waits : Waits s.waiters thread) :
    Orderly c none s where
  scheduled := orderly.scheduled
  runs := orderly.runs
  settled t alive inactive := by
    rcases orderly.settled t alive inactive with still | isThread
    · exact .inl still
    · exact .inl (Option.some.inj isThread ▸ waits)

theorem Orderly.synch {islock isunlock isbarrier : Bool} (orderly : Orderly c leaving s)
    (synched : s.synch c islock isunlock isbarrier = .ok s') : Orderly c leaving s' := by
  obtain ⟨scheduler, added, isNext⟩ := Outcome.bind_eq_ok.mp synched
  obtain rfl := Outcome.pure_eq_ok.mp isNext
  obtain ⟨same, current⟩ := PthreadScheduler.add_synch_instruction_activity added
  refine ⟨orderly.scheduled.synch added, orderly.runs.of_same same current, ?_⟩
  intro t alive inactive
  rw [waiters_setScheduler]
  exact orderly.settled t (same.live ▸ alive) (same.active ▸ inactive)

/-- The thread that has left a queue goes on. -/
theorem Orderly.unblock {isbarrier : Bool} (orderly : Orderly c (some thread) s)
    (unblocked : s.unblock c thread isbarrier = .ok s') : Orderly c none s' := by
  obtain ⟨scheduler, byScheduler, isNext⟩ := Outcome.bind_eq_ok.mp unblocked
  obtain rfl := Outcome.pure_eq_ok.mp isNext
  obtain ⟨_, _, live, active, _⟩ := PthreadScheduler.UnblockThread_activity byScheduler
  refine ⟨orderly.scheduled.unblock byScheduler, orderly.runs.unblock byScheduler, ?_⟩
  intro t alive inactive
  rw [waiters_setScheduler]
  change t ∈ scheduler.live at alive
  change scheduler.active t = false at inactive
  rw [live] at alive
  rw [active] at inactive
  by_cases isThread : t = thread
  · rw [isThread, update_self] at inactive
    cases inactive
  · rw [update_of_ne isThread] at inactive
    refine (orderly.settled t alive inactive).imp_right fun isLeaving => ?_
    exact absurd (Option.some.inj isLeaving).symm isThread

/-- A thread that waits is blocked. -/
theorem Orderly.block {answer : Resume} (orderly : Orderly c none s)
    (waits : Waits s.waiters thread) (blocked : s.block c thread answer = .ok s') :
    Orderly c none s' := by
  obtain ⟨scheduler, byScheduler, isNext⟩ := Outcome.bind_eq_ok.mp blocked
  obtain rfl := Outcome.pure_eq_ok.mp isNext
  obtain ⟨_, _, _, live, active, _⟩ := PthreadScheduler.BlockThread_activity byScheduler
  obtain ⟨scheduled, runs⟩ := orderly.scheduled.block byScheduler
  refine ⟨scheduled, runs, ?_⟩
  intro t alive inactive
  rw [waiters_setScheduler]
  change t ∈ scheduler.live at alive
  change scheduler.active t = false at inactive
  rw [live] at alive
  rw [active] at inactive
  by_cases isThread : t = thread
  · exact .inl (isThread ▸ waits)
  · rw [update_of_ne isThread] at inactive
    exact orderly.settled t alive inactive

theorem Orderly.perform {body : Except ThreadError PthreadSim} (orderly : Orderly c none s)
    (performed : s.perform body = .ok s')
    (performs : s.current ∈ s.scheduler.live → (s.scheduler.pthread s.current).executed = true →
      body = .ok s' → Orderly c none s') :
    Orderly c none s' := by
  obtain ⟨alive, ⟨_, rfl⟩ | ⟨executed, done⟩⟩ := perform_eq performed
  · have activity : s.scheduler.SameActivity (s.scheduler.setPthread s.current
        { s.scheduler.pthread s.current with executed := true }) := .setPthread rfl
    have threads := (PthreadScheduler.SameMapping.setExecuted s.scheduler s.current
      true).toSameThreads
    refine ⟨orderly.scheduled.of_same threads activity rfl, orderly.runs.of_same activity rfl, ?_⟩
    intro t isLive inactive
    rw [waiters_setScheduler]
    exact orderly.settled t isLive (activity.active ▸ inactive)
  · exact performs alive executed done

/-! ## Mutexes and conditions -/

theorem Orderly.mutex_lock {m : ℕ} {answer : Resume} (orderly : Orderly c none s)
    (called : s.pthread_mutex_lock c m answer = .ok s') : Orderly c none s' := by
  refine orderly.perform called fun _ _ done => ?_
  obtain ⟨s₁, synched, done⟩ := Outcome.bind_eq_ok.mp done
  have next := orderly.synch synched
  simp only at done
  rcases lock_waiters (s := s₁) s₁.current m with ⟨success, same⟩ | ⟨refused, waiters⟩
  · rw [if_pos success] at done
    exact Outcome.pure_eq_ok.mp done ▸ next.of_same same.waiters rfl
  · rw [if_neg refused] at done
    obtain ⟨entered, waits⟩ := next.push waiters rfl
    exact entered.block waits done

theorem Orderly.mutex_trylock {m : ℕ} (orderly : Orderly c none s)
    (called : s.pthread_mutex_trylock m = .ok s') : Orderly c none s' := by
  refine orderly.perform called fun _ _ done => ?_
  obtain rfl := Outcome.pure_eq_ok.mp done
  rcases PthreadMutexManager.Lock_cases s.mutexmanager s.current m true with
    ⟨_, locked⟩ | ⟨_, _, _, locked⟩ | ⟨_, _, result, _, locked⟩
  · rw [locked]
    exact orderly.of_same setMutex_same.waiters rfl
  · rw [locked]
    exact orderly.of_same setMutex_same.waiters rfl
  · rw [locked]
    exact orderly

theorem Orderly.unlock {m : ℕ} (orderly : Orderly c none s) (done : s.unlock c m = .ok s') :
    Orderly c none s' := by
  obtain ⟨s₁, synched, done⟩ := Outcome.bind_eq_ok.mp done
  have next := orderly.synch synched
  obtain ⟨unlocked, succeeded, done⟩ := Outcome.bind_eq_ok.mp done
  simp only at done
  rcases PthreadMutexManager.Unlock_cases succeeded with
    ⟨_, _, isNext⟩ | ⟨_, _, isNext⟩ | ⟨_, isNext⟩ | ⟨first, rest, waiting, isNext⟩
  · rw [isNext] at done
    exact Outcome.pure_eq_ok.mp done ▸ next
  · rw [isNext] at done
    exact Outcome.pure_eq_ok.mp done ▸ next.of_same setMutex_same.waiters rfl
  · rw [isNext] at done
    exact Outcome.pure_eq_ok.mp done ▸ next.of_same setMutex_same.waiters rfl
  · rw [isNext] at done
    have waiters : (s₁.setMutexmanager (((s₁.mutexmanager.setMutex m { s₁.mutexmanager.mutex m with
        count := 1, owner := first }).setSpinning m rest))).waiters =
          update s₁.waiters (.mutex m) rest := waiters_setMutexmanager rfl
    have left : Orderly c (some first) (s₁.setMutexmanager ((s₁.mutexmanager.setMutex m
        { s₁.mutexmanager.mutex m with count := 1, owner := first }).setSpinning m rest)) :=
      next.pop (.mutex m) waiting waiters rfl
    exact left.unblock done

theorem Orderly.cond_wait {cond m : ℕ} {answer : Resume} (orderly : Orderly c none s)
    (called : s.pthread_cond_wait c cond m answer = .ok s') : Orderly c none s' := by
  refine orderly.perform called fun _ _ done => ?_
  obtain ⟨s₁, unlocked, done⟩ := Outcome.bind_eq_ok.mp done
  obtain ⟨entered, waits⟩ := (orderly.unlock unlocked).push
    (waiters_addWaiter s₁ cond s.current m) rfl
  exact entered.block waits done

theorem Orderly.release {cond : ℕ} (orderly : Orderly c none s)
    (done : s.release c cond = .ok s') : Orderly c none s' := by
  obtain ⟨removed, taken, done⟩ := Outcome.bind_eq_ok.mp done
  obtain ⟨rest, waiting, isNext⟩ := PthreadCondManager.RemoveWaiter_eq taken
  have waiters : (s.setCondmanager removed.1).waiters =
      update s.waiters (.cond cond) (rest.map Prod.fst) := by
    rw [isNext]
    exact waiters_setCondmanager rfl
  have first : s.waiters (.cond cond) = removed.2.1 :: rest.map Prod.fst := by
    simp [PthreadSim.waiters, waiting]
  have left : Orderly c (some removed.2.1) (s.setCondmanager removed.1) :=
    orderly.pop (.cond cond) first waiters rfl
  simp only at done
  rcases lock_waiters (s := s.setCondmanager removed.1) removed.2.1 removed.2.2 with
    ⟨success, same⟩ | ⟨refused, waiters'⟩
  · rw [if_pos success] at done
    exact (left.of_same same.waiters rfl).unblock done
  · rw [if_neg refused] at done
    obtain rfl := Outcome.pure_eq_ok.mp done
    obtain ⟨entered, waits⟩ := left.push waiters' rfl
    exact entered.landed waits

theorem Orderly.cond_signal {cond : ℕ} (orderly : Orderly c none s)
    (called : s.pthread_cond_signal c cond = .ok s') : Orderly c none s' := by
  refine orderly.perform called fun _ _ done => ?_
  split at done
  · exact orderly.release done
  · exact Except.ok.inj done ▸ orderly

theorem Orderly.releaseAll {cond rounds : ℕ} (orderly : Orderly c none s)
    (done : releaseAll c cond rounds s = .ok s') : Orderly c none s' := by
  induction rounds generalizing s with
  | zero => exact Except.ok.inj done ▸ orderly
  | succ rounds inductionHypothesis =>
    rw [PthreadSim.releaseAll] at done
    split at done
    · obtain ⟨s₁, released, done⟩ := Outcome.bind_eq_ok.mp done
      exact inductionHypothesis (orderly.release released) done
    · exact Except.ok.inj done ▸ orderly

theorem Orderly.cond_broadcast {cond : ℕ} (orderly : Orderly c none s)
    (called : s.pthread_cond_broadcast c cond = .ok s') : Orderly c none s' :=
  orderly.perform called fun _ _ done => orderly.releaseAll done

/-! ## Barriers -/

/-- The threads of the list are active afterwards, the others are what they were. -/
theorem Wakes.activity {threads : List ℕ} {first last : PthreadScheduler}
    (wakes : Wakes c thread threads first last) :
    last.live = first.live ∧ last.current = first.current ∧
      (∀ t ∈ threads, t ≠ thread → last.active t = true) ∧
      (∀ t, t ∉ threads ∨ t = thread → last.active t = first.active t) ∧
      ∀ t, first.active t = true → last.active t = true := by
  induction wakes with
  | none => exact ⟨rfl, rfl, nofun, fun _ _ => rfl, fun _ active => active⟩
  | @unblock t₁ rest first second last other unblocked wakes inductionHypothesis =>
    obtain ⟨live, current, woken, others, active⟩ := inductionHypothesis
    obtain ⟨_, _, live₁, active₁, _, current₁⟩ :=
      PthreadScheduler.UnblockThread_activity unblocked
    refine ⟨live.trans live₁, current.trans current₁, ?_, ?_, ?_⟩
    · intro t isWoken notThread
      rcases List.mem_cons.mp isWoken with rfl | inRest
      · apply active
        rw [active₁, update_self]
      · exact woken t inRest notThread
    · intro t apart
      have notFirst : t ≠ t₁ := by
        rintro rfl
        exact apart.elim (fun absent => absent List.mem_cons_self) fun same => other same.symm
      have rest : t ∉ rest ∨ t = thread :=
        apart.imp_left fun absent inRest => absent (List.mem_cons_of_mem _ inRest)
      rw [others t rest, active₁, update_of_ne notFirst]
    · intro t isActive
      apply active
      rw [active₁]
      by_cases same : t = t₁
      · rw [same, update_self]
      · rw [update_of_ne same]
        exact isActive
  | @synch rest first second last synched wakes inductionHypothesis =>
    obtain ⟨live, current, woken, others, active⟩ := inductionHypothesis
    obtain ⟨same, current₁⟩ := PthreadScheduler.add_synch_instruction_activity synched
    refine ⟨live.trans same.live, current.trans current₁, ?_, ?_, ?_⟩
    · intro t isWoken notThread
      exact woken t ((List.mem_cons.mp isWoken).resolve_left notThread) notThread
    · intro t apart
      have rest : t ∉ rest ∨ t = thread :=
        apart.imp_left fun absent inRest => absent (List.mem_cons_of_mem _ inRest)
      rw [others t rest, same.active]
    · exact fun t isActive => active t (same.active ▸ isActive)

theorem Wakes.scheduled {threads : List ℕ} {first last : PthreadScheduler}
    (wakes : Wakes c thread threads first last) (scheduled : first.Scheduled c)
    (runs : first.Runs) : last.Scheduled c ∧ last.Runs := by
  induction wakes with
  | none => exact ⟨scheduled, runs⟩
  | unblock _ unblocked _ inductionHypothesis =>
    exact inductionHypothesis (scheduled.unblock unblocked) (runs.unblock unblocked)
  | synch synched _ inductionHypothesis =>
    obtain ⟨same, current⟩ := PthreadScheduler.add_synch_instruction_activity synched
    exact inductionHypothesis (scheduled.synch synched) (runs.of_same same current)

/-- The threads that wait at a barrier go on, among them all those that wait in its queue. -/
theorem Orderly.wakes {barrier num : ℕ} {waiters : List ℕ} {scheduler : PthreadScheduler}
    (orderly : Orderly c none s) (alive : s.current ∈ s.scheduler.live)
    (isEntry : s.barriermanager.barriers barrier = some ⟨num, waiters⟩)
    (wakes : Wakes c s.current (waiters ++ [s.current]) s.scheduler scheduler) :
    Orderly c none ((s.setBarriermanager (s.barriermanager.setBarrier barrier
      (some ⟨num, []⟩))).setScheduler scheduler) := by
  obtain ⟨live, _, woken, _, active⟩ := wakes.activity
  obtain ⟨scheduled, runs⟩ := wakes.scheduled orderly.scheduled orderly.runs
  refine ⟨scheduled, runs, ?_⟩
  intro t isLive inactive
  change t ∈ scheduler.live at isLive
  change scheduler.active t = false at inactive
  have wasInactive : s.scheduler.active t = false :=
    Bool.eq_false_iff.mpr fun isActive => nomatch inactive.symm.trans (active t isActive)
  obtain ⟨place, waits⟩ := (orderly.settled t (live ▸ isLive) wasInactive).resolve_right nofun
  refine .inl ⟨place, ?_⟩
  rw [waiters_setScheduler, waiters_setBarrier]
  refine mem_update.mpr (.inr ⟨?_, waits⟩)
  rintro rfl
  have inQueue : t ∈ waiters := by
    simpa [PthreadSim.waiters, PthreadBarrierManager.waiters, isEntry] using waits
  have notCurrent : t ≠ s.current := by
    rintro rfl
    cases wasInactive.symm.trans (orderly.current_active alive)
  have isActive := woken t (List.mem_append_left _ inQueue) notCurrent
  cases inactive.symm.trans isActive

theorem Orderly.barrier_wait {barrier : ℕ} {answer : Resume} (orderly : Orderly c none s)
    (called : s.pthread_barrier_wait c barrier answer = .ok s') : Orderly c none s' := by
  refine orderly.perform called fun alive executed _ => ?_
  obtain ⟨num, waiters, isEntry, ⟨_, scheduler, wakes, rfl⟩ | ⟨_, blocked⟩⟩ :=
    barrier_wait_eq called executed
  · exact orderly.wakes alive isEntry wakes
  · obtain ⟨entered, waits⟩ := orderly.push (waiters_arrives isEntry s.current) rfl
    exact entered.block waits blocked

theorem Orderly.barrier_init {barrier num : ℕ} (orderly : Orderly c none s)
    (empty : (s.scheduler.pthread s.current).executed = true →
      s.waiters (.barrier barrier) = [])
    (called : s.pthread_barrier_init barrier num = .ok s') : Orderly c none s' := by
  refine orderly.perform called fun _ executed done => ?_
  obtain rfl := Except.ok.inj done
  refine orderly.of_same ?_ rfl
  have waiters := waiters_setBarrier s barrier (some { num_participants := num })
  exact waiters.trans (update_eq_self_iff.mpr (empty executed).symm)

/-! ## Threads -/

/-- A new thread is active. -/
theorem Orderly.create {address : ℕ} {joinable startctxt : Bool} (orderly : Orderly c none s)
    (fresh : ∀ t ∈ s.scheduler.live, (s.scheduler.pthread t).address ≠ address)
    (free : ∀ t ∈ s.scheduler.live, s.scheduler.hthread t ≠ s.scheduler.live.card)
    (created : s.pthread_create c address joinable startctxt = .ok s') : Orderly c none s' := by
  obtain ⟨scheduler, added, created⟩ := Outcome.bind_eq_ok.mp created
  obtain ⟨joinmanager, entered, created⟩ := Outcome.bind_eq_ok.mp created
  obtain ⟨cancelmanager, _, created⟩ := Outcome.bind_eq_ok.mp created
  obtain rfl := Outcome.pure_eq_ok.mp created
  obtain ⟨_, _, live, active, _⟩ := PthreadScheduler.AddThread_activity added
  obtain ⟨joinWaiters, _⟩ := PthreadJoinManager.AddThread_waiters entered
  refine ⟨orderly.scheduled.add added fresh free, orderly.runs.add added, ?_⟩
  intro t alive inactive
  change t ∈ scheduler.live at alive
  change scheduler.active t = false at inactive
  by_cases isNew : t = s.new_thread_id
  · rw [isNew, active, update_self] at inactive
    cases inactive
  · rw [live] at alive
    rw [active, update_of_ne isNew] at inactive
    have old := (Finset.mem_insert.mp alive).resolve_left isNew
    obtain ⟨place, waits⟩ := (orderly.settled t old inactive).resolve_right nofun
    refine .inl ⟨place, ?_⟩
    cases place with
    | join joinee =>
      show t ∈ joinmanager.waiters joinee
      rw [joinWaiters]
      exact waits
    | mutex | cond | barrier => exact waits

/-- The thread that waits for the value of a thread that ends goes on. -/
theorem Orderly.leaves {retval : ℕ} {answer : Resume} (orderly : Orderly c none s)
    (done : s.leave c retval answer = .ok s') : Orderly c none s' := by
  obtain ⟨s₁, finished, done⟩ := Outcome.bind_eq_ok.mp done
  obtain ⟨scheduler, resumed, done⟩ := Outcome.bind_eq_ok.mp done
  obtain rfl := Outcome.pure_eq_ok.mp done
  obtain ⟨killed, ended, finished⟩ := Outcome.bind_eq_ok.mp finished
  obtain ⟨s₂, woken, finished⟩ := Outcome.bind_eq_ok.mp finished
  obtain ⟨cancelmanager, _, finished⟩ := Outcome.bind_eq_ok.mp finished
  obtain ⟨scheduler', schedulerKilled, finished⟩ := Outcome.bind_eq_ok.mp finished
  obtain rfl := Outcome.pure_eq_ok.mp finished
  have next : Orderly c none s₂ := by
    rcases PthreadJoinManager.KillThread_waiters ended with
      ⟨nobody, joinWaiters, _⟩ | ⟨joiner, isJoiner, waiting, joinWaiters, _⟩
    · rw [nobody] at woken
      obtain rfl := Except.ok.inj woken
      refine orderly.of_same ?_ rfl
      rw [waiters_recordExit, waiters_joinmanager_same joinWaiters]
    · rw [isJoiner] at woken
      have waiters : ((s.setJoinmanager killed.1).recordExit s.current retval).waiters =
          update s.waiters (.join s.current) [] := by
        rw [waiters_recordExit]
        exact waiters_setJoinmanager joinWaiters
      exact (orderly.pop (.join s.current) waiting waiters rfl).unblock woken
  obtain ⟨_, _, live, active, _⟩ := PthreadScheduler.KillThread_activity schedulerKilled
  obtain ⟨scheduled, runs⟩ := (next.scheduled.kill schedulerKilled).resume resumed
  obtain ⟨same, _⟩ := PthreadScheduler.resume_simulation_activity resumed
  refine ⟨scheduled, runs, ?_⟩
  intro t alive inactive
  change t ∈ scheduler.live at alive
  change scheduler.active t = false at inactive
  rw [same.live] at alive
  rw [same.active] at inactive
  change t ∈ scheduler'.live at alive
  change scheduler'.active t = false at inactive
  rw [live] at alive
  rw [active] at inactive
  simpa using next.settled t (Finset.mem_of_mem_erase alive) inactive

theorem Orderly.join {joinee : ℕ} {answer : Resume} (orderly : Orderly c none s)
    (called : s.pthread_join c joinee answer = .ok s') : Orderly c none s' := by
  refine orderly.perform called fun _ _ done => ?_
  obtain ⟨canceled, _, done⟩ := Outcome.bind_eq_ok.mp done
  split at done
  · exact orderly.leaves done
  · obtain ⟨joined, succeeded, done⟩ := Outcome.bind_eq_ok.mp done
    simp only at done
    obtain ⟨nobody, ⟨returns, waits, _⟩ | ⟨waits, _, joinWaiters, _⟩⟩ :=
      PthreadJoinManager.JoinThreads_waiters succeeded
    · rw [returns] at done
      obtain rfl := Outcome.pure_eq_ok.mp done
      refine orderly.of_same ?_ rfl
      rw [waiters_recordJoin, waiters_joinmanager_same waits]
    · rw [waits] at done
      have waiters : ((s.setJoinmanager joined.1).recordJoin s.current joinee).waiters =
          update s.waiters (.join joinee) (s.waiters (.join joinee) ++ [s.current]) := by
        have empty : s.waiters (.join joinee) = [] := nobody
        rw [waiters_recordJoin, waiters_setJoinmanager joinWaiters, empty]
        rfl
      obtain ⟨entered, isWaiting⟩ := orderly.push waiters rfl
      exact entered.block isWaiting done

theorem Orderly.process_ins {context : Bool} {instr : PTSInstr} {answer : Resume}
    (orderly : Orderly c none s) (processed : s.process_ins c context instr answer = .ok s') :
    Orderly c none s' := by
  obtain ⟨scheduler, byScheduler, isNext⟩ := Outcome.bind_eq_ok.mp processed
  obtain rfl := Outcome.pure_eq_ok.mp isNext
  obtain ⟨same, _⟩ := PthreadScheduler.process_ins_activity byScheduler
  obtain ⟨scheduled, runs⟩ := orderly.scheduled.process_ins orderly.runs byScheduler
  refine ⟨scheduled, runs, ?_⟩
  intro t alive inactive
  rw [waiters_setScheduler]
  exact orderly.settled t (same.live ▸ alive) (same.active ▸ inactive)

end PthreadSim

end ActiveRouting

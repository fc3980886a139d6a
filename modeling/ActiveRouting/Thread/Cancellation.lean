import ActiveRouting.Library.Run
import ActiveRouting.Thread.Registration

/-!
# Cancellation

Every call keeps the registration of the threads that wait, unless a thread is
ended while it waits.
-/

namespace ActiveRouting

open Function WaitQueues

namespace PthreadSim

variable {c : PTSConfig} {s s' : PthreadSim}

theorem perform_eq {body : Except ThreadError PthreadSim} (performed : s.perform body = .ok s') :
    s.current ∈ s.scheduler.live ∧
      ((s.scheduler.pthread s.current).executed = false ∧
          s' = s.setScheduler (s.scheduler.setPthread s.current
            { s.scheduler.pthread s.current with executed := true }) ∨
        (s.scheduler.pthread s.current).executed = true ∧ body = .ok s') := by
  unfold perform at performed
  split at performed
  · cases performed
  · rename_i alive
    refine ⟨not_not.mp alive, ?_⟩
    split at performed
    · rename_i skipped
      exact .inl ⟨skipped, (Except.ok.inj performed).symm⟩
    · rename_i executed
      exact .inr ⟨Bool.of_not_eq_false executed, performed⟩

/-- A call that is made again changes nothing that matters. -/
theorem skip_same : SameWaiting s (s.setScheduler (s.scheduler.setPthread s.current
    { s.scheduler.pthread s.current with executed := true })) :=
  ⟨waiters_setScheduler _, rfl, .setPthread rfl⟩

theorem Registered.perform {body : Except ThreadError PthreadSim} (registered : Registered c none s)
    (performed : s.perform body = .ok s')
    (performs : (s.scheduler.pthread s.current).executed = true → body = .ok s' →
      Registered c none s') : Registered c none s' := by
  obtain ⟨_, ⟨_, rfl⟩ | ⟨executed, done⟩⟩ := perform_eq performed
  · exact registered.of_same skip_same
  · exact performs executed done

/-! ## Mutexes -/

/-- Nobody waits otherwise if only a mutex changes. -/
theorem setMutex_same {m : ℕ} {mutex : PthreadMutex} :
    SameWaiting s (s.setMutexmanager (s.mutexmanager.setMutex m mutex)) where
  waiters := by
    funext place
    cases place <;> rfl
  joinings := rfl
  activity := .refl _

/-- A thread that gets a mutex does not wait for it, one that does not get it does. -/
theorem lock_waiters (thread m : ℕ) :
    (s.mutexmanager.Lock thread m false).2 = .success ∧
        SameWaiting s (s.setMutexmanager (s.mutexmanager.Lock thread m false).1) ∨
      (s.mutexmanager.Lock thread m false).2 ≠ .success ∧
        (s.setMutexmanager (s.mutexmanager.Lock thread m false).1).waiters =
          update s.waiters (.mutex m) (s.waiters (.mutex m) ++ [thread]) := by
  rcases PthreadMutexManager.Lock_cases s.mutexmanager thread m false with
    ⟨_, locked⟩ | ⟨_, _, _, locked⟩ | ⟨_, _, result, refused, locked⟩
  · rw [locked]
    exact .inl ⟨rfl, setMutex_same⟩
  · rw [locked]
    exact .inl ⟨rfl, setMutex_same⟩
  · rw [locked]
    exact .inr ⟨refused, waiters_setMutexmanager rfl⟩

theorem notJoin_mutex (m joinee : ℕ) : WaitPlace.mutex m ≠ .join joinee := nofun

theorem Registered.mutex_lock {m : ℕ} {answer : Resume} (registered : Registered c none s)
    (called : s.pthread_mutex_lock c m answer = .ok s') : Registered c none s' := by
  refine registered.perform called fun _ done => ?_
  obtain ⟨s₁, synched, done⟩ := Outcome.bind_eq_ok.mp done
  obtain ⟨same, _, _⟩ := synch_same synched
  have registered₁ := registered.of_same same
  simp only at done
  rcases lock_waiters (s := s₁) s₁.current m with ⟨success, same⟩ | ⟨refused, waiters⟩
  · rw [if_pos success] at done
    exact Outcome.pure_eq_ok.mp done ▸ registered₁.of_same same
  · rw [if_neg refused] at done
    have joinings := registered₁.joinings_update (notJoin_mutex m) waiters rfl
    exact registered₁.enter_block waiters joinings (.refl _) done

theorem Registered.mutex_trylock {m : ℕ} (registered : Registered c none s)
    (called : s.pthread_mutex_trylock m = .ok s') : Registered c none s' := by
  refine registered.perform called fun _ done => ?_
  obtain rfl := Outcome.pure_eq_ok.mp done
  rcases PthreadMutexManager.Lock_cases s.mutexmanager s.current m true with
    ⟨_, locked⟩ | ⟨_, _, _, locked⟩ | ⟨_, _, result, _, locked⟩
  · rw [locked]
    exact registered.of_same setMutex_same
  · rw [locked]
    exact registered.of_same setMutex_same
  · rw [locked]
    exact registered

/-- The thread that gets the mutex does not wait any more. -/
theorem Registered.unlock {m : ℕ} (registered : Registered c none s)
    (done : s.unlock c m = .ok s') : Registered c none s' := by
  obtain ⟨s₁, synched, done⟩ := Outcome.bind_eq_ok.mp done
  obtain ⟨same, _, _⟩ := synch_same synched
  have registered₁ := registered.of_same same
  obtain ⟨unlocked, succeeded, done⟩ := Outcome.bind_eq_ok.mp done
  simp only at done
  rcases PthreadMutexManager.Unlock_cases succeeded with
    ⟨_, _, isNext⟩ | ⟨_, _, isNext⟩ | ⟨_, isNext⟩ | ⟨first, rest, waiting, isNext⟩
  · rw [isNext] at done
    obtain rfl := Outcome.pure_eq_ok.mp done
    exact registered₁
  · rw [isNext] at done
    obtain rfl := Outcome.pure_eq_ok.mp done
    exact registered₁.of_same setMutex_same
  · rw [isNext] at done
    obtain rfl := Outcome.pure_eq_ok.mp done
    exact registered₁.of_same setMutex_same
  · rw [isNext] at done
    have waiters : (s₁.setMutexmanager (((s₁.mutexmanager.setMutex m { s₁.mutexmanager.mutex m with
        count := 1, owner := first }).setSpinning m rest))).waiters =
          update s₁.waiters (.mutex m) rest := waiters_setMutexmanager rfl
    have joinings := registered₁.joinings_update (notJoin_mutex m) waiters rfl
    obtain ⟨left, idle, _⟩ := registered₁.leave (.mutex m) waiting waiters joinings (.refl _)
    exact left.unblock idle done

theorem Registered.mutex_unlock {m : ℕ} (registered : Registered c none s)
    (called : s.pthread_mutex_unlock c m = .ok s') : Registered c none s' :=
  registered.perform called fun _ done => registered.unlock done

/-! ## Condition variables -/

theorem notJoin_cond (cond joinee : ℕ) : WaitPlace.cond cond ≠ .join joinee := nofun

theorem waiters_addWaiter (s : PthreadSim) (cond thread m : ℕ) :
    (s.setCondmanager (s.condmanager.AddWaiter cond thread m)).waiters =
      update s.waiters (.cond cond) (s.waiters (.cond cond) ++ [thread]) := by
  have added : (s.setCondmanager (s.condmanager.AddWaiter cond thread m)).waiters =
      update s.waiters (.cond cond) ((s.condmanager.waiters cond ++ [(thread, m)]).map Prod.fst) :=
    waiters_setCondmanager rfl
  rw [added, List.map_append]
  rfl

theorem Registered.cond_wait {cond m : ℕ} {answer : Resume} (registered : Registered c none s)
    (called : s.pthread_cond_wait c cond m answer = .ok s') : Registered c none s' := by
  refine registered.perform called fun _ done => ?_
  obtain ⟨s₁, unlocked, done⟩ := Outcome.bind_eq_ok.mp done
  have registered₁ := registered.unlock unlocked
  have waiters := waiters_addWaiter s₁ cond s.current m
  have joinings := registered₁.joinings_update (notJoin_cond cond) waiters rfl
  exact registered₁.enter_block waiters joinings (.refl _) done

/-- The thread that is released gets its mutex and goes on, or waits for it. -/
theorem Registered.release {cond : ℕ} (registered : Registered c none s)
    (done : s.release c cond = .ok s') : Registered c none s' := by
  obtain ⟨removed, taken, done⟩ := Outcome.bind_eq_ok.mp done
  obtain ⟨rest, waiting, isNext⟩ := PthreadCondManager.RemoveWaiter_eq taken
  have waiters : (s.setCondmanager removed.1).waiters =
      update s.waiters (.cond cond) (rest.map Prod.fst) := by
    rw [isNext]
    exact waiters_setCondmanager rfl
  have first : s.waiters (.cond cond) = removed.2.1 :: rest.map Prod.fst := by
    simp [PthreadSim.waiters, waiting]
  have joinings := registered.joinings_update (notJoin_cond cond) waiters rfl
  obtain ⟨left, idle, alive, inactive⟩ :=
    registered.leave (.cond cond) first waiters joinings (.refl _)
  simp only at done
  rcases lock_waiters (s := s.setCondmanager removed.1) removed.2.1 removed.2.2 with
    ⟨success, same⟩ | ⟨refused, waiters'⟩
  · rw [if_pos success] at done
    exact (left.of_same same).unblock (same.waiters ▸ idle) done
  · rw [if_neg refused] at done
    obtain rfl := Outcome.pure_eq_ok.mp done
    have joinings' := left.joinings_update (notJoin_mutex removed.2.2) waiters' rfl
    exact (left.enter alive idle waiters' joinings' (.refl _)).settle inactive

theorem Registered.cond_signal {cond : ℕ} (registered : Registered c none s)
    (called : s.pthread_cond_signal c cond = .ok s') : Registered c none s' := by
  refine registered.perform called fun _ done => ?_
  split at done
  · exact registered.release done
  · exact Except.ok.inj done ▸ registered

theorem Registered.releaseAll {cond rounds : ℕ} (registered : Registered c none s)
    (done : releaseAll c cond rounds s = .ok s') : Registered c none s' := by
  induction rounds generalizing s with
  | zero => exact Except.ok.inj done ▸ registered
  | succ rounds inductionHypothesis =>
    rw [PthreadSim.releaseAll] at done
    split at done
    · obtain ⟨s₁, released, done⟩ := Outcome.bind_eq_ok.mp done
      exact inductionHypothesis (registered.release released) done
    · exact Except.ok.inj done ▸ registered

theorem Registered.cond_broadcast {cond : ℕ} (registered : Registered c none s)
    (called : s.pthread_cond_broadcast c cond = .ok s') : Registered c none s' :=
  registered.perform called fun _ done => registered.releaseAll done

/-! ## Barriers -/

theorem notJoin_barrier (barrier joinee : ℕ) : WaitPlace.barrier barrier ≠ .join joinee := nofun

theorem waiters_setBarrier (s : PthreadSim) (barrier : ℕ) (entry : Option PthreadBarrierWaiters) :
    (s.setBarriermanager (s.barriermanager.setBarrier barrier entry)).waiters =
      update s.waiters (.barrier barrier) (entry.elim [] fun entry => entry.waiters) :=
  waiters_setBarriermanager (PthreadBarrierManager.waiters_setBarrier _ _ _)

/-- The threads of a list go on, except for one that has not been blocked. -/
inductive Wakes (c : PTSConfig) (thread : ℕ) :
    List ℕ → PthreadScheduler → PthreadScheduler → Prop where
  | none (scheduler : PthreadScheduler) : Wakes c thread [] scheduler scheduler
  | unblock {t : ℕ} {rest : List ℕ} {first second last : PthreadScheduler} : thread ≠ t →
      first.UnblockThread c t true = .ok second → Wakes c thread rest second last →
      Wakes c thread (t :: rest) first last
  | synch {rest : List ℕ} {first second last : PthreadScheduler} :
      first.add_synch_instruction c first.current false false true = .ok second →
      Wakes c thread rest second last → Wakes c thread (thread :: rest) first last

/-- The loop of `pthread_barrier_wait` empties the barrier. -/
theorem passAll_eq {barrier thread num : ℕ} {waiters : List ℕ}
    (isEntry : s.barriermanager.barriers barrier = some ⟨num, waiters⟩)
    (done : passAll c barrier thread waiters.length s = .ok s') :
    ∃ scheduler, Wakes c thread waiters s.scheduler scheduler ∧
      s' = (s.setBarriermanager (s.barriermanager.setBarrier barrier (some ⟨num, []⟩))).setScheduler
        scheduler := by
  induction waiters generalizing s with
  | nil =>
    obtain rfl := Except.ok.inj done
    refine ⟨s.scheduler, .none _, ?_⟩
    have same : s.barriermanager.setBarrier barrier (some ⟨num, []⟩) = s.barriermanager := by
      rw [PthreadBarrierManager.setBarrier, ← isEntry, update_eq_self]
    rw [same]
    rfl
  | cons t rest inductionHypothesis =>
    rw [List.length_cons, passAll] at done
    obtain ⟨more, asked, done⟩ := Outcome.bind_eq_ok.mp done
    simp only [PthreadBarrierManager.HasMoreWaiters, isEntry, Except.ok.injEq] at asked
    subst asked
    obtain ⟨s₁, passed, done⟩ := Outcome.bind_eq_ok.mp done
    obtain ⟨removed, taken, passed⟩ := Outcome.bind_eq_ok.mp passed
    simp only [PthreadBarrierManager.RemoveWaiter, isEntry, Except.ok.injEq] at taken
    subst taken
    simp only at passed
    have resume : ∀ scheduler, s₁ = (s.setBarriermanager (s.barriermanager.setBarrier barrier
        (some ⟨num, rest⟩))).setScheduler scheduler → ∃ last, Wakes c thread rest scheduler last ∧
          s' = (s.setBarriermanager (s.barriermanager.setBarrier barrier
            (some ⟨num, []⟩))).setScheduler last := by
      rintro scheduler rfl
      obtain ⟨last, wakes, isLast⟩ := inductionHypothesis (update_self _ _ _) done
      refine ⟨last, wakes, ?_⟩
      rw [isLast]
      simp [setBarriermanager, setScheduler, PthreadBarrierManager.setBarrier]
    split at passed
    · rename_i other
      obtain ⟨scheduler, unblocked, isNext⟩ := Outcome.bind_eq_ok.mp passed
      obtain ⟨last, wakes, isLast⟩ := resume scheduler (Outcome.pure_eq_ok.mp isNext).symm
      exact ⟨last, .unblock other unblocked wakes, isLast⟩
    · rename_i same
      obtain rfl := not_not.mp same
      obtain ⟨scheduler, synched, isNext⟩ := Outcome.bind_eq_ok.mp passed
      obtain ⟨last, wakes, isLast⟩ := resume scheduler (Outcome.pure_eq_ok.mp isNext).symm
      exact ⟨last, .synch synched wakes, isLast⟩

/-- All threads that wait at a barrier go on. -/
theorem Registered.wakes {barrier thread num : ℕ} {waiters : List ℕ} {scheduler : PthreadScheduler}
    (registered : Registered c none s)
    (isEntry : s.barriermanager.barriers barrier = some ⟨num, waiters⟩)
    (wakes : Wakes c thread (waiters ++ [thread]) s.scheduler scheduler) :
    Registered c none ((s.setBarriermanager (s.barriermanager.setBarrier barrier
      (some ⟨num, []⟩))).setScheduler scheduler) := by
  induction waiters generalizing s with
  | nil =>
    have emptied : SameWaiting s (s.setBarriermanager (s.barriermanager.setBarrier barrier
        (some ⟨num, []⟩))) := by
      refine ⟨?_, rfl, .refl _⟩
      rw [waiters_setBarrier]
      apply update_eq_self_iff.mpr
      simp [PthreadSim.waiters, PthreadBarrierManager.waiters, isEntry]
    have registered₁ := registered.of_same emptied
    cases wakes with
    | unblock other _ _ => exact absurd rfl other
    | synch synched wakes =>
      cases wakes with
      | none =>
        obtain ⟨same, _⟩ := PthreadScheduler.add_synch_instruction_activity synched
        exact registered₁.of_same ⟨waiters_setScheduler _, rfl, same⟩
  | cons t rest inductionHypothesis =>
    have first : s.waiters (.barrier barrier) = t :: rest := by
      simp [PthreadSim.waiters, PthreadBarrierManager.waiters, isEntry]
    have waiters := waiters_setBarrier s barrier (some ⟨num, rest⟩)
    have joinings := registered.joinings_update (notJoin_barrier barrier) waiters rfl
    obtain ⟨left, idle, _⟩ := registered.leave (.barrier barrier) first waiters joinings (.refl _)
    have twice : ∀ scheduler' scheduler'', (((s.setBarriermanager (s.barriermanager.setBarrier barrier
        (some ⟨num, rest⟩))).setScheduler scheduler').setBarriermanager
          (((s.setBarriermanager (s.barriermanager.setBarrier barrier
            (some ⟨num, rest⟩))).setScheduler scheduler').barriermanager.setBarrier barrier
              (some ⟨num, []⟩))).setScheduler scheduler'' =
        (s.setBarriermanager (s.barriermanager.setBarrier barrier
          (some ⟨num, []⟩))).setScheduler scheduler'' := by
      simp [setBarriermanager, setScheduler, PthreadBarrierManager.setBarrier]
    cases wakes with
    | @unblock _ _ _ second _ other unblocked wakes =>
      have next : Registered c none ((s.setBarriermanager (s.barriermanager.setBarrier barrier
          (some ⟨num, rest⟩))).setScheduler second) :=
        left.unblock idle (Outcome.bind_eq_ok.mpr ⟨second, unblocked, rfl⟩)
      rw [← twice second]
      exact inductionHypothesis next (update_self _ _ _) wakes
    | @synch _ _ second _ synched wakes =>
      obtain ⟨same, _⟩ := PthreadScheduler.add_synch_instruction_activity synched
      have next := left.of_same ⟨waiters_setScheduler second, rfl, same⟩
      rw [← twice second]
      exact inductionHypothesis next (update_self _ _ _) wakes

/-- What a thread does that arrives at a barrier: it is the last one and wakes the others, or it is
    blocked with them. -/
theorem barrier_wait_eq {barrier : ℕ} {answer : Resume}
    (called : s.pthread_barrier_wait c barrier answer = .ok s')
    (executed : (s.scheduler.pthread s.current).executed = true) :
    ∃ num waiters, s.barriermanager.barriers barrier = some ⟨num, waiters⟩ ∧
      (waiters.length + 1 = num ∧ (∃ scheduler,
          Wakes c s.current (waiters ++ [s.current]) s.scheduler scheduler ∧
          s' = (s.setBarriermanager (s.barriermanager.setBarrier barrier
            (some ⟨num, []⟩))).setScheduler scheduler) ∨
        waiters.length + 1 ≠ num ∧ (s.setBarriermanager (s.barriermanager.setBarrier barrier
          (some ⟨num, waiters ++ [s.current]⟩))).block c s.current answer = .ok s') := by
  obtain ⟨_, ⟨skipped, _⟩ | ⟨_, done⟩⟩ := perform_eq called
  · cases skipped.symm.trans executed
  · obtain ⟨added, arrived, done⟩ := Outcome.bind_eq_ok.mp done
    unfold PthreadBarrierManager.AddWaiter at arrived
    split at arrived
    · cases arrived
    · rename_i entry isEntry
      obtain rfl := Except.ok.inj arrived
      refine ⟨entry.num_participants, entry.waiters, isEntry, ?_⟩
      simp only at done
      split at done
      · rename_i last
        simp only [setBarriermanager, PthreadBarrierManager.setBarrier, update_self,
          Option.elim_some] at done
        obtain ⟨scheduler, wakes, rfl⟩ := passAll_eq (update_self _ _ _) done
        refine .inl ⟨of_decide_eq_true last, scheduler, wakes, ?_⟩
        simp [setBarriermanager, PthreadBarrierManager.setBarrier, setScheduler]
      · rename_i early
        exact .inr ⟨fun last => early (decide_eq_true last), done⟩

/-- A thread enters the queue of a barrier. -/
theorem waiters_arrives {barrier num : ℕ} {waiters : List ℕ}
    (isEntry : s.barriermanager.barriers barrier = some ⟨num, waiters⟩) (thread : ℕ) :
    (s.setBarriermanager (s.barriermanager.setBarrier barrier
        (some ⟨num, waiters ++ [thread]⟩))).waiters =
      update s.waiters (.barrier barrier) (s.waiters (.barrier barrier) ++ [thread]) := by
  rw [waiters_setBarrier]
  simp [PthreadSim.waiters, PthreadBarrierManager.waiters, isEntry]

theorem Registered.barrier_wait {barrier : ℕ} {answer : Resume} (registered : Registered c none s)
    (called : s.pthread_barrier_wait c barrier answer = .ok s') : Registered c none s' := by
  refine registered.perform called fun executed _ => ?_
  obtain ⟨num, waiters, isEntry, ⟨_, scheduler, wakes, rfl⟩ | ⟨_, blocked⟩⟩ :=
    barrier_wait_eq called executed
  · exact registered.wakes isEntry wakes
  · have arrives := waiters_arrives isEntry s.current
    have joinings := registered.joinings_update (notJoin_barrier barrier) arrives rfl
    exact registered.enter_block arrives joinings (.refl _) blocked

/-- A barrier without waiting threads takes the place of another one. -/
theorem Registered.emptied {barrier : ℕ} {entry : Option PthreadBarrierWaiters}
    (registered : Registered c none s) (empty : ∀ e ∈ entry, e.waiters = []) :
    Registered c none (s.setBarriermanager (s.barriermanager.setBarrier barrier entry)) := by
  have waiters : (s.setBarriermanager (s.barriermanager.setBarrier barrier entry)).waiters =
      update s.waiters (.barrier barrier) [] := by
    rw [waiters_setBarrier]
    cases entry with
    | none => rfl
    | some e =>
      rw [Option.elim_some, empty e rfl]
  have joinings := registered.joinings_update (notJoin_barrier barrier) waiters rfl
  exact registered.shrink (List.nil_sublist _) waiters joinings (.refl _)

theorem Registered.barrier_init {barrier num : ℕ} (registered : Registered c none s)
    (called : s.pthread_barrier_init barrier num = .ok s') : Registered c none s' := by
  refine registered.perform called fun _ done => ?_
  obtain rfl := Except.ok.inj done
  exact registered.emptied fun e isEntry => Option.some.inj isEntry ▸ rfl

theorem Registered.barrier_destroy {barrier : ℕ} (registered : Registered c none s)
    (called : s.pthread_barrier_destroy barrier = .ok s') : Registered c none s' := by
  refine registered.perform called fun _ done => ?_
  obtain ⟨manager, destroyed, done⟩ := Outcome.bind_eq_ok.mp done
  obtain rfl := Outcome.pure_eq_ok.mp done
  unfold PthreadBarrierManager.DestroyWaiters at destroyed
  split at destroyed
  · cases destroyed
  · obtain rfl := Except.ok.inj destroyed
    exact registered.emptied fun _ isEntry => nomatch isEntry

/-! ## Threads -/

/-- A thread that can be joined is not joined yet, so that nobody waits for it. -/
theorem Registered.create {address : ℕ} {joinable startctxt : Bool}
    (registered : Registered c none s)
    (created : s.pthread_create c address joinable startctxt = .ok s') : Registered c none s' := by
  obtain ⟨scheduler, added, created⟩ := Outcome.bind_eq_ok.mp created
  obtain ⟨joinmanager, entered, created⟩ := Outcome.bind_eq_ok.mp created
  obtain ⟨cancelmanager, _, created⟩ := Outcome.bind_eq_ok.mp created
  obtain rfl := Outcome.pure_eq_ok.mp created
  obtain ⟨new, _, live, active, _⟩ := PthreadScheduler.AddThread_activity added
  obtain ⟨joinWaiters, joinings⟩ := PthreadJoinManager.AddThread_waiters entered
  have waiters : PthreadSim.waiters { s with
      scheduler := scheduler, joinmanager := joinmanager, cancelmanager := cancelmanager,
      new_thread_id := s.new_thread_id + 1 } = s.waiters := by
    funext place
    cases place with
    | join joinee => exact congrFun joinWaiters joinee
    | mutex => rfl
    | cond => rfl
    | barrier => rfl
  refine ⟨waiters ▸ registered.exclusive, ?_, ?_, registered.counted.add added⟩
  · intro t waits
    rw [waiters] at waits
    obtain ⟨alive, running⟩ := registered.waiting t waits
    have other : t ≠ s.new_thread_id := fun isNew => new (isNew ▸ alive)
    show t ∈ scheduler.live ∧ (scheduler.active t = true → none = some t)
    rw [live, active, update_of_ne other]
    exact ⟨Finset.mem_insert_of_mem alive, running⟩
  · intro joiner joinee
    rw [waiters]
    show joinmanager.joinings joiner = some joinee ↔ _
    rw [joinings]
    exact registered.joinings joiner joinee

/-- An active thread ends. -/
theorem Registered.kill {thread : ℕ} {scheduler : PthreadScheduler}
    (registered : Registered c none s)
    (killed : s.scheduler.KillThread c thread = .ok scheduler)
    (running : s.scheduler.active thread = true) : Registered c none (s.setScheduler scheduler) := by
  obtain ⟨_, _, live, active, _⟩ := PthreadScheduler.KillThread_activity killed
  refine ⟨?_, ?_, ?_, (registered.counted.kill_iff killed).mpr running⟩
  · rw [waiters_setScheduler]
    exact registered.exclusive
  · intro t waits
    rw [waiters_setScheduler] at waits
    have other : t ≠ thread := fun same => registered.idle running (same ▸ waits)
    show t ∈ scheduler.live ∧ (scheduler.active t = true → none = some t)
    rw [live, active]
    exact ⟨Finset.mem_erase.mpr ⟨other, (registered.waiting t waits).1⟩,
      (registered.waiting t waits).2⟩
  · intro joiner joinee
    rw [waiters_setScheduler]
    exact registered.joinings joiner joinee

/-- The value of a thread is kept, or given to the thread that waits for it, which goes on. -/
theorem Registered.giveValue {thread : ℕ} {killed : PthreadJoinManager × Option ℕ} {retval : ℕ}
    (registered : Registered c none s)
    (ended : s.joinmanager.KillThread thread retval = .ok killed) :
    Registered c none ((s.setJoinmanager killed.1).recordExit thread retval) ∧
      ∀ joiner ∈ killed.2,
        ¬ Waits ((s.setJoinmanager killed.1).recordExit thread retval).waiters joiner := by
  rcases PthreadJoinManager.KillThread_waiters ended with
    ⟨nobody, joinWaiters, joinings⟩ | ⟨joiner, isJoiner, waiting, joinWaiters, joinings⟩
  · refine ⟨registered.of_same ⟨?_, joinings, .refl _⟩, ?_⟩
    · funext place
      cases place with
      | join joinee => exact congrFun joinWaiters joinee
      | mutex => rfl
      | cond => rfl
      | barrier => rfl
    · rw [nobody]
      exact fun _ none => nomatch none
  · have first : s.waiters (.join thread) = [joiner] := waiting
    have waiters : ((s.setJoinmanager killed.1).recordExit thread retval).waiters =
        update s.waiters (.join thread) [] := by
      rw [waiters_recordExit]
      exact waiters_setJoinmanager joinWaiters
    have joinings' : ∀ j joinee, killed.1.joinings j = some joinee ↔
        j ∈ update s.waiters (.join thread) [] (.join joinee) := by
      intro j joinee
      rw [joinings, mem_update]
      by_cases isThread : joinee = thread
      · subst isThread
        by_cases same : j = joiner
        · simp [same]
        · rw [update_of_ne same, registered.joinings j joinee, first]
          simp [same]
      · have other : WaitPlace.join joinee ≠ .join thread := by simp [isThread]
        by_cases same : j = joiner
        · subst same
          have elsewhere : j ∉ s.waiters (.join joinee) := fun waits =>
            other (registered.exclusive.unique _ _ j waits (first ▸ List.mem_singleton_self j))
          simp [elsewhere]
        · rw [update_of_ne same, registered.joinings j joinee]
          simp [isThread]
    obtain ⟨left, idle, _⟩ := registered.leave (.join thread) first waiters
      (fun j joinee => waiters ▸ joinings' j joinee) (.refl _)
    refine ⟨left, fun joiner' isJoiner' => ?_⟩
    obtain rfl := Option.some.inj (isJoiner.symm.trans isJoiner')
    exact idle

/-- A thread ends that is active, or is the current one. -/
theorem Registered.finish {thread retval : ℕ} (registered : Registered c none s)
    (running : thread ≠ s.current → s.scheduler.active thread = true)
    (done : s.finish c thread retval = .ok s') : Registered c none s' := by
  obtain ⟨killed, ended, done⟩ := Outcome.bind_eq_ok.mp done
  obtain ⟨s₁, woken, done⟩ := Outcome.bind_eq_ok.mp done
  obtain ⟨cancelmanager, _, done⟩ := Outcome.bind_eq_ok.mp done
  obtain ⟨scheduler, schedulerKilled, done⟩ := Outcome.bind_eq_ok.mp done
  obtain rfl := Outcome.pure_eq_ok.mp done
  obtain ⟨given, idle⟩ := registered.giveValue ended
  have next : Registered c none s₁ ∧ (thread ≠ s₁.current → s₁.scheduler.active thread = true) := by
    cases isJoiner : killed.2 with
    | none =>
      rw [isJoiner] at woken
      obtain rfl := Except.ok.inj woken
      exact ⟨given, running⟩
    | some joiner =>
      rw [isJoiner] at woken
      refine ⟨given.unblock (idle joiner isJoiner) woken, ?_⟩
      obtain ⟨scheduler', unblocked, isNext⟩ := Outcome.bind_eq_ok.mp woken
      obtain rfl := Outcome.pure_eq_ok.mp isNext
      obtain ⟨_, _, _, active, _, current⟩ := PthreadScheduler.UnblockThread_activity unblocked
      intro notCurrent
      show scheduler'.active thread = true
      rw [active]
      by_cases isJoiner' : thread = joiner
      · rw [isJoiner', update_self]
      · rw [update_of_ne isJoiner']
        exact running fun isCurrent => notCurrent (isCurrent.trans current.symm)
  obtain ⟨_, isCurrent, _⟩ := PthreadScheduler.KillThread_activity schedulerKilled
  have active : s₁.scheduler.active thread = true := by
    by_cases same : thread = s₁.scheduler.current
    · exact isCurrent same
    · exact next.2 same
  exact (next.1.kill schedulerKilled active).of_same ⟨rfl, rfl, .refl _⟩

theorem Registered.leaves {retval : ℕ} {answer : Resume} (registered : Registered c none s)
    (done : s.leave c retval answer = .ok s') : Registered c none s' := by
  obtain ⟨s₁, finished, done⟩ := Outcome.bind_eq_ok.mp done
  obtain ⟨scheduler, resumed, done⟩ := Outcome.bind_eq_ok.mp done
  obtain rfl := Outcome.pure_eq_ok.mp done
  have next := registered.finish (fun other => absurd rfl other) finished
  obtain ⟨same, _⟩ := PthreadScheduler.resume_simulation_activity resumed
  exact next.of_same ⟨waiters_setScheduler _, rfl, same⟩

theorem Registered.exit {retval : ℕ} {answer : Resume} (registered : Registered c none s)
    (called : s.pthread_exit c retval answer = .ok s') : Registered c none s' :=
  registered.perform called fun _ done => registered.leaves done

theorem Registered.testcancel {answer : Resume} (registered : Registered c none s)
    (called : s.pthread_testcancel c answer = .ok s') : Registered c none s' := by
  refine registered.perform called fun _ done => ?_
  obtain ⟨canceled, _, done⟩ := Outcome.bind_eq_ok.mp done
  split at done
  · exact registered.leaves done
  · exact Outcome.pure_eq_ok.mp done ▸ registered

theorem waiters_joinmanager_same {manager : PthreadJoinManager}
    (waits : manager.waiters = s.joinmanager.waiters) :
    (s.setJoinmanager manager).waiters = s.waiters := by
  funext place
  cases place with
  | join joinee => exact congrFun waits joinee
  | mutex => rfl
  | cond => rfl
  | barrier => rfl

/-- A thread that waits for another one has not waited before. -/
theorem Registered.join {joinee : ℕ} {answer : Resume} (registered : Registered c none s)
    (called : s.pthread_join c joinee answer = .ok s') : Registered c none s' := by
  refine registered.perform called fun _ done => ?_
  obtain ⟨canceled, _, done⟩ := Outcome.bind_eq_ok.mp done
  split at done
  · exact registered.leaves done
  · obtain ⟨joined, succeeded, done⟩ := Outcome.bind_eq_ok.mp done
    simp only at done
    obtain ⟨nobody, ⟨returns, waits, joinings⟩ | ⟨waits, idle, joinWaiters, joinings⟩⟩ :=
      PthreadJoinManager.JoinThreads_waiters succeeded
    · rw [returns] at done
      obtain rfl := Outcome.pure_eq_ok.mp done
      refine registered.of_same ⟨?_, joinings, .refl _⟩
      rw [waiters_recordJoin, waiters_joinmanager_same waits]
    · rw [waits] at done
      have waiters : ((s.setJoinmanager joined.1).recordJoin s.current joinee).waiters =
          update s.waiters (.join joinee) (s.waiters (.join joinee) ++ [s.current]) := by
        have empty : s.waiters (.join joinee) = [] := nobody
        rw [waiters_recordJoin, waiters_setJoinmanager joinWaiters, empty]
        rfl
      have joinings' : ∀ j k, joined.1.joinings j = some k ↔
          j ∈ update s.waiters (.join joinee) (s.waiters (.join joinee) ++ [s.current])
            (.join k) := by
        intro j k
        rw [joinings, mem_arrive, ← registered.joinings j k]
        by_cases same : j = s.current
        · subst same
          rw [update_self, idle]
          simp [eq_comm]
        · simp [same]
      exact registered.enter_block waiters (fun j k => waiters ▸ joinings' j k) (.refl _) done

theorem Registered.detach {thread : ℕ} (registered : Registered c none s)
    (called : s.pthread_detach thread = .ok s') : Registered c none s' := by
  refine registered.perform called fun _ done => ?_
  obtain rfl := Except.ok.inj done
  split
  · obtain ⟨waits, joinings⟩ := PthreadJoinManager.DetachThread_waiters s.joinmanager thread
    exact registered.of_same ⟨waiters_joinmanager_same waits, joinings, .refl _⟩
  · exact registered

/-! ## Cancellation -/

theorem Registered.setCancelmanager (registered : Registered c none s)
    (manager : PthreadCancelManager) : Registered c none (s.setCancelmanager manager) :=
  registered.of_same ⟨waiters_setCancelmanager manager, rfl, .refl _⟩

/-- Whether a thread is ended at once by a cancellation. -/
def endsAtOnce (s : PthreadSim) (thread : ℕ) : Bool :=
  (s.cancelmanager.pthreads thread).any fun entry => entry.enabled && entry.asynchronous

theorem Registered.cancel {thread : ℕ} (registered : Registered c none s)
    (running : thread ∈ s.scheduler.live → s.endsAtOnce thread = true →
      s.scheduler.active thread = true)
    (done : s.cancel c thread = .ok s') : Registered c none s' := by
  unfold PthreadSim.cancel at done
  split at done
  · exact Except.ok.inj done ▸ registered
  · rename_i alive
    obtain ⟨cancelled, asked, done⟩ := Outcome.bind_eq_ok.mp done
    have next := registered.setCancelmanager cancelled.1
    simp only at done
    split at done
    · rename_i atOnce
      split at done
      · cases done
      · refine next.finish (fun _ => running (not_not.mp alive) ?_) done
        unfold PthreadCancelManager.Cancel at asked
        split at asked
        · cases asked
        · rename_i entry isEntry
          rw [endsAtOnce, isEntry]
          split at asked
          · rename_i enabled
            split at asked
            · rename_i asynchronous
              simp [enabled, asynchronous]
            · obtain rfl := Except.ok.inj asked
              cases atOnce
          · obtain rfl := Except.ok.inj asked
            cases atOnce
    · exact Outcome.pure_eq_ok.mp done ▸ next

/-- No thread is ended at once by another one while it waits. -/
def SparesWaiting (s : PthreadSim) : ThreadAction → Prop
  | .cancel thread => (s.scheduler.pthread s.current).executed = true →
    thread ∈ s.scheduler.live → s.endsAtOnce thread = true → s.scheduler.active thread = true
  | .kill thread signo => (s.scheduler.pthread s.current).executed = true →
    thread ∈ s.scheduler.live → signo ≠ 0 → s.scheduler.active thread = true
  | _ => True

theorem Registered.kill_call {thread signo : ℕ} (registered : Registered c none s)
    (spares : SparesWaiting s (.kill thread signo))
    (called : s.pthread_kill c thread signo = .ok s') : Registered c none s' := by
  refine registered.perform called fun executed done => ?_
  split at done
  · rename_i ends
    obtain ⟨enabled, _, done⟩ := Outcome.bind_eq_ok.mp done
    obtain ⟨asynchronous, _, done⟩ := Outcome.bind_eq_ok.mp done
    exact (registered.setCancelmanager asynchronous).cancel
      (fun _ _ => spares executed ends.1 ends.2) done
  · exact Except.ok.inj done ▸ registered

/-! ## Runs -/

theorem Registered.initial (c : PTSConfig) (mutex : ℕ → PthreadMutex) :
    Registered c none { mutexmanager := { mutex := mutex } } where
  exclusive := by
    refine ⟨fun place => ?_, fun place _ _ waits => ?_⟩
    · cases place <;> exact List.nodup_nil
    · cases place <;> cases waits
  waiting t waits := by
    obtain ⟨place, waits⟩ := waits
    cases place <;> cases waits
  joinings joiner joinee := ⟨(fun isJoinee => nomatch isJoinee), (fun waits => nomatch waits)⟩
  counted := ⟨rfl, Nat.zero_le _⟩

theorem Registered.step {action : ThreadAction} (registered : Registered c none s)
    (stepped : s.step c action = .ok s') (spares : SparesWaiting s action) :
    Registered c none s' := by
  cases action with
  | mutex_lock m answer => exact registered.mutex_lock stepped
  | mutex_trylock m => exact registered.mutex_trylock stepped
  | mutex_unlock m => exact registered.mutex_unlock stepped
  | cond_wait cond m answer => exact registered.cond_wait stepped
  | cond_signal cond => exact registered.cond_signal stepped
  | cond_broadcast cond => exact registered.cond_broadcast stepped
  | barrier_init barrier num => exact registered.barrier_init stepped
  | barrier_destroy barrier => exact registered.barrier_destroy stepped
  | barrier_wait barrier answer => exact registered.barrier_wait stepped
  | create address joinable startctxt => exact registered.create stepped
  | exit retval answer => exact registered.exit stepped
  | join joinee answer => exact registered.join stepped
  | detach thread => exact registered.detach stepped
  | cancel thread =>
    exact registered.perform stepped fun executed done => registered.cancel (spares executed) done
  | kill thread signo => exact registered.kill_call spares stepped
  | testcancel answer => exact registered.testcancel stepped
  | setcancelstate enabled =>
    obtain ⟨manager, _, isNext⟩ := Outcome.bind_eq_ok.mp stepped
    exact Outcome.pure_eq_ok.mp isNext ▸ registered.setCancelmanager manager
  | setcanceltype asynchronous =>
    obtain ⟨manager, _, isNext⟩ := Outcome.bind_eq_ok.mp stepped
    exact Outcome.pure_eq_ok.mp isNext ▸ registered.setCancelmanager manager
  | process_ins context instr answer =>
    obtain ⟨scheduler, processed, isNext⟩ := Outcome.bind_eq_ok.mp stepped
    obtain rfl := Outcome.pure_eq_ok.mp isNext
    obtain ⟨same, _⟩ := PthreadScheduler.process_ins_activity processed
    exact registered.of_same ⟨waiters_setScheduler _, rfl, same⟩
  | docontextswitch answer =>
    change s.docontextswitch c answer = .ok s' at stepped
    unfold PthreadSim.docontextswitch at stepped
    split at stepped
    · cases stepped
    · exact registered.weaken.block stepped

/-- `nactive` counts the active threads, and whoever waits is alive and inactive. -/
structure Accounting (s : PthreadSim) : Prop where
  nactive : s.scheduler.nactive = s.scheduler.activeThreads.card
  waiting : ∀ place, ∀ t ∈ s.waiters place,
    t ∈ s.scheduler.live ∧ s.scheduler.active t = false
  joinings : ∀ joiner joinee, s.joinmanager.joinings joiner = some joinee →
    joiner ∈ s.scheduler.live ∧ s.scheduler.active joiner = false

theorem Registered.accounting (registered : Registered c none s) : Accounting s where
  nactive := registered.counted.nactive
  waiting place t waits :=
    ⟨(registered.waiting t ⟨place, waits⟩).1, registered.inactive ⟨place, waits⟩⟩
  joinings joiner joinee isJoinee := by
    have waits : Waits s.waiters joiner :=
      ⟨.join joinee, (registered.joinings joiner joinee).mp isJoinee⟩
    exact ⟨(registered.waiting joiner waits).1, registered.inactive waits⟩

open Transition

instance (s : PthreadSim) : (action : ThreadAction) → Decidable (SparesWaiting s action)
  | .cancel thread => inferInstanceAs (Decidable ((s.scheduler.pthread s.current).executed = true →
    thread ∈ s.scheduler.live → s.endsAtOnce thread = true → s.scheduler.active thread = true))
  | .kill thread signo => inferInstanceAs (Decidable
    ((s.scheduler.pthread s.current).executed = true → thread ∈ s.scheduler.live → signo ≠ 0 →
      s.scheduler.active thread = true))
  | .mutex_lock _ _ | .mutex_trylock _ | .mutex_unlock _ | .cond_wait _ _ _ | .cond_signal _
  | .cond_broadcast _ | .barrier_init _ _ | .barrier_destroy _ | .barrier_wait _ _
  | .create _ _ _ | .exit _ _ | .join _ _ | .detach _ | .testcancel _ | .setcancelstate _
  | .setcanceltype _ | .process_ins _ _ _ | .docontextswitch _ => instDecidableTrue

/-- In every run in which no thread is ended at once while it waits, the active threads are counted
    and whoever waits can be woken. -/
theorem run_accounting (c : PTSConfig) (mutex : ℕ → PthreadMutex) {actions : List ThreadAction}
    {s : PthreadSim} (run : Run (step c) (fun state action _ => SparesWaiting state action)
      { mutexmanager := { mutex := mutex } } actions s) : Accounting s := by
  have registered : Registered c none s := run.invariant (.initial c mutex)
    fun _ _ _ registered stepped spares => registered.step stepped spares
  exact registered.accounting

/-- A second thread is created and joined, so that it runs. -/
def createAndJoin : List ThreadAction :=
  [.create 100 true false, .create 101 true true, .join 1 { ret := 1 }]

/-- A thread that is active is killed. -/
theorem run_accounting_kill_active : ∃ s,
    Run (step {}) (fun state action _ => SparesWaiting state action)
      { mutexmanager := { mutex := fun _ => {} } }
      (createAndJoin ++ [.create 102 true true, .kill 2 9]) s ∧
      s.scheduler.live = {0, 1} ∧ Accounting s := by
  have executed : (execute (step {}) (fun state action _ => SparesWaiting state action)
      { mutexmanager := { mutex := fun _ => {} } }
      (createAndJoin ++ [.create 102 true true, .kill 2 9])).map
        (fun s => s.scheduler.live) = some {0, 1} := by decide +kernel
  obtain ⟨s, executed, live⟩ := Option.map_eq_some_iff.mp executed
  have run := execute_run executed
  exact ⟨s, run, live, run_accounting {} _ run⟩

/-- A thread that waits to join is killed: no active thread is counted, although one is active,
    and the thread that has ended still waits. -/
theorem run_kill_waiting : ¬ ∀ (actions : List ThreadAction) (s : PthreadSim),
    Run (step {}) (fun _ _ _ => True) {} actions s → Accounting s := by
  intro always
  have executed : (execute (step {}) (fun _ _ _ => True) {} (createAndJoin ++ [.kill 0 9])).map
      (fun s => (s.scheduler.nactive, s.scheduler.activeThreads.card)) = some (0, 1) := by
    decide +kernel
  obtain ⟨s, executed, facts⟩ := Option.map_eq_some_iff.mp executed
  obtain ⟨counted, active⟩ := Prod.mk.inj facts
  have right := (always _ s (execute_run executed)).nactive
  rw [counted, active] at right
  cases right

end PthreadSim

end ActiveRouting

import ActiveRouting.Thread.Cancellation

/-!
# Owners of mutexes

A mutex that is locked has an owner who does not wait for it, and nobody waits
for one that is not.
-/

namespace ActiveRouting

open Function WaitQueues

namespace PthreadSim

/-- `condition` is what lets a thread that waits on a condition lock its mutex again. -/
structure Locking (s : PthreadSim) : Prop where
  free : ∀ m, (s.mutexmanager.mutex m).count = 0 → s.mutexmanager.spinning m = []
  owner : ∀ m, 0 < (s.mutexmanager.mutex m).count →
    (s.mutexmanager.mutex m).owner ∉ s.mutexmanager.spinning m
  condition : ∀ cond, ∀ waiter ∈ s.condmanager.waiters cond,
    (s.mutexmanager.mutex waiter.2).kind ≠ .PTHREAD_MUTEX_RECURSIVE_NP →
    0 < (s.mutexmanager.mutex waiter.2).count → (s.mutexmanager.mutex waiter.2).owner ≠ waiter.1

/-- The thread may lock the mutex: it does not own it, unless it may own it several times. -/
def MayLock (s : PthreadSim) (thread m : ℕ) : Prop :=
  0 < (s.mutexmanager.mutex m).count → (s.mutexmanager.mutex m).owner = thread →
    (s.mutexmanager.mutex m).kind = .PTHREAD_MUTEX_RECURSIVE_NP

/-- The parts that this is about do not differ. -/
structure SameLocking (s s' : PthreadSim) : Prop where
  mutexmanager : s'.mutexmanager = s.mutexmanager
  condmanager : s'.condmanager = s.condmanager

variable {c : PTSConfig} {s s' : PthreadSim} {thread m : ℕ}

namespace SameLocking

theorem refl (s : PthreadSim) : SameLocking s s := ⟨rfl, rfl⟩

theorem trans {s₁ s₂ s₃ : PthreadSim} (first : SameLocking s₁ s₂) (second : SameLocking s₂ s₃) :
    SameLocking s₁ s₃ :=
  ⟨second.mutexmanager.trans first.mutexmanager, second.condmanager.trans first.condmanager⟩

theorem synch {islock isunlock isbarrier : Bool}
    (synched : s.synch c islock isunlock isbarrier = .ok s') : SameLocking s s' := by
  obtain ⟨_, _, scheduler, rfl⟩ := synch_same synched
  exact ⟨rfl, rfl⟩

theorem block {answer : Resume} (blocked : s.block c thread answer = .ok s') :
    SameLocking s s' := by
  obtain ⟨scheduler, _, isNext⟩ := Outcome.bind_eq_ok.mp blocked
  obtain rfl := Outcome.pure_eq_ok.mp isNext
  exact ⟨rfl, rfl⟩

theorem unblock {isbarrier : Bool} (unblocked : s.unblock c thread isbarrier = .ok s') :
    SameLocking s s' := by
  obtain ⟨scheduler, _, isNext⟩ := Outcome.bind_eq_ok.mp unblocked
  obtain rfl := Outcome.pure_eq_ok.mp isNext
  exact ⟨rfl, rfl⟩

end SameLocking

theorem Locking.of_same (locking : Locking s) (same : SameLocking s s') : Locking s' := by
  obtain ⟨mutexmanager, condmanager⟩ := same
  constructor
  · rw [mutexmanager]
    exact locking.free
  · rw [mutexmanager]
    exact locking.owner
  · rw [mutexmanager, condmanager]
    exact locking.condition

theorem Locking.perform {body : Except ThreadError PthreadSim} (locking : Locking s)
    (performed : s.perform body = .ok s')
    (performs : (s.scheduler.pthread s.current).executed = true → body = .ok s' → Locking s') :
    Locking s' := by
  obtain ⟨_, ⟨_, rfl⟩ | ⟨executed, done⟩⟩ := perform_eq performed
  · exact locking.of_same ⟨rfl, rfl⟩
  · exact performs executed done

/-! ## One mutex -/

/-- A mutex changes hands, counts or neither. -/
theorem Locking.setMutex {mutex : PthreadMutex} {queue : List ℕ} (locking : Locking s)
    (kind : mutex.kind = (s.mutexmanager.mutex m).kind) (free : mutex.count = 0 → queue = [])
    (owner : 0 < mutex.count → mutex.owner ∉ queue)
    (condition : ∀ cond, (mutex.owner, m) ∈ s.condmanager.waiters cond →
      mutex.kind ≠ .PTHREAD_MUTEX_RECURSIVE_NP → mutex.count = 0) :
    Locking (s.setMutexmanager ((s.mutexmanager.setMutex m mutex).setSpinning m queue)) where
  free m' isFree := by
    by_cases same : m' = m
    · subst same
      simp only [setMutexmanager, PthreadMutexManager.setSpinning, PthreadMutexManager.setMutex,
        update_self] at isFree ⊢
      exact free isFree
    · simp only [setMutexmanager, PthreadMutexManager.setSpinning, PthreadMutexManager.setMutex,
        update_of_ne same] at isFree ⊢
      exact locking.free m' isFree
  owner m' locked := by
    by_cases same : m' = m
    · subst same
      simp only [setMutexmanager, PthreadMutexManager.setSpinning, PthreadMutexManager.setMutex,
        update_self] at locked ⊢
      exact owner locked
    · simp only [setMutexmanager, PthreadMutexManager.setSpinning, PthreadMutexManager.setMutex,
        update_of_ne same] at locked ⊢
      exact locking.owner m' locked
  condition cond waiter waits isKind locked isOwner := by
    obtain ⟨t, m'⟩ := waiter
    by_cases same : m' = m
    · subst same
      simp only [setMutexmanager, PthreadMutexManager.setSpinning, PthreadMutexManager.setMutex,
        update_self] at isKind locked isOwner
      have unlocked := condition cond (isOwner ▸ waits) isKind
      omega
    · simp only [setMutexmanager, PthreadMutexManager.setSpinning, PthreadMutexManager.setMutex,
        update_of_ne same] at isKind locked isOwner
      exact locking.condition cond (t, m') waits isKind locked isOwner

/-- A thread that waits nowhere locks a mutex, or waits for it from then on. -/
theorem Locking.lock (trylock : Bool) (locking : Locking s) (idle : ¬ Waits s.waiters thread)
    (may : trylock = false → MayLock s thread m) :
    Locking (s.setMutexmanager (s.mutexmanager.Lock thread m trylock).1) := by
  have nowhere : ∀ cond, (thread, m) ∉ s.condmanager.waiters cond := fun cond waits =>
    idle ⟨.cond cond, List.mem_map_of_mem waits⟩
  have notSpinning : thread ∉ s.mutexmanager.spinning m := fun waits => idle ⟨.mutex m, waits⟩
  have keepsQueue : ∀ mutex, (s.mutexmanager.setMutex m mutex).setSpinning m
      (s.mutexmanager.spinning m) = s.mutexmanager.setMutex m mutex := by
    intro mutex
    simp [PthreadMutexManager.setMutex, PthreadMutexManager.setSpinning]
  rcases PthreadMutexManager.Lock_cases s.mutexmanager thread m trylock with
    ⟨free, locked⟩ | ⟨held, own, recursive, locked⟩ | ⟨held, other, result, _, locked⟩
  · rw [locked]
    simp only
    rw [← keepsQueue]
    refine locking.setMutex rfl (fun isFree => by cases isFree) (fun _ => notSpinning) ?_
    exact fun cond waits => absurd waits (nowhere cond)
  · rw [locked]
    simp only
    rw [← keepsQueue]
    refine locking.setMutex rfl (fun isFree => by cases isFree) (fun _ => locking.owner m held) ?_
    exact fun _ _ notRecursive => absurd recursive notRecursive
  · rw [locked]
    cases trylock with
    | true => exact locking
    | false =>
      have notOwner : (s.mutexmanager.mutex m).owner ≠ thread := fun own =>
        other own (may rfl held own)
      have same : s.mutexmanager.BlockThread thread m =
          (s.mutexmanager.setMutex m (s.mutexmanager.mutex m)).setSpinning m
            (s.mutexmanager.spinning m ++ [thread]) := by
        simp [PthreadMutexManager.BlockThread, PthreadMutexManager.setMutex,
          PthreadMutexManager.setSpinning]
      simp only [Bool.false_eq_true, if_false]
      rw [same]
      refine locking.setMutex rfl (fun isFree => absurd isFree held.ne') (fun _ waits => ?_) ?_
      · rcases List.mem_append.mp waits with old | new
        · exact locking.owner m held old
        · exact notOwner (List.mem_singleton.mp new)
      · exact fun cond waits notRecursive =>
          absurd rfl (locking.condition cond _ waits notRecursive held)

/-- The mutex stays with its owner, is free, or goes to the first thread that waits for it, so that
    a thread that waits nowhere does not own it any more, unless it owned it several times. -/
theorem Locking.unlocks {unlocked : (PthreadMutexManager × Option ℕ) × ℕ} (locking : Locking s)
    (registered : Registered c none s) (idle : ¬ Waits s.waiters thread)
    (succeeded : s.mutexmanager.Unlock thread m = .ok unlocked) :
    Locking (s.setMutexmanager unlocked.1.1) ∧
      ((unlocked.1.1.mutex m).kind ≠ .PTHREAD_MUTEX_RECURSIVE_NP →
        0 < (unlocked.1.1.mutex m).count → (unlocked.1.1.mutex m).owner ≠ thread) := by
  have keepsQueue : ∀ mutex, (s.mutexmanager.setMutex m mutex).setSpinning m
      (s.mutexmanager.spinning m) = s.mutexmanager.setMutex m mutex := by
    intro mutex
    simp [PthreadMutexManager.setMutex, PthreadMutexManager.setSpinning]
  rcases PthreadMutexManager.Unlock_cases succeeded with
    ⟨_, refused, isNext⟩ | ⟨recursive, again, isNext⟩ | ⟨nobody, isNext⟩ |
      ⟨first, rest, waiting, isNext⟩
  · rw [isNext]
    exact ⟨locking, fun _ held => refused.resolve_left held.ne'⟩
  · rw [isNext]
    simp only
    refine ⟨?_, fun notRecursive => ?_⟩
    · rw [← keepsQueue]
      refine locking.setMutex rfl (fun isFree => ?_) (fun _ => locking.owner m (by omega)) ?_
      · have : (s.mutexmanager.mutex m).count - 1 = 0 := isFree
        omega
      · exact fun _ _ notRecursive => absurd recursive notRecursive
    · simp only [PthreadMutexManager.setMutex, update_self] at notRecursive
      exact absurd recursive notRecursive
  · rw [isNext]
    simp only
    refine ⟨?_, fun _ held => ?_⟩
    · rw [← keepsQueue]
      exact locking.setMutex rfl (fun _ => nobody) (fun held => by cases held) fun _ _ _ => rfl
    · simp only [PthreadMutexManager.setMutex, update_self] at held
      cases held
  · rw [isNext]
    have queue : s.waiters (.mutex m) = first :: rest := waiting
    have spins : first ∈ s.waiters (.mutex m) := queue ▸ List.mem_cons_self
    have nodup : (first :: rest).Nodup := queue ▸ registered.exclusive.nodup (.mutex m)
    refine ⟨?_, fun _ _ => ?_⟩
    · refine locking.setMutex rfl (fun isFree => by cases isFree)
        (fun _ => (List.nodup_cons.mp nodup).1) fun cond waits => ?_
      have elsewhere := registered.exclusive.unique (.mutex m) (.cond cond) first spins
        (List.mem_map_of_mem waits)
      cases elsewhere
    · simp only [PthreadMutexManager.setSpinning, PthreadMutexManager.setMutex, update_self]
      exact fun same => idle ⟨.mutex m, same ▸ spins⟩

/-! ## Calls -/

theorem Locking.mutex_lock {answer : Resume} (locking : Locking s)
    (idle : ¬ Waits s.waiters s.current)
    (may : (s.scheduler.pthread s.current).executed = true → MayLock s s.current m)
    (called : s.pthread_mutex_lock c m answer = .ok s') : Locking s' := by
  refine locking.perform called fun executed done => ?_
  obtain ⟨s₁, synched, done⟩ := Outcome.bind_eq_ok.mp done
  obtain ⟨same, current, scheduler, rfl⟩ := synch_same synched
  have idle₁ : ¬ Waits (s.setScheduler scheduler).waiters s.current := same.waiters ▸ idle
  have next := (locking.of_same (.synch synched)).lock false idle₁ fun _ => may executed
  rw [current] at done
  simp only at done
  split at done
  · exact Outcome.pure_eq_ok.mp done ▸ next
  · exact next.of_same (.block done)

theorem Locking.mutex_trylock (locking : Locking s) (idle : ¬ Waits s.waiters s.current)
    (called : s.pthread_mutex_trylock m = .ok s') : Locking s' := by
  refine locking.perform called fun _ done => ?_
  obtain rfl := Outcome.pure_eq_ok.mp done
  exact locking.lock true idle nofun

/-- Afterwards the current thread does not own the mutex, unless it owned it several times. -/
theorem Locking.unlock (locking : Locking s) (registered : Registered c none s)
    (idle : ¬ Waits s.waiters s.current) (done : s.unlock c m = .ok s') :
    Locking s' ∧ ((s'.mutexmanager.mutex m).kind ≠ .PTHREAD_MUTEX_RECURSIVE_NP →
      0 < (s'.mutexmanager.mutex m).count → (s'.mutexmanager.mutex m).owner ≠ s.current) := by
  obtain ⟨s₁, synched, done⟩ := Outcome.bind_eq_ok.mp done
  obtain ⟨same, current, scheduler, rfl⟩ := synch_same synched
  obtain ⟨unlocked, succeeded, done⟩ := Outcome.bind_eq_ok.mp done
  have next := (locking.of_same (.synch synched)).unlocks (registered.of_same same)
    (by rw [same.waiters, current]; exact idle) succeeded
  rw [current] at next
  simp only at done
  split at done
  · exact Outcome.pure_eq_ok.mp done ▸ next
  · have kept := SameLocking.unblock done
    refine ⟨next.1.of_same kept, ?_⟩
    rw [kept.mutexmanager]
    exact next.2

theorem Locking.mutex_unlock (locking : Locking s) (registered : Registered c none s)
    (idle : ¬ Waits s.waiters s.current)
    (called : s.pthread_mutex_unlock c m = .ok s') : Locking s' :=
  locking.perform called fun _ done => (locking.unlock registered idle done).1

theorem Locking.cond_wait {cond : ℕ} {answer : Resume} (locking : Locking s)
    (registered : Registered c none s) (idle : ¬ Waits s.waiters s.current)
    (called : s.pthread_cond_wait c cond m answer = .ok s') : Locking s' := by
  refine locking.perform called fun _ done => ?_
  obtain ⟨s₁, unlocked, done⟩ := Outcome.bind_eq_ok.mp done
  obtain ⟨next, notOwner⟩ := locking.unlock registered idle unlocked
  refine Locking.of_same (s := s₁.setCondmanager (s₁.condmanager.AddWaiter cond s.current m)) ?_
    (.block done)
  refine ⟨next.free, next.owner, fun cond' waiter waits => ?_⟩
  rcases mem_arrive.mp waits with old | ⟨_, rfl⟩
  · exact next.condition cond' waiter old
  · exact notOwner

/-- The thread that is released does not own its mutex. -/
theorem Locking.release {cond : ℕ} (locking : Locking s) (registered : Registered c none s)
    (done : s.release c cond = .ok s') : Locking s' := by
  obtain ⟨removed, taken, done⟩ := Outcome.bind_eq_ok.mp done
  obtain ⟨rest, waiting, isNext⟩ := PthreadCondManager.RemoveWaiter_eq taken
  have waiters : (s.setCondmanager removed.1).waiters =
      update s.waiters (.cond cond) (rest.map Prod.fst) := by
    rw [isNext]
    exact waiters_setCondmanager rfl
  have first : s.waiters (.cond cond) = removed.2.1 :: rest.map Prod.fst := by
    simp [PthreadSim.waiters, waiting]
  have joinings := registered.joinings_update (notJoin_cond cond) waiters rfl
  obtain ⟨_, idle, _⟩ := registered.leave (.cond cond) first waiters joinings (.refl _)
  have may : MayLock (s.setCondmanager removed.1) removed.2.1 removed.2.2 := by
    intro held own
    by_contra notRecursive
    exact locking.condition cond removed.2 (waiting ▸ List.mem_cons_self) notRecursive held own
  have left : Locking (s.setCondmanager removed.1) := by
    refine ⟨locking.free, locking.owner, fun cond' waiter waits => ?_⟩
    rw [isNext] at waits
    rcases mem_update.mp waits with ⟨rfl, inRest⟩ | ⟨_, old⟩
    · exact locking.condition cond' waiter (waiting ▸ List.mem_cons_of_mem _ inRest)
    · exact locking.condition cond' waiter old
  have next := left.lock false idle fun _ => may
  simp only at done
  split at done
  · exact next.of_same (.unblock done)
  · exact Outcome.pure_eq_ok.mp done ▸ next

theorem Locking.cond_signal {cond : ℕ} (locking : Locking s) (registered : Registered c none s)
    (called : s.pthread_cond_signal c cond = .ok s') : Locking s' := by
  refine locking.perform called fun _ done => ?_
  split at done
  · exact locking.release registered done
  · exact Except.ok.inj done ▸ locking

theorem Locking.releaseAll {cond rounds : ℕ} (locking : Locking s)
    (registered : Registered c none s) (done : releaseAll c cond rounds s = .ok s') :
    Locking s' := by
  induction rounds generalizing s with
  | zero => exact Except.ok.inj done ▸ locking
  | succ rounds inductionHypothesis =>
    rw [PthreadSim.releaseAll] at done
    split at done
    · obtain ⟨s₁, released, done⟩ := Outcome.bind_eq_ok.mp done
      exact inductionHypothesis (locking.release registered released)
        (registered.release released) done
    · exact Except.ok.inj done ▸ locking

theorem Locking.cond_broadcast {cond : ℕ} (locking : Locking s) (registered : Registered c none s)
    (called : s.pthread_cond_broadcast c cond = .ok s') : Locking s' :=
  locking.perform called fun _ done => locking.releaseAll registered done

/-! ## Other calls -/

namespace SameLocking

theorem perform {body : Except ThreadError PthreadSim} (performed : s.perform body = .ok s')
    (performs : body = .ok s' → SameLocking s s') : SameLocking s s' := by
  obtain ⟨_, ⟨_, rfl⟩ | ⟨_, done⟩⟩ := perform_eq performed
  · exact ⟨rfl, rfl⟩
  · exact performs done

theorem passAll {barrier rounds : ℕ} (done : passAll c barrier thread rounds s = .ok s') :
    SameLocking s s' := by
  induction rounds generalizing s with
  | zero => exact Except.ok.inj done ▸ .refl s
  | succ rounds inductionHypothesis =>
    rw [PthreadSim.passAll] at done
    obtain ⟨more, _, done⟩ := Outcome.bind_eq_ok.mp done
    split at done
    · obtain ⟨s₁, passed, done⟩ := Outcome.bind_eq_ok.mp done
      obtain ⟨removed, _, passed⟩ := Outcome.bind_eq_ok.mp passed
      have first : SameLocking s (s.setBarriermanager removed.1) := ⟨rfl, rfl⟩
      simp only at passed
      split at passed
      · exact (first.trans (.unblock passed)).trans (inductionHypothesis done)
      · exact (first.trans (.synch passed)).trans (inductionHypothesis done)
    · exact Outcome.pure_eq_ok.mp done ▸ .refl s

theorem barrier_wait {barrier : ℕ} {answer : Resume}
    (called : s.pthread_barrier_wait c barrier answer = .ok s') : SameLocking s s' := by
  refine .perform called fun done => ?_
  obtain ⟨added, _, done⟩ := Outcome.bind_eq_ok.mp done
  have first : SameLocking s (s.setBarriermanager added.1) := ⟨rfl, rfl⟩
  simp only at done
  split at done
  · exact first.trans (.passAll done)
  · exact first.trans (.block done)

theorem leaves {retval : ℕ} {answer : Resume} (done : s.leave c retval answer = .ok s') :
    SameLocking s s' := by
  obtain ⟨s₁, finished, done⟩ := Outcome.bind_eq_ok.mp done
  obtain ⟨scheduler, _, done⟩ := Outcome.bind_eq_ok.mp done
  obtain rfl := Outcome.pure_eq_ok.mp done
  obtain ⟨killed, _, finished⟩ := Outcome.bind_eq_ok.mp finished
  obtain ⟨s₂, woken, finished⟩ := Outcome.bind_eq_ok.mp finished
  obtain ⟨cancelmanager, _, finished⟩ := Outcome.bind_eq_ok.mp finished
  obtain ⟨scheduler', _, finished⟩ := Outcome.bind_eq_ok.mp finished
  obtain rfl := Outcome.pure_eq_ok.mp finished
  have first : SameLocking s ((s.setJoinmanager killed.1).recordExit s.current retval) := ⟨rfl, rfl⟩
  have second : SameLocking ((s.setJoinmanager killed.1).recordExit s.current retval) s₂ := by
    cases isJoiner : killed.2 with
    | none =>
      rw [isJoiner] at woken
      exact Except.ok.inj woken ▸ .refl _
    | some joiner =>
      rw [isJoiner] at woken
      exact .unblock woken
  exact (first.trans second).trans ⟨rfl, rfl⟩

theorem join {joinee : ℕ} {answer : Resume}
    (called : s.pthread_join c joinee answer = .ok s') : SameLocking s s' := by
  refine .perform called fun done => ?_
  obtain ⟨canceled, _, done⟩ := Outcome.bind_eq_ok.mp done
  split at done
  · exact .leaves done
  · obtain ⟨joined, _, done⟩ := Outcome.bind_eq_ok.mp done
    have first : SameLocking s ((s.setJoinmanager joined.1).recordJoin s.current joinee) :=
      ⟨rfl, rfl⟩
    simp only at done
    split at done
    · exact first.trans (.block done)
    · exact Outcome.pure_eq_ok.mp done ▸ first

theorem create {address : ℕ} {joinable startctxt : Bool}
    (created : s.pthread_create c address joinable startctxt = .ok s') : SameLocking s s' := by
  obtain ⟨scheduler, _, created⟩ := Outcome.bind_eq_ok.mp created
  obtain ⟨joinmanager, _, created⟩ := Outcome.bind_eq_ok.mp created
  obtain ⟨cancelmanager, _, created⟩ := Outcome.bind_eq_ok.mp created
  obtain rfl := Outcome.pure_eq_ok.mp created
  exact ⟨rfl, rfl⟩

end SameLocking

end PthreadSim

end ActiveRouting

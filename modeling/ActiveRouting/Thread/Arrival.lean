import ActiveRouting.Thread.Blocking

/-!
# Arrival at barriers

The threads that wait at a barrier go on when the last one arrives, and at no
other time.
-/

namespace ActiveRouting

open Function WaitQueues

namespace PthreadSim

/-- Fewer threads wait at a barrier than take part. -/
def Gathering (s : PthreadSim) : Prop :=
  ∀ barrier entry, s.barriermanager.barriers barrier = some entry →
    entry.waiters.length < entry.num_participants

/-- The current thread arrives at a barrier. -/
def Arrives (s : PthreadSim) (barrier : ℕ) : ThreadAction → Prop
  | .barrier_wait barrier' _ => barrier' = barrier ∧
    (s.scheduler.pthread s.current).executed = true
  | _ => False

/-- What a step does to the threads that wait at barriers. -/
structure BarrierRule (s : PthreadSim) (action : ThreadAction) (s' : PthreadSim) : Prop where
  /-- The last thread does not wait, and all others go on; the barrier is as before the first. -/
  last : ∀ barrier num waiters, Arrives s barrier action →
    s.barriermanager.barriers barrier = some ⟨num, waiters⟩ → waiters.length + 1 = num →
    s'.barriermanager.barriers barrier = some ⟨num, []⟩ ∧ s'.current = s.current ∧
      ∀ t, s'.scheduler.active t = (s.scheduler.active t || decide (t ∈ waiters))
  /-- A thread that arrives before the last one is blocked, and the others stay. -/
  early : ∀ barrier num waiters, Arrives s barrier action →
    s.barriermanager.barriers barrier = some ⟨num, waiters⟩ → waiters.length + 1 ≠ num →
    s'.barriermanager.barriers barrier = some ⟨num, waiters ++ [s.current]⟩ ∧
      s'.scheduler.active = update s.scheduler.active s.current false
  /-- Otherwise the threads that wait stay. -/
  stay : ∀ barrier num waiters, ¬ Arrives s barrier action → waiters ≠ [] →
    s.barriermanager.barriers barrier = some ⟨num, waiters⟩ →
    s'.barriermanager.barriers barrier = some ⟨num, waiters⟩

variable {c : PTSConfig} {s s' : PthreadSim} {thread m : ℕ}

/-- No barrier is concerned. -/
def SameBarriers (s s' : PthreadSim) : Prop := s'.barriermanager = s.barriermanager

namespace SameBarriers

theorem refl (s : PthreadSim) : SameBarriers s s := rfl

theorem trans {s₁ s₂ s₃ : PthreadSim} (first : SameBarriers s₁ s₂) (second : SameBarriers s₂ s₃) :
    SameBarriers s₁ s₃ := Eq.trans second first

theorem synch {islock isunlock isbarrier : Bool}
    (synched : s.synch c islock isunlock isbarrier = .ok s') : SameBarriers s s' := by
  obtain ⟨_, _, scheduler, rfl⟩ := synch_same synched
  rfl

theorem block {answer : Resume} (blocked : s.block c thread answer = .ok s') :
    SameBarriers s s' := by
  obtain ⟨scheduler, _, isNext⟩ := Outcome.bind_eq_ok.mp blocked
  obtain rfl := Outcome.pure_eq_ok.mp isNext
  rfl

theorem unblock {isbarrier : Bool} (unblocked : s.unblock c thread isbarrier = .ok s') :
    SameBarriers s s' := by
  obtain ⟨scheduler, _, isNext⟩ := Outcome.bind_eq_ok.mp unblocked
  obtain rfl := Outcome.pure_eq_ok.mp isNext
  rfl

theorem perform {body : Except ThreadError PthreadSim} (performed : s.perform body = .ok s')
    (performs : body = .ok s' → SameBarriers s s') : SameBarriers s s' := by
  obtain ⟨_, ⟨_, rfl⟩ | ⟨_, done⟩⟩ := perform_eq performed
  · rfl
  · exact performs done

theorem mutex_lock {answer : Resume} (called : s.pthread_mutex_lock c m answer = .ok s') :
    SameBarriers s s' := by
  refine .perform called fun done => ?_
  obtain ⟨s₁, synched, done⟩ := Outcome.bind_eq_ok.mp done
  have first := SameBarriers.synch synched
  simp only at done
  split at done
  · exact Outcome.pure_eq_ok.mp done ▸ first
  · have second := SameBarriers.block done
    exact Eq.trans second first

theorem mutex_trylock (called : s.pthread_mutex_trylock m = .ok s') : SameBarriers s s' := by
  refine .perform called fun done => ?_
  obtain rfl := Outcome.pure_eq_ok.mp done
  rfl

theorem unlock (done : s.unlock c m = .ok s') : SameBarriers s s' := by
  obtain ⟨s₁, synched, done⟩ := Outcome.bind_eq_ok.mp done
  obtain ⟨unlocked, _, done⟩ := Outcome.bind_eq_ok.mp done
  have first := SameBarriers.synch synched
  simp only at done
  split at done
  · exact Outcome.pure_eq_ok.mp done ▸ first
  · have second := SameBarriers.unblock done
    exact Eq.trans second first

theorem cond_wait {cond : ℕ} {answer : Resume}
    (called : s.pthread_cond_wait c cond m answer = .ok s') : SameBarriers s s' := by
  refine .perform called fun done => ?_
  obtain ⟨s₁, unlocked, done⟩ := Outcome.bind_eq_ok.mp done
  have first := SameBarriers.unlock unlocked
  have second := SameBarriers.block done
  exact Eq.trans second first

theorem release {cond : ℕ} (done : s.release c cond = .ok s') : SameBarriers s s' := by
  obtain ⟨removed, _, done⟩ := Outcome.bind_eq_ok.mp done
  simp only at done
  split at done
  · have unblocked := SameBarriers.unblock done
    exact unblocked
  · exact Outcome.pure_eq_ok.mp done ▸ rfl

theorem releaseAll {cond rounds : ℕ} (done : releaseAll c cond rounds s = .ok s') :
    SameBarriers s s' := by
  induction rounds generalizing s with
  | zero => exact Except.ok.inj done ▸ .refl s
  | succ rounds inductionHypothesis =>
    rw [PthreadSim.releaseAll] at done
    split at done
    · obtain ⟨s₁, released, done⟩ := Outcome.bind_eq_ok.mp done
      exact (SameBarriers.release released).trans (inductionHypothesis done)
    · exact Except.ok.inj done ▸ .refl s

theorem leaves {retval : ℕ} {answer : Resume} (done : s.leave c retval answer = .ok s') :
    SameBarriers s s' := by
  obtain ⟨s₁, finished, done⟩ := Outcome.bind_eq_ok.mp done
  obtain ⟨scheduler, _, done⟩ := Outcome.bind_eq_ok.mp done
  obtain rfl := Outcome.pure_eq_ok.mp done
  obtain ⟨killed, _, finished⟩ := Outcome.bind_eq_ok.mp finished
  obtain ⟨s₂, woken, finished⟩ := Outcome.bind_eq_ok.mp finished
  obtain ⟨cancelmanager, _, finished⟩ := Outcome.bind_eq_ok.mp finished
  obtain ⟨scheduler', _, finished⟩ := Outcome.bind_eq_ok.mp finished
  obtain rfl := Outcome.pure_eq_ok.mp finished
  show s₂.barriermanager = s.barriermanager
  cases isJoiner : killed.2 with
  | none =>
    rw [isJoiner] at woken
    exact Except.ok.inj woken ▸ rfl
  | some joiner =>
    rw [isJoiner] at woken
    have unblocked := SameBarriers.unblock woken
    exact unblocked

theorem join {joinee : ℕ} {answer : Resume}
    (called : s.pthread_join c joinee answer = .ok s') : SameBarriers s s' := by
  refine .perform called fun done => ?_
  obtain ⟨canceled, _, done⟩ := Outcome.bind_eq_ok.mp done
  split at done
  · exact .leaves done
  · obtain ⟨joined, _, done⟩ := Outcome.bind_eq_ok.mp done
    simp only at done
    split at done
    · have blocked := SameBarriers.block done
      exact blocked
    · exact Outcome.pure_eq_ok.mp done ▸ rfl

theorem create {address : ℕ} {joinable startctxt : Bool}
    (created : s.pthread_create c address joinable startctxt = .ok s') : SameBarriers s s' := by
  obtain ⟨scheduler, _, created⟩ := Outcome.bind_eq_ok.mp created
  obtain ⟨joinmanager, _, created⟩ := Outcome.bind_eq_ok.mp created
  obtain ⟨cancelmanager, _, created⟩ := Outcome.bind_eq_ok.mp created
  obtain rfl := Outcome.pure_eq_ok.mp created
  rfl

theorem gathering (same : SameBarriers s s') (gathering : Gathering s) : Gathering s' := by
  unfold Gathering
  rw [show s'.barriermanager = s.barriermanager from same]
  exact gathering

/-- Nobody arrives where barriers do not change. -/
theorem rule {action : ThreadAction} (same : SameBarriers s s')
    (nobody : ∀ barrier, ¬ Arrives s barrier action) : BarrierRule s action s' where
  last barrier _ _ arrives := absurd arrives (nobody barrier)
  early barrier _ _ arrives := absurd arrives (nobody barrier)
  stay _ _ _ _ _ isEntry := by
    rw [show s'.barriermanager = s.barriermanager from same]
    exact isEntry

end SameBarriers

/-! ## Barriers -/

theorem setBarrier_some {manager : PthreadBarrierManager} {barrier barrier' : ℕ}
    {entry entry' : PthreadBarrierWaiters}
    (isEntry : (manager.setBarrier barrier (some entry)).barriers barrier' = some entry') :
    barrier' = barrier ∧ entry' = entry ∨
      barrier' ≠ barrier ∧ manager.barriers barrier' = some entry' := by
  by_cases same : barrier' = barrier
  · subst same
    have isSame := isEntry
    simp only [PthreadBarrierManager.setBarrier, update_self, Option.some.injEq] at isSame
    exact .inl ⟨rfl, isSame.symm⟩
  · simp only [PthreadBarrierManager.setBarrier, update_of_ne same] at isEntry
    exact .inr ⟨same, isEntry⟩

theorem Gathering.setBarrier {s₁ : PthreadSim} {barrier : ℕ} {entry : PthreadBarrierWaiters}
    (gathering : Gathering s) (fewer : entry.waiters.length < entry.num_participants)
    (isNext : s₁.barriermanager = s.barriermanager.setBarrier barrier (some entry)) :
    Gathering s₁ := by
  intro barrier' entry' isEntry
  rw [isNext] at isEntry
  rcases setBarrier_some isEntry with ⟨_, rfl⟩ | ⟨_, old⟩
  · exact fewer
  · exact gathering barrier' entry' old

/-- A barrier is set up while nobody waits at it. -/
theorem Gathering.barrier_init {barrier num : ℕ} (gathering : Gathering s)
    (allowed : (s.scheduler.pthread s.current).executed = true →
      0 < num ∧ s.waiters (.barrier barrier) = [])
    (called : s.pthread_barrier_init barrier num = .ok s') :
    Gathering s' ∧ BarrierRule s (.barrier_init barrier num) s' := by
  obtain ⟨_, ⟨_, rfl⟩ | ⟨executed, done⟩⟩ := perform_eq called
  · exact ⟨gathering, SameBarriers.rule rfl fun _ => not_false⟩
  · obtain rfl := Except.ok.inj done
    obtain ⟨positive, empty⟩ := allowed executed
    have fewer : (PthreadBarrierWaiters.mk num []).waiters.length <
        (PthreadBarrierWaiters.mk num []).num_participants := positive
    refine ⟨gathering.setBarrier fewer rfl, ?_⟩
    refine ⟨fun _ _ _ arrives => arrives.elim, fun _ _ _ arrives => arrives.elim, ?_⟩
    intro barrier' num' waiters _ waits isEntry
    have other : barrier' ≠ barrier := by
      rintro rfl
      apply waits
      simpa [PthreadSim.waiters, PthreadBarrierManager.waiters, isEntry] using empty
    show update s.barriermanager.barriers barrier _ barrier' = _
    rw [update_of_ne other]
    exact isEntry

theorem Gathering.barrier_wait {barrier : ℕ} {answer : Resume} (gathering : Gathering s)
    (orderly : Orderly c none s) (registered : Registered c none s)
    (called : s.pthread_barrier_wait c barrier answer = .ok s') :
    Gathering s' ∧ BarrierRule s (.barrier_wait barrier answer) s' := by
  obtain ⟨alive, ⟨skipped, rfl⟩ | ⟨executed, _⟩⟩ := perform_eq called
  · refine ⟨gathering, SameBarriers.rule rfl fun _ arrives => ?_⟩
    cases skipped.symm.trans arrives.2
  · obtain ⟨num, waiters, isEntry, kind⟩ := barrier_wait_eq called executed
    have known : ∀ {num' waiters'}, s.barriermanager.barriers barrier = some ⟨num', waiters'⟩ →
        num' = num ∧ waiters' = waiters := by
      intro num' waiters' isEntry'
      have same := Option.some.inj (isEntry'.symm.trans isEntry)
      exact PthreadBarrierWaiters.mk.inj same
    have elsewhere : ∀ {entry}, s'.barriermanager = s.barriermanager.setBarrier barrier entry →
        ∀ barrier' num' waiters', ¬ Arrives s barrier' (.barrier_wait barrier answer) →
          waiters' ≠ [] → s.barriermanager.barriers barrier' = some ⟨num', waiters'⟩ →
          s'.barriermanager.barriers barrier' = some ⟨num', waiters'⟩ := by
      intro entry isNext barrier' num' waiters' apart _ isEntry'
      have other : barrier' ≠ barrier := fun same => apart ⟨same.symm, executed⟩
      rw [isNext]
      show update s.barriermanager.barriers barrier _ barrier' = _
      rw [update_of_ne other]
      exact isEntry'
    rcases kind with ⟨isLast, scheduler, wakes, rfl⟩ | ⟨isEarly, blocked⟩
    · obtain ⟨_, current, woken, others, active⟩ := wakes.activity
      refine ⟨gathering.setBarrier (isLast ▸ Nat.succ_pos _) rfl, ?_, ?_, elsewhere rfl⟩
      · rintro barrier' num' waiters' ⟨rfl, _⟩ isEntry' _
        obtain ⟨rfl, rfl⟩ := known isEntry'
        refine ⟨update_self _ _ _, current, fun t => ?_⟩
        show scheduler.active t = _
        by_cases waits : t ∈ waiters'
        · have notCurrent : t ≠ s.current := by
            rintro rfl
            refine orderly.idle registered alive ⟨.barrier barrier, ?_⟩
            simpa [PthreadSim.waiters, PthreadBarrierManager.waiters, isEntry] using waits
          rw [woken t (List.mem_append_left _ waits) notCurrent, decide_eq_true waits, Bool.or_true]
        · have apart : t ∉ waiters' ++ [s.current] ∨ t = s.current := by
            by_cases isCurrent : t = s.current
            · exact .inr isCurrent
            · exact .inl fun isIn => (List.mem_append.mp isIn).elim waits fun isThread =>
                isCurrent (List.mem_singleton.mp isThread)
          rw [others t apart, decide_eq_false waits, Bool.or_false]
      · rintro barrier' num' waiters' ⟨rfl, _⟩ isEntry' notLast
        obtain ⟨rfl, rfl⟩ := known isEntry'
        exact absurd isLast notLast
    · have same := SameBarriers.block blocked
      have isNext : s'.barriermanager = s.barriermanager.setBarrier barrier
          (some ⟨num, waiters ++ [s.current]⟩) := same
      have fewer := gathering barrier _ isEntry
      refine ⟨gathering.setBarrier ?_ isNext, ?_, ?_, elsewhere isNext⟩
      · simp only [List.length_append, List.length_singleton] at fewer ⊢
        omega
      · rintro barrier' num' waiters' ⟨rfl, _⟩ isEntry' isLast
        obtain ⟨rfl, rfl⟩ := known isEntry'
        exact absurd isLast isEarly
      · rintro barrier' num' waiters' ⟨rfl, _⟩ isEntry' _
        obtain ⟨rfl, rfl⟩ := known isEntry'
        rw [isNext]
        refine ⟨update_self _ _ _, ?_⟩
        obtain ⟨scheduler, byScheduler, isNext'⟩ := Outcome.bind_eq_ok.mp blocked
        obtain rfl := Outcome.pure_eq_ok.mp isNext'
        obtain ⟨_, _, _, _, active, _⟩ := PthreadScheduler.BlockThread_activity byScheduler
        exact active

end PthreadSim

end ActiveRouting

import ActiveRouting.Thread.Arrival

/-!
# Runs of threads that block

What holds in every state of a run while each new thread gets a hardware thread
of its own, and what goes wrong otherwise.
-/

namespace ActiveRouting

open Function WaitQueues Transition

namespace PthreadSim

/-- The current thread owns a mutex. -/
def Owns (s : PthreadSim) (m : ℕ) : Prop :=
  0 < (s.mutexmanager.mutex m).count ∧ (s.mutexmanager.mutex m).owner = s.current

/-- What the program promises where a call is not made again: no mutex is locked twice that does
    not count, only the owner unlocks or waits with a mutex, a barrier is set up for some threads
    while none waits, and nothing is detached or cancelled. -/
def Disciplined (s : PthreadSim) : ThreadAction → Prop
  | .mutex_lock m _ => (s.scheduler.pthread s.current).executed = true → MayLock s s.current m
  | .mutex_unlock m | .cond_wait _ m _ =>
    (s.scheduler.pthread s.current).executed = true → Owns s m
  | .barrier_init barrier num => (s.scheduler.pthread s.current).executed = true →
    0 < num ∧ s.waiters (.barrier barrier) = []
  -- the object of a new thread is none of those in use
  | .create address _ _ => ∀ t ∈ s.scheduler.live, (s.scheduler.pthread t).address ≠ address
  | .mutex_trylock _ | .cond_signal _ | .cond_broadcast _ | .barrier_wait _ _ | .exit _ _
  | .join _ _ | .process_ins _ _ _ => True
  | .barrier_destroy _ | .detach _ | .cancel _ | .kill _ _ | .testcancel _ | .setcancelstate _
  | .setcanceltype _ | .docontextswitch _ => False

/-- The hardware thread that a new thread gets is free. -/
def FindsFree (s : PthreadSim) : ThreadAction → Prop
  | .create _ _ _ => ∀ t ∈ s.scheduler.live, s.scheduler.hthread t ≠ s.scheduler.live.card
  | _ => True

/-- The returns of a call to join. -/
def returns (s : PthreadSim) (call : ℕ × ℕ) : List (ℕ × ℕ × ℕ) :=
  s.joinmanager.returned.filter fun r => (r.1, r.2.1) = call

/-- The bookkeeping of threads that block. -/
structure Bookkeeping (s : PthreadSim) : Prop where
  inactive : ∀ t ∈ s.scheduler.live, s.scheduler.active t = false → ∃! place, t ∈ s.waiters place
  once : ∀ place, (s.waiters place).Nodup
  active : ∀ place, ∀ t ∈ s.waiters place, t ∈ s.scheduler.live ∧ s.scheduler.active t = false
  unlocked : ∀ m, (s.mutexmanager.mutex m).count = 0 → s.waiters (.mutex m) = []
  owner : ∀ m, 0 < (s.mutexmanager.mutex m).count →
    (s.mutexmanager.mutex m).owner ∉ s.waiters (.mutex m)
  gathering : Gathering s
  /-- Nobody is joined twice. -/
  joinedOnce : (s.joins.map Prod.snd).Nodup
  /-- A call to join waits for a thread that has not ended, or has returned its value. -/
  joins : ∀ call ∈ s.joins,
    s.joinmanager.joinings call.1 = some call.2 ∧ call.2 ∈ s.scheduler.live ∧ s.returns call = [] ∨
      s.joinmanager.joinings call.1 ≠ some call.2 ∧
        ∃ value, (call.2, value) ∈ s.exits ∧ s.returns call = [(call.1, call.2, value)]
  called : ∀ r ∈ s.joinmanager.returned, (r.1, r.2.1) ∈ s.joins
  exitedOnce : (s.exits.map Prod.fst).Nodup

/-- What carries the bookkeeping. -/
structure Kept (c : PTSConfig) (s : PthreadSim) : Prop where
  registered : Registered c none s
  orderly : Orderly c none s
  locking : Locking s
  gathering : Gathering s
  joining : Joining s

variable {c : PTSConfig} {s s' : PthreadSim} {action : ThreadAction}

theorem length_returns (s : PthreadSim) (joiner joinee : ℕ) :
    (s.returns (joiner, joinee)).length = s.answers joiner joinee := by
  unfold returns answers
  rw [← List.countP_eq_length_filter, List.count, List.countP_map]
  refine List.countP_congr fun r _ => ?_
  simp

/-- A thread that is waited for has not ended. -/
theorem Kept.joinee_alive {joiner joinee : ℕ} (kept : Kept c s)
    (waits : s.joinmanager.joinings joiner = some joinee) : joinee ∈ s.scheduler.live := by
  have inQueue : joiner ∈ s.joinmanager.waiters joinee :=
    (kept.registered.joinings joiner joinee).mp waits
  unfold PthreadJoinManager.waiters at inQueue
  cases isEntry : s.joinmanager.joinables joinee with
  | none =>
    rw [isEntry] at inQueue
    cases inQueue
  | some entry =>
    rw [isEntry, Option.elim_some] at inQueue
    have joined : entry.joined = true := by
      by_contra free
      rw [if_neg free] at inQueue
      cases inQueue
    cases isDone : entry.done with
    | false => exact kept.joining.runs joinee entry isEntry isDone
    | true =>
      have free := (kept.joining.done joinee entry isEntry isDone).1
      cases joined.symm.trans free

theorem Kept.call {call : ℕ × ℕ} (kept : Kept c s) (isCall : call ∈ s.joins) :
    s.joinmanager.joinings call.1 = some call.2 ∧ call.2 ∈ s.scheduler.live ∧ s.returns call = [] ∨
      s.joinmanager.joinings call.1 ≠ some call.2 ∧
        ∃ value, (call.2, value) ∈ s.exits ∧ s.returns call = [(call.1, call.2, value)] := by
  obtain ⟨joiner, joinee⟩ := call
  have nodup : s.joins.Nodup := List.Nodup.of_map Prod.snd kept.joining.joinedOnce
  have counted := kept.joining.counted joiner joinee
  rw [List.count_eq_one_of_mem nodup isCall, ← length_returns] at counted
  by_cases waits : s.joinmanager.joinings joiner = some joinee
  · rw [if_pos waits] at counted
    exact .inl ⟨waits, kept.joinee_alive waits, List.length_eq_zero_iff.mp (by omega)⟩
  · rw [if_neg waits] at counted
    obtain ⟨r, isReturn⟩ := List.length_eq_one_iff.mp counted.symm
    have member : r ∈ s.returns (joiner, joinee) := isReturn ▸ List.mem_singleton_self r
    obtain ⟨isReturned, isCall'⟩ := List.mem_filter.mp member
    obtain ⟨rfl, rfl⟩ := Prod.mk.inj (of_decide_eq_true isCall')
    exact .inr ⟨waits, r.2.2, kept.joining.values r isReturned, isReturn⟩

theorem Kept.bookkeeping (kept : Kept c s) : Bookkeeping s where
  inactive t alive inactive := by
    obtain ⟨place, waits⟩ := (kept.orderly.settled t alive inactive).resolve_right nofun
    exact ⟨place, waits, fun place' waits' =>
      kept.registered.exclusive.unique place' place t waits' waits⟩
  once := kept.registered.exclusive.nodup
  active place t waits := ⟨(kept.registered.waiting t ⟨place, waits⟩).1,
    kept.registered.inactive ⟨place, waits⟩⟩
  unlocked := kept.locking.free
  owner := kept.locking.owner
  gathering := kept.gathering
  joinedOnce := kept.joining.joinedOnce
  joins _ isCall := kept.call isCall
  called r isReturned := by
    have member : r ∈ s.returns (r.1, r.2.1) :=
      List.mem_filter.mpr ⟨isReturned, decide_eq_true rfl⟩
    have positive := List.length_pos_of_mem member
    rw [length_returns] at positive
    have counted := kept.joining.counted r.1 r.2.1
    exact List.count_pos_iff.mp (by omega)
  exitedOnce := kept.joining.exitedOnce

/-! ## Steps -/

theorem Kept.initial (c : PTSConfig) (kind : ℕ → MutexKind) :
    Kept c { mutexmanager := { mutex := fun m => { kind := kind m } } } where
  registered := .initial c _
  orderly := ⟨.initial c, .inl rfl, (fun _ alive => nomatch alive)⟩
  locking :=
    ⟨fun _ _ => rfl, (fun _ held => nomatch held), (fun _ _ waits => nomatch waits)⟩
  gathering _ _ isEntry := nomatch isEntry
  joining := by
    constructor
    case named => exact fun _ alive => nomatch alive
    case exited => exact fun _ isExit => nomatch isExit
    case exitedOnce => exact List.nodup_nil
    case joined => exact fun _ isCall => nomatch isCall
    case joinedOnce => exact List.nodup_nil
    case known => exact fun _ _ isEntry => nomatch isEntry
    case free => exact fun _ _ isEntry => nomatch isEntry
    case done => exact fun _ _ isEntry => nomatch isEntry
    case runs => exact fun _ _ isEntry => nomatch isEntry
    case counted => exact fun _ _ => rfl
    case values => exact fun _ isReturned => nomatch isReturned

/-- A step that is no arrival at a barrier and sets none up. -/
theorem Kept.apart (kept : Kept c s) (registered : Registered c none s')
    (orderly : Orderly c none s') (locking : Locking s') (joining : Joining s')
    (barriers : SameBarriers s s') (nobody : ∀ barrier, ¬ Arrives s barrier action) :
    Kept c s' ∧ BarrierRule s action s' :=
  ⟨⟨registered, orderly, locking, barriers.gathering kept.gathering, joining⟩,
    barriers.rule nobody⟩

theorem Kept.step (kept : Kept c s) (stepped : s.step c action = .ok s')
    (disciplined : Disciplined s action) (free : FindsFree s action) :
    Kept c s' ∧ BarrierRule s action s' := by
  obtain ⟨registered, orderly, locking, gathering, joining⟩ := id kept
  have idle : ∀ {body : Except ThreadError PthreadSim}, s.perform body = .ok s' →
      ¬ Waits s.waiters s.current := fun performed =>
    orderly.idle registered (perform_eq performed).1
  cases action with
  | mutex_lock m answer =>
    exact kept.apart (registered.mutex_lock stepped) (orderly.mutex_lock stepped)
      (locking.mutex_lock (idle stepped) disciplined stepped)
      (joining.of_same (.mutex_lock stepped)) (.mutex_lock stepped) fun _ => not_false
  | mutex_trylock m =>
    have same : SameJoining s s' := .perform stepped fun done =>
      Outcome.pure_eq_ok.mp done ▸ .setMutexmanager _
    exact kept.apart (registered.mutex_trylock stepped) (orderly.mutex_trylock stepped)
      (locking.mutex_trylock (idle stepped) stepped) (joining.of_same same)
      (.mutex_trylock stepped) fun _ => not_false
  | mutex_unlock m =>
    have orderly' : Orderly c none s' := orderly.perform stepped fun _ _ done => orderly.unlock done
    exact kept.apart (registered.mutex_unlock stepped) orderly'
      (locking.mutex_unlock registered (idle stepped) stepped)
      (joining.of_same (.perform stepped .unlock)) (.perform stepped .unlock) fun _ => not_false
  | cond_wait cond m answer =>
    exact kept.apart (registered.cond_wait stepped) (orderly.cond_wait stepped)
      (locking.cond_wait registered (idle stepped) stepped)
      (joining.of_same (.cond_wait stepped)) (.cond_wait stepped) fun _ => not_false
  | cond_signal cond =>
    have same : SameJoining s s' := .perform stepped fun done => by
      split at done
      · exact .release done
      · exact Except.ok.inj done ▸ .refl s
    have barriers : SameBarriers s s' := .perform stepped fun done => by
      split at done
      · exact .release done
      · exact Except.ok.inj done ▸ .refl s
    exact kept.apart (registered.cond_signal stepped) (orderly.cond_signal stepped)
      (locking.cond_signal registered stepped) (joining.of_same same) barriers fun _ => not_false
  | cond_broadcast cond =>
    exact kept.apart (registered.cond_broadcast stepped) (orderly.cond_broadcast stepped)
      (locking.cond_broadcast registered stepped)
      (joining.of_same (.perform stepped .releaseAll)) (.perform stepped .releaseAll)
      fun _ => not_false
  | barrier_init barrier num =>
    have empty := fun executed => (disciplined executed).2
    obtain ⟨gathering', rule⟩ := gathering.barrier_init disciplined stepped
    have joins : SameJoining s s' := .perform stepped fun done =>
      Except.ok.inj done ▸ .setBarriermanager _
    have locks : SameLocking s s' := .perform stepped fun done => Except.ok.inj done ▸ ⟨rfl, rfl⟩
    exact ⟨⟨registered.barrier_init stepped, orderly.barrier_init empty stepped,
      locking.of_same locks, gathering', joining.of_same joins⟩, rule⟩
  | barrier_wait barrier answer =>
    obtain ⟨gathering', rule⟩ := gathering.barrier_wait orderly registered stepped
    exact ⟨⟨registered.barrier_wait stepped, orderly.barrier_wait stepped,
      locking.of_same (.barrier_wait stepped), gathering',
      joining.of_same (.barrier_wait stepped)⟩, rule⟩
  | create address joinable startctxt =>
    exact kept.apart (registered.create stepped) (orderly.create disciplined free stepped)
      (locking.of_same (.create stepped)) (joining.create stepped) (.create stepped)
      fun _ => not_false
  | exit retval answer =>
    have orderly' : Orderly c none s' := orderly.perform stepped fun _ _ done => orderly.leaves done
    exact kept.apart (registered.exit stepped) orderly'
      (locking.of_same (.perform stepped .leaves)) (joining.exit stepped)
      (.perform stepped .leaves) fun _ => not_false
  | join joinee answer =>
    exact kept.apart (registered.join stepped) (orderly.join stepped)
      (locking.of_same (.join stepped)) (joining.join stepped) (.join stepped) fun _ => not_false
  | process_ins context instr answer =>
    obtain ⟨scheduler, processed, isNext⟩ := Outcome.bind_eq_ok.mp stepped
    have same := (PthreadScheduler.process_ins_activity processed).1
    have registered' : Registered c none s' := registered.step stepped trivial
    have orderly' : Orderly c none s' := orderly.process_ins stepped
    obtain rfl := Outcome.pure_eq_ok.mp isNext
    exact kept.apart registered' orderly' (locking.of_same ⟨rfl, rfl⟩)
      (joining.of_same (.setScheduler same.live)) rfl fun _ => not_false
  | barrier_destroy | detach | cancel | kill | testcancel | setcancelstate | setcanceltype
  | docontextswitch => exact disciplined.elim

/-! ## Runs -/

instance (s : PthreadSim) (thread m : ℕ) : Decidable (MayLock s thread m) :=
  inferInstanceAs (Decidable (_ → _ → _))

instance (s : PthreadSim) (m : ℕ) : Decidable (Owns s m) := inferInstanceAs (Decidable (_ ∧ _))

instance (s : PthreadSim) : (action : ThreadAction) → Decidable (Disciplined s action)
  | .mutex_lock m _ => inferInstanceAs (Decidable (_ → MayLock s s.current m))
  | .mutex_unlock m | .cond_wait _ m _ => inferInstanceAs (Decidable (_ → Owns s m))
  | .barrier_init _ _ => inferInstanceAs (Decidable (_ → _ ∧ _))
  | .create address _ _ => inferInstanceAs
    (Decidable (∀ t ∈ s.scheduler.live, (s.scheduler.pthread t).address ≠ address))
  | .mutex_trylock _ | .cond_signal _ | .cond_broadcast _ | .barrier_wait _ _ | .exit _ _
  | .join _ _ | .process_ins _ _ _ => instDecidableTrue
  | .barrier_destroy _ | .detach _ | .cancel _ | .kill _ _ | .testcancel _ | .setcancelstate _
  | .setcanceltype _ | .docontextswitch _ => instDecidableFalse

instance (s : PthreadSim) : (action : ThreadAction) → Decidable (FindsFree s action)
  | .create _ _ _ => inferInstanceAs
    (Decidable (∀ t ∈ s.scheduler.live, s.scheduler.hthread t ≠ s.scheduler.live.card))
  | .mutex_lock _ _ | .mutex_trylock _ | .mutex_unlock _ | .cond_wait _ _ _ | .cond_signal _
  | .cond_broadcast _ | .barrier_init _ _ | .barrier_destroy _ | .barrier_wait _ _ | .exit _ _
  | .join _ _ | .detach _ | .cancel _ | .kill _ _ | .testcancel _ | .setcancelstate _
  | .setcanceltype _ | .process_ins _ _ _ | .docontextswitch _ => instDecidableTrue

/-- Mutexes of given kinds, none of them locked. -/
def unlocked (kind : ℕ → MutexKind) : PthreadSim :=
  { mutexmanager := { mutex := fun m => { kind := kind m } } }

/-- In every run that gives each new thread a hardware thread that is free, the bookkeeping of
    threads that block is right, and each step goes by the rule of barriers. -/
theorem run_bookkeeping (c : PTSConfig) (kind : ℕ → MutexKind) {actions : List ThreadAction}
    {s : PthreadSim} (run : Run (step c)
      (fun state action _ => Disciplined state action ∧ FindsFree state action) (unlocked kind)
      actions s) :
    Bookkeeping s ∧ ∀ action s', s.step c action = .ok s' → Disciplined s action →
      FindsFree s action → BarrierRule s action s' := by
  have kept : Kept c s := run.invariant (.initial c kind)
    fun _ _ _ kept stepped guarded => (kept.step stepped guarded.1 guarded.2).1
  exact ⟨kept.bookkeeping, fun _ _ stepped disciplined free =>
    (kept.step stepped disciplined free).2⟩

/-- Cores whose queues never have a slot to grant, so that each instruction asks for the simulation
    to be resumed. -/
def narrow : PTSConfig := { o3queue_param := 1, hthreads_pos := Nat.le_add_right 1 3 }

/-- Three threads, the first of which lets thread `next` run while it has a mutex. -/
def spawnLocked (next : ℕ) : List ThreadAction :=
  [.create 100 true false, .create 101 true true, .create 102 true true, .mutex_lock 7 { ret := 0 },
    .process_ins true { hthreadid_ := 0 } { ret := next }]

/-- A mutex changes hands twice, two threads meet at a barrier, and both are joined. -/
theorem run_bookkeeping_two_joins : ∃ s,
    Run (step narrow) (fun state action _ => Disciplined state action ∧ FindsFree state action)
      (unlocked fun _ => .PTHREAD_MUTEX_FAST_NP)
      (spawnLocked 1 ++ [.mutex_lock 7 { ret := 0 },
        .process_ins true { hthreadid_ := 0 } { ret := 0 }, .cond_wait 9 7 { ret := 1 },
        .mutex_lock 7 { ret := 0 }, .cond_signal 9, .mutex_unlock 7, .barrier_init 8 2,
        .barrier_wait 8 { ret := 2 }, .barrier_wait 8 { ret := 0 }, .exit 5 { ret := 0 },
        .cond_wait 9 7 { ret := 0 }, .mutex_unlock 7, .join 2 { ret := 0 }, .create 103 true true,
        .join 1 { ret := 1 }, .barrier_wait 8 { ret := 0 }, .exit 6 { ret := 0 }]) s ∧
      s.joinmanager.returned = [(0, 2, 5), (0, 1, 6)] ∧ Bookkeeping s := by
  have executed : (execute (step narrow)
      (fun state action _ => Disciplined state action ∧ FindsFree state action)
      (unlocked fun _ => .PTHREAD_MUTEX_FAST_NP)
      (spawnLocked 1 ++ [.mutex_lock 7 { ret := 0 },
        .process_ins true { hthreadid_ := 0 } { ret := 0 }, .cond_wait 9 7 { ret := 1 },
        .mutex_lock 7 { ret := 0 }, .cond_signal 9, .mutex_unlock 7, .barrier_init 8 2,
        .barrier_wait 8 { ret := 2 }, .barrier_wait 8 { ret := 0 }, .exit 5 { ret := 0 },
        .cond_wait 9 7 { ret := 0 }, .mutex_unlock 7, .join 2 { ret := 0 }, .create 103 true true,
        .join 1 { ret := 1 }, .barrier_wait 8 { ret := 0 }, .exit 6 { ret := 0 }])).map
        (fun s => s.joinmanager.returned) = some [(0, 2, 5), (0, 1, 6)] := by decide +kernel
  obtain ⟨s, executed, returned⟩ := Option.map_eq_some_iff.mp executed
  have run := execute_run executed
  exact ⟨s, run, returned, (run_bookkeeping narrow _ run).1⟩

/-- The last but one of three threads ends, so that a new one shares the hardware thread of the
    last.  When that one gets its mutex, the new one runs although it waits at the barrier.  It
    arrives there a second time, in the place of the other thread, and stays inactive. -/
theorem run_stays_inactive : ¬ ∀ (actions : List ThreadAction) (s : PthreadSim),
    Run (step narrow) (fun state action _ => Disciplined state action)
      (unlocked fun _ => .PTHREAD_MUTEX_FAST_NP) actions s →
    Bookkeeping s ∧ ∀ action s', s.step narrow action = .ok s' → Disciplined s action →
      BarrierRule s action s' := by
  intro always
  have executed : (execute (step narrow) (fun state action _ => Disciplined state action)
      (unlocked fun _ => .PTHREAD_MUTEX_FAST_NP)
      (spawnLocked 2 ++ [.barrier_init 8 2, .mutex_lock 7 { ret := 1 }, .exit 5 { ret := 0 },
        .process_ins true { hthreadid_ := 0 } { ret := 0 }, .create 103 true true,
        .process_ins true { hthreadid_ := 0 } { ret := 2 }, .barrier_wait 8 { ret := 0 },
        .process_ins true { hthreadid_ := 0 } { ret := 0 }, .mutex_unlock 7,
        .process_ins true { hthreadid_ := 0 } { ret := 2 }, .barrier_wait 8 { ret := 0 }])).map
      (fun s => (s.barriermanager.barriers 8, (s.scheduler.pthread s.current).executed,
        (s.step narrow (.barrier_wait 8 { ret := 0 })).toOption.map
          fun s' => s'.scheduler.active 3)) =
      some (some ⟨2, [3]⟩, true, some false) := by decide +kernel
  obtain ⟨s, executed, facts⟩ := Option.map_eq_some_iff.mp executed
  simp only [Prod.mk.injEq] at facts
  obtain ⟨isEntry, again, arrival⟩ := facts
  have rule := (always _ s (execute_run executed)).2 (.barrier_wait 8 { ret := 0 })
  cases stepped : s.step narrow (.barrier_wait 8 { ret := 0 }) with
  | error e =>
    rw [stepped] at arrival
    cases arrival
  | ok s' =>
    rw [stepped] at arrival
    have inactive : s'.scheduler.active 3 = false := Option.some.inj arrival
    have active := ((rule s' stepped trivial).last 8 2 [3] ⟨rfl, again⟩ isEntry rfl).2.2 3
    rw [inactive] at active
    simp at active

end PthreadSim

end ActiveRouting

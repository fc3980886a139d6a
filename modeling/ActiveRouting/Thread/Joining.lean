import ActiveRouting.Thread.Cancellation

/-!
# Values of threads

A thread ends with one value, which the call that joins it returns.
-/

namespace ActiveRouting

open Function

namespace PthreadJoinManager

variable {s : PthreadJoinManager} {thread joiner joinee retval : ℕ}

/-- The value is given to the thread that waits for it, or kept, or lost. -/
theorem KillThread_eq {killed : PthreadJoinManager × Option ℕ}
    (succeeded : s.KillThread thread retval = .ok killed) :
    s.joinables thread = none ∧ killed = (s, none) ∨
      ∃ entry, s.joinables thread = some entry ∧
        (entry.joined = true ∧ s.joinings entry.joiner = some thread ∧
            killed = (((s.giveBack entry.joiner thread retval).setJoiner entry.joiner
              none).setJoinee thread none, some entry.joiner) ∨
          entry.joined = false ∧ killed =
            (s.setJoinee thread (some { entry with retval := retval, done := true }), none)) := by
  unfold KillThread at succeeded
  split at succeeded
  · rename_i unknown
    exact .inl ⟨unknown, (Except.ok.inj succeeded).symm⟩
  · rename_i entry isEntry
    refine .inr ⟨entry, isEntry, ?_⟩
    split at succeeded
    · rename_i joined
      split at succeeded
      · rename_i waits
        exact .inl ⟨joined, waits, (Except.ok.inj succeeded).symm⟩
      · cases succeeded
    · rename_i free
      exact .inr ⟨Bool.eq_false_iff.mpr free, (Except.ok.inj succeeded).symm⟩

/-- The value is there, or the joiner waits for it. -/
theorem JoinThreads_eq {joined : PthreadJoinManager × Bool}
    (succeeded : s.JoinThreads joiner joinee = .ok joined) :
    ∃ entry, s.joinables joinee = some entry ∧ entry.joined = false ∧
      (entry.done = true ∧
          joined = ((s.giveBack joiner joinee entry.retval).setJoinee joinee none, false) ∨
        entry.done = false ∧ s.joinings joiner = none ∧ joined =
          ((s.setJoinee joinee (some { entry with joined := true, joiner := joiner })).setJoiner
            joiner (some joinee), true)) := by
  unfold JoinThreads at succeeded
  split at succeeded
  · cases succeeded
  · split at succeeded
    · cases succeeded
    · rename_i entry isEntry
      split at succeeded
      · cases succeeded
      · rename_i free
        refine ⟨entry, isEntry, Bool.eq_false_iff.mpr free, ?_⟩
        split at succeeded
        · rename_i done
          exact .inl ⟨done, (Except.ok.inj succeeded).symm⟩
        · rename_i runs
          split at succeeded
          · cases succeeded
          · rename_i idle
            exact .inr ⟨Bool.eq_false_iff.mpr runs, idle, (Except.ok.inj succeeded).symm⟩

theorem AddThread_eq {s' : PthreadJoinManager} {joinable : Bool}
    (succeeded : s.AddThread thread joinable = .ok s') :
    s' = s ∨ s.joinables thread = none ∧ s' = s.setJoinee thread (some {}) := by
  unfold AddThread at succeeded
  split at succeeded
  · split at succeeded
    · cases succeeded
    · rename_i unknown
      exact .inr ⟨unknown, (Except.ok.inj succeeded).symm⟩
  · exact .inl (Except.ok.inj succeeded).symm

end PthreadJoinManager

namespace PthreadSim

/-- How often a call to join has returned. -/
def answers (s : PthreadSim) (joiner joinee : ℕ) : ℕ :=
  (s.joinmanager.returned.map fun r => (r.1, r.2.1)).count (joiner, joinee)

/-- A thread is joined once, ends once, and its value is kept until the call that joins it returns;
    `counted` says that each call has returned or still waits. -/
structure Joining (s : PthreadSim) : Prop where
  named : ∀ t ∈ s.scheduler.live, t < s.new_thread_id
  exited : ∀ e ∈ s.exits, e.1 < s.new_thread_id ∧ e.1 ∉ s.scheduler.live
  exitedOnce : (s.exits.map Prod.fst).Nodup
  joined : ∀ call ∈ s.joins, call.2 < s.new_thread_id
  joinedOnce : (s.joins.map Prod.snd).Nodup
  known : ∀ t entry, s.joinmanager.joinables t = some entry → t < s.new_thread_id
  free : ∀ t entry, s.joinmanager.joinables t = some entry → entry.joined = false →
    t ∉ s.joins.map Prod.snd
  done : ∀ t entry, s.joinmanager.joinables t = some entry → entry.done = true →
    entry.joined = false ∧ (t, entry.retval) ∈ s.exits
  runs : ∀ t entry, s.joinmanager.joinables t = some entry → entry.done = false →
    t ∈ s.scheduler.live
  counted : ∀ joiner joinee, s.joins.count (joiner, joinee) =
    s.answers joiner joinee + if s.joinmanager.joinings joiner = some joinee then 1 else 0
  values : ∀ r ∈ s.joinmanager.returned, r.2 ∈ s.exits

/-- The parts that this is about do not differ. -/
structure SameJoining (s s' : PthreadSim) : Prop where
  live : s'.scheduler.live = s.scheduler.live
  joinmanager : s'.joinmanager = s.joinmanager
  exits : s'.exits = s.exits
  joins : s'.joins = s.joins
  new_thread_id : s'.new_thread_id = s.new_thread_id

variable {c : PTSConfig} {s s' : PthreadSim} {thread : ℕ}

namespace SameJoining

theorem refl (s : PthreadSim) : SameJoining s s := ⟨rfl, rfl, rfl, rfl, rfl⟩

theorem trans {s₁ s₂ s₃ : PthreadSim} (first : SameJoining s₁ s₂) (second : SameJoining s₂ s₃) :
    SameJoining s₁ s₃ where
  live := second.live.trans first.live
  joinmanager := second.joinmanager.trans first.joinmanager
  exits := second.exits.trans first.exits
  joins := second.joins.trans first.joins
  new_thread_id := second.new_thread_id.trans first.new_thread_id

theorem setScheduler {scheduler : PthreadScheduler} (live : scheduler.live = s.scheduler.live) :
    SameJoining s (s.setScheduler scheduler) := ⟨live, rfl, rfl, rfl, rfl⟩

theorem setMutexmanager (manager : PthreadMutexManager) :
    SameJoining s (s.setMutexmanager manager) := ⟨rfl, rfl, rfl, rfl, rfl⟩

theorem setCondmanager (manager : PthreadCondManager) :
    SameJoining s (s.setCondmanager manager) := ⟨rfl, rfl, rfl, rfl, rfl⟩

theorem setBarriermanager (manager : PthreadBarrierManager) :
    SameJoining s (s.setBarriermanager manager) := ⟨rfl, rfl, rfl, rfl, rfl⟩

theorem synch {islock isunlock isbarrier : Bool}
    (synched : s.synch c islock isunlock isbarrier = .ok s') : SameJoining s s' := by
  obtain ⟨same, _, scheduler, rfl⟩ := synch_same synched
  exact .setScheduler same.activity.live

theorem block {answer : Resume} (blocked : s.block c thread answer = .ok s') :
    SameJoining s s' := by
  obtain ⟨scheduler, byScheduler, isNext⟩ := Outcome.bind_eq_ok.mp blocked
  obtain rfl := Outcome.pure_eq_ok.mp isNext
  obtain ⟨_, _, _, live, _⟩ := PthreadScheduler.BlockThread_activity byScheduler
  exact .setScheduler live

theorem unblock {isbarrier : Bool} (unblocked : s.unblock c thread isbarrier = .ok s') :
    SameJoining s s' := by
  obtain ⟨scheduler, byScheduler, isNext⟩ := Outcome.bind_eq_ok.mp unblocked
  obtain rfl := Outcome.pure_eq_ok.mp isNext
  obtain ⟨_, _, live, _⟩ := PthreadScheduler.UnblockThread_activity byScheduler
  exact .setScheduler live

theorem perform {body : Except ThreadError PthreadSim} (performed : s.perform body = .ok s')
    (performs : body = .ok s' → SameJoining s s') : SameJoining s s' := by
  obtain ⟨_, ⟨_, rfl⟩ | ⟨_, done⟩⟩ := perform_eq performed
  · exact .setScheduler rfl
  · exact performs done

end SameJoining

theorem Joining.of_same (joining : Joining s) (same : SameJoining s s') : Joining s' := by
  obtain ⟨live, joinmanager, exits, joins, new_thread_id⟩ := same
  constructor
  · rw [live, new_thread_id]
    exact joining.named
  · rw [live, new_thread_id, exits]
    exact joining.exited
  · rw [exits]
    exact joining.exitedOnce
  · rw [joins, new_thread_id]
    exact joining.joined
  · rw [joins]
    exact joining.joinedOnce
  · rw [joinmanager, new_thread_id]
    exact joining.known
  · rw [joinmanager, joins]
    exact joining.free
  · rw [joinmanager, exits]
    exact joining.done
  · rw [joinmanager, live]
    exact joining.runs
  · unfold answers
    rw [joinmanager, joins]
    exact joining.counted
  · rw [joinmanager, exits]
    exact joining.values

/-! ## Calls that join nobody -/

namespace SameJoining

theorem unlock {m : ℕ} (done : s.unlock c m = .ok s') : SameJoining s s' := by
  obtain ⟨s₁, synched, done⟩ := Outcome.bind_eq_ok.mp done
  obtain ⟨unlocked, _, done⟩ := Outcome.bind_eq_ok.mp done
  have first := (SameJoining.synch synched).trans (.setMutexmanager unlocked.1.1)
  simp only at done
  split at done
  · exact Outcome.pure_eq_ok.mp done ▸ first
  · exact first.trans (.unblock done)

theorem mutex_lock {m : ℕ} {answer : Resume}
    (called : s.pthread_mutex_lock c m answer = .ok s') : SameJoining s s' := by
  refine .perform called fun done => ?_
  obtain ⟨s₁, synched, done⟩ := Outcome.bind_eq_ok.mp done
  have first := (SameJoining.synch synched).trans
    (.setMutexmanager (s₁.mutexmanager.Lock s₁.current m false).1)
  simp only at done
  split at done
  · exact Outcome.pure_eq_ok.mp done ▸ first
  · exact first.trans (.block done)

theorem cond_wait {cond m : ℕ} {answer : Resume}
    (called : s.pthread_cond_wait c cond m answer = .ok s') : SameJoining s s' := by
  refine .perform called fun done => ?_
  obtain ⟨s₁, unlocked, done⟩ := Outcome.bind_eq_ok.mp done
  exact ((SameJoining.unlock unlocked).trans (.setCondmanager _)).trans (.block done)

theorem release {cond : ℕ} (done : s.release c cond = .ok s') : SameJoining s s' := by
  obtain ⟨removed, _, done⟩ := Outcome.bind_eq_ok.mp done
  have first := (SameJoining.setCondmanager (s := s) removed.1).trans
    (.setMutexmanager (s.mutexmanager.Lock removed.2.1 removed.2.2 false).1)
  simp only at done
  split at done
  · exact first.trans (.unblock done)
  · exact Outcome.pure_eq_ok.mp done ▸ first

theorem releaseAll {cond rounds : ℕ} (done : releaseAll c cond rounds s = .ok s') :
    SameJoining s s' := by
  induction rounds generalizing s with
  | zero => exact Except.ok.inj done ▸ .refl s
  | succ rounds inductionHypothesis =>
    rw [PthreadSim.releaseAll] at done
    split at done
    · obtain ⟨s₁, released, done⟩ := Outcome.bind_eq_ok.mp done
      exact (SameJoining.release released).trans (inductionHypothesis done)
    · exact Except.ok.inj done ▸ .refl s

theorem passAll {barrier rounds : ℕ} (done : passAll c barrier thread rounds s = .ok s') :
    SameJoining s s' := by
  induction rounds generalizing s with
  | zero => exact Except.ok.inj done ▸ .refl s
  | succ rounds inductionHypothesis =>
    rw [PthreadSim.passAll] at done
    obtain ⟨more, _, done⟩ := Outcome.bind_eq_ok.mp done
    split at done
    · obtain ⟨s₁, passed, done⟩ := Outcome.bind_eq_ok.mp done
      obtain ⟨removed, _, passed⟩ := Outcome.bind_eq_ok.mp passed
      have first := SameJoining.setBarriermanager (s := s) removed.1
      simp only at passed
      split at passed
      · exact (first.trans (.unblock passed)).trans (inductionHypothesis done)
      · exact (first.trans (.synch passed)).trans (inductionHypothesis done)
    · exact Outcome.pure_eq_ok.mp done ▸ .refl s

theorem barrier_wait {barrier : ℕ} {answer : Resume}
    (called : s.pthread_barrier_wait c barrier answer = .ok s') : SameJoining s s' := by
  refine .perform called fun done => ?_
  obtain ⟨added, _, done⟩ := Outcome.bind_eq_ok.mp done
  have first := SameJoining.setBarriermanager (s := s) added.1
  simp only at done
  split at done
  · exact first.trans (.passAll done)
  · exact first.trans (.block done)

end SameJoining

/-! ## Calls that join -/

/-- An entry of the table is the one that has been set, or an older one. -/
theorem setJoinee_some {manager : PthreadJoinManager} {joinee : ℕ} {entry : Option PthreadJoinee}
    {t : ℕ} {e : PthreadJoinee} (isEntry : (manager.setJoinee joinee entry).joinables t = some e) :
    t = joinee ∧ entry = some e ∨ t ≠ joinee ∧ manager.joinables t = some e := by
  by_cases same : t = joinee
  · subst same
    exact .inl ⟨rfl, by simpa [PthreadJoinManager.setJoinee] using isEntry⟩
  · exact .inr ⟨same, by simpa [PthreadJoinManager.setJoinee, same] using isEntry⟩

/-- A new thread has not been joined. -/
theorem Joining.create {address : ℕ} {joinable startctxt : Bool} (joining : Joining s)
    (created : s.pthread_create c address joinable startctxt = .ok s') : Joining s' := by
  obtain ⟨scheduler, added, created⟩ := Outcome.bind_eq_ok.mp created
  obtain ⟨joinmanager, entered, created⟩ := Outcome.bind_eq_ok.mp created
  obtain ⟨cancelmanager, _, created⟩ := Outcome.bind_eq_ok.mp created
  obtain rfl := Outcome.pure_eq_ok.mp created
  obtain ⟨_, _, live, _⟩ := PthreadScheduler.AddThread_activity added
  have grown : ∀ t ∈ s.scheduler.live, t ∈ scheduler.live := fun t alive =>
    live ▸ Finset.mem_insert_of_mem alive
  have new : s.new_thread_id ∈ scheduler.live := live ▸ Finset.mem_insert_self _ _
  have entries : ∀ t entry, joinmanager.joinables t = some entry →
      t = s.new_thread_id ∧ entry = {} ∨ s.joinmanager.joinables t = some entry := by
    intro t entry isEntry
    rcases PthreadJoinManager.AddThread_eq entered with rfl | ⟨_, rfl⟩
    · exact .inr isEntry
    · rcases setJoinee_some isEntry with ⟨isNew, same⟩ | ⟨_, old⟩
      · exact .inl ⟨isNew, (Option.some.inj same).symm⟩
      · exact .inr old
  have rest : joinmanager.joinings = s.joinmanager.joinings ∧
      joinmanager.returned = s.joinmanager.returned := by
    rcases PthreadJoinManager.AddThread_eq entered with rfl | ⟨_, rfl⟩ <;> exact ⟨rfl, rfl⟩
  constructor
  case named =>
    intro t alive
    rw [live] at alive
    rcases Finset.mem_insert.mp alive with rfl | old
    · exact Nat.lt_succ_self _
    · exact Nat.lt_succ_of_lt (joining.named t old)
  case exited =>
    intro e isExit
    obtain ⟨small, ended⟩ := joining.exited e isExit
    refine ⟨Nat.lt_succ_of_lt small, fun alive => ?_⟩
    rw [live] at alive
    rcases Finset.mem_insert.mp alive with isNew | old
    · exact small.ne isNew
    · exact ended old
  case exitedOnce => exact joining.exitedOnce
  case joined => exact fun call isCall => Nat.lt_succ_of_lt (joining.joined call isCall)
  case joinedOnce => exact joining.joinedOnce
  case known =>
    intro t entry isEntry
    rcases entries t entry isEntry with ⟨rfl, _⟩ | old
    · exact Nat.lt_succ_self _
    · exact Nat.lt_succ_of_lt (joining.known t entry old)
  case free =>
    intro t entry isEntry unjoined
    rcases entries t entry isEntry with ⟨rfl, _⟩ | old
    · intro isJoined
      obtain ⟨call, isCall, isNew⟩ := List.mem_map.mp isJoined
      exact (joining.joined call isCall).ne isNew
    · exact joining.free t entry old unjoined
  case done =>
    intro t entry isEntry isDone
    rcases entries t entry isEntry with ⟨_, rfl⟩ | old
    · cases isDone
    · exact joining.done t entry old isDone
  case runs =>
    intro t entry isEntry running
    rcases entries t entry isEntry with ⟨rfl, _⟩ | old
    · exact new
    · exact grown t (joining.runs t entry old running)
  case counted =>
    intro joiner joinee
    unfold answers
    rw [rest.1, rest.2]
    exact joining.counted joiner joinee
  case values =>
    rw [rest.2]
    exact joining.values

/-- A call to join takes the value, or waits for it. -/
theorem Joining.joinThreads {joiner joinee : ℕ} {joined : PthreadJoinManager × Bool}
    (joining : Joining s) (succeeded : s.joinmanager.JoinThreads joiner joinee = .ok joined) :
    Joining ((s.setJoinmanager joined.1).recordJoin joiner joinee) := by
  obtain ⟨entry, isEntry, unjoined, kind⟩ := PthreadJoinManager.JoinThreads_eq succeeded
  have notCalled := joining.free joinee entry isEntry unjoined
  have callOnce : ((s.joins ++ [(joiner, joinee)]).map Prod.snd).Nodup := by
    rw [List.map_append]
    exact List.Nodup.append joining.joinedOnce (List.nodup_singleton _)
      (List.disjoint_singleton.mpr notCalled)
  have callKnown : ∀ call ∈ s.joins ++ [(joiner, joinee)], call.2 < s.new_thread_id := by
    intro call isCall
    rcases List.mem_append.mp isCall with old | new
    · exact joining.joined call old
    · rw [List.mem_singleton.mp new]
      exact joining.known joinee entry isEntry
  -- no other thread is joined by the call
  have others : ∀ t e, t ≠ joinee → s.joinmanager.joinables t = some e → e.joined = false →
      t ∉ (s.joins ++ [(joiner, joinee)]).map Prod.snd := by
    intro t e other old unjoined isJoined
    rw [List.map_append] at isJoined
    rcases List.mem_append.mp isJoined with before | new
    · exact joining.free t e old unjoined before
    · exact other (List.mem_singleton.mp new)
  rcases kind with ⟨isDone, rfl⟩ | ⟨running, idle, rfl⟩
  · constructor
    case named => exact joining.named
    case exited => exact joining.exited
    case exitedOnce => exact joining.exitedOnce
    case joined => exact callKnown
    case joinedOnce => exact callOnce
    case known =>
      intro t e isE
      rcases setJoinee_some isE with ⟨_, same⟩ | ⟨_, old⟩
      · cases same
      · exact joining.known t e old
    case free =>
      intro t e isE unjoined
      rcases setJoinee_some isE with ⟨_, same⟩ | ⟨other, old⟩
      · cases same
      · exact others t e other old unjoined
    case done =>
      intro t e isE isDone
      rcases setJoinee_some isE with ⟨_, same⟩ | ⟨_, old⟩
      · cases same
      · exact joining.done t e old isDone
    case runs =>
      intro t e isE running
      rcases setJoinee_some isE with ⟨_, same⟩ | ⟨_, old⟩
      · cases same
      · exact joining.runs t e old running
    case counted =>
      intro joiner' joinee'
      have before := joining.counted joiner' joinee'
      simp only [answers, recordJoin, setJoinmanager, PthreadJoinManager.setJoinee,
        PthreadJoinManager.giveBack, List.map_append, List.count_append, List.map_singleton,
        List.count_singleton] at before ⊢
      rw [before]
      exact Nat.add_right_comm _ _ _
    case values =>
      intro r isReturned
      rcases List.mem_append.mp isReturned with old | new
      · exact joining.values r old
      · rw [List.mem_singleton.mp new]
        exact (joining.done joinee entry isEntry isDone).2
  · constructor
    case named => exact joining.named
    case exited => exact joining.exited
    case exitedOnce => exact joining.exitedOnce
    case joined => exact callKnown
    case joinedOnce => exact callOnce
    case known =>
      intro t e isE
      rcases setJoinee_some isE with ⟨rfl, _⟩ | ⟨_, old⟩
      · exact joining.known t entry isEntry
      · exact joining.known t e old
    case free =>
      intro t e isE unjoined
      rcases setJoinee_some isE with ⟨_, same⟩ | ⟨other, old⟩
      · obtain rfl := Option.some.inj same
        cases unjoined
      · exact others t e other old unjoined
    case done =>
      intro t e isE isDone
      rcases setJoinee_some isE with ⟨_, same⟩ | ⟨_, old⟩
      · obtain rfl := Option.some.inj same
        exact absurd (running.symm.trans isDone) Bool.false_ne_true
      · exact joining.done t e old isDone
    case runs =>
      intro t e isE isRunning
      rcases setJoinee_some isE with ⟨rfl, _⟩ | ⟨_, old⟩
      · exact joining.runs t entry isEntry running
      · exact joining.runs t e old isRunning
    case counted =>
      intro joiner' joinee'
      have before := joining.counted joiner' joinee'
      simp only [answers, recordJoin, setJoinmanager, PthreadJoinManager.setJoinee,
        PthreadJoinManager.setJoiner, List.count_append, List.count_singleton] at before ⊢
      by_cases same : joiner' = joiner
      · subst same
        simp only [idle, reduceCtorEq, if_false, update_self, Option.some.injEq, beq_iff_eq,
          Prod.mk.injEq, true_and] at before ⊢
        omega
      · simp only [update_of_ne same, beq_iff_eq, Prod.mk.injEq, Ne.symm same, false_and,
          if_false] at before ⊢
        omega
    case values => exact joining.values

/-- A thread that ends gives its value to the call that waits for it, or keeps it for one. -/
theorem Joining.ended {retval : ℕ} {killed : PthreadJoinManager × Option ℕ}
    {scheduler : PthreadScheduler} (joining : Joining s)
    (succeeded : s.joinmanager.KillThread thread retval = .ok killed)
    (alive : thread ∈ s.scheduler.live) (live : scheduler.live = s.scheduler.live.erase thread) :
    Joining (((s.setJoinmanager killed.1).recordExit thread retval).setScheduler scheduler) := by
  have stays : ∀ t ∈ s.scheduler.live, t ≠ thread → t ∈ scheduler.live := fun t isLive other =>
    live ▸ Finset.mem_erase.mpr ⟨other, isLive⟩
  have old : ∀ t ∈ scheduler.live, t ≠ thread ∧ t ∈ s.scheduler.live := fun t isLive =>
    Finset.mem_erase.mp (live ▸ isLive)
  have named : ∀ t ∈ scheduler.live, t < s.new_thread_id := fun t isLive =>
    joining.named t (old t isLive).2
  have exited : ∀ e ∈ s.exits ++ [(thread, retval)],
      e.1 < s.new_thread_id ∧ e.1 ∉ scheduler.live := by
    intro e isExit
    rcases List.mem_append.mp isExit with before | new
    · obtain ⟨small, ended⟩ := joining.exited e before
      exact ⟨small, fun isLive => ended (old e.1 isLive).2⟩
    · rw [List.mem_singleton.mp new]
      exact ⟨joining.named thread alive, fun isLive => (old thread isLive).1 rfl⟩
  have exitedOnce : ((s.exits ++ [(thread, retval)]).map Prod.fst).Nodup := by
    rw [List.map_append]
    refine List.Nodup.append joining.exitedOnce (List.nodup_singleton _)
      (List.disjoint_singleton.mpr fun isExit => ?_)
    obtain ⟨e, isExit, isThread⟩ := List.mem_map.mp isExit
    exact (joining.exited e isExit).2 (isThread ▸ alive)
  have recorded : ∀ e ∈ s.exits, e ∈ s.exits ++ [(thread, retval)] := fun e isExit =>
    List.mem_append_left _ isExit
  rcases PthreadJoinManager.KillThread_eq succeeded with
    ⟨unknown, rfl⟩ | ⟨entry, isEntry, ⟨joined, waits, rfl⟩ | ⟨unjoined, rfl⟩⟩
  · refine ⟨named, exited, exitedOnce, joining.joined, joining.joinedOnce, joining.known,
      joining.free, ?_, ?_, joining.counted, fun r isReturned => ?_⟩
    · intro t e isE isDone
      exact (joining.done t e isE isDone).imp_right (recorded _)
    · intro t e isE running
      refine stays t (joining.runs t e isE running) fun isThread => ?_
      rw [isThread] at isE
      cases unknown.symm.trans isE
    · exact recorded _ (joining.values r isReturned)
  · have others : ∀ {t e}, (((s.joinmanager.giveBack entry.joiner thread retval).setJoiner
        entry.joiner none).setJoinee thread none).joinables t = some e →
          t ≠ thread ∧ s.joinmanager.joinables t = some e := by
      intro t e isE
      rcases setJoinee_some isE with ⟨_, same⟩ | other
      · cases same
      · exact other
    refine ⟨named, exited, exitedOnce, joining.joined, joining.joinedOnce, ?_, ?_, ?_, ?_, ?_, ?_⟩
    · exact fun t e isE => joining.known t e (others isE).2
    · exact fun t e isE => joining.free t e (others isE).2
    · intro t e isE isDone
      exact (joining.done t e (others isE).2 isDone).imp_right (recorded _)
    · exact fun t e isE running =>
        stays t (joining.runs t e (others isE).2 running) (others isE).1
    · intro joiner joinee
      have before := joining.counted joiner joinee
      simp only [answers, setScheduler, recordExit, setJoinmanager, PthreadJoinManager.setJoinee,
        PthreadJoinManager.setJoiner, PthreadJoinManager.giveBack, List.map_append,
        List.count_append, List.map_singleton, List.count_singleton] at before ⊢
      by_cases same : joiner = entry.joiner
      · subst same
        simp only [waits, update_self, reduceCtorEq, if_false, Option.some.injEq, beq_iff_eq,
          Prod.mk.injEq, true_and] at before ⊢
        omega
      · simp only [update_of_ne same, beq_iff_eq, Prod.mk.injEq, Ne.symm same, false_and,
          if_false] at before ⊢
        omega
    · intro r isReturned
      rcases List.mem_append.mp isReturned with before | new
      · exact recorded _ (joining.values r before)
      · rw [List.mem_singleton.mp new]
        exact List.mem_append_right _ (List.mem_singleton_self _)
  · refine ⟨named, exited, exitedOnce, joining.joined, joining.joinedOnce, ?_, ?_, ?_, ?_,
      joining.counted, fun r isReturned => recorded _ (joining.values r isReturned)⟩
    · intro t e isE
      rcases setJoinee_some isE with ⟨rfl, _⟩ | ⟨_, before⟩
      · exact joining.known t entry isEntry
      · exact joining.known t e before
    · intro t e isE free
      rcases setJoinee_some isE with ⟨rfl, _⟩ | ⟨_, before⟩
      · exact joining.free t entry isEntry unjoined
      · exact joining.free t e before free
    · intro t e isE isDone
      rcases setJoinee_some isE with ⟨rfl, same⟩ | ⟨_, before⟩
      · obtain rfl := Option.some.inj same
        exact ⟨unjoined, List.mem_append_right _ (List.mem_singleton_self _)⟩
      · exact (joining.done t e before isDone).imp_right (recorded _)
    · intro t e isE running
      rcases setJoinee_some isE with ⟨_, same⟩ | ⟨other, before⟩
      · obtain rfl := Option.some.inj same
        cases running
      · exact stays t (joining.runs t e before running) other

theorem Joining.finish {retval : ℕ} (joining : Joining s)
    (done : s.finish c thread retval = .ok s') : Joining s' := by
  obtain ⟨killed, succeeded, done⟩ := Outcome.bind_eq_ok.mp done
  obtain ⟨s₁, woken, done⟩ := Outcome.bind_eq_ok.mp done
  obtain ⟨cancelmanager, _, done⟩ := Outcome.bind_eq_ok.mp done
  obtain ⟨scheduler, schedulerKilled, done⟩ := Outcome.bind_eq_ok.mp done
  obtain rfl := Outcome.pure_eq_ok.mp done
  have same : SameJoining ((s.setJoinmanager killed.1).recordExit thread retval) s₁ := by
    cases isJoiner : killed.2 with
    | none =>
      rw [isJoiner] at woken
      exact Except.ok.inj woken ▸ .refl _
    | some joiner =>
      rw [isJoiner] at woken
      exact .unblock woken
  obtain ⟨alive, _, live, _⟩ := PthreadScheduler.KillThread_activity schedulerKilled
  rw [same.live] at alive live
  have ended := joining.ended succeeded alive live
  exact ended.of_same ⟨rfl, same.joinmanager, same.exits, same.joins, same.new_thread_id⟩

theorem Joining.leaves {retval : ℕ} {answer : Resume} (joining : Joining s)
    (done : s.leave c retval answer = .ok s') : Joining s' := by
  obtain ⟨s₁, finished, done⟩ := Outcome.bind_eq_ok.mp done
  obtain ⟨scheduler, resumed, done⟩ := Outcome.bind_eq_ok.mp done
  obtain rfl := Outcome.pure_eq_ok.mp done
  obtain ⟨same, _⟩ := PthreadScheduler.resume_simulation_activity resumed
  exact (joining.finish finished).of_same (.setScheduler same.live)

theorem Joining.perform {body : Except ThreadError PthreadSim} (joining : Joining s)
    (performed : s.perform body = .ok s') (performs : body = .ok s' → Joining s') :
    Joining s' := by
  obtain ⟨_, ⟨_, rfl⟩ | ⟨_, done⟩⟩ := perform_eq performed
  · exact joining.of_same (.setScheduler rfl)
  · exact performs done

theorem Joining.join {joinee : ℕ} {answer : Resume} (joining : Joining s)
    (called : s.pthread_join c joinee answer = .ok s') : Joining s' := by
  refine joining.perform called fun done => ?_
  obtain ⟨canceled, _, done⟩ := Outcome.bind_eq_ok.mp done
  split at done
  · exact joining.leaves done
  · obtain ⟨joined, succeeded, done⟩ := Outcome.bind_eq_ok.mp done
    have next := joining.joinThreads succeeded
    simp only at done
    split at done
    · exact next.of_same (.block done)
    · exact Outcome.pure_eq_ok.mp done ▸ next

theorem Joining.exit {retval : ℕ} {answer : Resume} (joining : Joining s)
    (called : s.pthread_exit c retval answer = .ok s') : Joining s' :=
  joining.perform called fun done => joining.leaves done

end PthreadSim

end ActiveRouting

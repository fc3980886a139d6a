import ActiveRouting.Thread.PTS

/-!
# What threads wait for

`PthreadMutex.cc`, `PthreadCond.cc`, `PthreadBarrier.cc`, `PthreadJoin.cc` and
`PthreadCancel.cc`.  A queue that is empty stands for an entry that its map does
not have.
-/

namespace ActiveRouting

open Function

/-! ## Mutexes -/

inductive MutexKind where
  | PTHREAD_MUTEX_FAST_NP | PTHREAD_MUTEX_RECURSIVE_NP | PTHREAD_MUTEX_ERRORCHECK_NP
  deriving DecidableEq, Repr

/-- The part of `pthread_mutex_t` that is used. -/
structure PthreadMutex where
  count : ℕ := 0
  owner : ℕ := 0
  kind : MutexKind := .PTHREAD_MUTEX_FAST_NP
  deriving DecidableEq, Repr

/-- What `Lock` returns. -/
inductive LockResult where
  | success | EDEADLK | EBUSY
  deriving DecidableEq, Repr

/-- `PthreadMutexManager`, and the mutexes that it is called for. -/
structure PthreadMutexManager where
  mutex : ℕ → PthreadMutex := fun _ => {}
  spinning : ℕ → List ℕ := fun _ => []

namespace PthreadMutexManager

variable (s : PthreadMutexManager)

def setMutex (m : ℕ) (mutex : PthreadMutex) : PthreadMutexManager :=
  { s with mutex := update s.mutex m mutex }

def setSpinning (m : ℕ) (threads : List ℕ) : PthreadMutexManager :=
  { s with spinning := update s.spinning m threads }

def BlockThread (thread m : ℕ) : PthreadMutexManager :=
  s.setSpinning m (s.spinning m ++ [thread])

def Lock (thread m : ℕ) (trylock : Bool) : PthreadMutexManager × LockResult :=
  let mutex := s.mutex m
  let blocked := if trylock then s else s.BlockThread thread m
  if mutex.count = 0 then (s.setMutex m { mutex with count := 1, owner := thread }, .success)
  else if mutex.owner = thread then
    match mutex.kind with
    | .PTHREAD_MUTEX_RECURSIVE_NP =>
      (s.setMutex m { mutex with count := mutex.count + 1 }, .success)
    | .PTHREAD_MUTEX_FAST_NP | .PTHREAD_MUTEX_ERRORCHECK_NP => (blocked, .EDEADLK)
  else (blocked, .EBUSY)

/-- The first thread that waits gets the mutex. -/
def UnblockThread (m : ℕ) : PthreadMutexManager × Option ℕ :=
  match s.spinning m with
  | [] => (s, none)
  | thread :: threads => (((s.setSpinning m threads).Lock thread m false).1, some thread)

def EPERM : ℕ := 1

/-- `Unlock`, with the thread that it unblocks and the error. -/
def Unlock (thread m : ℕ) : Except ThreadError ((PthreadMutexManager × Option ℕ) × ℕ) :=
  let mutex := s.mutex m
  if mutex.kind = .PTHREAD_MUTEX_ERRORCHECK_NP ∧ (mutex.count = 0 ∨ mutex.owner ≠ thread) then
    .ok ((s, none), EPERM)
  else if mutex.kind = .PTHREAD_MUTEX_RECURSIVE_NP then
    if mutex.count = 0 then .error .mutexCount
    else if 1 < mutex.count then
      .ok ((s.setMutex m { mutex with count := mutex.count - 1 }, none), 0)
    else .ok ((s.setMutex m { mutex with count := 0 }).UnblockThread m, 0)
  else .ok ((s.setMutex m { mutex with count := 0 }).UnblockThread m, 0)

variable {s} {thread m : ℕ}

/-- A mutex that is not locked is taken, and a recursive one is taken again by its owner. -/
theorem Lock_cases (s : PthreadMutexManager) (thread m : ℕ) (trylock : Bool) :
    (s.mutex m).count = 0 ∧ s.Lock thread m trylock =
        (s.setMutex m { s.mutex m with count := 1, owner := thread }, .success) ∨
      0 < (s.mutex m).count ∧ (s.mutex m).owner = thread ∧
        (s.mutex m).kind = .PTHREAD_MUTEX_RECURSIVE_NP ∧ s.Lock thread m trylock =
          (s.setMutex m { s.mutex m with count := (s.mutex m).count + 1 }, .success) ∨
      0 < (s.mutex m).count ∧
        ((s.mutex m).owner = thread → (s.mutex m).kind ≠ .PTHREAD_MUTEX_RECURSIVE_NP) ∧
        ∃ result, result ≠ LockResult.success ∧ s.Lock thread m trylock =
          (if trylock then s else s.BlockThread thread m, result) := by
  unfold Lock
  by_cases free : (s.mutex m).count = 0
  · exact .inl ⟨free, if_pos free⟩
  · have locked : 0 < (s.mutex m).count := Nat.pos_of_ne_zero free
    refine .inr ?_
    simp only [if_neg free]
    by_cases own : (s.mutex m).owner = thread
    · simp only [if_pos own]
      cases kind : (s.mutex m).kind with
      | PTHREAD_MUTEX_RECURSIVE_NP => exact .inl ⟨locked, own, rfl, rfl⟩
      | PTHREAD_MUTEX_FAST_NP => exact .inr ⟨locked, fun _ => nofun, .EDEADLK, nofun, rfl⟩
      | PTHREAD_MUTEX_ERRORCHECK_NP => exact .inr ⟨locked, fun _ => nofun, .EDEADLK, nofun, rfl⟩
    · simp only [if_neg own]
      exact .inr ⟨locked, fun same => absurd same own, .EBUSY, nofun, rfl⟩

/-- The mutex stays with its owner, is free, or goes to the first thread that waits for it. -/
theorem Unlock_cases {unlocked : (PthreadMutexManager × Option ℕ) × ℕ}
    (succeeded : s.Unlock thread m = .ok unlocked) :
    (s.mutex m).kind = .PTHREAD_MUTEX_ERRORCHECK_NP ∧
        ((s.mutex m).count = 0 ∨ (s.mutex m).owner ≠ thread) ∧ unlocked.1 = (s, none) ∨
      (s.mutex m).kind = .PTHREAD_MUTEX_RECURSIVE_NP ∧ 1 < (s.mutex m).count ∧ unlocked.1 =
        (s.setMutex m { s.mutex m with count := (s.mutex m).count - 1 }, none) ∨
      s.spinning m = [] ∧ unlocked.1 = (s.setMutex m { s.mutex m with count := 0 }, none) ∨
      ∃ first rest, s.spinning m = first :: rest ∧ unlocked.1 =
        ((s.setMutex m { s.mutex m with count := 1, owner := first }).setSpinning m rest,
          some first) := by
  have handOver : ∀ {result : PthreadMutexManager × Option ℕ},
      (s.setMutex m { s.mutex m with count := 0 }).UnblockThread m = result →
      s.spinning m = [] ∧ result = (s.setMutex m { s.mutex m with count := 0 }, none) ∨
        ∃ first rest, s.spinning m = first :: rest ∧ result =
          ((s.setMutex m { s.mutex m with count := 1, owner := first }).setSpinning m rest,
            some first) := by
    rintro _ rfl
    cases waiting : s.spinning m with
    | nil => exact .inl ⟨rfl, by simp [UnblockThread, setMutex, waiting]⟩
    | cons first rest =>
      exact .inr ⟨first, rest, rfl, by
        simp [UnblockThread, setMutex, setSpinning, waiting, Lock]⟩
  unfold Unlock at succeeded
  simp only at succeeded
  split at succeeded
  · rename_i refused
    exact .inl ⟨refused.1, refused.2, (Except.ok.inj succeeded) ▸ rfl⟩
  · refine .inr ?_
    split at succeeded
    · rename_i recursive
      split at succeeded
      · cases succeeded
      · split at succeeded
        · rename_i again
          exact .inl ⟨recursive, again, (Except.ok.inj succeeded) ▸ rfl⟩
        · exact .inr (handOver ((Except.ok.inj succeeded) ▸ rfl))
    · exact .inr (handOver ((Except.ok.inj succeeded) ▸ rfl))

end PthreadMutexManager

/-! ## Condition variables -/

/-- The threads that wait on a condition, with the mutexes that they need to go on. -/
structure PthreadCondManager where
  waiters : ℕ → List (ℕ × ℕ) := fun _ => []

namespace PthreadCondManager

variable (s : PthreadCondManager)

def HasMoreWaiters (cond : ℕ) : Bool := !(s.waiters cond).isEmpty

def AddWaiter (cond thread m : ℕ) : PthreadCondManager :=
  { s with waiters := update s.waiters cond (s.waiters cond ++ [(thread, m)]) }

def RemoveWaiter (cond : ℕ) : Except ThreadError (PthreadCondManager × ℕ × ℕ) :=
  match s.waiters cond with
  | [] => .error .noWaiter
  | waiter :: waiters => .ok ({ s with waiters := update s.waiters cond waiters }, waiter)

theorem RemoveWaiter_eq {s : PthreadCondManager} {cond : ℕ}
    {removed : PthreadCondManager × ℕ × ℕ} (succeeded : s.RemoveWaiter cond = .ok removed) :
    ∃ rest, s.waiters cond = removed.2 :: rest ∧
      removed.1 = { s with waiters := update s.waiters cond rest } := by
  unfold RemoveWaiter at succeeded
  split at succeeded
  · cases succeeded
  · rename_i first rest waiting
    obtain rfl := Except.ok.inj succeeded
    exact ⟨rest, waiting, rfl⟩

end PthreadCondManager

/-! ## Barriers -/

structure PthreadBarrierWaiters where
  num_participants : ℕ
  waiters : List ℕ := []
  deriving DecidableEq, Repr

structure PthreadBarrierManager where
  barriers : ℕ → Option PthreadBarrierWaiters := fun _ => none

namespace PthreadBarrierManager

variable (s : PthreadBarrierManager)

def setBarrier (barrier : ℕ) (entry : Option PthreadBarrierWaiters) : PthreadBarrierManager :=
  { s with barriers := update s.barriers barrier entry }

def InitWaiters (barrier num : ℕ) : PthreadBarrierManager :=
  s.setBarrier barrier (some { num_participants := num })

def DestroyWaiters (barrier : ℕ) : Except ThreadError PthreadBarrierManager :=
  match s.barriers barrier with
  | none => .error .noBarrier
  | some _ => .ok (s.setBarrier barrier none)

/-- `AddWaiter`; true if all participants are there. -/
def AddWaiter (barrier thread : ℕ) : Except ThreadError (PthreadBarrierManager × Bool) :=
  match s.barriers barrier with
  | none => .error .noBarrier
  | some entry =>
    .ok (s.setBarrier barrier (some { entry with waiters := entry.waiters ++ [thread] }),
      entry.waiters.length + 1 = entry.num_participants)

def HasMoreWaiters (barrier : ℕ) : Except ThreadError Bool :=
  match s.barriers barrier with
  | none => .error .noBarrier
  | some entry => .ok (!entry.waiters.isEmpty)

def RemoveWaiter (barrier : ℕ) : Except ThreadError (PthreadBarrierManager × ℕ) :=
  match s.barriers barrier with
  | none => .error .noBarrier
  | some entry =>
    match entry.waiters with
    | [] => .error .noWaiter
    | thread :: waiters => .ok (s.setBarrier barrier (some { entry with waiters := waiters }), thread)

end PthreadBarrierManager

/-! ## Joining -/

/-- `PthreadJoinee`: `joiner` and `retval` are the thread that waits and the value of the thread,
    where there are such. -/
structure PthreadJoinee where
  done : Bool := false
  joined : Bool := false
  joiner : ℕ := 0
  retval : ℕ := 0
  deriving DecidableEq, Repr

/-- `PthreadJoinManager`.  `joinings` holds whom a thread waits for, `returned` records the joiner,
    the joinee and the value of the joins that have returned. -/
structure PthreadJoinManager where
  joinables : ℕ → Option PthreadJoinee := fun _ => none
  joinings : ℕ → Option ℕ := fun _ => none
  returned : List (ℕ × ℕ × ℕ) := []

namespace PthreadJoinManager

variable (s : PthreadJoinManager)

def setJoinee (thread : ℕ) (joinee : Option PthreadJoinee) : PthreadJoinManager :=
  { s with joinables := update s.joinables thread joinee }

def setJoiner (thread : ℕ) (joinee : Option ℕ) : PthreadJoinManager :=
  { s with joinings := update s.joinings thread joinee }

def giveBack (joiner joinee retval : ℕ) : PthreadJoinManager :=
  { s with returned := s.returned ++ [(joiner, joinee, retval)] }

def AddThread (thread : ℕ) (joinable : Bool) : Except ThreadError PthreadJoinManager :=
  if joinable then
    match s.joinables thread with
    | some _ => .error .alreadyExists
    | none => .ok (s.setJoinee thread (some {}))
  else .ok s

/-- `KillThread`, with the thread that has waited for the value. -/
def KillThread (thread retval : ℕ) : Except ThreadError (PthreadJoinManager × Option ℕ) :=
  match s.joinables thread with
  | none => .ok (s, none)
  | some joinee =>
    if joinee.joined then
      if s.joinings joinee.joiner = some thread then
        .ok (((s.giveBack joinee.joiner thread retval).setJoiner joinee.joiner none).setJoinee thread
          none, some joinee.joiner)
      else .error .notJoiner
    else .ok (s.setJoinee thread (some { joinee with retval := retval, done := true }), none)

def DetachThread (thread : ℕ) : PthreadJoinManager :=
  match s.joinables thread with
  | none => s
  | some joinee => if joinee.joined then s else s.setJoinee thread none

/-- `JoinThreads`; true if the joiner is blocked. -/
def JoinThreads (joiner joinee : ℕ) : Except ThreadError (PthreadJoinManager × Bool) :=
  if joiner = joinee then .error .notJoinable
  else
    match s.joinables joinee with
    | none => .error .notJoinable
    | some entry =>
      if entry.joined then .error .notJoinable
      else if entry.done then
        .ok ((s.giveBack joiner joinee entry.retval).setJoinee joinee none, false)
      else
        match s.joinings joiner with
        | some _ => .error .alreadyExists
        | none =>
          .ok ((s.setJoinee joinee (some { entry with joined := true, joiner := joiner })).setJoiner
            joiner (some joinee), true)

end PthreadJoinManager

/-! ## Cancellation -/

/-- `PthreadCancel`: whether the thread can be cancelled, and at once. -/
structure PthreadCancel where
  canceled : Bool := false
  enabled : Bool := true
  asynchronous : Bool := false
  deriving DecidableEq, Repr

structure PthreadCancelManager where
  pthreads : ℕ → Option PthreadCancel := fun _ => none

namespace PthreadCancelManager

variable (s : PthreadCancelManager)

def setPthread (thread : ℕ) (entry : Option PthreadCancel) : PthreadCancelManager :=
  { s with pthreads := update s.pthreads thread entry }

def AddThread (thread : ℕ) : Except ThreadError PthreadCancelManager :=
  match s.pthreads thread with
  | some _ => .error .alreadyExists
  | none => .ok (s.setPthread thread (some {}))

def KillThread (thread : ℕ) : Except ThreadError PthreadCancelManager :=
  match s.pthreads thread with
  | none => .error .notFound
  | some _ => .ok (s.setPthread thread none)

/-- `Cancel`; true if the thread should be terminated at once. -/
def Cancel (thread : ℕ) : Except ThreadError (PthreadCancelManager × Bool) :=
  match s.pthreads thread with
  | none => .error .notFound
  | some entry =>
    if entry.enabled then
      if entry.asynchronous then .ok (s, true)
      else .ok (s.setPthread thread (some { entry with canceled := true }), false)
    else .ok (s, false)

def IsCanceled (thread : ℕ) : Except ThreadError Bool :=
  match s.pthreads thread with
  | none => .error .notFound
  | some entry => .ok entry.canceled

def SetState (thread : ℕ) (enabled : Bool) : Except ThreadError PthreadCancelManager :=
  match s.pthreads thread with
  | none => .error .notFound
  | some entry => .ok (s.setPthread thread (some { entry with enabled := enabled }))

def SetType (thread : ℕ) (asynchronous : Bool) : Except ThreadError PthreadCancelManager :=
  match s.pthreads thread with
  | none => .error .notFound
  | some entry => .ok (s.setPthread thread (some { entry with asynchronous := asynchronous }))

end PthreadCancelManager

end ActiveRouting

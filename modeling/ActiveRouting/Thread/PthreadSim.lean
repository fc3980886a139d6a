import ActiveRouting.Thread.Managers
import ActiveRouting.Thread.PthreadScheduler

/-!
# The thread library

`EEPthreadSim.cc`: the calls of the threads.  A call that was left for another
thread is made again when its thread runs again, and then returns at once.
-/

namespace ActiveRouting

open Function

/-- `PthreadSim`.  `exits` records the values that threads have ended with, `joins` the calls of
    `pthread_join` by thread and thread to be joined. -/
structure PthreadSim where
  new_thread_id : ℕ := 0
  scheduler : PthreadScheduler := {}
  mutexmanager : PthreadMutexManager := {}
  condmanager : PthreadCondManager := {}
  barriermanager : PthreadBarrierManager := {}
  joinmanager : PthreadJoinManager := {}
  cancelmanager : PthreadCancelManager := {}
  exits : List (ℕ × ℕ) := []
  joins : List (ℕ × ℕ) := []

namespace PthreadSim

def PTHREAD_CANCELED : ℕ := 2 ^ 64 - 1

variable (c : PTSConfig) (s : PthreadSim)

def setScheduler (scheduler : PthreadScheduler) : PthreadSim := { s with scheduler := scheduler }

def setMutexmanager (m : PthreadMutexManager) : PthreadSim := { s with mutexmanager := m }

def setCondmanager (m : PthreadCondManager) : PthreadSim := { s with condmanager := m }

def setBarriermanager (m : PthreadBarrierManager) : PthreadSim := { s with barriermanager := m }

def setJoinmanager (m : PthreadJoinManager) : PthreadSim := { s with joinmanager := m }

def setCancelmanager (m : PthreadCancelManager) : PthreadSim := { s with cancelmanager := m }

/-- The current thread. -/
def current : ℕ := s.scheduler.current

/-- The body of a call, unless the call is made again. -/
def perform (body : Except ThreadError PthreadSim) : Except ThreadError PthreadSim :=
  if s.current ∉ s.scheduler.live then .error .dangling
  else if (s.scheduler.pthread s.current).executed = false then
    .ok (s.setScheduler (s.scheduler.setPthread s.current
      { s.scheduler.pthread s.current with executed := true }))
  else body

def block (thread : ℕ) (answer : Resume) : Except ThreadError PthreadSim := do
  return s.setScheduler (← s.scheduler.BlockThread c thread answer)

def unblock (thread : ℕ) (isbarrier : Bool) : Except ThreadError PthreadSim := do
  return s.setScheduler (← s.scheduler.UnblockThread c thread isbarrier)

def synch (islock isunlock isbarrier : Bool) : Except ThreadError PthreadSim := do
  return s.setScheduler
    (← s.scheduler.add_synch_instruction c s.current islock isunlock isbarrier)

/-! ## Mutexes -/

def pthread_mutex_lock (m : ℕ) (answer : Resume) : Except ThreadError PthreadSim :=
  s.perform do
    let s ← s.synch c true false false
    let (mutexmanager, result) := s.mutexmanager.Lock s.current m false
    let s := s.setMutexmanager mutexmanager
    if result = .success then return s else s.block c s.current answer

def pthread_mutex_trylock (m : ℕ) : Except ThreadError PthreadSim :=
  s.perform do return s.setMutexmanager (s.mutexmanager.Lock s.current m true).1

/-- `pthread_mutex_unlock` of a call that is not made again. -/
def unlock (m : ℕ) : Except ThreadError PthreadSim := do
  let s ← s.synch c false true false
  let unlocked ← s.mutexmanager.Unlock s.current m
  let s := s.setMutexmanager unlocked.1.1
  match unlocked.1.2 with
  | none => return s
  | some spinning_thread => s.unblock c spinning_thread false

def pthread_mutex_unlock (m : ℕ) : Except ThreadError PthreadSim := s.perform (s.unlock c m)

/-! ## Condition variables -/

def pthread_cond_wait (cond m : ℕ) (answer : Resume) : Except ThreadError PthreadSim :=
  s.perform do
    let thread := s.current
    let s ← s.unlock c m
    let s := s.setCondmanager (s.condmanager.AddWaiter cond thread m)
    s.block c thread answer

/-- The first thread that waits is released: it gets its mutex, or waits for it. -/
def release (cond : ℕ) : Except ThreadError PthreadSim := do
  let removed ← s.condmanager.RemoveWaiter cond
  let s := s.setCondmanager removed.1
  let (mutexmanager, result) := s.mutexmanager.Lock removed.2.1 removed.2.2 false
  let s := s.setMutexmanager mutexmanager
  if result = .success then s.unblock c removed.2.1 false else return s

def pthread_cond_signal (cond : ℕ) : Except ThreadError PthreadSim :=
  s.perform (if s.condmanager.HasMoreWaiters cond then s.release c cond else .ok s)

/-- The loop of `pthread_cond_broadcast`, for as long as there may be threads that wait. -/
def releaseAll (cond : ℕ) : ℕ → PthreadSim → Except ThreadError PthreadSim
  | 0, s => .ok s
  | rounds + 1, s =>
    if s.condmanager.HasMoreWaiters cond then do releaseAll cond rounds (← s.release c cond)
    else .ok s

def pthread_cond_broadcast (cond : ℕ) : Except ThreadError PthreadSim :=
  s.perform (releaseAll c cond (s.condmanager.waiters cond).length s)

/-! ## Barriers -/

def pthread_barrier_init (barrier num : ℕ) : Except ThreadError PthreadSim :=
  s.perform (.ok (s.setBarriermanager (s.barriermanager.InitWaiters barrier num)))

def pthread_barrier_destroy (barrier : ℕ) : Except ThreadError PthreadSim :=
  s.perform do return s.setBarriermanager (← s.barriermanager.DestroyWaiters barrier)

/-- One round of the loop in `pthread_barrier_wait`: the first thread that waits goes on; thread
    `thread` has not been blocked. -/
def pass (barrier thread : ℕ) : Except ThreadError PthreadSim := do
  let removed ← s.barriermanager.RemoveWaiter barrier
  let s := s.setBarriermanager removed.1
  if thread ≠ removed.2 then s.unblock c removed.2 true else s.synch c false false true

def passAll (barrier thread : ℕ) : ℕ → PthreadSim → Except ThreadError PthreadSim
  | 0, s => .ok s
  | rounds + 1, s => do
    if ← s.barriermanager.HasMoreWaiters barrier then
      passAll barrier thread rounds (← s.pass c barrier thread)
    else return s

def pthread_barrier_wait (barrier : ℕ) (answer : Resume) : Except ThreadError PthreadSim :=
  s.perform do
    let thread := s.current
    let added ← s.barriermanager.AddWaiter barrier thread
    let s := s.setBarriermanager added.1
    if added.2 then
      let waiting := (s.barriermanager.barriers barrier).elim 0 fun entry => entry.waiters.length
      passAll c barrier thread waiting s
    else s.block c thread answer

/-! ## Threads -/

/-- `pthread_create`, which is also called for the first thread; `address` is where its `Pthread`
    is allocated. -/
def pthread_create (address : ℕ) (joinable startctxt : Bool) : Except ThreadError PthreadSim := do
  let scheduler ← s.scheduler.AddThread c s.new_thread_id address startctxt
  let joinmanager ← s.joinmanager.AddThread s.new_thread_id joinable
  let cancelmanager ← s.cancelmanager.AddThread s.new_thread_id
  return { s with
    scheduler := scheduler
    joinmanager := joinmanager
    cancelmanager := cancelmanager
    new_thread_id := s.new_thread_id + 1 }

def recordExit (thread retval : ℕ) : PthreadSim :=
  { s with exits := s.exits ++ [(thread, retval)] }

def recordJoin (joiner joinee : ℕ) : PthreadSim :=
  { s with joins := s.joins ++ [(joiner, joinee)] }

/-- The thread that has waited for a value goes on, if there is one. -/
def unblockJoiner : Option ℕ → Except ThreadError PthreadSim
  | none => .ok s
  | some joining_thread => s.unblock c joining_thread false

/-- What `pthread_exit` and `pthread_cancel` do for a thread that ends. -/
def finish (thread retval : ℕ) : Except ThreadError PthreadSim := do
  let killed ← s.joinmanager.KillThread thread retval
  let s ← ((s.setJoinmanager killed.1).recordExit thread retval).unblockJoiner c killed.2
  let cancelmanager ← s.cancelmanager.KillThread thread
  let scheduler ← s.scheduler.KillThread c thread
  return (s.setCancelmanager cancelmanager).setScheduler scheduler

/-- `pthread_exit` of a call that is not made again. -/
def leave (retval : ℕ) (answer : Resume) : Except ThreadError PthreadSim := do
  let s ← s.finish c s.current retval
  return s.setScheduler (← s.scheduler.resume_simulation c true answer)

def pthread_exit (retval : ℕ) (answer : Resume) : Except ThreadError PthreadSim :=
  s.perform (s.leave c retval answer)

def pthread_testcancel (answer : Resume) : Except ThreadError PthreadSim :=
  s.perform do
    let canceled ← s.cancelmanager.IsCanceled s.current
    if canceled then s.leave c PTHREAD_CANCELED answer else return s

/-- `pthread_join`; it does not return if the thread is cancelled. -/
def pthread_join (joinee : ℕ) (answer : Resume) : Except ThreadError PthreadSim :=
  s.perform do
    let canceled ← s.cancelmanager.IsCanceled s.current
    if canceled then s.leave c PTHREAD_CANCELED answer
    else
      let joined ← s.joinmanager.JoinThreads s.current joinee
      let s := (s.setJoinmanager joined.1).recordJoin s.current joinee
      if joined.2 then s.block c s.current answer else return s

def pthread_detach (thread : ℕ) : Except ThreadError PthreadSim :=
  s.perform (.ok (if thread ∈ s.scheduler.live then
    s.setJoinmanager (s.joinmanager.DetachThread thread) else s))

/-! ## Cancellation -/

/-- `pthread_cancel` of a call that is not made again; a thread that does not live is an error. -/
def cancel (thread : ℕ) : Except ThreadError PthreadSim :=
  if thread ∉ s.scheduler.live then .ok s
  else do
    let cancelled ← s.cancelmanager.Cancel thread
    let s := s.setCancelmanager cancelled.1
    if cancelled.2 then
      if thread = s.current then throw .selfCancel
      s.finish c thread PTHREAD_CANCELED
    else return s

def pthread_cancel (thread : ℕ) : Except ThreadError PthreadSim := s.perform (s.cancel c thread)

def pthread_kill (thread signo : ℕ) : Except ThreadError PthreadSim :=
  s.perform (if thread ∈ s.scheduler.live ∧ signo ≠ 0 then do
    let enabled ← s.cancelmanager.SetState thread true
    let asynchronous ← enabled.SetType thread true
    (s.setCancelmanager asynchronous).cancel c thread
  else .ok s)

def pthread_setcancelstate (enabled : Bool) : Except ThreadError PthreadSim := do
  return s.setCancelmanager (← s.cancelmanager.SetState s.current enabled)

def pthread_setcanceltype (asynchronous : Bool) : Except ThreadError PthreadSim := do
  return s.setCancelmanager (← s.cancelmanager.SetType s.current asynchronous)

/-! ## Instructions -/

def process_ins (context : Bool) (instr : PTSInstr) (answer : Resume) :
    Except ThreadError PthreadSim := do
  return s.setScheduler (← s.scheduler.process_ins c context instr answer)

/-- `docontextswitch`, where thread switches are allowed. -/
def docontextswitch (answer : Resume) : Except ThreadError PthreadSim :=
  if s.current ∉ s.scheduler.live then .error .dangling else s.block c s.current answer

end PthreadSim

/-- What the current thread does. -/
inductive ThreadAction where
  | mutex_lock (m : ℕ) (answer : Resume)
  | mutex_trylock (m : ℕ)
  | mutex_unlock (m : ℕ)
  | cond_wait (cond m : ℕ) (answer : Resume)
  | cond_signal (cond : ℕ)
  | cond_broadcast (cond : ℕ)
  | barrier_init (barrier num : ℕ)
  | barrier_destroy (barrier : ℕ)
  | barrier_wait (barrier : ℕ) (answer : Resume)
  | create (address : ℕ) (joinable startctxt : Bool)
  | exit (retval : ℕ) (answer : Resume)
  | join (joinee : ℕ) (answer : Resume)
  | detach (thread : ℕ)
  | cancel (thread : ℕ)
  | kill (thread signo : ℕ)
  | testcancel (answer : Resume)
  | setcancelstate (enabled : Bool)
  | setcanceltype (asynchronous : Bool)
  | process_ins (context : Bool) (instr : PTSInstr) (answer : Resume)
  | docontextswitch (answer : Resume)

namespace PthreadSim

def step (c : PTSConfig) (s : PthreadSim) : ThreadAction → Except ThreadError PthreadSim
  | .mutex_lock m answer => s.pthread_mutex_lock c m answer
  | .mutex_trylock m => s.pthread_mutex_trylock m
  | .mutex_unlock m => s.pthread_mutex_unlock c m
  | .cond_wait cond m answer => s.pthread_cond_wait c cond m answer
  | .cond_signal cond => s.pthread_cond_signal c cond
  | .cond_broadcast cond => s.pthread_cond_broadcast c cond
  | .barrier_init barrier num => s.pthread_barrier_init barrier num
  | .barrier_destroy barrier => s.pthread_barrier_destroy barrier
  | .barrier_wait barrier answer => s.pthread_barrier_wait c barrier answer
  | .create address joinable startctxt => s.pthread_create c address joinable startctxt
  | .exit retval answer => s.pthread_exit c retval answer
  | .join joinee answer => s.pthread_join c joinee answer
  | .detach thread => s.pthread_detach thread
  | .cancel thread => s.pthread_cancel c thread
  | .kill thread signo => s.pthread_kill c thread signo
  | .testcancel answer => s.pthread_testcancel c answer
  | .setcancelstate enabled => s.pthread_setcancelstate enabled
  | .setcanceltype asynchronous => s.pthread_setcanceltype asynchronous
  | .process_ins context instr answer => s.process_ins c context instr answer
  | .docontextswitch answer => s.docontextswitch c answer

end PthreadSim

end ActiveRouting

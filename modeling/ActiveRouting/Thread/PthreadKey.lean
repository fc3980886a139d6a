import ActiveRouting.Library.Dictionary
import ActiveRouting.Library.Outcome
import ActiveRouting.Library.Run
import Mathlib.Data.Finset.Sort

/-!
# Thread-local storage

`PthreadKey.cc`: the table of each thread, the destructors of the keys, and what
a thread finds under a key.
-/

namespace ActiveRouting

open Transition

inductive TLSError where
  /-- `ASSERTX` fails. -/
  | assertion
  deriving DecidableEq, Repr

/-- What the calls return. -/
inductive KeyResult where
  | success | EAGAIN | EINVAL
  deriving DecidableEq, Repr

/-- The data of one thread, `NULL` being 0. -/
structure PthreadTLS where
  tls : Dictionary ℕ ℕ := .empty

namespace PthreadTLS

variable (t : PthreadTLS) (key data : ℕ)

def AddKey : PthreadTLS :=
  match t.tls.lookup key with
  | none => { tls := t.tls.insert key 0 }
  | some _ => t

/-- The `ASSERTX` of `AddKey`. -/
def keyAsserted : Bool := (t.tls.lookup key).isNone || key = 0

def RemoveKey : PthreadTLS × Bool :=
  match t.tls.lookup key with
  | none => (t, false)
  | some _ => ({ tls := t.tls.erase key }, true)

def SetData : PthreadTLS × KeyResult :=
  if t.tls.lookup key = none ∧ key ≠ 0 then (t, .EINVAL)
  else ({ tls := t.tls.insert key data }, .success)

def GetData : ℕ := (t.tls.lookup key).getD 0

end PthreadTLS

structure PthreadTLSManager where
  newkey : ℕ := 1
  tls : Dictionary ℕ PthreadTLS := .empty
  destr : Dictionary ℕ ℕ := .empty

namespace PthreadTLSManager

variable (PTHREAD_KEYS_MAX : ℕ) (s : PthreadTLSManager)

def GetTLS (thread : ℕ) : Except TLSError PthreadTLS :=
  match s.tls.lookup thread with
  | none => .error .assertion
  | some thread_tls => .ok thread_tls

/-- The table of a new thread. -/
def newTLS : PthreadTLS := (s.destr.keys.sort (· ≤ ·)).foldl PthreadTLS.AddKey {}

def AddThread (thread : ℕ) : Except TLSError PthreadTLSManager :=
  match s.tls.lookup thread with
  | some _ => .error .assertion
  | none => .ok { s with tls := s.tls.insert thread s.newTLS }

/-- The calls of the destructors, which are functions of the program. -/
def destructors (thread_tls : PthreadTLS) : List (ℕ × ℕ) :=
  (s.destr.keys.sort (· ≤ ·)).filterMap fun key =>
    match s.destr.lookup key with
    | none | some 0 => none
    | some func => some (func, thread_tls.GetData key)

def KillThread (thread : ℕ) : Except TLSError (PthreadTLSManager × List (ℕ × ℕ)) := do
  let thread_tls ← s.GetTLS thread
  pure ({ s with tls := s.tls.erase thread },
    if thread ≠ 0 then s.destructors thread_tls else [])

/-- `pthread_key_t` is an `unsigned int`. -/
def nextKey : PthreadTLSManager := { s with newkey := (s.newkey + 1) % 2 ^ 32 }

/-- The tables of all threads and the destructor of a key that is created. -/
def addKeyTo (key func : ℕ) : Except TLSError PthreadTLSManager :=
  if (∀ thread ∈ s.tls.keys, (s.tls.lookup thread).all (·.keyAsserted key)) ∧
      s.destr.lookup key = none then
    .ok { s with
      tls := s.tls.mapValues (·.AddKey key)
      destr := s.destr.insert key func }
  else .error .assertion

/-- `AddKey`, with the key that it stores at its argument. -/
def AddKey (func : ℕ) : Except TLSError (PthreadTLSManager × ℕ × KeyResult) :=
  if PTHREAD_KEYS_MAX ≤ s.tls.size then .ok (s.nextKey, s.newkey, .EAGAIN)
  else do
    let s' ← s.nextKey.addKeyTo s.newkey func
    pure (s', s.newkey, .success)

/-- Whether all threads and the destructors know the key. -/
def knowsKey (key : ℕ) : Bool :=
  decide (∀ thread ∈ s.tls.keys, (s.tls.lookup thread).all fun t => (t.RemoveKey key).2) &&
    (s.destr.lookup key).isSome

def RemoveKey (key : ℕ) : PthreadTLSManager × KeyResult :=
  ({ s with
    tls := s.tls.mapValues fun t => (t.RemoveKey key).1
    destr := s.destr.erase key }, if s.knowsKey key then .success else .EINVAL)

def SetData (thread key data : ℕ) : Except TLSError (PthreadTLSManager × KeyResult) := do
  let thread_tls ← s.GetTLS thread
  let (thread_tls, error) := thread_tls.SetData key data
  pure ({ s with tls := s.tls.insert thread thread_tls }, error)

def GetData (thread key : ℕ) : Except TLSError ℕ := do
  let thread_tls ← s.GetTLS thread
  pure (thread_tls.GetData key)

end PthreadTLSManager

/-! ## Runs -/

inductive TLSAction where
  | AddThread (thread : ℕ)
  | KillThread (thread : ℕ)
  | AddKey (func : ℕ)
  | RemoveKey (key : ℕ)
  | SetData (thread key data : ℕ)
  | GetData (thread key : ℕ)

inductive TLSEvent where
  | threadAdded (thread : ℕ)
  | threadKilled (thread : ℕ) (destroyed : List (ℕ × ℕ))
  | keyAdded (key : ℕ) (result : KeyResult)
  | keyRemoved (key : ℕ) (result : KeyResult)
  | stored (thread key data : ℕ) (result : KeyResult)
  | loaded (thread key data : ℕ)
  deriving DecidableEq

/-- The manager, and what its calls have done, the latest first. -/
structure TLSRun where
  manager : PthreadTLSManager := {}
  log : List TLSEvent := []

namespace TLSRun

variable (PTHREAD_KEYS_MAX : ℕ)

def step (s : TLSRun) : TLSAction → Except TLSError TLSRun
  | .AddThread thread => do
    let manager ← s.manager.AddThread thread
    pure { manager, log := .threadAdded thread :: s.log }
  | .KillThread thread => do
    let (manager, destroyed) ← s.manager.KillThread thread
    pure { manager, log := .threadKilled thread destroyed :: s.log }
  | .AddKey func => do
    let (manager, key, result) ← s.manager.AddKey PTHREAD_KEYS_MAX func
    pure { manager, log := .keyAdded key result :: s.log }
  | .RemoveKey key =>
    let (manager, result) := s.manager.RemoveKey key
    pure { manager, log := .keyRemoved key result :: s.log }
  | .SetData thread key data => do
    let (manager, result) ← s.manager.SetData thread key data
    pure { manager, log := .stored thread key data result :: s.log }
  | .GetData thread key => do
    let data ← s.manager.GetData thread key
    pure { s with log := .loaded thread key data :: s.log }

/-- A key that has been created and not been deleted since. -/
def LiveKey : List TLSEvent → ℕ → Prop
  | [], _ => False
  | .keyAdded other .success :: log, key => other = key ∨ LiveKey log key
  | .keyRemoved other _ :: log, key => other ≠ key ∧ LiveKey log key
  | _ :: log, key => LiveKey log key

/-- A thread that has been created and has not exited since. -/
def LiveThread : List TLSEvent → ℕ → Prop
  | [], _ => False
  | .threadAdded other :: log, thread => other = thread ∨ LiveThread log thread
  | .threadKilled other _ :: log, thread => other ≠ thread ∧ LiveThread log thread
  | _ :: log, thread => LiveThread log thread

/-- What a thread has stored last under a key, since its creation and the last deletion of the
    key, or `NULL`. -/
def lastStored : List TLSEvent → ℕ → ℕ → ℕ
  | [], _, _ => 0
  | .stored other key' data .success :: log, thread, key =>
    if other = thread ∧ key' = key then data else lastStored log thread key
  | .threadAdded other :: log, thread, key =>
    if other = thread then 0 else lastStored log thread key
  | .keyRemoved key' _ :: log, thread, key => if key' = key then 0 else lastStored log thread key
  | _ :: log, thread, key => lastStored log thread key

/-- A key is created where there are fewer threads and fewer keys than the limit. -/
def BelowLimit (s : TLSRun) : TLSAction → TLSRun → Prop
  | .AddKey _, _ => s.manager.tls.size < PTHREAD_KEYS_MAX ∧ s.manager.destr.size < PTHREAD_KEYS_MAX
  | _, _ => True

/-- What is promised of the keys. -/
structure Kept (s : TLSRun) : Prop where
  tables : ∀ thread table, s.manager.tls.lookup thread = some table → ∀ key ≠ 0,
    (table.tls.lookup key).isSome ↔ key ∈ s.manager.destr.keys
  keys : ∀ key, key ∈ s.manager.destr.keys ↔ LiveKey s.log key
  threads : ∀ thread, thread ∈ s.manager.tls.keys ↔ LiveThread s.log thread
  bounded : s.manager.destr.size ≤ PTHREAD_KEYS_MAX
  loads : ∀ thread key data, s.manager.GetData thread key = .ok data →
    data = lastStored s.log thread key

/-- A creation that is refused leaves the manager as it was. -/
def RefusesUnchanged (s s' : TLSRun) : Prop :=
  ∀ key, s'.log = .keyAdded key .EAGAIN :: s.log → s'.manager = s.manager

end TLSRun

/-! ## Tables -/

namespace PthreadTLS

variable (t : PthreadTLS) (key data : ℕ) {other : ℕ}

theorem lookup_AddKey : (t.AddKey key).tls.lookup other =
    if other = key then some (t.GetData key) else t.tls.lookup other := by
  unfold AddKey GetData
  cases found : t.tls.lookup key with
  | none =>
    by_cases same : other = key
    · simp [same]
    · simp [same, Dictionary.lookup_insert_of_ne]
  | some value =>
    by_cases same : other = key
    · simp [same, found]
    · simp [same]

@[simp] theorem GetData_AddKey : (t.AddKey key).GetData other = t.GetData other := by
  rw [GetData, lookup_AddKey]
  by_cases same : other = key
  · simp [same]
  · simp [same, GetData]

theorem lookup_RemoveKey : (t.RemoveKey key).1.tls.lookup other =
    if other = key then none else t.tls.lookup other := by
  unfold RemoveKey
  cases found : t.tls.lookup key with
  | none =>
    by_cases same : other = key
    · simp [same, found]
    · simp [same]
  | some value =>
    by_cases same : other = key
    · simp [same]
    · simp [same, Dictionary.lookup_erase_of_ne]

theorem GetData_RemoveKey : (t.RemoveKey key).1.GetData other =
    if key = other then 0 else t.GetData other := by
  rw [GetData, lookup_RemoveKey]
  by_cases same : key = other
  · simp [same]
  · simp [same, Ne.symm same, GetData]

/-- What a store does: nothing, or the key is there and has the value. -/
theorem SetData_cases : t.SetData key data = (t, .EINVAL) ∨
    ((t.tls.lookup key).isSome ∨ key = 0) ∧
      t.SetData key data = ({ tls := t.tls.insert key data }, .success) := by
  by_cases unknown : t.tls.lookup key = none ∧ key ≠ 0
  · exact .inl (if_pos unknown)
  · refine .inr ⟨?_, if_neg unknown⟩
    by_cases isZero : key = 0
    · exact .inr isZero
    · exact .inl (Option.isSome_iff_ne_none.mpr fun absent => unknown ⟨absent, isZero⟩)

theorem lookup_foldl_AddKey (keys : List ℕ) (t : PthreadTLS) :
    (keys.foldl AddKey t).tls.lookup other =
      if other ∈ keys then some (t.GetData other) else t.tls.lookup other := by
  induction keys generalizing t with
  | nil => simp
  | cons key keys inductionHypothesis =>
    rw [List.foldl_cons, inductionHypothesis, GetData_AddKey, lookup_AddKey]
    by_cases same : other = key
    · simp [same]
    · simp [same]

end PthreadTLS

namespace PthreadTLSManager

variable {s : PthreadTLSManager} {thread key : ℕ}

theorem lookup_newTLS :
    s.newTLS.tls.lookup key = if key ∈ s.destr.keys then some 0 else none := by
  rw [newTLS, PthreadTLS.lookup_foldl_AddKey]
  simp only [Finset.mem_sort]
  rfl

theorem GetData_newTLS : s.newTLS.GetData key = 0 := by
  rw [PthreadTLS.GetData, lookup_newTLS]
  split <;> rfl

theorem GetData_eq_ok {data : ℕ} : s.GetData thread key = .ok data ↔
    ∃ table, s.tls.lookup thread = some table ∧ data = table.GetData key := by
  unfold GetData GetTLS
  cases found : s.tls.lookup thread with
  | none => exact ⟨fun h => (nomatch h), fun ⟨_, h, _⟩ => (nomatch h)⟩
  | some table =>
    refine ⟨fun h => ⟨table, rfl, (Except.ok.inj h).symm⟩, ?_⟩
    rintro ⟨_, isTable, rfl⟩
    cases isTable
    rfl

/-- What a creation does: it is refused, or the key is new and goes to all threads. -/
theorem AddKey_eq_ok {PTHREAD_KEYS_MAX func : ℕ} {s' : PthreadTLSManager} {result : KeyResult}
    (created : s.AddKey PTHREAD_KEYS_MAX func = .ok (s', key, result)) : key = s.newkey ∧
      (PTHREAD_KEYS_MAX ≤ s.tls.size ∧ result = .EAGAIN ∧ s' = s.nextKey ∨
        s.tls.size < PTHREAD_KEYS_MAX ∧ result = .success ∧ s.destr.lookup key = none ∧
          s' = { s.nextKey with
            tls := s.tls.mapValues (·.AddKey key)
            destr := s.destr.insert key func }) := by
  unfold AddKey at created
  split at created
  · rename_i full
    cases created
    exact ⟨rfl, .inl ⟨full, rfl, rfl⟩⟩
  · rename_i notFull
    obtain ⟨added, isAdded, isResult⟩ := Outcome.bind_eq_ok.mp created
    cases isResult
    unfold addKeyTo at isAdded
    split at isAdded
    · rename_i asserted
      cases isAdded
      exact ⟨rfl, .inr ⟨Nat.not_le.mp notFull, rfl, asserted.2, rfl⟩⟩
    · cases isAdded

end PthreadTLSManager

/-! ## What the calls preserve -/

namespace TLSRun

open PthreadTLSManager

variable {PTHREAD_KEYS_MAX : ℕ} {s s' : TLSRun}

theorem Kept.start : Kept PTHREAD_KEYS_MAX {} where
  tables _ _ found := nomatch found
  keys key := by simp [LiveKey]
  threads thread := by simp [LiveThread]
  bounded := Nat.zero_le _
  loads thread key data loaded := by
    obtain ⟨_, found, -⟩ := GetData_eq_ok.mp loaded
    cases found

/-- What a thread finds, from its table. -/
theorem Kept.values (kept : Kept PTHREAD_KEYS_MAX s) {thread : ℕ} {table : PthreadTLS}
    (found : s.manager.tls.lookup thread = some table) (key : ℕ) :
    table.GetData key = lastStored s.log thread key :=
  kept.loads thread key _ (GetData_eq_ok.mpr ⟨table, found, rfl⟩)

theorem Kept.addThread (kept : Kept PTHREAD_KEYS_MAX s) {thread : ℕ} :
    Kept PTHREAD_KEYS_MAX {
      manager := { s.manager with tls := s.manager.tls.insert thread s.manager.newTLS }
      log := .threadAdded thread :: s.log } where
  tables other table found key notZero := by
    by_cases same : other = thread
    · subst same
      obtain rfl : s.manager.newTLS = table := by simpa using found
      rw [lookup_newTLS]
      split <;> simp_all
    · exact kept.tables other table (by simpa [same, Dictionary.lookup_insert_of_ne] using found)
        key notZero
  keys := kept.keys
  threads other := by
    rw [Dictionary.keys_insert, Finset.mem_insert, kept.threads]
    exact or_congr_left ⟨Eq.symm, Eq.symm⟩
  bounded := kept.bounded
  loads other key data loaded := by
    obtain ⟨table, found, rfl⟩ := GetData_eq_ok.mp loaded
    by_cases same : thread = other
    · subst same
      obtain rfl : s.manager.newTLS = table := by simpa using found
      simp [lastStored, GetData_newTLS]
    · rw [lastStored, if_neg same]
      exact kept.values (by simpa [Ne.symm same, Dictionary.lookup_insert_of_ne] using found) key

theorem Kept.killThread (kept : Kept PTHREAD_KEYS_MAX s) {thread : ℕ} {destroyed : List (ℕ × ℕ)} :
    Kept PTHREAD_KEYS_MAX {
      manager := { s.manager with tls := s.manager.tls.erase thread }
      log := .threadKilled thread destroyed :: s.log } := by
  have stays : ∀ {other table}, (s.manager.tls.erase thread).lookup other = some table →
      s.manager.tls.lookup other = some table := by
    intro other table found
    by_cases same : other = thread
    · simp [same] at found
    · rwa [Dictionary.lookup_erase_of_ne _ _ same] at found
  constructor
  · exact fun other table found => kept.tables other table (stays found)
  · exact kept.keys
  · intro other
    rw [Dictionary.keys_erase, Finset.mem_erase, kept.threads]
    exact and_congr_left fun _ => ⟨Ne.symm, Ne.symm⟩
  · exact kept.bounded
  · intro other key data loaded
    obtain ⟨table, found, rfl⟩ := GetData_eq_ok.mp loaded
    exact kept.values (stays found) key

/-- A new key is in all tables, and new. -/
theorem Kept.addKey (kept : Kept PTHREAD_KEYS_MAX s) {key func : ℕ}
    (isNew : s.manager.destr.lookup key = none)
    (fits : s.manager.destr.size < PTHREAD_KEYS_MAX) :
    Kept PTHREAD_KEYS_MAX {
      manager := { s.manager.nextKey with
        tls := s.manager.tls.mapValues (·.AddKey key)
        destr := s.manager.destr.insert key func }
      log := .keyAdded key .success :: s.log } where
  tables thread table found other notZero := by
    obtain ⟨before, wasThere, rfl⟩ := Option.map_eq_some_iff.mp found
    rw [PthreadTLS.lookup_AddKey, Dictionary.keys_insert, Finset.mem_insert,
      ← kept.tables thread before wasThere other notZero]
    by_cases same : other = key <;> simp [same]
  keys other := by
    rw [Dictionary.keys_insert, Finset.mem_insert, kept.keys]
    exact or_congr_left ⟨Eq.symm, Eq.symm⟩
  threads := kept.threads
  bounded := by
    show (s.manager.destr.insert key func).size ≤ PTHREAD_KEYS_MAX
    rw [Dictionary.size_insert_of_none isNew]
    exact fits
  loads thread other data loaded := by
    obtain ⟨table, found, rfl⟩ := GetData_eq_ok.mp loaded
    obtain ⟨before, wasThere, rfl⟩ := Option.map_eq_some_iff.mp found
    rw [PthreadTLS.GetData_AddKey]
    exact kept.values wasThere other

theorem Kept.removeKey (kept : Kept PTHREAD_KEYS_MAX s) {key : ℕ} {result : KeyResult} :
    Kept PTHREAD_KEYS_MAX {
      manager := (s.manager.RemoveKey key).1
      log := .keyRemoved key result :: s.log } where
  tables thread table found other notZero := by
    obtain ⟨before, wasThere, rfl⟩ := Option.map_eq_some_iff.mp found
    rw [PthreadTLS.lookup_RemoveKey, RemoveKey, Dictionary.keys_erase, Finset.mem_erase,
      ← kept.tables thread before wasThere other notZero]
    by_cases same : other = key <;> simp [same]
  keys other := by
    rw [RemoveKey, Dictionary.keys_erase, Finset.mem_erase, kept.keys]
    exact and_congr_left fun _ => ⟨Ne.symm, Ne.symm⟩
  threads := kept.threads
  bounded := Dictionary.size_erase_le.trans kept.bounded
  loads thread other data loaded := by
    obtain ⟨table, found, rfl⟩ := GetData_eq_ok.mp loaded
    obtain ⟨before, wasThere, rfl⟩ := Option.map_eq_some_iff.mp found
    rw [PthreadTLS.GetData_RemoveKey, lastStored, kept.values wasThere other]

/-- A store for a live key, or for key 0. -/
theorem Kept.setData (kept : Kept PTHREAD_KEYS_MAX s) {thread key data : ℕ} {table : PthreadTLS}
    (found : s.manager.tls.lookup thread = some table)
    (known : (table.tls.lookup key).isSome ∨ key = 0) :
    Kept PTHREAD_KEYS_MAX {
      manager := { s.manager with
        tls := s.manager.tls.insert thread { tls := table.tls.insert key data } }
      log := .stored thread key data .success :: s.log } := by
  have isThread : thread ∈ s.manager.tls.keys := by simp [found]
  constructor
  · intro other table' found' key' notZero
    by_cases same : other = thread
    · subst same
      obtain rfl : { tls := table.tls.insert key data } = table' := by simpa using found'
      rw [← kept.tables other table found key' notZero]
      by_cases sameKey : key' = key
      · subst sameKey
        simp [known.resolve_right notZero]
      · simp [sameKey, Dictionary.lookup_insert_of_ne]
    · exact kept.tables other table' (by
        simpa [same, Dictionary.lookup_insert_of_ne] using found') key' notZero
  · exact kept.keys
  · intro other
    rw [Dictionary.keys_insert, Finset.insert_eq_of_mem isThread]
    exact kept.threads other
  · exact kept.bounded
  · intro other key' data' loaded
    obtain ⟨table', found', rfl⟩ := GetData_eq_ok.mp loaded
    by_cases same : thread = other
    · subst same
      obtain rfl : { tls := table.tls.insert key data } = table' := by simpa using found'
      by_cases sameKey : key = key'
      · subst sameKey
        simp [PthreadTLS.GetData, lastStored]
      · rw [lastStored, if_neg fun both => sameKey both.2, ← kept.values found key']
        simp [PthreadTLS.GetData, Ne.symm sameKey, Dictionary.lookup_insert_of_ne]
    · rw [lastStored, if_neg fun both => same both.1]
      exact kept.values (by
        simpa [Ne.symm same, Dictionary.lookup_insert_of_ne] using found') key'

/-- What does not change the manager and is no store, creation or deletion. -/
theorem Kept.logged (kept : Kept PTHREAD_KEYS_MAX s) {event : TLSEvent}
    (keys : ∀ key, LiveKey (event :: s.log) key ↔ LiveKey s.log key)
    (threads : ∀ thread, LiveThread (event :: s.log) thread ↔ LiveThread s.log thread)
    (stores : ∀ thread key, lastStored (event :: s.log) thread key = lastStored s.log thread key) :
    Kept PTHREAD_KEYS_MAX { s with log := event :: s.log } where
  tables := kept.tables
  keys key := (kept.keys key).trans (keys key).symm
  threads thread := (kept.threads thread).trans (threads thread).symm
  bounded := kept.bounded
  loads thread key data loaded := (kept.loads thread key data loaded).trans (stores thread key).symm

theorem Kept.step (kept : Kept PTHREAD_KEYS_MAX s) {action : TLSAction}
    (stepped : s.step PTHREAD_KEYS_MAX action = .ok s')
    (below : BelowLimit PTHREAD_KEYS_MAX s action s') : Kept PTHREAD_KEYS_MAX s' := by
  cases action with
  | AddThread thread =>
    obtain ⟨manager, added, isState⟩ := Outcome.bind_eq_ok.mp stepped
    cases isState
    unfold PthreadTLSManager.AddThread at added
    split at added
    · cases added
    · cases added
      exact kept.addThread
  | KillThread thread =>
    obtain ⟨⟨manager, destroyed⟩, killed, isState⟩ := Outcome.bind_eq_ok.mp stepped
    cases isState
    obtain ⟨table, -, isKilled⟩ := Outcome.bind_eq_ok.mp killed
    cases isKilled
    exact kept.killThread
  | AddKey func =>
    obtain ⟨⟨manager, key, result⟩, created, isState⟩ := Outcome.bind_eq_ok.mp stepped
    cases isState
    obtain ⟨-, refused | created⟩ := AddKey_eq_ok created
    · exact absurd below.1 (Nat.not_lt.mpr refused.1)
    · obtain ⟨-, rfl, isNew, rfl⟩ := created
      exact kept.addKey isNew below.2
  | RemoveKey key =>
    cases stepped
    exact kept.removeKey
  | SetData thread key data =>
    obtain ⟨⟨manager, result⟩, stored, isState⟩ := Outcome.bind_eq_ok.mp stepped
    cases isState
    obtain ⟨table, isTable, isStored⟩ := Outcome.bind_eq_ok.mp stored
    have found : s.manager.tls.lookup thread = some table := by
      unfold PthreadTLSManager.GetTLS at isTable
      split at isTable
      · cases isTable
      · cases isTable
        assumption
    cases table.SetData_cases key data with
    | inl refused =>
      rw [refused] at isStored
      cases isStored
      rw [Dictionary.insert_eq_self found]
      exact kept.logged (fun _ => .rfl) (fun _ => .rfl) fun _ _ => rfl
    | inr accepted =>
      rw [accepted.2] at isStored
      cases isStored
      exact kept.setData found accepted.1
  | GetData thread key =>
    obtain ⟨data, -, isState⟩ := Outcome.bind_eq_ok.mp stepped
    cases isState
    exact kept.logged (fun _ => .rfl) (fun _ => .rfl) fun _ _ => rfl

/-- A creation does what is promised exactly where there are fewer threads and fewer keys than
    the limit. -/
theorem Kept.addKey_iff (kept : Kept PTHREAD_KEYS_MAX s) {func : ℕ}
    (stepped : s.step PTHREAD_KEYS_MAX (.AddKey func) = .ok s') :
    Kept PTHREAD_KEYS_MAX s' ∧ RefusesUnchanged s s' ↔
      BelowLimit PTHREAD_KEYS_MAX s (.AddKey func) s' := by
  obtain ⟨⟨manager, key, result⟩, created, isState⟩ := Outcome.bind_eq_ok.mp stepped
  cases isState
  obtain ⟨-, ⟨full, rfl, rfl⟩ | ⟨notFull, rfl, isNew, rfl⟩⟩ := AddKey_eq_ok created
  · constructor
    · intro ⟨_, unchanged⟩
      -- the next key has been used up
      have same := congrArg PthreadTLSManager.newkey (unchanged key rfl)
      simp only [nextKey] at same
      omega
    · exact fun below => absurd below.1 (Nat.not_lt.mpr full)
  · constructor
    · intro ⟨keptNow, _⟩
      have bounded : (s.manager.destr.insert key func).size ≤ PTHREAD_KEYS_MAX := keptNow.bounded
      rw [Dictionary.size_insert_of_none isNew] at bounded
      exact ⟨notFull, bounded⟩
    · intro below
      refine ⟨kept.addKey isNew below.2, ?_⟩
      intro key' refused
      cases refused

/-- As long as keys are created where there are fewer threads and fewer keys than
    `PTHREAD_KEYS_MAX`, the threads' tables have the live keys, what they find is what they have
    stored, and no creation changes the manager and is refused. -/
theorem thread_keys_kept (PTHREAD_KEYS_MAX : ℕ) (actions : List TLSAction) (last : TLSRun)
    (run : Run (step PTHREAD_KEYS_MAX) (BelowLimit PTHREAD_KEYS_MAX) {} actions last) :
    Kept PTHREAD_KEYS_MAX last ∧ ∀ func next,
      last.step PTHREAD_KEYS_MAX (.AddKey func) = .ok next →
        (Kept PTHREAD_KEYS_MAX next ∧ RefusesUnchanged last next ↔
          BelowLimit PTHREAD_KEYS_MAX last (.AddKey func) next) := by
  have kept : Kept PTHREAD_KEYS_MAX last :=
    run.invariant .start fun _ _ _ kept stepped below => kept.step stepped below
  exact ⟨kept, fun func next stepped => kept.addKey_iff stepped⟩

instance (s s' : TLSRun) : ∀ action, Decidable (BelowLimit PTHREAD_KEYS_MAX s action s')
  | .AddKey _ => inferInstanceAs (Decidable (_ ∧ _))
  | .AddThread _ | .KillThread _ | .RemoveKey _ | .SetData _ _ _ | .GetData _ _ => .isTrue trivial

/-- Two threads store under a key and load, the key is deleted, and one of them loads again. -/
def storeAndRemove : List TLSAction :=
  [.AddThread 1, .AddKey 5, .AddThread 2, .SetData 1 1 70, .SetData 2 1 80, .GetData 1 1,
    .GetData 2 1, .RemoveKey 1, .GetData 1 1, .SetData 1 1 90]

theorem thread_keys_kept_storeAndRemove : ∃ last,
    Run (step 1024) (BelowLimit 1024) {} storeAndRemove last ∧ Kept 1024 last ∧
      last.log.take 5 = [.stored 1 1 90 .EINVAL, .loaded 1 1 0, .keyRemoved 1 .success,
        .loaded 2 1 80, .loaded 1 1 70] := by
  have executed : (execute (step 1024) (BelowLimit 1024) {} storeAndRemove).map
      (fun last => last.log.take 5) = some [.stored 1 1 90 .EINVAL, .loaded 1 1 0,
        .keyRemoved 1 .success, .loaded 2 1 80, .loaded 1 1 70] := by
    decide +kernel
  obtain ⟨last, run, loaded⟩ := execute_reaches executed
  exact ⟨last, run, (thread_keys_kept 1024 _ _ run).1, loaded⟩

/-- What a creation does that is neither refused nor stopped. -/
theorem Kept.step_AddKey (kept : Kept PTHREAD_KEYS_MAX s)
    (notFull : s.manager.tls.size < PTHREAD_KEYS_MAX)
    (isNew : s.manager.destr.lookup s.manager.newkey = none) (notZero : s.manager.newkey ≠ 0)
    (func : ℕ) :
    s.step PTHREAD_KEYS_MAX (.AddKey func) = .ok {
      manager := { s.manager.nextKey with
        tls := s.manager.tls.mapValues (·.AddKey s.manager.newkey)
        destr := s.manager.destr.insert s.manager.newkey func }
      log := .keyAdded s.manager.newkey .success :: s.log } := by
  have asserted : (∀ thread ∈ s.manager.nextKey.tls.keys,
      (s.manager.nextKey.tls.lookup thread).all (·.keyAsserted s.manager.newkey)) ∧
        s.manager.nextKey.destr.lookup s.manager.newkey = none := by
    refine ⟨fun thread _ => ?_, isNew⟩
    show (s.manager.tls.lookup thread).all _ = true
    cases found : s.manager.tls.lookup thread with
    | none => rfl
    | some table =>
      have unknown := (kept.tables thread table found _ notZero).not
      simp only [Dictionary.mem_keys, isNew, Option.isSome_none, Bool.false_eq_true,
        not_false_eq_true, iff_true, Bool.not_eq_true, Option.isSome_eq_false_iff] at unknown
      simp [PthreadTLS.keyAsserted, unknown]
  simp only [TLSRun.step, PthreadTLSManager.AddKey, if_neg (Nat.not_le.mpr notFull), addKeyTo,
    if_pos asserted]
  rfl

/-- A process with one thread creates as many keys as the limit. -/
theorem run_AddKey (more : 1 < PTHREAD_KEYS_MAX) (inRange : PTHREAD_KEYS_MAX < 2 ^ 32 - 1) :
    ∀ count ≤ PTHREAD_KEYS_MAX, ∃ s, Run (step PTHREAD_KEYS_MAX) (BelowLimit PTHREAD_KEYS_MAX) {}
      (.AddThread 0 :: List.replicate count (.AddKey 0)) s ∧ s.manager.tls.size = 1 ∧
        s.manager.newkey = count + 1 ∧ s.manager.destr.size = count ∧
          ∀ key, count < key → s.manager.destr.lookup key = none
  | 0, _ => by
    have added : step PTHREAD_KEYS_MAX {} (.AddThread 0) = .ok _ := rfl
    exact ⟨_, (Run.start _).next added trivial, rfl, rfl, rfl, fun _ _ => rfl⟩
  | count + 1, atMost => by
    obtain ⟨s, run, oneThread, next, isSize, unused⟩ := run_AddKey more inRange count (by omega)
    have isNew : s.manager.destr.lookup s.manager.newkey = none := unused _ (by omega)
    have kept : Kept PTHREAD_KEYS_MAX s :=
      run.invariant .start fun _ _ _ kept stepped below => kept.step stepped below
    have stepped := kept.step_AddKey (by omega) isNew (by omega) 0
    have actions : TLSAction.AddThread 0 :: List.replicate (count + 1) (.AddKey 0) =
        .AddThread 0 :: List.replicate count (.AddKey 0) ++ [.AddKey 0] := by
      rw [List.replicate_succ', List.cons_append]
    have longer := run.next stepped ⟨by omega, by omega⟩
    rw [← actions] at longer
    refine ⟨_, longer, oneThread, ?_, ?_, ?_⟩
    · show (s.manager.newkey + 1) % 2 ^ 32 = _
      omega
    · show (s.manager.destr.insert _ 0).size = _
      rw [Dictionary.size_insert_of_none isNew, isSize]
    · intro key isLater
      show (s.manager.destr.insert _ 0).lookup key = none
      rw [Dictionary.lookup_insert_of_ne _ _ _ (by omega)]
      exact unused key (by omega)

/-- With a limit of 1024 keys, one more is created. -/
theorem thread_keys_over_limit : ∃ first last,
    Run (step 1024) (BelowLimit 1024) {} (.AddThread 0 :: List.replicate 1024 (.AddKey 0)) first ∧
      first.step 1024 (.AddKey 0) = .ok last ∧ last.log.head? = some (.keyAdded 1025 .success) ∧
        ¬ Kept 1024 last := by
  obtain ⟨first, run, oneThread, next, isSize, unused⟩ :=
    @run_AddKey 1024 (by decide) (by decide) 1024 (Nat.le_refl _)
  have kept : Kept 1024 first :=
    run.invariant .start fun _ _ _ kept stepped below => kept.step stepped below
  have isNew : first.manager.destr.lookup first.manager.newkey = none := unused _ (by omega)
  have stepped := kept.step_AddKey (by omega) isNew (by omega) 0
  refine ⟨first, _, run, stepped, by rw [next]; rfl, fun keptLast => ?_⟩
  have bounded : (first.manager.destr.insert first.manager.newkey 0).size ≤ 1024 :=
    keptLast.bounded
  rw [Dictionary.size_insert_of_none isNew] at bounded
  omega

end TLSRun

end ActiveRouting

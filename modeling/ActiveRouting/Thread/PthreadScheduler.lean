import Mathlib.Data.Finset.Card
import Mathlib.Data.Int.Notation
import ActiveRouting.Thread.PTS

/-!
# The scheduler of the Pin side

`EEPthreadScheduler.cc`: which threads live, which of them may run, and which
hardware thread each of them has.
-/

namespace ActiveRouting

open Function

/-- `Pthread`; `address` is where it is allocated. -/
structure Pthread where
  address : ℕ
  active : Bool := true
  started : Bool := false
  executed : Bool := true
  num_ins : ℕ := 0
  skip_instrs : ℤ := 0
  spinning : ℤ := 0
  deriving DecidableEq, Repr

/-- `PthreadScheduler`.  `live` holds the keys of the map `pthreads`, `pthread` its values, and
    `current` and `hth_to_pth` point into it.  `pth_to_hth` is 0 where it has no entry. -/
structure PthreadScheduler where
  live : Finset ℕ := ∅
  pthread : ℕ → Pthread := fun _ => { address := 0 }
  current : ℕ := 0
  nactive : ℕ := 0
  curr_time : ℕ := 0
  pth_to_hth : ℕ → ℕ := fun _ => 0
  hth_to_pth : ℕ → Option ℕ := fun _ => none
  pts : PTS := {}

/-- `nactive` is an unsigned number of 32 bits. -/
def unsignedSucc (n : ℕ) : ℕ := if n + 1 = 2 ^ 32 then 0 else n + 1

def unsignedPred (n : ℕ) : ℕ := if n = 0 then 2 ^ 32 - 1 else n - 1

namespace PthreadScheduler

variable (c : PTSConfig) (s : PthreadScheduler)

def setPts (p : PTS) : PthreadScheduler := { s with pts := p }

def setPthread (thread : ℕ) (pthread : Pthread) : PthreadScheduler :=
  { s with pthread := update s.pthread thread pthread }

def setCurrent (thread : ℕ) : PthreadScheduler := { s with current := thread }

def setCurrTime (time : ℕ) : PthreadScheduler := { s with curr_time := time }

def incNactive : PthreadScheduler := { s with nactive := unsignedSucc s.nactive }

def decNactive : PthreadScheduler := { s with nactive := unsignedPred s.nactive }

/-- `pth_to_hth[pthreads[thread]]`. -/
def hthread (thread : ℕ) : ℕ := s.pth_to_hth (s.pthread thread).address

/-- `IsActive`. -/
def IsActive (thread : ℕ) : Except ThreadError Bool :=
  if thread ∈ s.live then .ok (s.pthread thread).active else .error .notFound

/-- An instruction without addresses and registers, sent at once. -/
def add_synch_instruction (thread : ℕ) (islock isunlock isbarrier : Bool) :
    Except ThreadError PthreadScheduler := do
  if thread ∉ s.live then throw .notFound
  let instr : PTSInstr := PTSInstr.mk (s.hthread thread) s.curr_time 0 0 0 0 0 0 0 false false
    islock isunlock isbarrier (0, 0, 0, 0) (0, 0, 0, 0)
  let result ← s.pts.add_instruction c instr false
  return s.setPts result.1

/-- `SetActiveState`. -/
def SetActiveState (thread : ℕ) (active : Bool) : Except ThreadError PthreadScheduler := do
  if thread ∉ s.live then throw .notFound
  return (s.setPthread thread { s.pthread thread with active := active }).setPts
    (s.pts.set_active c (s.hthread thread) active)

/-- The thread is entered into the map, at address `address`. -/
def enter (thread : ℕ) (pthread : Pthread) : PthreadScheduler :=
  { s.setPthread thread pthread with live := insert thread s.live }

/-- The mapping between the thread and hardware thread `h`. -/
def assign (thread h : ℕ) : PthreadScheduler :=
  { s with
    hth_to_pth := update s.hth_to_pth h (some thread)
    pth_to_hth := update s.pth_to_hth (s.pthread thread).address h }

/-- The first thread runs at once; there may not be more threads than hardware threads. -/
def enlist (thread : ℕ) : Except ThreadError PthreadScheduler :=
  if s.live.card = 1 then .ok (s.setCurrent thread)
  else if c.num_hthreads < s.live.card then .error .tooManyThreads
  else .ok s

/-- `AddThread`; the thread has not started if it is given a context. -/
def AddThread (thread address : ℕ) (startctxt : Bool) : Except ThreadError PthreadScheduler := do
  if thread ∈ s.live then throw .alreadyExists
  let pthread : Pthread := Pthread.mk address true (!startctxt) true 0 0 0
  let s ← (s.enter thread pthread).enlist c thread
  let h := s.live.card - 1
  let s := s.incNactive.assign thread h
  -- the stack size is a parameter; the stack, the state and the time are told or asked
  let s := s.setPts ((s.pts.request c).request c)
  let s := s.setPts ((s.pts.set_active c h (s.pthread thread).active).request c)
  if 1 < s.live.card then
    let instr : PTSInstr := PTSInstr.mk h s.curr_time 0 0 0 0 0 0 0 false false
      false false false (0, 0, 0, 0) (0, 0, 0, 0)
    let result ← s.pts.add_instruction c instr false
    return s.setPts result.1
  return s

/-- `KillThread`. -/
def KillThread (thread : ℕ) : Except ThreadError PthreadScheduler := do
  if thread ∉ s.live then throw .notFound
  if thread = s.current ∧ (s.pthread thread).active = false then throw .inactive
  let s := s.setPts (((s.pts.request c).set_active c (s.hthread thread) false).request c)
  return { s.decNactive with live := s.live.erase thread }

/-- `resume_simulation`: the simulator runs and returns to an active hardware thread, whose thread
    is the current one from then on. -/
def resume_simulation (must_switch : Bool) (answer : Resume) :
    Except ThreadError PthreadScheduler := do
  if s.pts.mcsim.active answer.ret = false then throw .notResumable
  let s := (s.setPts (s.pts.resume_simulation c answer)).setCurrTime answer.time
  match s.hth_to_pth answer.ret with
  | none => throw .dangling
  | some next =>
    if next ∉ s.live then throw .dangling
    if next = s.current ∧ (s.pthread next).started then
      return s.setPthread next { s.pthread next with executed := true }
    let s := s.setCurrent next
    if 1 < s.nactive || must_switch then
      return s.setPthread next { s.pthread next with started := true }
    return s

/-- `BlockThread`; the context that is saved is the current thread's. -/
def BlockThread (thread : ℕ) (answer : Resume) : Except ThreadError PthreadScheduler := do
  let active ← s.IsActive thread
  if active = false then throw .inactive
  let s ← s.SetActiveState c thread false
  let s := s.decNactive
  if s.nactive = 0 then throw .deadlocked
  if s.current ∉ s.live then throw .dangling
  let s := s.setPthread s.current { s.pthread s.current with executed := false }
  s.resume_simulation c true answer

/-- `UnblockThread`. -/
def UnblockThread (thread : ℕ) (isbarrier : Bool) : Except ThreadError PthreadScheduler := do
  let active ← s.IsActive thread
  if active then throw .active
  let s ← s.SetActiveState c thread true
  let s ← s.add_synch_instruction c thread false false isbarrier
  return s.incNactive

/-- Whether an instruction is not simulated. -/
def skips (pthread : Pthread) (instr : PTSInstr) : Bool :=
  instr.category < ART_CATEGORY_START && !c.ignore_skip_instrs && 0 < pthread.skip_instrs &&
    pthread.spinning ≤ 0

/-- Instructions of the processor count, active ones do not. -/
def charge (pthread : Pthread) (instr : PTSInstr) : Pthread :=
  if instr.category < ART_CATEGORY_START then { pthread with num_ins := pthread.num_ins + 1 }
  else pthread

/-- `process_ins` of an instruction that is not skipped. -/
def simulate (instr : PTSInstr) (answer : Resume) : Except ThreadError PthreadScheduler := do
  let s := s.setPthread s.current (charge (s.pthread s.current) instr)
  let traced := { instr with hthreadid_ := s.hthread s.current, curr_time_ := s.curr_time }
  let result ← s.pts.add_instruction c traced true
  let s := s.setPts result.1
  if result.2 then
    let s := if 1 < s.nactive then
        s.setPthread s.current { s.pthread s.current with executed := false }
      else s
    s.resume_simulation c false answer
  else return s

/-- `process_ins`, of an instruction that has a context or is played from a trace. -/
def process_ins (context : Bool) (instr : PTSInstr) (answer : Resume) :
    Except ThreadError PthreadScheduler := do
  if s.current ∉ s.live then throw .dangling
  let pthread := s.pthread s.current
  if pthread.executed = false ∧ context then
    return s.setPthread s.current { pthread with executed := true }
  if skips c pthread instr then return s
  s.simulate c instr answer

/-! ## What an operation does -/

variable {c s} {s' : PthreadScheduler} {thread : ℕ}

theorem IsActive_eq {active : Bool} (asked : s.IsActive thread = .ok active) :
    thread ∈ s.live ∧ (s.pthread thread).active = active := by
  unfold IsActive at asked
  split at asked
  · rename_i alive
    exact ⟨alive, Except.ok.inj asked⟩
  · cases asked

theorem SetActiveState_eq {active : Bool} (set : s.SetActiveState c thread active = .ok s') :
    s' = (s.setPthread thread { s.pthread thread with active := active }).setPts
      (s.pts.set_active c (s.hthread thread) active) := by
  unfold SetActiveState at set
  simp only at set
  split at set
  · cases set
  · exact (Outcome.pure_eq_ok.mp set).symm

theorem add_synch_instruction_eq {islock isunlock isbarrier : Bool}
    (added : s.add_synch_instruction c thread islock isunlock isbarrier = .ok s') :
    ∃ instr result, instr.hthreadid_ = s.hthread thread ∧
      s.pts.add_instruction c instr false = .ok result ∧ s' = s.setPts result.1 := by
  unfold add_synch_instruction at added
  simp only at added
  split at added
  · cases added
  · obtain ⟨result, handed, added⟩ := Outcome.bind_eq_ok.mp added
    exact ⟨_, result, rfl, handed, (Outcome.pure_eq_ok.mp added).symm⟩

theorem UnblockThread_eq {isbarrier : Bool} (unblocked : s.UnblockThread c thread isbarrier = .ok s') :
    thread ∈ s.live ∧ (s.pthread thread).active = false ∧ ∃ instr result,
      instr.hthreadid_ = s.hthread thread ∧
      (s.pts.set_active c (s.hthread thread) true).add_instruction c instr false = .ok result ∧
      s' = ((s.setPthread thread { s.pthread thread with active := true }).setPts
        result.1).incNactive := by
  unfold UnblockThread at unblocked
  obtain ⟨active, asked, unblocked⟩ := Outcome.bind_eq_ok.mp unblocked
  obtain ⟨alive, rfl⟩ := IsActive_eq asked
  split at unblocked
  · cases unblocked
  · rename_i inactive
    obtain ⟨s₁, set, unblocked⟩ := Outcome.bind_eq_ok.mp unblocked
    obtain rfl := SetActiveState_eq set
    obtain ⟨s₂, added, unblocked⟩ := Outcome.bind_eq_ok.mp unblocked
    obtain ⟨instr, result, sameThread, handed, rfl⟩ := add_synch_instruction_eq added
    refine ⟨alive, Bool.eq_false_iff.mpr inactive, instr, result, ?_, handed,
      (Outcome.pure_eq_ok.mp unblocked).symm⟩
    rw [sameThread]
    simp [hthread, setPthread, setPts]

theorem KillThread_eq (killed : s.KillThread c thread = .ok s') :
    thread ∈ s.live ∧ (thread = s.current → (s.pthread thread).active = true) ∧
      s' = { (s.setPts (((s.pts.request c).set_active c (s.hthread thread) false).request
        c)).decNactive with live := s.live.erase thread } := by
  unfold KillThread at killed
  simp only at killed
  split at killed
  · cases killed
  · rename_i alive
    split at killed
    · cases killed
    · rename_i running
      refine ⟨by simpa using alive, ?_, (Outcome.pure_eq_ok.mp killed).symm⟩
      intro isCurrent
      exact Bool.of_not_eq_false fun inactive => running ⟨isCurrent, inactive⟩

/-- The simulator returns to a live thread, which is the current one from then on. -/
theorem resume_simulation_eq {must_switch : Bool} {answer : Resume}
    (resumed : s.resume_simulation c must_switch answer = .ok s') :
    ∃ next pthread, s.pts.mcsim.active answer.ret = true ∧
      s.hth_to_pth answer.ret = some next ∧ next ∈ s.live ∧
      (pthread = { s.pthread next with executed := true } ∨
        pthread = { s.pthread next with started := true } ∨ pthread = s.pthread next) ∧
      s' = ((((s.setPts (s.pts.resume_simulation c answer)).setCurrTime answer.time).setCurrent
        next).setPthread next pthread) := by
  unfold resume_simulation at resumed
  simp only at resumed
  split at resumed
  · cases resumed
  · rename_i isActive
    split at resumed
    · cases resumed
    · rename_i next isNext
      split at resumed
      · cases resumed
      · rename_i alive
        refine ⟨next, ?_⟩
        split at resumed
        · rename_i same
          refine ⟨_, Bool.of_not_eq_false isActive, isNext, not_not.mp alive, .inl rfl, ?_⟩
          rw [← Outcome.pure_eq_ok.mp resumed]
          obtain ⟨rfl, _⟩ := same
          rfl
        · split at resumed
          · exact ⟨_, Bool.of_not_eq_false isActive, isNext, not_not.mp alive, .inr (.inl rfl),
              (Outcome.pure_eq_ok.mp resumed).symm⟩
          · refine ⟨_, Bool.of_not_eq_false isActive, isNext, not_not.mp alive, .inr (.inr rfl), ?_⟩
            rw [← Outcome.pure_eq_ok.mp resumed]
            simp [setPthread, setCurrent, setCurrTime, setPts]

theorem BlockThread_eq {answer : Resume} (blocked : s.BlockThread c thread answer = .ok s') :
    ∃ s₁, thread ∈ s.live ∧ (s.pthread thread).active = true ∧ s.current ∈ s.live ∧
      s₁.nactive ≠ 0 ∧
      s₁ = ((s.setPthread thread { s.pthread thread with active := false }).setPts
        (s.pts.set_active c (s.hthread thread) false)).decNactive ∧
      (s₁.setPthread s.current { s₁.pthread s.current with executed := false }).resume_simulation c
        true answer = .ok s' := by
  unfold BlockThread at blocked
  obtain ⟨active, asked, blocked⟩ := Outcome.bind_eq_ok.mp blocked
  obtain ⟨alive, rfl⟩ := IsActive_eq asked
  split at blocked
  · cases blocked
  · rename_i active
    obtain ⟨s₁, set, blocked⟩ := Outcome.bind_eq_ok.mp blocked
    obtain rfl := SetActiveState_eq set
    simp only at blocked
    split at blocked
    · cases blocked
    · rename_i running
      split at blocked
      · cases blocked
      · rename_i current
        exact ⟨_, alive, Bool.of_not_eq_false active, not_not.mp current, running, rfl,
          blocked⟩

/-- What the simulator is told about a new thread before it gets its first instruction. -/
def announced (c : PTSConfig) (p : PTS) (h : ℕ) : PTS :=
  (((p.request c).request c).set_active c h true).request c

theorem enlist_eq (enlisted : s.enlist c thread = .ok s') :
    (s.live.card = 1 ∨ s.live.card ≤ c.num_hthreads) ∧
      s' = s.setCurrent (if s.live.card = 1 then thread else s.current) := by
  unfold enlist at enlisted
  split at enlisted
  · rename_i one
    rw [if_pos one]
    exact ⟨.inl one, (Except.ok.inj enlisted).symm⟩
  · rename_i several
    split at enlisted
    · cases enlisted
    · rename_i fits
      rw [if_neg several]
      exact ⟨.inr (by omega), (Except.ok.inj enlisted).symm⟩

theorem AddThread_eq {address : ℕ} {startctxt : Bool}
    (added : s.AddThread c thread address startctxt = .ok s') :
    thread ∉ s.live ∧ s.live.card < c.num_hthreads ∧
      ∃ p, (s.live = ∅ ∧ p = announced c s.pts s.live.card ∨ ∃ instr result,
          s.live ≠ ∅ ∧ instr.hthreadid_ = s.live.card ∧
          (announced c s.pts s.live.card).add_instruction c instr false = .ok result ∧
          p = result.1) ∧
        s' = (((((s.enter thread (Pthread.mk address true (!startctxt) true 0 0 0)).setCurrent
          (if s.live = ∅ then thread else s.current)).incNactive).assign thread s.live.card).setPts
            p) := by
  unfold AddThread at added
  simp only at added
  split at added
  · cases added
  · rename_i new
    obtain ⟨s₁, enlisted, added⟩ := Outcome.bind_eq_ok.mp added
    obtain ⟨fits, rfl⟩ := enlist_eq enlisted
    have number : (insert thread s.live).card = s.live.card + 1 := Finset.card_insert_of_notMem new
    have one : (insert thread s.live).card = 1 ↔ s.live = ∅ := by
      rw [number, ← Finset.card_eq_zero]
      omega
    simp only [enter, setPthread, setCurrent, incNactive, assign, setPts, number, update_self,
      Nat.add_sub_cancel] at fits added
    have room : s.live.card < c.num_hthreads := by
      have := c.hthreads_pos
      omega
    refine ⟨new, room, ?_⟩
    split at added
    · rename_i several
      obtain ⟨result, handed, added⟩ := Outcome.bind_eq_ok.mp added
      refine ⟨result.1, .inr ⟨_, result, ?_, ?_, handed, rfl⟩, ?_⟩
      · exact Finset.card_ne_zero.mp (by omega) |>.ne_empty
      · rfl
      · rw [← Outcome.pure_eq_ok.mp added]
        simp only [enter, setPthread, setCurrent, incNactive, assign, setPts, update_self,
          ← number, one]
    · rename_i single
      have empty : s.live = ∅ := Finset.card_eq_zero.mp (by omega)
      refine ⟨_, .inl ⟨empty, rfl⟩, ?_⟩
      rw [← Outcome.pure_eq_ok.mp added]
      simp [enter, setPthread, setCurrent, incNactive, assign, setPts, empty, announced]

@[simp] theorem charge_address (pthread : Pthread) (instr : PTSInstr) :
    (charge pthread instr).address = pthread.address := by
  unfold charge
  split <;> rfl

/-- An instruction is charged to the current thread and handed over for its hardware thread. -/
theorem simulate_eq {instr : PTSInstr} {answer : Resume}
    (simulated : s.simulate c instr answer = .ok s') :
    ∃ result, s.pts.add_instruction c { instr with
        hthreadid_ := s.hthread s.current, curr_time_ := s.curr_time } true = .ok result ∧
      (result.2 = false ∧ s' = (s.setPthread s.current
          (charge (s.pthread s.current) instr)).setPts result.1 ∨
        result.2 = true ∧ ∃ executed, ((s.setPthread s.current
          { charge (s.pthread s.current) instr with executed := executed }).setPts
            result.1).resume_simulation c false answer = .ok s') := by
  unfold simulate at simulated
  obtain ⟨result, handed, simulated⟩ := Outcome.bind_eq_ok.mp simulated
  simp only [hthread, setPthread, update_self, charge_address] at handed
  refine ⟨result, handed, ?_⟩
  simp only at simulated
  split at simulated
  · rename_i must_resume
    refine .inr ⟨must_resume, ?_⟩
    split at simulated
    · refine ⟨false, ?_⟩
      simpa [setPthread, setPts] using simulated
    · exact ⟨_, simulated⟩
  · rename_i stays
    exact .inl ⟨Bool.eq_false_iff.mpr stays, (Outcome.pure_eq_ok.mp simulated).symm⟩

theorem process_ins_eq {context : Bool} {instr : PTSInstr} {answer : Resume}
    (processed : s.process_ins c context instr answer = .ok s') :
    s.current ∈ s.live ∧
      (s' = s.setPthread s.current { s.pthread s.current with executed := true } ∨ s' = s ∨
        (context = true → (s.pthread s.current).executed = true) ∧
          skips c (s.pthread s.current) instr = false ∧ s.simulate c instr answer = .ok s') := by
  unfold process_ins at processed
  simp only at processed
  split at processed
  · cases processed
  · rename_i alive
    refine ⟨not_not.mp alive, ?_⟩
    split at processed
    · exact .inl (Outcome.pure_eq_ok.mp processed).symm
    · rename_i executes
      split at processed
      · exact .inr (.inl (Outcome.pure_eq_ok.mp processed).symm)
      · rename_i simulated
        refine .inr (.inr ⟨fun isContext => ?_, Bool.eq_false_iff.mpr simulated, processed⟩)
        exact Bool.of_not_eq_false fun skipped => executes ⟨skipped, isContext⟩

end PthreadScheduler

end ActiveRouting

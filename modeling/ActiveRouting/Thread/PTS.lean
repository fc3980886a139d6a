import Mathlib.Algebra.Group.Nat.Defs
import Mathlib.Data.Nat.Notation
import Mathlib.Logic.Function.Basic
import ActiveRouting.Library.Outcome

/-!
# Instructions on their way to the simulator

`PTS.cc` and the end of `McSim.cc` that it talks to: instructions are piled, and
sent in batches to the queues of the cores.
-/

namespace ActiveRouting

/-- Where the Pin side stops: an assertion, an `exit(1)` or a pointer that dangles; `notResumable`
    is an answer that the simulator does not give. -/
inductive ThreadError where
  | alreadyExists | tooManyThreads | notFound | inactive | active | deadlocked | dangling
  | notResumable | fullBatch | mixedBatch | mutexCount | noBarrier | noWaiter | notJoinable
  | notJoiner | selfCancel
  deriving DecidableEq, Repr

/-- `ins_type`, without the accesses of cores that are not out of order. -/
inductive InsType where
  | no_mem | ins_branch_taken | ins_branch_not_taken | ins_lock | ins_unlock | ins_barrier
  | ins_x87 | ins_notify | ins_waitfor | ins_art_get | ins_art_add | ins_art_mult | ins_art_dot
  | ins_pei_dot | ins_pei_atomic
  deriving DecidableEq, Repr

def XED_CATEGORY_SSE : ℕ := 47

def XED_CATEGORY_X87_ALU : ℕ := 58

def XED_CATEGORY_LAST : ℕ := 62

def ART_CATEGORY_START : ℕ := XED_CATEGORY_LAST + 1

/-- `PTSInstr`, with the registers that are read and those that are written. -/
structure PTSInstr where
  hthreadid_ : ℕ
  curr_time_ : ℕ := 0
  waddr : ℕ := 0
  wlen : ℕ := 0
  raddr : ℕ := 0
  raddr2 : ℕ := 0
  rlen : ℕ := 0
  ip : ℕ := 0
  category : ℕ := 0
  isbranch : Bool := false
  isbranchtaken : Bool := false
  islock : Bool := false
  isunlock : Bool := false
  isbarrier : Bool := false
  rr : ℕ × ℕ × ℕ × ℕ := (0, 0, 0, 0)
  rw : ℕ × ℕ × ℕ × ℕ := (0, 0, 0, 0)
  deriving DecidableEq, Repr

/-- `O3Queue`: an entry of the queue of a core. -/
structure O3Queue where
  ready_time : ℕ
  waddr : ℕ
  wlen : ℕ
  raddr : ℕ
  raddr2 : ℕ
  rlen : ℕ
  ip : ℕ
  type : InsType
  rr : ℕ × ℕ × ℕ × ℕ
  rw : ℕ × ℕ × ℕ × ℕ
  deriving DecidableEq, Repr

/-- `addr_offset` is what `main` adds to the addresses of the program. -/
structure PTSConfig where
  num_hthreads : ℕ := 4
  instr_batch_size : ℕ := 32
  o3queue_param : ℕ := 64
  addr_offset : ℕ := 0
  ignore_skip_instrs : Bool := false
  hthreads_pos : 0 < num_hthreads := by decide
  hthreads_lt : num_hthreads < 2 ^ 32 := by decide

/-- A core has four slots more than the parameter says. -/
def PTSConfig.o3queue_max_size (c : PTSConfig) : ℕ := c.o3queue_param + 4

namespace PTSInstr

def type (instr : PTSInstr) : InsType :=
  if instr.category = ART_CATEGORY_START then .ins_art_get
  else if instr.category = ART_CATEGORY_START + 1 then .ins_art_add
  else if instr.category = ART_CATEGORY_START + 2 then .ins_art_mult
  else if instr.category = ART_CATEGORY_START + 3 then .ins_art_dot
  else if instr.category = ART_CATEGORY_START + 4 then .ins_pei_dot
  else if instr.category = ART_CATEGORY_START + 5 then .ins_pei_atomic
  else if instr.islock && instr.isunlock && !instr.isbarrier then .ins_notify
  else if instr.islock && instr.isunlock && instr.isbarrier then .ins_waitfor
  else if instr.isbranch && instr.isbranchtaken then .ins_branch_taken
  else if instr.isbranch && !instr.isbranchtaken then .ins_branch_not_taken
  -- an SSE operation is treated as an X87 operation
  else if instr.category = XED_CATEGORY_X87_ALU || instr.category = XED_CATEGORY_SSE then .ins_x87
  else if instr.islock then .ins_lock
  else if instr.isunlock then .ins_unlock
  else if instr.isbarrier then .ins_barrier
  else .no_mem

/-- The entry that the instruction becomes.  Addresses are moved into the address space of the
    program, the absent address 0 is not. -/
def entry (c : PTSConfig) (instr : PTSInstr) : O3Queue where
  ready_time := instr.curr_time_
  waddr := instr.waddr + if instr.waddr = 0 then 0 else c.addr_offset
  wlen := instr.wlen
  raddr := instr.raddr + if instr.raddr = 0 then 0 else c.addr_offset
  raddr2 := instr.raddr2 + if instr.raddr2 = 0 then 0 else c.addr_offset
  rlen := instr.rlen
  ip := instr.ip + c.addr_offset
  type := instr.type
  rr := instr.rr
  rw := instr.rw

end PTSInstr

/-- What the simulator does while it runs: the entries that each core takes from its queue, and
    the hardware thread that it returns to. -/
structure Resume where
  consumed : ℕ → ℕ := fun _ => 0
  ret : ℕ
  time : ℕ := 0

/-- The cores of a program.  `issued` records the entries that have left a queue. -/
structure McSim where
  o3queue : ℕ → List O3Queue := fun _ => []
  active : ℕ → Bool := fun h => h = 0
  issued : ℕ → List O3Queue := fun _ => []

namespace McSim

variable (c : PTSConfig)

/-- `McSim::add_instruction`; a core without a free slot takes nothing. -/
def add_instruction (m : McSim) (instr : PTSInstr) : McSim × ℕ :=
  let o3queue_size := (m.o3queue instr.hthreadid_).length
  if c.o3queue_max_size ≤ o3queue_size then (m, 0)
  else
    ({ m with
        o3queue := Function.update m.o3queue instr.hthreadid_
          (m.o3queue instr.hthreadid_ ++ [instr.entry c]) },
      if o3queue_size + 1 + 4 > c.o3queue_max_size then 0
      else c.o3queue_max_size - (o3queue_size + 1 + 4))

/-- `pts_add_instruction` in `main`: the reply holds the free slots after the last instruction. -/
def add_batch (m : McSim) (batch : List PTSInstr) : McSim × ℕ :=
  batch.foldl (fun result instr => result.1.add_instruction c instr) (m, 0)

def set_active (m : McSim) (h : ℕ) (is_active : Bool) : McSim :=
  { m with active := Function.update m.active h is_active }

def resume_simulation (m : McSim) (answer : Resume) : McSim :=
  { m with
    o3queue := fun h => (m.o3queue h).drop (answer.consumed h)
    issued := fun h => m.issued h ++ (m.o3queue h).take (answer.consumed h) }

end McSim

/-- `PthreadTimingSimulator`.  `handed` records the calls of `add_instruction`, with whether the
    instruction could be piled. -/
structure PTS where
  piled : List PTSInstr := []
  num_available_slot : ℕ → ℕ := fun _ => 1
  mcsim : McSim := {}
  handed : List (PTSInstr × Bool) := []

namespace PTS

variable (c : PTSConfig)

def setMcsim (p : PTS) (m : McSim) : PTS := { p with mcsim := m }

/-- The piled instructions go to the simulator, whose reply is for hardware thread `h`. -/
def send (p : PTS) (h : ℕ) : PTS :=
  { p with
    piled := []
    mcsim := (p.mcsim.add_batch c p.piled).1
    num_available_slot := Function.update p.num_available_slot h (p.mcsim.add_batch c p.piled).2 }

/-- `send_instr_batch`, which every other request begins with if instructions are piled. -/
def flush (p : PTS) : PTS :=
  match p.piled.getLast? with
  | none => p
  | some last => p.send c last.hthreadid_

def pile (p : PTS) (instr : PTSInstr) (can_be_piled : Bool) : PTS :=
  { p with piled := p.piled ++ [instr], handed := p.handed ++ [(instr, can_be_piled)] }

/-- `add_instruction`; true asks for the simulation to be resumed. -/
def add_instruction (p : PTS) (instr : PTSInstr) (can_be_piled : Bool) :
    Except ThreadError (PTS × Bool) := do
  if c.instr_batch_size ≤ p.piled.length then throw .fullBatch
  if p.piled.getLast?.any fun last => last.hthreadid_ ≠ instr.hthreadid_ then throw .mixedBatch
  let p := p.pile instr can_be_piled
  if !can_be_piled || c.instr_batch_size ≤ p.piled.length ||
      p.num_available_slot instr.hthreadid_ ≤ p.piled.length then
    let p := p.send c instr.hthreadid_
    return (p, p.num_available_slot instr.hthreadid_ ≤ 1)
  return (p, false)

def set_active (p : PTS) (h : ℕ) (is_active : Bool) : PTS :=
  (p.flush c).setMcsim ((p.flush c).mcsim.set_active h is_active)

/-- `set_stack_n_size`, `get_curr_time` and the parameters change nothing that is modelled. -/
def request (p : PTS) : PTS := p.flush c

def resume_simulation (p : PTS) (answer : Resume) : PTS :=
  (p.flush c).setMcsim ((p.flush c).mcsim.resume_simulation answer)

/-! ## What is handed over -/

variable {c}

@[simp] theorem flush_handed (p : PTS) : (p.flush c).handed = p.handed := by
  unfold flush
  split <;> rfl

@[simp] theorem request_handed (p : PTS) : (p.request c).handed = p.handed := p.flush_handed

@[simp] theorem set_active_handed (p : PTS) (h : ℕ) (is_active : Bool) :
    (p.set_active c h is_active).handed = p.handed := p.flush_handed

@[simp] theorem resume_simulation_handed (p : PTS) (answer : Resume) :
    (p.resume_simulation c answer).handed = p.handed := p.flush_handed

/-! ## Which hardware threads are active -/

theorem add_instruction_active (m : McSim) (instr : PTSInstr) :
    (m.add_instruction c instr).1.active = m.active := by
  unfold McSim.add_instruction
  simp only
  split <;> rfl

theorem foldl_active (batch : List PTSInstr) (result : McSim × ℕ) :
    (batch.foldl (fun result instr => result.1.add_instruction c instr) result).1.active =
      result.1.active := by
  induction batch generalizing result with
  | nil => rfl
  | cons instr batch inductionHypothesis =>
    rw [List.foldl_cons, inductionHypothesis, add_instruction_active]

@[simp] theorem send_active (p : PTS) (h : ℕ) : (p.send c h).mcsim.active = p.mcsim.active :=
  foldl_active p.piled (p.mcsim, 0)

@[simp] theorem flush_active (p : PTS) : (p.flush c).mcsim.active = p.mcsim.active := by
  unfold flush
  split
  · rfl
  · exact p.send_active _

@[simp] theorem request_active (p : PTS) : (p.request c).mcsim.active = p.mcsim.active :=
  p.flush_active

@[simp] theorem set_active_active (p : PTS) (h : ℕ) (is_active : Bool) :
    (p.set_active c h is_active).mcsim.active = Function.update p.mcsim.active h is_active := by
  show Function.update (p.flush c).mcsim.active h is_active = _
  rw [flush_active]

@[simp] theorem resume_simulation_active (p : PTS) (answer : Resume) :
    (p.resume_simulation c answer).mcsim.active = p.mcsim.active :=
  p.flush_active

/-- What `add_instruction` does: the instruction is piled, or sent with what is piled. -/
theorem add_instruction_eq {p : PTS} {instr : PTSInstr} {can_be_piled : Bool} {result : PTS × Bool}
    (added : p.add_instruction c instr can_be_piled = .ok result) :
    (∀ last ∈ p.piled.getLast?, last.hthreadid_ = instr.hthreadid_) ∧
      p.piled.length < c.instr_batch_size ∧
      (result = ((p.pile instr can_be_piled).send c instr.hthreadid_,
          decide (((p.pile instr can_be_piled).send c instr.hthreadid_).num_available_slot
            instr.hthreadid_ ≤ 1)) ∨
        result = (p.pile instr can_be_piled, false) ∧ can_be_piled = true ∧
          p.piled.length + 1 < p.num_available_slot instr.hthreadid_) := by
  unfold add_instruction at added
  simp only at added
  split at added
  · cases added
  · rename_i roomy
    split at added
    · cases added
    · rename_i same
      refine ⟨?_, by omega, ?_⟩
      · intro last isLast
        by_contra different
        apply same
        rw [Option.mem_def.mp isLast]
        exact decide_eq_true different
      · split at added
        · exact .inl (Outcome.pure_eq_ok.mp added).symm
        · rename_i stays
          simp only [pile, List.length_append, List.length_singleton, Bool.or_eq_true,
            Bool.not_eq_true', decide_eq_true_eq, not_or, Nat.not_le, Bool.not_eq_false] at stays
          exact .inr ⟨(Outcome.pure_eq_ok.mp added).symm, stays.1.1, stays.2⟩

theorem add_instruction_handed {p : PTS} {instr : PTSInstr} {can_be_piled : Bool}
    {result : PTS × Bool} (added : p.add_instruction c instr can_be_piled = .ok result) :
    result.1.handed = p.handed ++ [(instr, can_be_piled)] := by
  obtain ⟨_, _, rfl | ⟨rfl, _⟩⟩ := add_instruction_eq added <;> rfl

theorem add_instruction_keepsActive {p : PTS} {instr : PTSInstr} {can_be_piled : Bool}
    {result : PTS × Bool} (added : p.add_instruction c instr can_be_piled = .ok result) :
    result.1.mcsim.active = p.mcsim.active := by
  obtain ⟨_, _, rfl | ⟨rfl, _⟩⟩ := add_instruction_eq added
  · exact (p.pile instr can_be_piled).send_active _
  · rfl

end PTS

end ActiveRouting

import ActiveRouting.Library.Run
import ActiveRouting.Thread.HardwareThreads

/-!
# The instruction stream

What is handed over reaches the queue of its core in order, as long as there is
a slot for it.  Only traced instructions are handed over with regard to the slots
that the simulator has granted.
-/

namespace ActiveRouting

open Function Outcome

/-- What the Pin side does: a request to the scheduler, or a synchronisation instruction of the
    current thread. -/
inductive StreamAction where
  | request (action : SchedulerAction)
  | synch (islock isunlock isbarrier : Bool)

namespace PthreadScheduler

variable (c : PTSConfig)

def step (s : PthreadScheduler) : StreamAction → Except ThreadError PthreadScheduler
  | .request (.AddThread thread address startctxt) => s.AddThread c thread address startctxt
  | .request (.KillThread thread) => s.KillThread c thread
  | .request (.BlockThread thread answer) => s.BlockThread c thread answer
  | .request (.UnblockThread thread isbarrier) => s.UnblockThread c thread isbarrier
  | .request (.process_ins context instr answer) => s.process_ins c context instr answer
  | .request (.resume_simulation must_switch answer) => s.resume_simulation c must_switch answer
  | .synch islock isunlock isbarrier =>
    s.add_synch_instruction c s.current islock isunlock isbarrier

end PthreadScheduler

namespace PTS

variable {c : PTSConfig} {p : PTS} {h : ℕ} {instr : PTSInstr} {can_be_piled : Bool}

/-! ## Batches -/

/-- All instructions that are piled are for hardware thread `h`. -/
def PiledFor (p : PTS) (h : ℕ) : Prop := ∀ instr ∈ p.piled, instr.hthreadid_ = h

theorem PiledFor.empty (nothing : p.piled = []) (h : ℕ) : PiledFor p h := by
  intro instr isPiled
  rw [nothing] at isPiled
  cases isPiled

@[simp] theorem flush_piled (p : PTS) : (p.flush c).piled = [] := by
  unfold flush
  split
  · rename_i nothing
    exact List.getLast?_eq_none_iff.mp nothing
  · rfl

@[simp] theorem set_active_piled (p : PTS) (h : ℕ) (is_active : Bool) :
    (p.set_active c h is_active).piled = [] := p.flush_piled

@[simp] theorem request_piled (p : PTS) : (p.request c).piled = [] := p.flush_piled

@[simp] theorem resume_simulation_piled (p : PTS) (answer : Resume) :
    (p.resume_simulation c answer).piled = [] := p.flush_piled

/-- No batch is mixed by an instruction for the hardware thread of the others. -/
theorem add_instruction_yields (piledFor : PiledFor p instr.hthreadid_) :
    Yields (fun result => PiledFor result.1 instr.hthreadid_ ∧
      (can_be_piled = false → result.1.piled = [])) (· = ThreadError.mixedBatch)
      (p.add_instruction c instr can_be_piled) := by
  have grown : PiledFor (p.pile instr can_be_piled) instr.hthreadid_ := by
    intro other isPiled
    rcases List.mem_append.mp isPiled with old | new
    · exact piledFor other old
    · rw [List.mem_singleton.mp new]
  unfold add_instruction
  simp only
  split
  · exact Yields.throw nofun
  · split
    · rename_i mixed
      obtain ⟨last, isLast, different⟩ := (Option.any_eq_true _ _).mp mixed
      have same := piledFor last (List.mem_of_getLast? isLast)
      exact absurd same (of_decide_eq_true different)
    · split
      · exact Yields.pure ⟨.empty rfl _, fun _ => rfl⟩
      · rename_i stays
        refine Yields.pure ⟨grown, fun notPiled => ?_⟩
        simp [notPiled] at stays

end PTS

namespace PthreadScheduler

variable {c : PTSConfig} {s : PthreadScheduler} {thread : ℕ}

/-- What is piled is for the hardware thread of the current thread. -/
def Unmixed (s : PthreadScheduler) : Prop := PTS.PiledFor s.pts (s.hthread s.current)

theorem Unmixed.empty (nothing : s.pts.piled = []) : Unmixed s :=
  PTS.PiledFor.empty nothing _

theorem Unmixed.setPthread {pthread : Pthread} (unmixed : Unmixed s)
    (same : pthread.address = (s.pthread s.current).address) :
    Unmixed (s.setPthread s.current pthread) := by
  intro instr isPiled
  rw [unmixed instr isPiled]
  simp [hthread, PthreadScheduler.setPthread, same]

/-- The scheduler does not stop at a mixed batch, and leaves none behind. -/
abbrev KeepsUnmixed (result : Except ThreadError PthreadScheduler) : Prop :=
  Yields Unmixed (· = ThreadError.mixedBatch) result

theorem add_synch_instruction_yields {islock isunlock isbarrier : Bool}
    (piledFor : PTS.PiledFor s.pts (s.hthread thread)) :
    Yields (fun s' => s'.pts.piled = []) (· = ThreadError.mixedBatch)
      (s.add_synch_instruction c thread islock isunlock isbarrier) := by
  unfold add_synch_instruction
  simp only
  split
  · exact Yields.throw nofun
  · exact (PTS.add_instruction_yields piledFor).bind fun _ sent => Yields.pure (sent.2 rfl)

theorem IsActive_yields : Yields (fun _ => True) (· = ThreadError.mixedBatch)
    (s.IsActive thread) := by
  unfold IsActive
  split
  · exact Yields.pure trivial
  · exact Yields.throw nofun

theorem SetActiveState_yields {active : Bool} :
    Yields (fun s' => s'.pts.piled = []) (· = ThreadError.mixedBatch)
      (s.SetActiveState c thread active) := by
  unfold SetActiveState
  simp only
  split
  · exact Yields.throw nofun
  · exact Yields.pure (PTS.set_active_piled _ _ _)

/-- The simulator runs with nothing left to send. -/
theorem resume_simulation_yields {must_switch : Bool} {answer : Resume} :
    KeepsUnmixed (s.resume_simulation c must_switch answer) := by
  have sent : ∀ next pthread, Unmixed ((((s.setPts (s.pts.resume_simulation c answer)).setCurrTime
      answer.time).setCurrent next).setPthread next pthread) := fun _ _ =>
    .empty (PTS.resume_simulation_piled _ _)
  unfold resume_simulation
  simp only
  split
  · exact Yields.throw nofun
  · split
    · exact Yields.throw nofun
    · split
      · exact Yields.throw nofun
      · split
        · exact Yields.pure (.empty (PTS.resume_simulation_piled _ _))
        · split
          · exact Yields.pure (sent _ _)
          · exact Yields.pure (.empty (PTS.resume_simulation_piled _ _))

theorem BlockThread_yields {answer : Resume} : KeepsUnmixed (s.BlockThread c thread answer) := by
  unfold BlockThread
  refine IsActive_yields.bind fun active _ => ?_
  split
  · exact Yields.throw nofun
  · refine SetActiveState_yields.bind fun s₁ _ => ?_
    simp only
    split
    · exact Yields.throw nofun
    · split
      · exact Yields.throw nofun
      · exact resume_simulation_yields

theorem UnblockThread_yields {isbarrier : Bool} :
    KeepsUnmixed (s.UnblockThread c thread isbarrier) := by
  unfold UnblockThread
  refine IsActive_yields.bind fun active _ => ?_
  split
  · exact Yields.throw nofun
  · refine SetActiveState_yields.bind fun s₁ sent => ?_
    exact (add_synch_instruction_yields (.empty sent _)).bind fun s₂ sent' =>
      Yields.pure (.empty sent')

theorem KillThread_yields : KeepsUnmixed (s.KillThread c thread) := by
  unfold KillThread
  simp only
  split
  · exact Yields.throw nofun
  · split
    · exact Yields.throw nofun
    · exact Yields.pure (.empty (PTS.request_piled _))

theorem AddThread_yields {address : ℕ} {startctxt : Bool} :
    KeepsUnmixed (s.AddThread c thread address startctxt) := by
  unfold AddThread
  simp only
  split
  · exact Yields.throw nofun
  · have enlisted : Yields (fun _ => True) (· = ThreadError.mixedBatch)
        ((s.enter thread (Pthread.mk address true (!startctxt) true 0 0 0)).enlist c thread) := by
      unfold enlist
      split
      · exact Yields.pure trivial
      · split
        · exact Yields.throw nofun
        · exact Yields.pure trivial
    refine enlisted.bind fun s₁ _ => ?_
    split
    · have sent := PTS.PiledFor.empty (PTS.request_piled (c := c)
        ((((s₁.incNactive.assign thread (s₁.live.card - 1)).pts.request c).request c).set_active c
          (s₁.live.card - 1) (s₁.pthread thread).active)) (s₁.live.card - 1)
      exact (PTS.add_instruction_yields sent).bind fun _ sent' =>
        Yields.pure (.empty (sent'.2 rfl))
    · exact Yields.pure (.empty (PTS.request_piled _))

theorem simulate_yields {instr : PTSInstr} {answer : Resume} (unmixed : Unmixed s) :
    KeepsUnmixed (s.simulate c instr answer) := by
  have charged := unmixed.setPthread (charge_address (s.pthread s.current) instr)
  unfold simulate
  refine Yields.bind (PTS.add_instruction_yields ?_) fun result sent => ?_
  · exact charged
  · simp only
    split
    · exact resume_simulation_yields
    · exact Yields.pure sent.1

theorem process_ins_yields {context : Bool} {instr : PTSInstr} {answer : Resume}
    (unmixed : Unmixed s) : KeepsUnmixed (s.process_ins c context instr answer) := by
  unfold process_ins
  simp only
  split
  · exact Yields.throw nofun
  · split
    · exact Yields.pure (unmixed.setPthread rfl)
    · split
      · exact Yields.pure unmixed
      · exact simulate_yields unmixed

/-- A batch never holds instructions of two hardware threads. -/
theorem Unmixed.step (unmixed : Unmixed s) (action : StreamAction) :
    KeepsUnmixed (s.step c action) := by
  cases action with
  | request action =>
    cases action with
    | AddThread => exact AddThread_yields
    | KillThread => exact KillThread_yields
    | BlockThread => exact BlockThread_yields
    | UnblockThread => exact UnblockThread_yields
    | process_ins => exact process_ins_yields unmixed
    | resume_simulation => exact resume_simulation_yields
  | synch => exact (add_synch_instruction_yields unmixed).mono fun _ sent => .empty sent

end PthreadScheduler

/-! ## Queues -/

/-- The entries that instructions for hardware thread `h` become. -/
def entries (c : PTSConfig) (instrs : List PTSInstr) (h : ℕ) : List O3Queue :=
  (instrs.filter fun instr => instr.hthreadid_ = h).map fun instr => instr.entry c

theorem entries_append (c : PTSConfig) (instrs instrs' : List PTSInstr) (h : ℕ) :
    entries c (instrs ++ instrs') h = entries c instrs h ++ entries c instrs' h := by
  simp [entries]

theorem entries_own {c : PTSConfig} {instrs : List PTSInstr} {h : ℕ}
    (own : ∀ instr ∈ instrs, instr.hthreadid_ = h) :
    entries c instrs h = instrs.map fun instr => instr.entry c := by
  unfold entries
  rw [List.filter_eq_self.mpr fun instr isIn => decide_eq_true (own instr isIn)]

theorem entries_other {c : PTSConfig} {instrs : List PTSInstr} {h h' : ℕ}
    (own : ∀ instr ∈ instrs, instr.hthreadid_ = h) (other : h' ≠ h) :
    entries c instrs h' = [] := by
  unfold entries
  rw [List.filter_eq_nil_iff.mpr fun instr isIn => ?_, List.map_nil]
  simp [own instr isIn, other.symm]

namespace McSim

variable {c : PTSConfig} {m : McSim} {h : ℕ}

def enqueue (m : McSim) (h : ℕ) (new : List O3Queue) : McSim :=
  { m with o3queue := update m.o3queue h (m.o3queue h ++ new) }

theorem enqueue_nil (m : McSim) (h : ℕ) : m.enqueue h [] = m := by
  unfold enqueue
  rw [List.append_nil, update_eq_self]

theorem enqueue_enqueue (m : McSim) (h : ℕ) (new new' : List O3Queue) :
    (m.enqueue h new).enqueue h new' = m.enqueue h (new ++ new') := by
  simp [enqueue]

/-- An instruction for which there is a slot enters the queue; the reply spares four slots. -/
theorem add_instruction_slot {instr : PTSInstr}
    (slot : (m.o3queue instr.hthreadid_).length < c.o3queue_max_size) :
    m.add_instruction c instr = (m.enqueue instr.hthreadid_ [instr.entry c],
      c.o3queue_max_size - ((m.o3queue instr.hthreadid_).length + 1 + 4)) := by
  unfold add_instruction
  simp only
  rw [if_neg (Nat.not_le.mpr slot)]
  refine Prod.ext rfl ?_
  simp only
  split <;> omega

/-- A batch for which there are slots enters the queue. -/
theorem foldl_enqueue {batch : List PTSInstr} (own : ∀ instr ∈ batch, instr.hthreadid_ = h)
    (slots : (m.o3queue h).length + batch.length ≤ c.o3queue_max_size) (reply : ℕ) :
    (batch.foldl (fun result instr => result.1.add_instruction c instr) (m, reply)).1 =
      m.enqueue h (batch.map fun instr => instr.entry c) := by
  induction batch generalizing m reply with
  | nil => exact (m.enqueue_nil h).symm
  | cons instr batch inductionHypothesis =>
    obtain rfl := own instr List.mem_cons_self
    rw [List.length_cons] at slots
    have slot : (m.o3queue instr.hthreadid_).length < c.o3queue_max_size := by omega
    rw [List.foldl_cons, add_instruction_slot slot, inductionHypothesis
      (fun instr' isIn => own instr' (List.mem_cons_of_mem _ isIn)), enqueue_enqueue]
    · rfl
    · simp only [enqueue, update_self, List.length_append, List.length_singleton]
      omega

/-- The reply to a batch is that to its last instruction. -/
theorem add_batch_reply {batch : List PTSInstr} (nonempty : batch ≠ [])
    (own : ∀ instr ∈ batch, instr.hthreadid_ = h)
    (slots : (m.o3queue h).length + batch.length ≤ c.o3queue_max_size) :
    (m.add_batch c batch).2 = c.o3queue_max_size - ((m.o3queue h).length + batch.length + 4) := by
  obtain ⟨earlier, last, rfl⟩ : ∃ earlier last, batch = earlier ++ [last] :=
    ⟨batch.dropLast, batch.getLast nonempty, (List.dropLast_append_getLast nonempty).symm⟩
  obtain rfl := own last (List.mem_append_right _ (List.mem_singleton_self last))
  rw [List.length_append, List.length_singleton] at slots ⊢
  have fewer : (m.o3queue last.hthreadid_).length + earlier.length ≤ c.o3queue_max_size := by omega
  have before := foldl_enqueue (fun instr isIn => own instr (List.mem_append_left _ isIn)) fewer 0
  unfold add_batch
  rw [List.foldl_append, List.foldl_cons, List.foldl_nil, before, add_instruction_slot]
  all_goals simp only [enqueue, update_self, List.length_append, List.length_map]
  all_goals omega

end McSim

namespace PTS

variable {c : PTSConfig} {p : PTS} {h : ℕ}

/-- The instructions for hardware thread `h` that a core has yet to take. -/
def backlog (p : PTS) (h : ℕ) : ℕ :=
  (p.mcsim.o3queue h).length + (p.piled.filter fun instr => instr.hthreadid_ = h).length

/-- What has been handed over for a hardware thread has entered the queue of its core, in order,
    except for what is piled; a batch fits into the slots that are granted, and these into the
    queue. -/
structure Delivered (c : PTSConfig) (p : PTS) : Prop where
  short : p.piled = [] ∨ ∃ h, PiledFor p h ∧ p.piled.length < p.num_available_slot h
  granted : ∀ h, p.num_available_slot h ≤ 1 ∨
    p.num_available_slot h + 4 + (p.mcsim.o3queue h).length ≤ c.o3queue_max_size
  fits : ∀ h, (p.mcsim.o3queue h).length ≤ c.o3queue_max_size
  intact : ∀ h, p.mcsim.issued h ++ p.mcsim.o3queue h ++ entries c p.piled h =
    entries c (p.handed.map Prod.fst) h

/-- No queue grows beyond its size. -/
theorem foldl_fits (batch : List PTSInstr) (result : McSim × ℕ)
    (fits : ∀ h, (result.1.o3queue h).length ≤ c.o3queue_max_size) (h : ℕ) :
    ((batch.foldl (fun result instr => result.1.add_instruction c instr) result).1.o3queue
      h).length ≤ c.o3queue_max_size := by
  induction batch generalizing result with
  | nil => exact fits h
  | cons instr batch inductionHypothesis =>
    rw [List.foldl_cons]
    refine inductionHypothesis _ fun h' => ?_
    by_cases slot : (result.1.o3queue instr.hthreadid_).length < c.o3queue_max_size
    · rw [McSim.add_instruction_slot slot]
      by_cases same : h' = instr.hthreadid_
      · subst same
        simp only [McSim.enqueue, update_self, List.length_append, List.length_singleton]
        omega
      · simp only [McSim.enqueue, update_of_ne same]
        exact fits h'
    · unfold McSim.add_instruction
      simp only
      rw [if_pos (Nat.not_lt.mp slot)]
      exact fits h'

/-- A batch is sent for which there are slots. -/
theorem Delivered.send (nonempty : p.piled ≠ []) (own : PiledFor p h)
    (slots : (p.mcsim.o3queue h).length + p.piled.length ≤ c.o3queue_max_size)
    (granted : ∀ h, p.num_available_slot h ≤ 1 ∨
      p.num_available_slot h + 4 + (p.mcsim.o3queue h).length ≤ c.o3queue_max_size)
    (fits : ∀ h, (p.mcsim.o3queue h).length ≤ c.o3queue_max_size)
    (intact : ∀ h, p.mcsim.issued h ++ p.mcsim.o3queue h ++ entries c p.piled h =
      entries c (p.handed.map Prod.fst) h) : Delivered c (p.send c h) := by
  have mcsim : (p.send c h).mcsim = p.mcsim.enqueue h (p.piled.map fun instr => instr.entry c) :=
    McSim.foldl_enqueue own slots 0
  refine ⟨.inl rfl, fun h' => ?_, foldl_fits p.piled (p.mcsim, 0) fits, fun h' => ?_⟩
  · rw [mcsim]
    show update p.num_available_slot h (p.mcsim.add_batch c p.piled).2 h' ≤ 1 ∨
      update p.num_available_slot h (p.mcsim.add_batch c p.piled).2 h' + 4 + _ ≤ _
    rw [McSim.add_batch_reply nonempty own slots]
    by_cases same : h' = h
    · subst same
      simp only [update_self, McSim.enqueue, List.length_append, List.length_map]
      omega
    · simp only [update_of_ne same, McSim.enqueue]
      exact granted h'
  · have before := intact h'
    rw [mcsim]
    show p.mcsim.issued h' ++ (update p.mcsim.o3queue h _ h') ++ entries c [] h' =
      entries c (p.handed.map Prod.fst) h'
    rw [← before]
    by_cases same : h' = h
    · subst same
      rw [update_self, entries_own own]
      simp [entries]
    · rw [update_of_ne same, entries_other own same]
      rfl

/-- What is piled can be sent at any time. -/
theorem Delivered.flush (delivered : Delivered c p) : Delivered c (p.flush c) := by
  unfold PTS.flush
  split
  · exact delivered
  · rename_i last isLast
    have isPiled : last ∈ p.piled := List.mem_of_getLast? isLast
    have nonempty : p.piled ≠ [] := List.ne_nil_of_mem isPiled
    obtain ⟨h, own, short⟩ := delivered.short.resolve_left nonempty
    obtain rfl := own last isPiled
    have positive := List.length_pos_of_mem isPiled
    have granted := (delivered.granted last.hthreadid_).resolve_left (by omega)
    exact .send nonempty own (by omega) delivered.granted delivered.fits delivered.intact

theorem foldl_issued (batch : List PTSInstr) (result : McSim × ℕ) :
    (batch.foldl (fun result instr => result.1.add_instruction c instr) result).1.issued =
      result.1.issued := by
  induction batch generalizing result with
  | nil => rfl
  | cons instr batch inductionHypothesis =>
    rw [List.foldl_cons, inductionHypothesis]
    unfold McSim.add_instruction
    simp only
    split <;> rfl

theorem flush_issued (p : PTS) : (p.flush c).mcsim.issued = p.mcsim.issued := by
  unfold PTS.flush
  split
  · rfl
  · exact foldl_issued p.piled (p.mcsim, 0)

/-- Sending what is piled leaves a core as much to take as before. -/
theorem Delivered.flush_backlog (delivered : Delivered c p) (h : ℕ) :
    (p.flush c).backlog h = p.backlog h := by
  have before := delivered.intact h
  have after := delivered.flush.intact h
  rw [flush_issued, flush_handed, ← before] at after
  have lengths := congrArg List.length after
  simp only [entries, List.length_append, List.length_map] at lengths
  unfold backlog
  omega

theorem Delivered.set_active {is_active : Bool} (delivered : Delivered c p) :
    Delivered c (p.set_active c h is_active) :=
  ⟨delivered.flush.short, delivered.flush.granted, delivered.flush.fits, delivered.flush.intact⟩

theorem Delivered.resume_simulation {answer : Resume} (delivered : Delivered c p) :
    Delivered c (p.resume_simulation c answer) := by
  refine ⟨.inl (resume_simulation_piled p answer), fun h => ?_, fun h => ?_, fun h => ?_⟩
  · refine (delivered.flush.granted h).imp_right fun fits => ?_
    show (p.flush c).num_available_slot h + 4 +
      (((p.flush c).mcsim.o3queue h).drop (answer.consumed h)).length ≤ _
    rw [List.length_drop]
    omega
  · have fits := delivered.flush.fits h
    show (((p.flush c).mcsim.o3queue h).drop (answer.consumed h)).length ≤ _
    rw [List.length_drop]
    omega
  · have before := delivered.flush.intact h
    show (p.flush c).mcsim.issued h ++ ((p.flush c).mcsim.o3queue h).take (answer.consumed h) ++
      ((p.flush c).mcsim.o3queue h).drop (answer.consumed h) ++ entries c (p.flush c).piled h = _
    rw [List.append_assoc ((p.flush c).mcsim.issued h), List.take_append_drop]
    exact before

/-- A grant of more than one slot is not used up by what is piled. -/
theorem Delivered.backlog_lt (delivered : Delivered c p) (grant : 1 < p.num_available_slot h) :
    p.backlog h < c.o3queue_max_size := by
  have fits := (delivered.granted h).resolve_left (Nat.not_le.mpr grant)
  unfold backlog
  rcases delivered.short with nothing | ⟨h', own, short⟩
  · rw [nothing, List.filter_nil, List.length_nil]
    omega
  · by_cases same : h = h'
    · subst same
      have fewer := List.length_filter_le (fun instr => decide (instr.hthreadid_ = h)) p.piled
      omega
    · have nobody : p.piled.filter (fun instr => instr.hthreadid_ = h) = [] :=
        List.filter_eq_nil_iff.mpr fun instr isPiled => by simp [own instr isPiled, Ne.symm same]
      rw [nobody, List.length_nil]
      omega

theorem pile_intact {instr : PTSInstr} {can_be_piled : Bool} (delivered : Delivered c p) (h : ℕ) :
    p.mcsim.issued h ++ p.mcsim.o3queue h ++ entries c (p.pile instr can_be_piled).piled h =
      entries c ((p.pile instr can_be_piled).handed.map Prod.fst) h := by
  show _ ++ entries c (p.piled ++ [instr]) h =
    entries c ((p.handed ++ [(instr, can_be_piled)]).map Prod.fst) h
  rw [List.map_append, entries_append, entries_append, ← delivered.intact h,
    List.append_assoc _ (entries c p.piled h)]
  rfl

/-- An instruction that is handed over is delivered exactly if there is a slot for it where at most
    one has been granted. -/
theorem Delivered.add_instruction_iff {instr : PTSInstr} {can_be_piled : Bool}
    {result : PTS × Bool} (delivered : Delivered c p)
    (added : p.add_instruction c instr can_be_piled = .ok result) :
    Delivered c result.1 ↔ (p.num_available_slot instr.hthreadid_ ≤ 1 →
      p.backlog instr.hthreadid_ < c.o3queue_max_size) := by
  obtain ⟨sameThread, _, kind⟩ := add_instruction_eq added
  -- the instruction joins a batch for its own hardware thread
  have own : PiledFor p instr.hthreadid_ := by
    rcases delivered.short with nothing | ⟨h, own, _⟩
    · exact .empty nothing _
    · by_cases nothing : p.piled = []
      · exact .empty nothing _
      · have isInstr := sameThread _ (List.getLast?_eq_getLast_of_ne_nil nothing)
        rw [own _ (List.getLast_mem nothing)] at isInstr
        exact isInstr ▸ own
  have backlog : p.backlog instr.hthreadid_ =
      (p.mcsim.o3queue instr.hthreadid_).length + p.piled.length := by
    unfold PTS.backlog
    rw [List.filter_eq_self.mpr fun other isPiled => decide_eq_true (own other isPiled)]
  have ownPile : PiledFor (p.pile instr can_be_piled) instr.hthreadid_ := by
    intro other isPiled
    rcases List.mem_append.mp isPiled with old | new
    · exact own other old
    · rw [List.mem_singleton.mp new]
  constructor
  · intro delivered' few
    rcases kind with rfl | ⟨_, _, short⟩
    · by_contra full
      have before := delivered.intact instr.hthreadid_
      have after := delivered'.intact instr.hthreadid_
      have fits := foldl_fits (p.pile instr can_be_piled).piled (p.mcsim, 0) delivered.fits
        instr.hthreadid_
      have issued : ((p.pile instr can_be_piled).send c instr.hthreadid_).mcsim.issued =
          p.mcsim.issued := foldl_issued (p.pile instr can_be_piled).piled (p.mcsim, 0)
      change (((p.pile instr can_be_piled).send c instr.hthreadid_).mcsim.o3queue
        instr.hthreadid_).length ≤ _ at fits
      change _ ++ entries c [] instr.hthreadid_ =
        entries c ((p.handed ++ [(instr, can_be_piled)]).map Prod.fst) instr.hthreadid_ at after
      rw [issued, List.map_append, entries_append, ← before] at after
      have lengths := congrArg List.length after
      have one : (entries c (List.map Prod.fst [(instr, can_be_piled)])
          instr.hthreadid_).length = 1 := by
        simp [entries]
      have nothing : (entries c [] instr.hthreadid_).length = 0 := rfl
      rw [entries_own own] at lengths
      simp only [List.length_append, List.length_map, one, nothing] at lengths
      omega
    · omega
  · intro slot
    have slots : (p.mcsim.o3queue instr.hthreadid_).length + (p.piled.length + 1) ≤
        c.o3queue_max_size := by
      by_cases few : p.num_available_slot instr.hthreadid_ ≤ 1
      · have free := slot few
        omega
      · have free := delivered.backlog_lt (Nat.not_le.mp few)
        omega
    rcases kind with rfl | ⟨rfl, _, short⟩
    · refine Delivered.send (by simp [pile]) ownPile ?_ delivered.granted delivered.fits
        (pile_intact delivered)
      show _ + (p.piled ++ [instr]).length ≤ _
      rw [List.length_append, List.length_singleton]
      exact slots
    · refine ⟨.inr ⟨instr.hthreadid_, ownPile, ?_⟩, delivered.granted, delivered.fits,
        pile_intact delivered⟩
      show (p.piled ++ [instr]).length < _
      rw [List.length_append, List.length_singleton]
      exact short

theorem Delivered.initial (c : PTSConfig) : Delivered c {} where
  short := .inl rfl
  granted _ := .inl le_rfl
  fits _ := Nat.zero_le _
  intact _ := rfl

end PTS

namespace PthreadScheduler

open PTS

variable {c : PTSConfig} {s s' : PthreadScheduler} {thread h : ℕ}

/-- There is a slot for an instruction of hardware thread `h`, also if at most one slot has been
    granted, so that the simulator has asked to be resumed. -/
def HasSlot (c : PTSConfig) (s : PthreadScheduler) (h : ℕ) : Prop :=
  s.pts.num_available_slot h ≤ 1 → s.pts.backlog h < c.o3queue_max_size

/-- There is a slot for the instruction that a step hands over. -/
def FindsSlot (c : PTSConfig) (s : PthreadScheduler) : StreamAction → Prop
  | .request (.AddThread _ _ _) => s.live ≠ ∅ → HasSlot c s s.live.card
  | .request (.UnblockThread thread _) => HasSlot c s (s.hthread thread)
  | .request (.process_ins context instr _) =>
    (context = true → (s.pthread s.current).executed = true) →
      skips c (s.pthread s.current) instr = false → HasSlot c s (s.hthread s.current)
  | .synch _ _ _ => HasSlot c s (s.hthread s.current)
  | .request (.KillThread _) | .request (.BlockThread _ _) | .request (.resume_simulation _ _) =>
    True

theorem HasSlot.backlog_lt (slot : HasSlot c s h) (delivered : Delivered c s.pts) :
    s.pts.backlog h < c.o3queue_max_size := by
  by_cases few : s.pts.num_available_slot h ≤ 1
  · exact slot few
  · exact delivered.backlog_lt (Nat.not_le.mp few)

theorem resume_simulation_delivered {must_switch : Bool} {answer : Resume}
    (delivered : Delivered c s.pts) (resumed : s.resume_simulation c must_switch answer = .ok s') :
    Delivered c s'.pts := by
  obtain ⟨next, pthread, _, _, _, _, rfl⟩ := resume_simulation_eq resumed
  exact delivered.resume_simulation

theorem AddThread_delivered {address : ℕ} {startctxt : Bool} (delivered : Delivered c s.pts)
    (slot : s.live ≠ ∅ → HasSlot c s s.live.card)
    (added : s.AddThread c thread address startctxt = .ok s') : Delivered c s'.pts := by
  obtain ⟨_, _, p, handed, rfl⟩ := AddThread_eq added
  have told : Delivered c (announced c s.pts s.live.card) := delivered.flush.flush.set_active.flush
  have backlog : ∀ h, (announced c s.pts s.live.card).backlog h = s.pts.backlog h := by
    intro h
    have first := delivered.flush_backlog h
    have second := delivered.flush.flush_backlog h
    have third := delivered.flush.flush.flush_backlog h
    have toldActive : Delivered c (((s.pts.request c).request c).set_active c s.live.card true) :=
      delivered.flush.flush.set_active
    have fourth := toldActive.flush_backlog h
    exact fourth.trans (third.trans (second.trans first))
  show Delivered c p
  rcases handed with ⟨_, rfl⟩ | ⟨instr, result, several, own, handedOver, rfl⟩
  · exact told
  · refine (told.add_instruction_iff handedOver).mpr fun _ => ?_
    rw [own, backlog]
    exact (slot several).backlog_lt delivered

theorem UnblockThread_delivered {isbarrier : Bool} (delivered : Delivered c s.pts)
    (slot : HasSlot c s (s.hthread thread))
    (unblocked : s.UnblockThread c thread isbarrier = .ok s') : Delivered c s'.pts := by
  obtain ⟨_, _, instr, result, own, handed, rfl⟩ := UnblockThread_eq unblocked
  have told : Delivered c (s.pts.set_active c (s.hthread thread) true) := delivered.set_active
  refine (told.add_instruction_iff handed).mpr fun _ => ?_
  have backlog := delivered.flush_backlog (s.hthread thread)
  rw [own]
  exact backlog.trans_lt (slot.backlog_lt delivered)

theorem BlockThread_delivered {answer : Resume} (delivered : Delivered c s.pts)
    (blocked : s.BlockThread c thread answer = .ok s') : Delivered c s'.pts := by
  obtain ⟨s₁, _, _, _, _, isNext, resumed⟩ := BlockThread_eq blocked
  refine resume_simulation_delivered ?_ resumed
  rw [isNext]
  exact delivered.set_active

theorem process_ins_delivered {context : Bool} {instr : PTSInstr} {answer : Resume}
    (delivered : Delivered c s.pts)
    (slot : FindsSlot c s (.request (.process_ins context instr answer)))
    (processed : s.process_ins c context instr answer = .ok s') : Delivered c s'.pts := by
  obtain ⟨_, rfl | rfl | ⟨executes, simulated, isSimulated⟩⟩ := process_ins_eq processed
  · exact delivered
  · exact delivered
  · obtain ⟨result, added, kind⟩ := simulate_eq isSimulated
    have next := (delivered.add_instruction_iff added).mpr (slot executes simulated)
    rcases kind with ⟨_, rfl⟩ | ⟨_, executed, resumed⟩
    · exact next
    · exact resume_simulation_delivered next resumed

/-- What a step keeps that finds a slot for what it hands over. -/
theorem step_delivered {action : StreamAction} (delivered : Delivered c s.pts)
    (slot : FindsSlot c s action) (stepped : s.step c action = .ok s') : Delivered c s'.pts := by
  cases action with
  | request action =>
    cases action with
    | AddThread => exact AddThread_delivered delivered slot stepped
    | KillThread thread =>
      obtain ⟨_, _, rfl⟩ := KillThread_eq stepped
      exact delivered.flush.set_active.flush
    | BlockThread => exact BlockThread_delivered delivered stepped
    | UnblockThread => exact UnblockThread_delivered delivered slot stepped
    | process_ins => exact process_ins_delivered delivered slot stepped
    | resume_simulation => exact resume_simulation_delivered delivered stepped
  | synch =>
    obtain ⟨instr, result, own, handed, rfl⟩ := add_synch_instruction_eq stepped
    exact (delivered.add_instruction_iff handed).mpr (own ▸ slot)

/-! ## Runs -/

open Transition

/-- The stream of instructions is intact: no batch is mixed, and the queue of each core has got what
    was handed over for its hardware thread, once and in order, except for what is piled, which
    follows when it is sent. -/
structure Intact (c : PTSConfig) (s : PthreadScheduler) : Prop where
  unmixed : ∀ instr ∈ s.pts.piled, ∀ instr' ∈ s.pts.piled, instr.hthreadid_ = instr'.hthreadid_
  neverMixed : ∀ action, s.step c action ≠ .error .mixedBatch
  entered : ∀ h, s.pts.mcsim.issued h ++ s.pts.mcsim.o3queue h ++ entries c s.pts.piled h =
    entries c (s.pts.handed.map Prod.fst) h
  sent : ∀ h, (s.pts.flush c).mcsim.issued h ++ (s.pts.flush c).mcsim.o3queue h =
    entries c (s.pts.handed.map Prod.fst) h

theorem intact_of_delivered (delivered : Delivered c s.pts) (unmixed : Unmixed s) :
    Intact c s where
  unmixed instr isPiled instr' isPiled' := (unmixed instr isPiled).trans
    (unmixed instr' isPiled').symm
  neverMixed action isMixed := by
    have yields := unmixed.step (c := c) action
    rw [isMixed] at yields
    exact yields rfl
  entered := delivered.intact
  sent h := by
    have intact := delivered.flush.intact h
    rw [flush_piled, flush_handed] at intact
    simpa [entries] using intact

instance (c : PTSConfig) (s : PthreadScheduler) (h : ℕ) : Decidable (HasSlot c s h) :=
  inferInstanceAs (Decidable (_ → _))

instance (c : PTSConfig) (s : PthreadScheduler) :
    (action : StreamAction) → Decidable (FindsSlot c s action)
  | .request (.AddThread _ _ _) => inferInstanceAs (Decidable (s.live ≠ ∅ → HasSlot _ _ _))
  | .request (.UnblockThread _ _) => inferInstanceAs (Decidable (HasSlot _ _ _))
  | .request (.process_ins _ _ _) => inferInstanceAs (Decidable (_ → _ → HasSlot _ _ _))
  | .synch _ _ _ => inferInstanceAs (Decidable (HasSlot _ _ _))
  | .request (.KillThread _) | .request (.BlockThread _ _) | .request (.resume_simulation _ _) =>
    instDecidableTrue

/-- Whether or not there are slots, no batch is mixed. -/
theorem run_unmixed {guard : PthreadScheduler → StreamAction → PthreadScheduler → Prop}
    {actions : List StreamAction} (run : Run (step c) guard {} actions s) : Unmixed s := by
  refine run.invariant (.empty rfl) fun state action state' unmixed stepped _ => ?_
  have yields := unmixed.step (c := c) action
  rw [stepped] at yields
  exact yields

/-- In every run in which there is a slot for each instruction that is handed over after a grant of
    at most one, the stream is intact. -/
theorem run_intact (c : PTSConfig) {actions : List StreamAction} {s : PthreadScheduler}
    (run : Run (step c) (fun state action _ => FindsSlot c state action) {} actions s) :
    Intact c s := by
  have delivered : Delivered c s.pts := run.invariant (.initial c)
    fun _ _ _ delivered stepped slot => step_delivered delivered slot stepped
  exact intact_of_delivered delivered (run_unmixed run)

/-- Two threads; the second one gets its creation and runs, the first waits and is unblocked. -/
def alternate : List StreamAction :=
  [.request (.AddThread 0 100 false), .request (.process_ins false { hthreadid_ := 0 } { ret := 0 }),
    .request (.process_ins false { hthreadid_ := 0, raddr := 8 } { ret := 0 }),
    .request (.AddThread 1 101 true), .request (.process_ins false { hthreadid_ := 0 } { ret := 0 }),
    .synch true false false, .request (.BlockThread 0 { ret := 1, consumed := fun _ => 2 }),
    .request (.process_ins false { hthreadid_ := 0 } { ret := 0 }),
    .request (.UnblockThread 0 false), .request (.process_ins false { hthreadid_ := 0 } { ret := 0 })]

/-- Instructions of two threads, of which some are still piled. -/
theorem run_intact_two_threads : ∃ s,
    Run (step {}) (fun state action _ => FindsSlot {} state action) {} alternate s ∧
      s.pts.piled.length = 1 ∧ (s.pts.mcsim.o3queue 0).length = 3 ∧
      (s.pts.mcsim.issued 0).length = 2 ∧ Intact {} s := by
  have executed : (execute (step {}) (fun state action _ => FindsSlot {} state action) {}
      alternate).map (fun s => (s.pts.piled.length, (s.pts.mcsim.o3queue 0).length,
        (s.pts.mcsim.issued 0).length)) = some (1, 3, 2) := by decide +kernel
  obtain ⟨s, executed, facts⟩ := Option.map_eq_some_iff.mp executed
  simp only [Prod.mk.injEq] at facts
  have run := execute_run executed
  exact ⟨s, run, facts.1, facts.2.1, facts.2.2, run_intact {} run⟩

/-- A lock and its unlocking three times, with nothing simulated between, in a queue of five. -/
theorem run_drops_synch : ¬ ∀ (actions : List StreamAction) (s : PthreadScheduler),
    Run (step { o3queue_param := 1 }) (fun _ _ _ => True) {} actions s →
      Intact { o3queue_param := 1 } s := by
  intro always
  have executed : (execute (step { o3queue_param := 1 }) (fun _ _ _ => True) {}
      [.request (.AddThread 0 100 false), .synch true false false, .synch false true false,
        .synch true false false, .synch false true false, .synch true false false,
        .synch false true false]).map (fun s => ((s.pts.mcsim.issued 0).length +
          (s.pts.mcsim.o3queue 0).length + (entries { o3queue_param := 1 } s.pts.piled 0).length,
          (entries { o3queue_param := 1 } (s.pts.handed.map Prod.fst) 0).length)) =
      some (5, 6) := by decide +kernel
  obtain ⟨s, executed, facts⟩ := Option.map_eq_some_iff.mp executed
  obtain ⟨entered, handed⟩ := Prod.mk.inj facts
  have lengths := congrArg List.length ((always _ s (execute_run executed)).entered 0)
  rw [List.length_append, List.length_append, entered, handed] at lengths
  cases lengths

end PthreadScheduler

end ActiveRouting

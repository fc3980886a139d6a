import ActiveRouting.Library.Run
import ActiveRouting.Thread.PthreadScheduler

/-!
# Threads and hardware threads

A new thread gets the number of the threads before it as its hardware thread.
-/

namespace ActiveRouting

open Function

/-- A request to the scheduler. -/
inductive SchedulerAction where
  | AddThread (thread address : ℕ) (startctxt : Bool)
  | KillThread (thread : ℕ)
  | BlockThread (thread : ℕ) (answer : Resume)
  | UnblockThread (thread : ℕ) (isbarrier : Bool)
  | process_ins (context : Bool) (instr : PTSInstr) (answer : Resume)
  | resume_simulation (must_switch : Bool) (answer : Resume)

namespace PthreadScheduler

/-- The instructions of the processor that were handed over for hardware thread `h`. -/
def traced (s : PthreadScheduler) (h : ℕ) : ℕ :=
  s.pts.handed.countP fun entry =>
    entry.2 && entry.1.hthreadid_ == h && entry.1.category < ART_CATEGORY_START

/-- The threads and the hardware threads in use correspond to each other. -/
structure Mapped (c : PTSConfig) (s : PthreadScheduler) : Prop where
  injective : ∀ t ∈ s.live, ∀ t' ∈ s.live, s.hthread t = s.hthread t' → t = t'
  inverse : ∀ t ∈ s.live, s.hth_to_pth (s.hthread t) = some t
  bounded : ∀ t ∈ s.live, s.hthread t < c.num_hthreads

/-- Live threads are different objects. -/
def Allocated (s : PthreadScheduler) : Prop :=
  ∀ t ∈ s.live, ∀ t' ∈ s.live, (s.pthread t).address = (s.pthread t').address → t = t'

end PthreadScheduler

/-- The scheduler, and for each thread the instructions that had been handed over for its hardware
    thread before it came. -/
structure HardwareThreads where
  scheduler : PthreadScheduler := {}
  earlier : ℕ → ℕ := fun _ => 0

namespace HardwareThreads

open PthreadScheduler

variable (c : PTSConfig)

def step (s : HardwareThreads) : SchedulerAction → Except ThreadError HardwareThreads
  | .AddThread thread address startctxt => do
    let scheduler ← s.scheduler.AddThread c thread address startctxt
    return ⟨scheduler, update s.earlier thread (scheduler.traced (scheduler.hthread thread))⟩
  | .KillThread thread => do return ⟨← s.scheduler.KillThread c thread, s.earlier⟩
  | .BlockThread thread answer => do return ⟨← s.scheduler.BlockThread c thread answer, s.earlier⟩
  | .UnblockThread thread isbarrier => do
    return ⟨← s.scheduler.UnblockThread c thread isbarrier, s.earlier⟩
  | .process_ins context instr answer => do
    return ⟨← s.scheduler.process_ins c context instr answer, s.earlier⟩
  | .resume_simulation must_switch answer => do
    return ⟨← s.scheduler.resume_simulation c must_switch answer, s.earlier⟩

/-- The instructions that a thread is charged are those of its hardware thread. -/
def Charged (s : HardwareThreads) : Prop :=
  ∀ t ∈ s.scheduler.live, s.earlier t + (s.scheduler.pthread t).num_ins =
    s.scheduler.traced (s.scheduler.hthread t)

/-- A new object is none of those in use. -/
def Fresh (s : HardwareThreads) : SchedulerAction → HardwareThreads → Prop
  | .AddThread _ address _, _ => ∀ t ∈ s.scheduler.live, (s.scheduler.pthread t).address ≠ address
  | _, _ => True

/-- The hardware thread that a new thread gets is free. -/
def Free (s : HardwareThreads) : SchedulerAction → Prop
  | .AddThread _ _ _ => ∀ t ∈ s.scheduler.live, s.scheduler.hthread t ≠ s.scheduler.live.card
  | _ => True

end HardwareThreads

/-! ## Operations that leave the mapping alone -/

namespace PthreadScheduler

/-- No thread is added or moved. -/
structure SameThreads (s s' : PthreadScheduler) : Prop where
  live : s'.live ⊆ s.live
  pth_to_hth : s'.pth_to_hth = s.pth_to_hth
  hth_to_pth : s'.hth_to_pth = s.hth_to_pth
  address : ∀ t, (s'.pthread t).address = (s.pthread t).address

/-- Nor is one charged. -/
structure SameMapping (s s' : PthreadScheduler) : Prop extends SameThreads s s' where
  num_ins : ∀ t, (s'.pthread t).num_ins = (s.pthread t).num_ins
  traced : ∀ h, s'.traced h = s.traced h

variable {c : PTSConfig} {s s' : PthreadScheduler}

namespace SameThreads

theorem hthread (same : SameThreads s s') (t : ℕ) : s'.hthread t = s.hthread t := by
  rw [PthreadScheduler.hthread, same.pth_to_hth, same.address]
  rfl

theorem mapped (same : SameThreads s s') (mapped : Mapped c s) : Mapped c s' where
  injective t alive t' alive' equal := by
    rw [same.hthread, same.hthread] at equal
    exact mapped.injective t (same.live alive) t' (same.live alive') equal
  inverse t alive := by
    rw [same.hthread, same.hth_to_pth]
    exact mapped.inverse t (same.live alive)
  bounded t alive := by
    rw [same.hthread]
    exact mapped.bounded t (same.live alive)

theorem allocated (same : SameThreads s s') (allocated : Allocated s) : Allocated s' := by
  intro t alive t' alive' equal
  rw [same.address, same.address] at equal
  exact allocated t (same.live alive) t' (same.live alive') equal

end SameThreads

namespace SameMapping

theorem trans {s₁ s₂ s₃ : PthreadScheduler} (first : SameMapping s₁ s₂)
    (second : SameMapping s₂ s₃) : SameMapping s₁ s₃ where
  live := second.live.trans first.live
  pth_to_hth := second.pth_to_hth.trans first.pth_to_hth
  hth_to_pth := second.hth_to_pth.trans first.hth_to_pth
  address t := (second.address t).trans (first.address t)
  num_ins t := (second.num_ins t).trans (first.num_ins t)
  traced h := (second.traced h).trans (first.traced h)

theorem setPthread {thread : ℕ} {pthread : Pthread}
    (sameAddress : pthread.address = (s.pthread thread).address)
    (sameNumber : pthread.num_ins = (s.pthread thread).num_ins) :
    SameMapping s (s.setPthread thread pthread) where
  live := Finset.Subset.refl _
  pth_to_hth := rfl
  hth_to_pth := rfl
  address t := by
    by_cases isThread : t = thread
    · subst isThread
      simpa [PthreadScheduler.setPthread] using sameAddress
    · simp [PthreadScheduler.setPthread, isThread]
  num_ins t := by
    by_cases isThread : t = thread
    · subst isThread
      simpa [PthreadScheduler.setPthread] using sameNumber
    · simp [PthreadScheduler.setPthread, isThread]
  traced _ := rfl

/-- Only instructions that cannot be piled are handed over. -/
theorem setPts {p : PTS} {synch : List PTSInstr}
    (handed : p.handed = s.pts.handed ++ synch.map fun instr => (instr, false)) :
    SameMapping s (s.setPts p) where
  live := Finset.Subset.refl _
  pth_to_hth := rfl
  hth_to_pth := rfl
  address _ := rfl
  num_ins _ := rfl
  traced h := by
    simp [PthreadScheduler.traced, PthreadScheduler.setPts, handed, List.countP_map, Function.comp_def]

end SameMapping

/-- Nothing that the mapping depends on differs. -/
theorem SameMapping.of_eq (live : s'.live ⊆ s.live) (pthread : s'.pthread = s.pthread)
    (pth_to_hth : s'.pth_to_hth = s.pth_to_hth) (hth_to_pth : s'.hth_to_pth = s.hth_to_pth)
    (pts : s'.pts = s.pts) : SameMapping s s' where
  live := live
  pth_to_hth := pth_to_hth
  hth_to_pth := hth_to_pth
  address t := by rw [pthread]
  num_ins t := by rw [pthread]
  traced h := by rw [PthreadScheduler.traced, pts, PthreadScheduler.traced]

theorem SameMapping.decNactive (s : PthreadScheduler) : SameMapping s s.decNactive :=
  .of_eq (Finset.Subset.refl _) rfl rfl rfl rfl

theorem SameMapping.incNactive (s : PthreadScheduler) : SameMapping s s.incNactive :=
  .of_eq (Finset.Subset.refl _) rfl rfl rfl rfl

theorem SameMapping.moved (s : PthreadScheduler) (time next : ℕ) :
    SameMapping s ((s.setCurrTime time).setCurrent next) :=
  .of_eq (Finset.Subset.refl _) rfl rfl rfl rfl

/-- The simulator is told or asked something. -/
theorem SameMapping.told {p : PTS} (handed : p.handed = s.pts.handed) :
    SameMapping s (s.setPts p) := by
  have none : p.handed = s.pts.handed ++ List.map (fun instr => (instr, false)) [] := by
    rw [handed, List.map_nil, List.append_nil]
  exact .setPts none

theorem SameMapping.handedOver {p : PTS} {instr : PTSInstr} {result : PTS × Bool}
    (handed : p.handed = s.pts.handed) (added : p.add_instruction c instr false = .ok result) :
    SameMapping s (s.setPts result.1) := by
  have one : result.1.handed = s.pts.handed ++ List.map (fun instr => (instr, false)) [instr] := by
    rw [PTS.add_instruction_handed added, handed]
    rfl
  exact .setPts one

theorem resume_simulation_same {must_switch : Bool} {answer : Resume}
    (resumed : s.resume_simulation c must_switch answer = .ok s') : SameMapping s s' := by
  obtain ⟨next, pthread, _, _, _, updated, rfl⟩ := resume_simulation_eq resumed
  have told := SameMapping.told (s := s) (PTS.resume_simulation_handed s.pts answer (c := c))
  refine (told.trans (.moved _ answer.time next)).trans (.setPthread ?_ ?_)
  all_goals rcases updated with rfl | rfl | rfl <;> rfl

theorem SameMapping.setActive (s : PthreadScheduler) (thread : ℕ) (active : Bool) :
    SameMapping s ((s.setPthread thread { s.pthread thread with active := active }).setPts
      (s.pts.set_active c (s.hthread thread) active)) := by
  have changed : SameMapping s (s.setPthread thread { s.pthread thread with active := active }) :=
    .setPthread rfl rfl
  exact changed.trans (.told (PTS.set_active_handed _ _ _))

theorem SameMapping.setExecuted (s : PthreadScheduler) (thread : ℕ) (executed : Bool) :
    SameMapping s (s.setPthread thread { s.pthread thread with executed := executed }) :=
  .setPthread rfl rfl

theorem BlockThread_same {thread : ℕ} {answer : Resume}
    (blocked : s.BlockThread c thread answer = .ok s') : SameMapping s s' := by
  obtain ⟨s₁, _, _, _, _, inactive, resumed⟩ := BlockThread_eq blocked
  have first : SameMapping s s₁ := by
    rw [inactive]
    exact (SameMapping.setActive s thread false).trans (.decNactive _)
  exact (first.trans (.setExecuted s₁ s.current false)).trans (resume_simulation_same resumed)

theorem UnblockThread_same {thread : ℕ} {isbarrier : Bool}
    (unblocked : s.UnblockThread c thread isbarrier = .ok s') : SameMapping s s' := by
  obtain ⟨_, _, instr, result, _, added, rfl⟩ := UnblockThread_eq unblocked
  have active : SameMapping s
      (s.setPthread thread { s.pthread thread with active := true }) := .setPthread rfl rfl
  have handed := active.trans (.handedOver (PTS.set_active_handed _ _ _) added)
  exact handed.trans (.incNactive _)

theorem KillThread_same {thread : ℕ} (killed : s.KillThread c thread = .ok s') :
    SameMapping s s' := by
  obtain ⟨_, _, rfl⟩ := KillThread_eq killed
  have told : SameMapping s (s.setPts (((s.pts.request c).set_active c (s.hthread thread)
      false).request c)) := .told (by simp)
  exact (told.trans (.decNactive _)).trans (.of_eq (Finset.erase_subset _ _) rfl rfl rfl rfl)

/-! ## A new thread -/

/-- A new object gets the first hardware thread that the number of threads leaves, the others keep
    theirs. -/
theorem AddThread_hthread {thread address : ℕ} {startctxt : Bool}
    (added : s.AddThread c thread address startctxt = .ok s')
    (fresh : ∀ t ∈ s.live, (s.pthread t).address ≠ address) :
    s'.live = insert thread s.live ∧ thread ∉ s.live ∧ s.live.card < c.num_hthreads ∧
      s'.hth_to_pth = update s.hth_to_pth s.live.card (some thread) ∧
      s'.hthread thread = s.live.card ∧ (s'.pthread thread).address = address ∧
      (s'.pthread thread).num_ins = 0 ∧ (∀ h, s'.traced h = s.traced h) ∧
      ∀ t ∈ s.live, s'.hthread t = s.hthread t ∧ s'.pthread t = s.pthread t := by
  obtain ⟨new, room, p, handed, rfl⟩ := AddThread_eq added
  refine ⟨rfl, new, room, rfl, ?_, ?_, ?_, ?_, ?_⟩
  · simp [hthread, assign, enter, setPthread, setCurrent, incNactive, setPts]
  · simp [assign, enter, setPthread, setCurrent, incNactive, setPts]
  · simp [assign, enter, setPthread, setCurrent, incNactive, setPts]
  · intro h
    have announcedHanded : (announced c s.pts s.live.card).handed = s.pts.handed := by
      simp [announced]
    rcases handed with ⟨_, rfl⟩ | ⟨instr, result, _, _, handedOver, rfl⟩
    · simp [traced, setPts, announcedHanded]
    · simp [traced, setPts, PTS.add_instruction_handed handedOver, announcedHanded]
  · intro t alive
    have other : t ≠ thread := fun isThread => new (isThread ▸ alive)
    have sameThread : (s.enter thread (Pthread.mk address true (!startctxt) true 0 0 0)).pthread t =
        s.pthread t := by
      simp [enter, setPthread, other]
    constructor
    · simp [hthread, assign, enter, setPthread, setCurrent, incNactive, setPts, other,
        fresh t alive]
    · exact sameThread

/-- A new thread keeps the mapping one to one exactly if no other one has its hardware thread. -/
theorem AddThread_mapped_iff {thread address : ℕ} {startctxt : Bool}
    (added : s.AddThread c thread address startctxt = .ok s')
    (fresh : ∀ t ∈ s.live, (s.pthread t).address ≠ address) (mapped : Mapped c s) :
    Mapped c s' ↔ ∀ t ∈ s.live, s.hthread t ≠ s.live.card := by
  obtain ⟨live, new, room, hth_to_pth, own, _, _, _, others⟩ := AddThread_hthread added fresh
  constructor
  · intro mapped' t alive shared
    have alive' : t ∈ s'.live := live ▸ Finset.mem_insert_of_mem alive
    have thread' : thread ∈ s'.live := live ▸ Finset.mem_insert_self _ _
    have same : t = thread := by
      apply mapped'.injective t alive' thread thread'
      rw [own, (others t alive).1, shared]
    exact new (same ▸ alive)
  · intro free
    refine ⟨?_, ?_, ?_⟩
    · intro t alive t' alive' equal
      rw [live] at alive alive'
      rcases Finset.mem_insert.mp alive with rfl | old
      · rcases Finset.mem_insert.mp alive' with rfl | old'
        · rfl
        · rw [own, (others t' old').1] at equal
          exact absurd equal.symm (free t' old')
      · rcases Finset.mem_insert.mp alive' with rfl | old'
        · rw [own, (others t old).1] at equal
          exact absurd equal (free t old)
        · rw [(others t old).1, (others t' old').1] at equal
          exact mapped.injective t old t' old' equal
    · intro t alive
      rw [live] at alive
      rcases Finset.mem_insert.mp alive with rfl | old
      · rw [own, hth_to_pth, update_self]
      · rw [(others t old).1, hth_to_pth, update_of_ne (free t old)]
        exact mapped.inverse t old
    · intro t alive
      rw [live] at alive
      rcases Finset.mem_insert.mp alive with rfl | old
      · rw [own]
        exact room
      · rw [(others t old).1]
        exact mapped.bounded t old

theorem AddThread_allocated {thread address : ℕ} {startctxt : Bool}
    (added : s.AddThread c thread address startctxt = .ok s')
    (fresh : ∀ t ∈ s.live, (s.pthread t).address ≠ address) (allocated : Allocated s) :
    Allocated s' := by
  obtain ⟨live, _, _, _, _, own, _, _, others⟩ := AddThread_hthread added fresh
  intro t alive t' alive' equal
  rw [live] at alive alive'
  rcases Finset.mem_insert.mp alive with rfl | old
  · rcases Finset.mem_insert.mp alive' with rfl | old'
    · rfl
    · rw [own, (others t' old').2] at equal
      exact absurd equal.symm (fresh t' old')
  · rcases Finset.mem_insert.mp alive' with rfl | old'
    · rw [own, (others t old).2] at equal
      exact absurd equal (fresh t old)
    · rw [(others t old).2, (others t' old').2] at equal
      exact allocated t old t' old' equal

end PthreadScheduler

namespace HardwareThreads

open PthreadScheduler

variable {c : PTSConfig}

/-- The mapping, with what it rests on and what is charged by it. -/
structure Good (c : PTSConfig) (s : HardwareThreads) : Prop where
  mapped : Mapped c s.scheduler
  allocated : Allocated s.scheduler
  charged : Charged s

theorem Good.initial : Good c {} := by
  refine ⟨⟨?_, ?_, ?_⟩, ?_, ?_⟩ <;> intro t alive <;> cases alive

variable {s s' : PthreadScheduler} {earlier : ℕ → ℕ}

theorem Good.of_same (good : Good c ⟨s, earlier⟩) (same : SameMapping s s') :
    Good c ⟨s', earlier⟩ where
  mapped := same.mapped good.mapped
  allocated := same.allocated good.allocated
  charged t alive := by
    show earlier t + (s'.pthread t).num_ins = s'.traced (s'.hthread t)
    rw [same.num_ins, same.traced, same.toSameThreads.hthread]
    exact good.charged t (same.live alive)

/-- A new thread has been charged nothing yet. -/
theorem Good.added {thread address : ℕ} {startctxt : Bool} (good : Good c ⟨s, earlier⟩)
    (added : s.AddThread c thread address startctxt = .ok s')
    (fresh : ∀ t ∈ s.live, (s.pthread t).address ≠ address)
    (free : ∀ t ∈ s.live, s.hthread t ≠ s.live.card) :
    Good c ⟨s', update earlier thread (s'.traced (s'.hthread thread))⟩ where
  mapped := (AddThread_mapped_iff added fresh good.mapped).mpr free
  allocated := AddThread_allocated added fresh good.allocated
  charged t alive := by
    obtain ⟨live, new, _, _, _, _, none, traced, others⟩ := AddThread_hthread added fresh
    show update earlier thread _ t + (s'.pthread t).num_ins = s'.traced (s'.hthread t)
    rw [live] at alive
    rcases Finset.mem_insert.mp alive with rfl | old
    · rw [update_self, none, Nat.add_zero]
    · have other : t ≠ thread := fun isThread => new (isThread ▸ old)
      rw [update_of_ne other, (others t old).2, (others t old).1, traced]
      exact good.charged t old

/-- The instruction that is charged to the current thread is handed over for its hardware thread,
    which no other thread has. -/
theorem Good.charge {instr : PTSInstr} {p : PTS} (executed : Bool) (good : Good c ⟨s, earlier⟩)
    (alive : s.current ∈ s.live)
    (handed : p.handed = s.pts.handed ++ [({ instr with
      hthreadid_ := s.hthread s.current, curr_time_ := s.curr_time }, true)]) :
    Good c ⟨(s.setPthread s.current { charge (s.pthread s.current) instr with
      executed := executed }).setPts p, earlier⟩ := by
  generalize isNext : (s.setPthread s.current { PthreadScheduler.charge (s.pthread s.current)
    instr with executed := executed }).setPts p = s'
  have same : SameThreads s s' := by
    rw [← isNext]
    refine ⟨Finset.Subset.refl _, rfl, rfl, ?_⟩
    intro t
    by_cases isCurrent : t = s.current
    · subst isCurrent
      simp [setPthread, setPts]
    · simp [setPthread, setPts, isCurrent]
  refine ⟨same.mapped good.mapped, same.allocated good.allocated, ?_⟩
  intro t isLive
  have charged := good.charged t (same.live isLive)
  have traced : s'.traced (s.hthread t) = s.traced (s.hthread t) +
      if s.hthread s.current = s.hthread t ∧ instr.category < ART_CATEGORY_START then 1 else 0 := by
    rw [← isNext]
    simp [PthreadScheduler.traced, setPts, handed, List.countP_singleton]
  show earlier t + (s'.pthread t).num_ins = s'.traced (s'.hthread t)
  rw [same.hthread, traced]
  have entry : s'.pthread = update s.pthread s.current
      { PthreadScheduler.charge (s.pthread s.current) instr with executed := executed } := by
    rw [← isNext]
    rfl
  by_cases isCurrent : t = s.current
  · subst isCurrent
    rw [entry, update_self]
    unfold PthreadScheduler.charge
    split
    · rename_i ordinary
      rw [if_pos ⟨rfl, ordinary⟩, ← charged]
      exact (Nat.add_assoc _ _ _).symm
    · rename_i active
      rw [if_neg fun both => active both.2, ← charged, Nat.add_zero]
  · have apart : s.hthread s.current ≠ s.hthread t := fun equal =>
      isCurrent (good.mapped.injective s.current alive t (same.live isLive) equal).symm
    rw [if_neg fun both => apart both.1, entry, update_of_ne isCurrent, Nat.add_zero]
    exact charged

theorem Good.processed {context : Bool} {instr : PTSInstr} {answer : Resume}
    (good : Good c ⟨s, earlier⟩)
    (processed : s.process_ins c context instr answer = .ok s') : Good c ⟨s', earlier⟩ := by
  obtain ⟨alive, rfl | rfl | ⟨_, _, simulated⟩⟩ := process_ins_eq processed
  · exact good.of_same (.setExecuted s s.current true)
  · exact good
  · obtain ⟨result, added, ⟨_, rfl⟩ | ⟨_, executed, resumed⟩⟩ := simulate_eq simulated
    · exact good.charge (PthreadScheduler.charge (s.pthread s.current) instr).executed alive
        (PTS.add_instruction_handed added)
    · have charged := good.charge executed alive (PTS.add_instruction_handed added)
      exact charged.of_same (resume_simulation_same resumed)

/-- What a step whose object is new and whose hardware thread is free preserves. -/
theorem Good.step {state state' : HardwareThreads} {action : SchedulerAction}
    (good : Good c state) (stepped : state.step c action = .ok state')
    (fresh : Fresh state action state') (free : Free state action) : Good c state' := by
  cases action with
  | AddThread thread address startctxt =>
    obtain ⟨s', added, stepped⟩ := Outcome.bind_eq_ok.mp stepped
    obtain rfl := Outcome.pure_eq_ok.mp stepped
    exact good.added added fresh free
  | KillThread thread =>
    obtain ⟨s', killed, stepped⟩ := Outcome.bind_eq_ok.mp stepped
    obtain rfl := Outcome.pure_eq_ok.mp stepped
    exact good.of_same (KillThread_same killed)
  | BlockThread thread answer =>
    obtain ⟨s', blocked, stepped⟩ := Outcome.bind_eq_ok.mp stepped
    obtain rfl := Outcome.pure_eq_ok.mp stepped
    exact good.of_same (BlockThread_same blocked)
  | UnblockThread thread isbarrier =>
    obtain ⟨s', unblocked, stepped⟩ := Outcome.bind_eq_ok.mp stepped
    obtain rfl := Outcome.pure_eq_ok.mp stepped
    exact good.of_same (UnblockThread_same unblocked)
  | process_ins context instr answer =>
    obtain ⟨s', processed, stepped⟩ := Outcome.bind_eq_ok.mp stepped
    obtain rfl := Outcome.pure_eq_ok.mp stepped
    exact good.processed processed
  | resume_simulation must_switch answer =>
    obtain ⟨s', resumed, stepped⟩ := Outcome.bind_eq_ok.mp stepped
    obtain rfl := Outcome.pure_eq_ok.mp stepped
    exact good.of_same (resume_simulation_same resumed)

end HardwareThreads

namespace HardwareThreads

open PthreadScheduler Transition

instance (s s' : HardwareThreads) : (action : SchedulerAction) → Decidable (Fresh s action s')
  | .AddThread _ address _ => inferInstanceAs
    (Decidable (∀ t ∈ s.scheduler.live, (s.scheduler.pthread t).address ≠ address))
  | .KillThread _ | .BlockThread _ _ | .UnblockThread _ _ | .process_ins _ _ _
  | .resume_simulation _ _ => instDecidableTrue

instance (s : HardwareThreads) : (action : SchedulerAction) → Decidable (Free s action)
  | .AddThread _ _ _ => inferInstanceAs
    (Decidable (∀ t ∈ s.scheduler.live, s.scheduler.hthread t ≠ s.scheduler.live.card))
  | .KillThread _ | .BlockThread _ _ | .UnblockThread _ _ | .process_ins _ _ _
  | .resume_simulation _ _ => instDecidableTrue

/-- In every run that gives each new thread a hardware thread that is free, no two live threads
    share one, and each is charged what its hardware thread gets. -/
theorem run_mapped (c : PTSConfig) {actions : List SchedulerAction} {s : HardwareThreads}
    (run : Run (step c) (fun state action state' => Fresh state action state' ∧ Free state action)
      {} actions s) :
    Mapped c s.scheduler ∧ Charged s := by
  have good : Good c s := run.invariant Good.initial fun _ _ _ good stepped guarded =>
    good.step stepped guarded.1 guarded.2
  exact ⟨good.mapped, good.charged⟩

/-- Two threads after the first one. -/
def spawn : List SchedulerAction :=
  [.AddThread 0 100 false, .AddThread 1 101 true, .AddThread 2 102 true]

/-- Thread `thread` runs and ends, and the first thread runs again. -/
def finish (thread : ℕ) : List SchedulerAction :=
  [.resume_simulation true { ret := thread }, .process_ins false { hthreadid_ := 0 } { ret := 0 },
    .KillThread thread, .resume_simulation true { ret := 0 }]

/-- The last thread ends before another one comes. -/
theorem run_mapped_last_ends : ∃ s,
    Run (step {}) (fun state action state' => Fresh state action state' ∧ Free state action) {}
      (spawn ++ finish 2 ++ [.AddThread 3 103 true]) s ∧
      s.scheduler.hthread 3 = 2 ∧ Mapped {} s.scheduler ∧ Charged s := by
  have executed : (execute (step {})
      (fun state action state' => Fresh state action state' ∧ Free state action) {}
      (spawn ++ finish 2 ++ [.AddThread 3 103 true])).map (fun s => s.scheduler.hthread 3) =
        some 2 := by decide +kernel
  obtain ⟨s, executed, hthread⟩ := Option.map_eq_some_iff.mp executed
  have run := execute_run executed
  exact ⟨s, run, hthread, run_mapped {} run⟩

/-- The last but one ends: the next thread gets the hardware thread of the last one. -/
theorem run_shares_hthread : ¬ ∀ (actions : List SchedulerAction) (s : HardwareThreads),
    Run (step {}) Fresh {} actions s → Mapped {} s.scheduler ∧ Charged s := by
  intro always
  have executed : (execute (step {}) Fresh {} (spawn ++ finish 1 ++ [.AddThread 3 103 true])).map
      (fun s => (decide (2 ∈ s.scheduler.live ∧ 3 ∈ s.scheduler.live), s.scheduler.hthread 2,
        s.scheduler.hthread 3)) = some (true, 2, 2) := by decide +kernel
  obtain ⟨s, executed, facts⟩ := Option.map_eq_some_iff.mp executed
  simp only [Prod.mk.injEq, decide_eq_true_eq] at facts
  obtain ⟨⟨second, third⟩, secondNumber, thirdNumber⟩ := facts
  have mapped := (always _ s (execute_run executed)).1
  have same := mapped.injective 2 second 3 third (secondNumber.trans thirdNumber.symm)
  cases same

end HardwareThreads

end ActiveRouting

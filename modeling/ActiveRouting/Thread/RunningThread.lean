import ActiveRouting.Thread.Activity
import ActiveRouting.Thread.HardwareThreads

/-!
# The thread that runs

While no two threads share a hardware thread, the simulator returns only to
threads that are active.
-/

namespace ActiveRouting

open Function

namespace PthreadScheduler

/-- The hardware threads that the simulator may return to are those of active threads, and the first
    one while there is no thread. -/
structure Scheduled (c : PTSConfig) (s : PthreadScheduler) : Prop where
  mapped : Mapped c s
  allocated : Allocated s
  running : ∀ h, s.pts.mcsim.active h = true →
    s.live = ∅ ∧ h = 0 ∨ ∃ t ∈ s.live, s.hthread t = h ∧ s.active t = true

/-- The current thread is active, unless there is none yet. -/
def Runs (s : PthreadScheduler) : Prop :=
  s.live = ∅ ∨ s.current ∈ s.live ∧ s.active s.current = true

variable {c : PTSConfig} {s s' : PthreadScheduler} {thread : ℕ}

theorem Scheduled.initial (c : PTSConfig) : Scheduled c {} where
  mapped := HardwareThreads.Good.initial.mapped
  allocated := (HardwareThreads.Good.initial (c := c)).allocated
  running _ isActive := .inl ⟨rfl, of_decide_eq_true isActive⟩

/-- While there are threads, the simulator returns to one of them. -/
theorem Scheduled.owner {h : ℕ} (scheduled : Scheduled c s) (alive : thread ∈ s.live)
    (isActive : s.pts.mcsim.active h = true) :
    ∃ t ∈ s.live, s.hthread t = h ∧ s.active t = true :=
  (scheduled.running h isActive).resolve_left fun none => Finset.ne_empty_of_mem alive none.1

/-- Threads keep their hardware threads and their activity. -/
theorem Scheduled.of_same (scheduled : Scheduled c s) (threads : SameThreads s s')
    (activity : SameActivity s s') (active : s'.pts.mcsim.active = s.pts.mcsim.active) :
    Scheduled c s' where
  mapped := threads.mapped scheduled.mapped
  allocated := threads.allocated scheduled.allocated
  running h isActive := by
    rw [active] at isActive
    rw [activity.live]
    refine (scheduled.running h isActive).imp_right ?_
    rintro ⟨t, alive, own, running⟩
    exact ⟨t, alive, (threads.hthread t).trans own, activity.active ▸ running⟩

theorem Scheduled.synch {islock isunlock isbarrier : Bool} (scheduled : Scheduled c s)
    (added : s.add_synch_instruction c thread islock isunlock isbarrier = .ok s') :
    Scheduled c s' := by
  have activity := (add_synch_instruction_activity added).1
  obtain ⟨_, result, _, handed, rfl⟩ := add_synch_instruction_eq added
  exact scheduled.of_same ⟨Finset.Subset.refl _, rfl, rfl, fun _ => rfl⟩ activity
    (PTS.add_instruction_keepsActive handed)

/-- The simulator is told what becomes of a thread. -/
theorem Scheduled.told {is_active : Bool} (scheduled : Scheduled c s) (threads : SameThreads s s')
    (alive : thread ∈ s.live) (live : s'.live = s.live)
    (active : s'.active = update s.active thread is_active)
    (told : s'.pts.mcsim.active = update s.pts.mcsim.active (s.hthread thread) is_active) :
    Scheduled c s' where
  mapped := threads.mapped scheduled.mapped
  allocated := threads.allocated scheduled.allocated
  running h isActive := by
    refine .inr ?_
    rw [live]
    by_cases own : h = s.hthread thread
    · subst own
      rw [told, update_self] at isActive
      refine ⟨thread, alive, threads.hthread thread, ?_⟩
      rw [active, update_self]
      exact isActive
    · rw [told, update_of_ne own] at isActive
      obtain ⟨t, isLive, hthread, running⟩ := scheduled.owner alive isActive
      have other : t ≠ thread := fun same => own (same ▸ hthread.symm)
      refine ⟨t, isLive, (threads.hthread t).trans hthread, ?_⟩
      rw [active, update_of_ne other]
      exact running

theorem Scheduled.unblock {isbarrier : Bool} (scheduled : Scheduled c s)
    (unblocked : s.UnblockThread c thread isbarrier = .ok s') : Scheduled c s' := by
  obtain ⟨alive, _, live, active, _⟩ := UnblockThread_activity unblocked
  have told : s'.pts.mcsim.active =
      update s.pts.mcsim.active (s.hthread thread) true := by
    obtain ⟨_, _, _, result, _, handed, rfl⟩ := UnblockThread_eq unblocked
    show result.1.mcsim.active = _
    rw [PTS.add_instruction_keepsActive handed, PTS.set_active_active]
  exact scheduled.told (UnblockThread_same unblocked).toSameThreads alive live active told

/-- The thread that the simulator returns to is active. -/
theorem Scheduled.resume {must_switch : Bool} {answer : Resume} (scheduled : Scheduled c s)
    (resumed : s.resume_simulation c must_switch answer = .ok s') :
    Scheduled c s' ∧ Runs s' := by
  have threads := (resume_simulation_same resumed).toSameThreads
  have activity := (resume_simulation_activity resumed).1
  obtain ⟨next, pthread, isActive, isNext, alive, _, isResult⟩ := resume_simulation_eq resumed
  have active : s'.pts.mcsim.active = s.pts.mcsim.active := by
    rw [isResult]
    exact PTS.resume_simulation_active _ _
  refine ⟨scheduled.of_same threads activity active, .inr ?_⟩
  obtain ⟨t, isLive, hthread, running⟩ := scheduled.owner alive isActive
  have same : t = next := by
    have inverse := scheduled.mapped.inverse t isLive
    rw [hthread, isNext] at inverse
    exact (Option.some.inj inverse).symm
  have current : s'.current = next := by
    rw [isResult]
    rfl
  rw [current, activity.live, activity.active]
  exact ⟨alive, same ▸ running⟩

theorem Scheduled.block {answer : Resume} (scheduled : Scheduled c s)
    (blocked : s.BlockThread c thread answer = .ok s') : Scheduled c s' ∧ Runs s' := by
  obtain ⟨s₁, alive, _, _, _, isNext, resumed⟩ := BlockThread_eq blocked
  have threads : SameThreads s s₁ := by
    rw [isNext]
    exact ((SameMapping.setActive s thread false).trans (.decNactive _)).toSameThreads
  have live : s₁.live = s.live := by
    rw [isNext]
    rfl
  have active : s₁.active = update s.active thread false := by
    rw [isNext]
    exact active_setPthread _
  have told : s₁.pts.mcsim.active =
      update s.pts.mcsim.active (s.hthread thread) false := by
    rw [isNext]
    exact PTS.set_active_active _ _ _
  have inactive := scheduled.told threads alive live active told
  have kept : SameActivity s₁
      (s₁.setPthread s.current { s₁.pthread s.current with executed := false }) := .setPthread rfl
  have same := (SameMapping.setExecuted s₁ s.current false).toSameThreads
  exact (inactive.of_same same kept rfl).resume resumed

theorem Scheduled.kill (scheduled : Scheduled c s) (killed : s.KillThread c thread = .ok s') :
    Scheduled c s' := by
  obtain ⟨alive, _, live, active, _⟩ := KillThread_activity killed
  have threads := (KillThread_same killed).toSameThreads
  have told : s'.pts.mcsim.active =
      update s.pts.mcsim.active (s.hthread thread) false := by
    obtain ⟨_, _, rfl⟩ := KillThread_eq killed
    show (((s.pts.request c).set_active c (s.hthread thread) false).request c).mcsim.active = _
    rw [PTS.request_active, PTS.set_active_active, PTS.request_active]
  refine ⟨threads.mapped scheduled.mapped, threads.allocated scheduled.allocated, ?_⟩
  intro h isActive
  refine .inr ?_
  by_cases own : h = s.hthread thread
  · subst own
    rw [told, update_self] at isActive
    cases isActive
  · rw [told, update_of_ne own] at isActive
    obtain ⟨t, isLive, hthread, running⟩ := scheduled.owner alive isActive
    have other : t ≠ thread := fun same => own (same ▸ hthread.symm)
    refine ⟨t, ?_, (threads.hthread t).trans hthread, ?_⟩
    · rw [live]
      exact Finset.mem_erase.mpr ⟨other, isLive⟩
    · rw [active]
      exact running

/-- A new thread whose hardware thread is free. -/
theorem Scheduled.add {address : ℕ} {startctxt : Bool} (scheduled : Scheduled c s)
    (added : s.AddThread c thread address startctxt = .ok s')
    (fresh : ∀ t ∈ s.live, (s.pthread t).address ≠ address)
    (free : ∀ t ∈ s.live, s.hthread t ≠ s.live.card) : Scheduled c s' where
  mapped := (AddThread_mapped_iff added fresh scheduled.mapped).mpr free
  allocated := AddThread_allocated added fresh scheduled.allocated
  running h isActive := by
    obtain ⟨live, new, _, _, own, _, _, _, others⟩ := AddThread_hthread added fresh
    obtain ⟨_, _, _, active, _⟩ := AddThread_activity added
    have told : s'.pts.mcsim.active = update s.pts.mcsim.active s.live.card true := by
      obtain ⟨_, _, p, handed, rfl⟩ := AddThread_eq added
      show p.mcsim.active = _
      rcases handed with ⟨_, rfl⟩ | ⟨instr, result, _, _, handedOver, rfl⟩
      · simp [announced]
      · rw [PTS.add_instruction_keepsActive handedOver]
        simp [announced]
    refine .inr ?_
    have ownThread : ∃ t ∈ s'.live, s'.hthread t = s.live.card ∧ s'.active t = true := by
      refine ⟨thread, live ▸ Finset.mem_insert_self _ _, own, ?_⟩
      rw [active, update_self]
    by_cases isOwn : h = s.live.card
    · exact isOwn ▸ ownThread
    · rw [told, update_of_ne isOwn] at isActive
      rcases scheduled.running h isActive with ⟨none, first⟩ | ⟨t, alive, hthread, running⟩
      · exact absurd (first.trans (Finset.card_eq_zero.mpr none).symm) isOwn
      · have other : t ≠ thread := fun isThread => new (isThread ▸ alive)
        refine ⟨t, live ▸ Finset.mem_insert_of_mem alive, (others t alive).1.trans hthread, ?_⟩
        rw [active, update_of_ne other]
        exact running

/-- An instruction is charged to the current thread and handed over. -/
theorem Scheduled.charge {instr instr' : PTSInstr} {can_be_piled executed : Bool}
    {result : PTS × Bool} (scheduled : Scheduled c s)
    (added : s.pts.add_instruction c instr' can_be_piled = .ok result) :
    Scheduled c ((s.setPthread s.current { PthreadScheduler.charge (s.pthread s.current) instr with
      executed := executed }).setPts result.1) := by
  have threads : SameThreads s ((s.setPthread s.current
      { PthreadScheduler.charge (s.pthread s.current) instr with
        executed := executed }).setPts result.1) := by
    refine ⟨Finset.Subset.refl _, rfl, rfl, fun t => ?_⟩
    by_cases isCurrent : t = s.current
    · subst isCurrent
      simp [setPthread, setPts]
    · simp [setPthread, setPts, isCurrent]
  have activity : SameActivity s (s.setPthread s.current
      { PthreadScheduler.charge (s.pthread s.current) instr with executed := executed }) :=
    .setPthread (charge_active _ _)
  exact scheduled.of_same threads (activity.trans (.setPts _ _))
    (PTS.add_instruction_keepsActive added)

/-! ## The current thread -/

theorem Runs.of_same (runs : Runs s) (activity : SameActivity s s')
    (current : s'.current = s.current) : Runs s' := by
  unfold Runs
  rw [activity.live, activity.active, current]
  exact runs

theorem Runs.unblock {isbarrier : Bool} (runs : Runs s)
    (unblocked : s.UnblockThread c thread isbarrier = .ok s') : Runs s' := by
  obtain ⟨_, _, live, active, _, current⟩ := UnblockThread_activity unblocked
  unfold Runs
  rw [live, active, current]
  refine runs.imp_right fun running => ⟨running.1, ?_⟩
  by_cases isThread : s.current = thread
  · rw [isThread, update_self]
  · rw [update_of_ne isThread]
    exact running.2

theorem Runs.add {address : ℕ} {startctxt : Bool} (runs : Runs s)
    (added : s.AddThread c thread address startctxt = .ok s') : Runs s' := by
  obtain ⟨new, _, live, active, _, current⟩ := AddThread_activity added
  refine .inr ?_
  rw [live, active, current]
  rcases runs with none | ⟨alive, running⟩
  · rw [if_pos none, update_self]
    exact ⟨Finset.mem_insert_self _ _, rfl⟩
  · have other : s.current ≠ thread := fun isThread => new (isThread ▸ alive)
    rw [if_neg (Finset.ne_empty_of_mem alive), update_of_ne other]
    exact ⟨Finset.mem_insert_of_mem alive, running⟩

theorem Scheduled.process_ins {context : Bool} {instr : PTSInstr} {answer : Resume}
    (scheduled : Scheduled c s) (runs : Runs s)
    (processed : s.process_ins c context instr answer = .ok s') : Scheduled c s' ∧ Runs s' := by
  obtain ⟨alive, rfl | rfl | ⟨_, _, simulated⟩⟩ := process_ins_eq processed
  · have activity : SameActivity s (s.setPthread s.current
        { s.pthread s.current with executed := true }) := .setPthread rfl
    have threads := (SameMapping.setExecuted s s.current true).toSameThreads
    exact ⟨scheduled.of_same threads activity rfl, runs.of_same activity rfl⟩
  · exact ⟨scheduled, runs⟩
  · obtain ⟨result, added, ⟨_, rfl⟩ | ⟨_, executed, resumed⟩⟩ := simulate_eq simulated
    · have activity : SameActivity s (s.setPthread s.current
          (PthreadScheduler.charge (s.pthread s.current) instr)) := .setPthread (charge_active _ _)
      exact ⟨scheduled.charge added, runs.of_same (activity.trans (.setPts _ _)) rfl⟩
    · exact (scheduled.charge added).resume resumed

end PthreadScheduler

end ActiveRouting

import ActiveRouting.Thread.PthreadScheduler

/-!
# Active threads

What the operations of the scheduler do to the threads that live and to those
that are active, and the count of the latter.
-/

namespace ActiveRouting

open Function

namespace PthreadScheduler

/-- Whether a thread is active, if it lives. -/
def active (s : PthreadScheduler) (thread : ℕ) : Bool := (s.pthread thread).active

/-- The threads that `nactive` should count. -/
def activeThreads (s : PthreadScheduler) : Finset ℕ := s.live.filter fun t => s.active t

/-- The count is right, and no larger than the number of hardware threads. -/
structure Counted (c : PTSConfig) (s : PthreadScheduler) : Prop where
  nactive : s.nactive = s.activeThreads.card
  fits : s.live.card ≤ c.num_hthreads

/-- Neither the threads nor their activity differ. -/
structure SameActivity (s s' : PthreadScheduler) : Prop where
  live : s'.live = s.live
  active : s'.active = s.active
  nactive : s'.nactive = s.nactive

variable {c : PTSConfig} {s s' : PthreadScheduler} {thread : ℕ}

theorem SameActivity.refl (s : PthreadScheduler) : SameActivity s s := ⟨rfl, rfl, rfl⟩

theorem SameActivity.trans {s₁ s₂ s₃ : PthreadScheduler} (first : SameActivity s₁ s₂)
    (second : SameActivity s₂ s₃) : SameActivity s₁ s₃ :=
  ⟨second.live.trans first.live, second.active.trans first.active,
    second.nactive.trans first.nactive⟩

theorem SameActivity.setPts (s : PthreadScheduler) (p : PTS) : SameActivity s (s.setPts p) :=
  ⟨rfl, rfl, rfl⟩

theorem SameActivity.resumed (s : PthreadScheduler) (p : PTS) (time next : ℕ) :
    SameActivity s (((s.setPts p).setCurrTime time).setCurrent next) := ⟨rfl, rfl, rfl⟩

theorem SameActivity.setPthread {pthread : Pthread}
    (same : pthread.active = (s.pthread thread).active) :
    SameActivity s (s.setPthread thread pthread) where
  live := rfl
  active := by
    funext t
    by_cases isThread : t = thread
    · subst isThread
      simpa [PthreadScheduler.active, PthreadScheduler.setPthread] using same
    · simp [PthreadScheduler.active, PthreadScheduler.setPthread, isThread]
  nactive := rfl

theorem SameActivity.activeThreads (same : SameActivity s s') :
    s'.activeThreads = s.activeThreads := by
  rw [PthreadScheduler.activeThreads, same.live, same.active]
  rfl

theorem SameActivity.counted (same : SameActivity s s') (counted : Counted c s) :
    Counted c s' where
  nactive := by
    rw [same.nactive, same.activeThreads]
    exact counted.nactive
  fits := same.live ▸ counted.fits

theorem active_setPthread (pthread : Pthread) :
    (s.setPthread thread pthread).active = update s.active thread pthread.active := by
  funext t
  by_cases isThread : t = thread
  · subst isThread
    simp [active, setPthread]
  · simp [active, setPthread, isThread]

/-! ## Operations -/

theorem add_synch_instruction_activity {islock isunlock isbarrier : Bool}
    (added : s.add_synch_instruction c thread islock isunlock isbarrier = .ok s') :
    SameActivity s s' ∧ s'.current = s.current := by
  obtain ⟨_, _, _, _, rfl⟩ := add_synch_instruction_eq added
  exact ⟨⟨rfl, rfl, rfl⟩, rfl⟩

theorem resume_simulation_activity {must_switch : Bool} {answer : Resume}
    (resumed : s.resume_simulation c must_switch answer = .ok s') :
    SameActivity s s' ∧ s'.current ∈ s'.live := by
  obtain ⟨next, pthread, _, _, alive, updated, rfl⟩ := resume_simulation_eq resumed
  refine ⟨(SameActivity.resumed s _ answer.time next).trans (.setPthread ?_), alive⟩
  rcases updated with rfl | rfl | rfl <;> rfl

theorem UnblockThread_activity {isbarrier : Bool}
    (unblocked : s.UnblockThread c thread isbarrier = .ok s') :
    thread ∈ s.live ∧ s.active thread = false ∧ s'.live = s.live ∧
      s'.active = update s.active thread true ∧ s'.nactive = unsignedSucc s.nactive ∧
      s'.current = s.current := by
  obtain ⟨alive, inactive, _, _, _, _, rfl⟩ := UnblockThread_eq unblocked
  exact ⟨alive, inactive, rfl, active_setPthread _, rfl, rfl⟩

theorem BlockThread_activity {answer : Resume}
    (blocked : s.BlockThread c thread answer = .ok s') :
    thread ∈ s.live ∧ s.active thread = true ∧ s.current ∈ s.live ∧ s'.live = s.live ∧
      s'.active = update s.active thread false ∧ s'.nactive = unsignedPred s.nactive ∧
      s'.current ∈ s'.live := by
  obtain ⟨s₁, alive, isActive, current, _, isNext, resumed⟩ := BlockThread_eq blocked
  obtain ⟨same, current'⟩ := resume_simulation_activity resumed
  have first : SameActivity s₁
      (s₁.setPthread s.current { s₁.pthread s.current with executed := false }) := .setPthread rfl
  have both := first.trans same
  refine ⟨alive, isActive, current, ?_, ?_, ?_, current'⟩
  · rw [both.live, isNext]
    rfl
  · rw [both.active, isNext]
    exact active_setPthread _
  · rw [both.nactive, isNext]
    rfl

theorem KillThread_activity (killed : s.KillThread c thread = .ok s') :
    thread ∈ s.live ∧ (thread = s.current → s.active thread = true) ∧
      s'.live = s.live.erase thread ∧ s'.active = s.active ∧
      s'.nactive = unsignedPred s.nactive ∧ s'.current = s.current := by
  obtain ⟨alive, running, rfl⟩ := KillThread_eq killed
  exact ⟨alive, running, rfl, rfl, rfl, rfl⟩

theorem AddThread_activity {address : ℕ} {startctxt : Bool}
    (added : s.AddThread c thread address startctxt = .ok s') :
    thread ∉ s.live ∧ s.live.card < c.num_hthreads ∧ s'.live = insert thread s.live ∧
      s'.active = update s.active thread true ∧ s'.nactive = unsignedSucc s.nactive ∧
      s'.current = if s.live = ∅ then thread else s.current := by
  obtain ⟨new, room, p, _, rfl⟩ := AddThread_eq added
  exact ⟨new, room, rfl, active_setPthread _, rfl, rfl⟩

theorem charge_active (pthread : Pthread) (instr : PTSInstr) :
    (charge pthread instr).active = pthread.active := by
  unfold charge
  split <;> rfl

theorem process_ins_activity {context : Bool} {instr : PTSInstr} {answer : Resume}
    (processed : s.process_ins c context instr answer = .ok s') :
    SameActivity s s' ∧ s'.current ∈ s'.live := by
  obtain ⟨alive, rfl | rfl | ⟨_, _, simulated⟩⟩ := process_ins_eq processed
  · exact ⟨.setPthread rfl, alive⟩
  · exact ⟨.refl _, alive⟩
  · obtain ⟨result, _, ⟨_, rfl⟩ | ⟨_, executed, resumed⟩⟩ := simulate_eq simulated
    · have charged : SameActivity s (s.setPthread s.current (charge (s.pthread s.current) instr)) :=
        .setPthread (charge_active _ _)
      exact ⟨charged.trans (.setPts _ _), alive⟩
    · obtain ⟨same, current⟩ := resume_simulation_activity resumed
      have charged : SameActivity s (s.setPthread s.current
          { charge (s.pthread s.current) instr with executed := executed }) :=
        .setPthread (charge_active _ _)
      exact ⟨(charged.trans (.setPts _ _)).trans same, current⟩

/-! ## The count -/

theorem unsignedSucc_of_lt {n : ℕ} (small : n + 1 < 2 ^ 32) : unsignedSucc n = n + 1 :=
  if_neg small.ne

theorem unsignedPred_succ (n : ℕ) : unsignedPred (n + 1) = n := if_neg n.succ_ne_zero

theorem unsignedPred_ne {n : ℕ} (small : n < 2 ^ 32 - 1) : unsignedPred n ≠ n := by
  unfold unsignedPred
  split <;> omega

theorem Counted.small (counted : Counted c s) : s.activeThreads.card < 2 ^ 32 :=
  (Finset.card_filter_le _ _).trans_lt (counted.fits.trans_lt c.hthreads_lt)

/-- A thread that lives becomes active. -/
theorem activeThreads_activate (alive : thread ∈ s.live) (live : s'.live = s.live)
    (active : s'.active = update s.active thread true) :
    s'.activeThreads = insert thread s.activeThreads := by
  ext t
  by_cases isThread : t = thread
  · subst isThread
    simp [activeThreads, live, active, alive]
  · simp [activeThreads, live, active, isThread]

theorem activeThreads_deactivate (live : s'.live = s.live)
    (active : s'.active = update s.active thread false) :
    s'.activeThreads = s.activeThreads.erase thread := by
  ext t
  by_cases isThread : t = thread
  · subst isThread
    simp [activeThreads, active]
  · simp [activeThreads, live, active, isThread]

theorem Counted.unblock {isbarrier : Bool} (counted : Counted c s)
    (unblocked : s.UnblockThread c thread isbarrier = .ok s') : Counted c s' where
  nactive := by
    obtain ⟨alive, inactive, live, active, nactive, _⟩ := UnblockThread_activity unblocked
    have new : thread ∉ s.activeThreads := by simp [activeThreads, inactive]
    have number : (insert thread s.activeThreads).card = s.activeThreads.card + 1 :=
      Finset.card_insert_of_notMem new
    have subset : insert thread s.activeThreads ⊆ s.live :=
      Finset.insert_subset alive (Finset.filter_subset _ _)
    have small := ((Finset.card_le_card subset).trans counted.fits).trans_lt c.hthreads_lt
    rw [nactive, activeThreads_activate alive live active, counted.nactive, number,
      unsignedSucc_of_lt (number ▸ small)]
  fits := by
    obtain ⟨_, _, live, _⟩ := UnblockThread_activity unblocked
    exact live ▸ counted.fits

theorem Counted.block {answer : Resume} (counted : Counted c s)
    (blocked : s.BlockThread c thread answer = .ok s') : Counted c s' where
  nactive := by
    obtain ⟨alive, isActive, _, live, active, nactive, _⟩ := BlockThread_activity blocked
    have member : thread ∈ s.activeThreads := Finset.mem_filter.mpr ⟨alive, isActive⟩
    rw [nactive, activeThreads_deactivate live active, counted.nactive,
      ← Finset.card_erase_add_one member, unsignedPred_succ]
  fits := by
    obtain ⟨_, _, _, live, _⟩ := BlockThread_activity blocked
    exact live ▸ counted.fits

/-- The count stays right exactly if the thread that ends is active. -/
theorem Counted.kill_iff (counted : Counted c s) (killed : s.KillThread c thread = .ok s') :
    Counted c s' ↔ s.active thread = true := by
  obtain ⟨alive, _, live, active, nactive, _⟩ := KillThread_activity killed
  have activeThreads : s'.activeThreads = s.activeThreads.erase thread := by
    rw [PthreadScheduler.activeThreads, live, active, Finset.filter_erase]
    rfl
  constructor
  · intro counted'
    by_contra inactive
    have absent : thread ∉ s.activeThreads := fun member => inactive (Finset.mem_filter.mp member).2
    have same : s'.nactive = s.nactive := by
      rw [counted'.nactive, activeThreads, Finset.erase_eq_of_notMem absent, counted.nactive]
    have smaller : s.activeThreads.card < s.live.card :=
      Finset.card_lt_card (Finset.filter_ssubset.mpr ⟨thread, alive, inactive⟩)
    have small : s.nactive < 2 ^ 32 - 1 := by
      have := counted.fits
      have := c.hthreads_lt
      rw [counted.nactive]
      omega
    exact unsignedPred_ne small (nactive ▸ same)
  · intro isActive
    have member : thread ∈ s.activeThreads := Finset.mem_filter.mpr ⟨alive, isActive⟩
    constructor
    · rw [nactive, activeThreads, counted.nactive, ← Finset.card_erase_add_one member,
        unsignedPred_succ]
    · rw [live]
      exact (Finset.card_erase_le).trans counted.fits

theorem Counted.add {address : ℕ} {startctxt : Bool} (counted : Counted c s)
    (added : s.AddThread c thread address startctxt = .ok s') : Counted c s' := by
  obtain ⟨new, room, live, active, nactive, _⟩ := AddThread_activity added
  have activeThreads : s'.activeThreads = insert thread s.activeThreads := by
    ext t
    by_cases isThread : t = thread
    · subst isThread
      simp [PthreadScheduler.activeThreads, live, active]
    · simp [PthreadScheduler.activeThreads, live, active, isThread]
  have absent : thread ∉ s.activeThreads := fun member => new (Finset.mem_filter.mp member).1
  have fewer := Finset.card_filter_le s.live fun t => s.active t
  have small : s.activeThreads.card + 1 < 2 ^ 32 := by
    have := c.hthreads_lt
    have : s.activeThreads.card ≤ s.live.card := fewer
    omega
  constructor
  · rw [nactive, activeThreads, Finset.card_insert_of_notMem absent, counted.nactive,
      unsignedSucc_of_lt small]
  · rw [live, Finset.card_insert_of_notMem new]
    exact room

end PthreadScheduler

end ActiveRouting

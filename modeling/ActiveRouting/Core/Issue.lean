import ActiveRouting.Core.ReorderBuffer
import Mathlib.Logic.Function.Iterate

/-!
# The phases of the core

Each phase of `process_event` keeps the reorder buffer sound.  The loop that
issues entries does so as long as the dependencies of an update that has to wait
are all set, for only then does its test hold the update back.
-/

namespace ActiveRouting.O3Core

open Outcome RobEvent

variable {c : O3CoreConfig} {s : O3Core} {curr_time i : ℕ}

/-- The reorder buffer is sound at a certain time. -/
structure At (c : O3CoreConfig) (curr_time : ℕ) (s : O3Core) : Prop where
  sound : RobSound c s.o3rob s.history
  time : s.history.last_time = curr_time

/-! ## The updates that have to wait -/

/-- The issue loop goes no further than this entry. -/
def stopsAt (c : O3CoreConfig) (s : O3Core) (curr_time j : ℕ) : Bool :=
  let e := s.o3rob.get c.o3rob_max_size j
  if e.state = .o3irs_issued ∧ e.ready_time ≤ curr_time then
    if e.type = .ins_notify then j ≠ 0
    else if e.type = .ins_waitfor then ¬ (j = 0 ∧ s.is_migrate_ready e.rw.1)
    else if e.type.isActive ∨ e.isFree then false
    else c.mimick_inorder
  else c.mimick_inorder

/-- An update that the issue loop reaches, although one of its fields still names an older entry
    that has not completed. -/
structure StillWaits (c : O3CoreConfig) (s : O3Core) (curr_time i : ℕ) : Prop where
  reached : ∀ j < i, stopsAt c s curr_time j = false
  issued : (s.o3rob.get c.o3rob_max_size i).state = .o3irs_issued
  ready : (s.o3rob.get c.o3rob_max_size i).ready_time ≤ curr_time
  isUpdate : (s.o3rob.get c.o3rob_max_size i).type.isUpdate = true
  waits : ∃ j < i, some (s.o3rob.slot c.o3rob_max_size j) ∈
    (s.o3rob.get c.o3rob_max_size i).fields ∧
      (s.o3rob.get c.o3rob_max_size j).unfinished curr_time = true

theorem stillWaits_iff : StillWaits c s curr_time i ↔
    (∀ j < i, stopsAt c s curr_time j = false) ∧
      (s.o3rob.get c.o3rob_max_size i).state = .o3irs_issued ∧
      (s.o3rob.get c.o3rob_max_size i).ready_time ≤ curr_time ∧
      (s.o3rob.get c.o3rob_max_size i).type.isUpdate = true ∧
      ∃ j < i, ((s.o3rob.get c.o3rob_max_size i).fields.any
        fun dep => dep = some (s.o3rob.slot c.o3rob_max_size j)) = true ∧
          (s.o3rob.get c.o3rob_max_size j).unfinished curr_time = true := by
  simp only [List.any_eq_true, decide_eq_true_eq, exists_eq_right]
  constructor
  · rintro ⟨reached, issued, ready, isUpdate, waits⟩
    exact ⟨reached, issued, ready, isUpdate, waits⟩
  · rintro ⟨reached, issued, ready, isUpdate, waits⟩
    exact ⟨reached, issued, ready, isUpdate, waits⟩

instance : Decidable (StillWaits c s curr_time i) := decidable_of_iff' _ stillWaits_iff

/-- A dot product or PEI instruction with its dependencies on memory and on four registers. -/
def AllNamed (e : O3ROB) : Prop :=
  (e.type = .ins_art_dot ∨ e.type = .ins_pei_dot ∨ e.type = .ins_pei_atomic) ∧
    e.mem_dep ≠ none ∧ e.rr0 ≠ none ∧ e.rr1 ≠ none ∧ e.rr2 ≠ none ∧ e.rr3 ≠ none

instance {e : O3ROB} : Decidable (AllNamed e) := by
  unfold AllNamed
  infer_instance

theorem isHeld_iff {e : O3ROB} : e.isHeld = true ↔ AllNamed e := by
  simp [O3ROB.isHeld, AllNamed, InsType.isDot]

/-- Each update that has to wait has all its dependencies set. -/
def Restrained (c : O3CoreConfig) (s : O3Core) (curr_time : ℕ) : Prop :=
  ∀ i < s.o3rob.size, StillWaits c s curr_time i → AllNamed (s.o3rob.get c.o3rob_max_size i)

instance : Decidable (Restrained c s curr_time) :=
  inferInstanceAs (Decidable (∀ i < s.o3rob.size, StillWaits c s curr_time i → AllNamed _))

/-! ## From the queue to the reorder buffer -/

/-- New entries have been added, which are not ready yet. -/
structure Grown (c : O3CoreConfig) (curr_time : ℕ) (s s' : O3Core) : Prop extends
    At c curr_time s' where
  head : s'.o3rob.head = s.o3rob.head
  size_le : s.o3rob.size ≤ s'.o3rob.size
  same : ∀ i < s.o3rob.size, s'.o3rob.get c.o3rob_max_size i = s.o3rob.get c.o3rob_max_size i
  later : ∀ i < s'.o3rob.size, s.o3rob.size ≤ i →
    curr_time < (s'.o3rob.get c.o3rob_max_size i).ready_time
  is_migrate_ready : s'.is_migrate_ready = s.is_migrate_ready

variable {s' : O3Core}

theorem Grown.fill {e : O3ROB} (grown : Grown c curr_time s s')
    (room : s'.o3rob.size < c.o3rob_max_size) (isIssued : e.state = .o3irs_issued)
    (isReady : e.ready_time = curr_time + c.process_interval) :
    Grown c curr_time s (s'.fill c e) where
  sound := grown.sound.fill room isIssued
  time := grown.time
  head := grown.head
  size_le := Nat.le_succ_of_le grown.size_le
  same i isOld :=
    (RingBuffer.get_push_old (isOld.trans_le grown.size_le) room e).trans (grown.same i isOld)
  later i isEntry isNew := by
    by_cases isOld : i < s'.o3rob.size
    · have sameEntry : (s'.fill c e).o3rob.get c.o3rob_max_size i = _ :=
        RingBuffer.get_push_old isOld room e
      rw [sameEntry]
      exact grown.later i isOld isNew
    · obtain rfl : i = s'.o3rob.size := Nat.le_antisymm (Nat.le_of_lt_succ isEntry) (not_lt.mp isOld)
      have isLast : (s'.fill c e).o3rob.get c.o3rob_max_size s'.o3rob.size = e :=
        RingBuffer.get_push_new e
      rw [isLast, isReady]
      exact Nat.lt_add_of_pos_right c.interval_pos
  is_migrate_ready := grown.is_migrate_ready

theorem Grown.fillAccess (x : Common) (memaddr : ℕ) (isread : Bool) {y : O3Core × Option ℕ}
    (grown : Grown c curr_time s y.1) (room : y.1.o3rob.size < c.o3rob_max_size) :
    Grown c curr_time s (fillAccess c curr_time x memaddr isread y).1 ∧
      (fillAccess c curr_time x memaddr isread y).1.o3rob.size ≤ y.1.o3rob.size + 1 := by
  unfold O3Core.fillAccess
  simp only
  split
  · exact ⟨grown, Nat.le_succ _⟩
  · exact ⟨grown.fill room rfl rfl, Nat.le_refl _⟩

theorem Grown.fillEntries (x : Common) (grown : Grown c curr_time s s')
    (room : s'.o3rob.size < c.o3rob_max_size - 3) :
    Grown c curr_time s (s'.fillEntries c curr_time x) := by
  unfold O3Core.fillEntries
  split
  · exact grown.fill (by omega) rfl rfl
  · split
    · exact grown.fill (by omega) rfl rfl
    · -- three accesses at most
      have roomAtStart : (s', (none : Option ℕ)).1.o3rob.size < c.o3rob_max_size := by
        show s'.o3rob.size < _
        omega
      obtain ⟨first, firstSize⟩ :=
        Grown.fillAccess x x.instr.raddr true (y := (s', none)) grown roomAtStart
      change _ ≤ s'.o3rob.size + 1 at firstSize
      obtain ⟨second, secondSize⟩ := Grown.fillAccess x x.instr.raddr2 true first (by omega)
      exact (Grown.fillAccess x x.instr.waddr false second (by omega)).1

theorem Grown.dispatch (grown : Grown c curr_time s s') :
    Grown c curr_time s (s'.dispatch c curr_time) := by
  unfold O3Core.dispatch
  simp only
  split
  · next isReady =>
    have filled : ∀ x bp serial instr, Grown c curr_time s
        (({ s' with bp := bp }.record (.dispatched serial instr)).fillEntries c curr_time x) :=
      fun x _ serial instr => Grown.fillEntries x
        { grown with sound := grown.sound.dispatched serial instr } isReady.2.1
    exact { filled _ _ _ _ with }
  · exact grown

/-- The instruction cache is no matter of the reorder buffer. -/
theorem load_rob : (s.load c).o3rob = s.o3rob ∧ (s.load c).history = s.history ∧
    (s.load c).is_migrate_ready = s.is_migrate_ready := by
  have loaded : ∀ x : O3Core × ℕ, ∀ i, (loadAt c x i).1.o3rob = x.1.o3rob ∧
      (loadAt c x i).1.history = x.1.history ∧
        (loadAt c x i).1.is_migrate_ready = x.1.is_migrate_ready := by
    intro x i
    unfold loadAt
    simp only
    repeat' split
    all_goals exact ⟨rfl, rfl, rfl⟩
  exact List.foldlRecOn (motive := fun x : O3Core × ℕ => x.1.o3rob = s.o3rob ∧
      x.1.history = s.history ∧ x.1.is_migrate_ready = s.is_migrate_ready)
    (List.range s.o3queue.size) (loadAt c) ⟨rfl, rfl, rfl⟩ fun x same i _ =>
      ⟨(loaded x i).1.trans same.1, (loaded x i).2.1.trans same.2.1,
        (loaded x i).2.2.trans same.2.2⟩

theorem Grown.load (grown : Grown c curr_time s s') : Grown c curr_time s (s'.load c) := by
  obtain ⟨sameRob, sameHistory, sameReady⟩ := load_rob (c := c) (s := s')
  refine ⟨⟨?_, ?_⟩, ?_, ?_, ?_, ?_, sameReady.trans grown.is_migrate_ready⟩
  · rw [sameRob, sameHistory]
    exact grown.sound
  · rw [sameHistory]
    exact grown.time
  all_goals rw [sameRob]
  · exact grown.head
  · exact grown.size_le
  · exact grown.same
  · exact grown.later

theorem Grown.beforeIssue (grown : Grown c curr_time s s') :
    Grown c curr_time s (s'.beforeIssue c curr_time) :=
  Function.Iterate.rec (Grown c curr_time s) grown.load (fun _ grown => grown.dispatch) _

theorem Grown.arrive (sound : RobSound c s.o3rob s.history)
    (later : s.history.last_time ≤ curr_time) : Grown c curr_time s (s.arrive c curr_time) where
  sound := sound.arrive later
  time := rfl
  head := rfl
  size_le := Nat.le_refl _
  same _ _ := rfl
  later _ isEntry isNew := absurd isEntry (Nat.not_lt.mpr isNew)
  is_migrate_ready := rfl

/-- The new entries do not have to wait, as they are not ready. -/
theorem Grown.restrained (grown : Grown c curr_time s s') :
    Restrained c s' curr_time ↔ Restrained c s curr_time := by
  have sameSlot : ∀ j, s'.o3rob.slot c.o3rob_max_size j = s.o3rob.slot c.o3rob_max_size j :=
    fun j => by rw [RingBuffer.slot, grown.head, RingBuffer.slot]
  have sameStop : ∀ j < s.o3rob.size, stopsAt c s' curr_time j = stopsAt c s curr_time j := by
    intro j isOld
    unfold stopsAt
    rw [grown.same j isOld, grown.is_migrate_ready]
  have sameWaits : ∀ i < s.o3rob.size,
      (StillWaits c s' curr_time i ↔ StillWaits c s curr_time i) := by
    intro i isOld
    have sameOlder : ∀ j < i, s'.o3rob.get c.o3rob_max_size j = s.o3rob.get c.o3rob_max_size j :=
      fun j isOlder => grown.same j (isOlder.trans isOld)
    constructor
    · rintro ⟨reached, issued, ready, isUpdate, j, isOlder, isNamed, isUnfinished⟩
      simp only [grown.same i isOld, sameSlot] at issued ready isUpdate isNamed
      refine ⟨fun k isBefore => ?_, issued, ready, isUpdate, j, isOlder, isNamed, ?_⟩
      · rw [← sameStop k (isBefore.trans isOld)]
        exact reached k isBefore
      · rw [← sameOlder j isOlder]
        exact isUnfinished
    · rintro ⟨reached, issued, ready, isUpdate, j, isOlder, isNamed, isUnfinished⟩
      rw [← grown.same i isOld] at issued ready isUpdate isNamed
      rw [← sameSlot] at isNamed
      refine ⟨fun k isBefore => ?_, issued, ready, isUpdate, j, isOlder, isNamed, ?_⟩
      · rw [sameStop k (isBefore.trans isOld)]
        exact reached k isBefore
      · rw [sameOlder j isOlder]
        exact isUnfinished
  constructor
  · intro restrained i isOld waits
    rw [← grown.same i isOld]
    exact restrained i (isOld.trans_le grown.size_le) ((sameWaits i isOld).mpr waits)
  · intro restrained i isEntry waits
    by_cases isOld : i < s.o3rob.size
    · rw [grown.same i isOld]
      exact restrained i isOld ((sameWaits i isOld).mp waits)
    · exact absurd waits.ready (Nat.not_le.mpr (grown.later i isEntry (not_lt.mp isOld)))

/-! ## Issue -/

/-- The fields of an entry that waits for nothing. -/
theorem not_mem_fields {e : O3ROB} (isFree : e.isFree = true) (k : ℕ) : some k ∉ e.fields := by
  simp only [O3ROB.isFree, decide_eq_true_eq] at isFree
  simp [O3ROB.fields, isFree]

/-- The elements of an active instruction are those of a gather only for a gather. -/
theorem activeSends_gather {e : O3ROB} {rob_entry : ℕ} (isActive : e.type.isActive = true)
    {send : CoreSend} (isSend : send ∈ s.activeSends c e rob_entry)
    (isGather : send.element.type = .et_art_get) : e.type = .ins_art_get := by
  have sameElement : ∀ element, (toNetwork c e element).element = element := by
    intro element
    unfold toNetwork
    repeat' split
    all_goals rfl
  have isType : e.type.eventType = .et_art_get := by
    unfold activeSends at isSend
    simp only at isSend
    split at isSend
    · simp only [List.mem_cons, List.not_mem_nil, or_false] at isSend
      rcases isSend with rfl | rfl <;> simpa [sameElement, activeElement] using isGather
    · obtain rfl := List.mem_singleton.mp isSend
      simpa [sameElement, activeElement] using isGather
  revert isActive isType
  cases e.type <;> simp [InsType.eventType, InsType.isActive]

theorem At.startable (isSound : At c curr_time s) (isEntry : i < s.o3rob.size)
    (isIssued : (s.o3rob.get c.o3rob_max_size i).state = .o3irs_issued)
    (ready : ∀ j < i, some (s.o3rob.slot c.o3rob_max_size j) ∈
      (s.o3rob.get c.o3rob_max_size i).fields →
        (s.o3rob.get c.o3rob_max_size j).unfinished curr_time = false) :
    RobSound.Startable c s.o3rob s.history i where
  isEntry := isEntry
  isIssued := isIssued
  ready j isOlder isNamed := by
    have isReady := ready j isOlder isNamed
    simp only [O3ROB.unfinished, Bool.decide_and, Bool.not_eq_eq_eq_not, Bool.not_false,
      decide_not, Bool.and_eq_true, decide_eq_true_eq] at isReady
    exact isSound.sound.completedBy (isOlder.trans isEntry) isReady.1 (isSound.time ▸ isReady.2)

theorem At.execute {e : O3ROB} {sends : List CoreSend} (isSound : At c curr_time s)
    (startable : RobSound.Startable c s.o3rob s.history i)
    (gathers : ∀ send ∈ sends, send.element.type = .et_art_get → i = 0)
    (sameType : e.type = (s.o3rob.get c.o3rob_max_size i).type) :
    At c curr_time (s.execute c curr_time i e sends) := by
  have executed := isSound.sound.execute startable gathers sameType
  rw [isSound.time] at executed
  exact ⟨executed, isSound.time⟩

theorem At.finish {e : O3ROB} (isSound : At c curr_time s)
    (startable : RobSound.Startable c s.o3rob s.history i)
    (isInactive : (s.o3rob.get c.o3rob_max_size i).type.isActive = false)
    (sameType : e.type = (s.o3rob.get c.o3rob_max_size i).type) (ready_time : ℕ) :
    At c curr_time (s.finish c curr_time i e ready_time) := by
  have finished := isSound.sound.finish startable isInactive sameType ready_time
  rw [isSound.time] at finished
  exact ⟨finished, isSound.time⟩

/-- The issue loop sends an update, as its test does not hold it back. -/
def letsThrough (e : O3ROB) (curr_time : ℕ) : Bool :=
  e.state = .o3irs_issued ∧ e.ready_time ≤ curr_time ∧ e.type.isUpdate ∧ e.isHeld = false

/-- Instructions that complete by themselves take time. -/
structure TakesTime (c : O3CoreConfig) : Prop where
  lock : 0 < c.lock_t
  unlock : 0 < c.unlock_t
  barrier : 0 < c.barrier_t
  sse : 0 < c.sse_t

theorem latency_pos (takesTime : TakesTime c) (e : O3ROB) : 0 < latency c e := by
  have interval := c.interval_pos
  unfold latency
  split
  · exact takesTime.lock
  · exact takesTime.unlock
  · exact takesTime.barrier
  · exact takesTime.sse
  · split <;> omega

/-- What one round of the loop does with its entry. -/
inductive Round (c : O3CoreConfig) (curr_time i : ℕ) (x : Scan) : Scan → Prop where
  /-- It leaves the entry as it is, but no update that it has reached and does not hold back. -/
  | leaves {x' : Scan} (core : x'.core = x.core)
      (holds : x.stop = false →
        letsThrough (x.core.o3rob.get c.o3rob_max_size i) curr_time = false) : Round c curr_time i x x'
  /-- The entry completes by itself at a later time. -/
  | finishes {x' : Scan} {ready_time : ℕ} {is_migrate_ready : ℕ → Bool}
      (issued : (x.core.o3rob.get c.o3rob_max_size i).state = .o3irs_issued)
      (inactive : (x.core.o3rob.get c.o3rob_max_size i).type.isActive = false)
      (waits : i = 0 ∨ (x.core.o3rob.get c.o3rob_max_size i).isFree = true)
      (late : TakesTime c → curr_time < ready_time)
      (core : x'.core = { x.core.finish c curr_time i (x.core.o3rob.get c.o3rob_max_size i)
        ready_time with is_migrate_ready := is_migrate_ready }) : Round c curr_time i x x'
  /-- The entry executes. -/
  | executes {x' : Scan} {e : O3ROB} {sends : List CoreSend}
      (issued : (x.core.o3rob.get c.o3rob_max_size i).state = .o3irs_issued)
      (ready : (x.core.o3rob.get c.o3rob_max_size i).ready_time ≤ curr_time)
      (goes : x.stop = false)
      (waits : i = 0 ∨ (x.core.o3rob.get c.o3rob_max_size i).isFree = true ∨
        letsThrough (x.core.o3rob.get c.o3rob_max_size i) curr_time = true)
      (gathers : ∀ send ∈ sends, send.element.type = .et_art_get → i = 0)
      (core : x'.core = x.core.execute c curr_time i e sends)
      (sameType : e.type = (x.core.o3rob.get c.o3rob_max_size i).type) : Round c curr_time i x x'

theorem ordinary_round {x : Scan} (goes : x.stop = false)
    (issued : (x.core.o3rob.get c.o3rob_max_size i).state = .o3irs_issued)
    (ready : (x.core.o3rob.get c.o3rob_max_size i).ready_time ≤ curr_time)
    (inactive : (x.core.o3rob.get c.o3rob_max_size i).type.isActive = false)
    (isFree : (x.core.o3rob.get c.o3rob_max_size i).isFree = true) :
    Round c curr_time i x (x.ordinary c curr_time i (x.core.o3rob.get c.o3rob_max_size i)) ∧
      (x.ordinary c curr_time i (x.core.o3rob.get c.o3rob_max_size i)).stop = x.stop := by
  unfold Scan.ordinary
  simp only
  split
  · exact ⟨.finishes issued inactive (.inr isFree)
      (fun takesTime => Nat.lt_add_of_pos_right (latency_pos takesTime _)) rfl, rfl⟩
  · split
    · refine ⟨.executes issued ready goes (.inr (.inl isFree)) ?_ rfl rfl, rfl⟩
      intro send isSend isGather
      obtain rfl := List.mem_singleton.mp isSend
      have noGather : ∀ isBypass isRead : Bool, (if isBypass then
          (if isRead then EventType.et_read else .et_write) else .et_tlb_rd) ≠ .et_art_get := by
        decide
      refine absurd ?_ (noGather c.bypass_tlb (x.core.o3rob.get c.o3rob_max_size i).isread)
      rw [← isGather]
      cases c.bypass_tlb <;> rfl
    · refine ⟨.leaves rfl fun _ => ?_, rfl⟩
      simp [letsThrough, InsType.isUpdate, inactive]

/-- A round of the loop, which stops at its entry or goes on. -/
theorem issueAt_round {x x' : Scan} (isRound : x.issueAt c curr_time i = .ok x') :
    Round c curr_time i x x' ∧ x'.stop = (x.stop || stopsAt c x.core curr_time i) := by
  have unready : ¬ ((x.core.o3rob.get c.o3rob_max_size i).state = .o3irs_issued ∧
      (x.core.o3rob.get c.o3rob_max_size i).ready_time ≤ curr_time) →
        letsThrough (x.core.o3rob.get c.o3rob_max_size i) curr_time = false := by
    intro isUnready
    simpa [letsThrough] using fun issued ready => absurd ⟨issued, ready⟩ isUnready
  have inactive : (x.core.o3rob.get c.o3rob_max_size i).type.isActive = false →
      letsThrough (x.core.o3rob.get c.o3rob_max_size i) curr_time = false := by
    intro isInactive
    simp [letsThrough, InsType.isUpdate, isInactive]
  unfold stopsAt
  unfold Scan.issueAt at isRound
  simp only at isRound ⊢
  split at isRound
  · next isStopped =>
    obtain rfl := pure_eq_ok.mp isRound
    exact ⟨.leaves rfl fun goes => absurd isStopped (by simp [goes]), by simp [isStopped]⟩
  next isGoing =>
  have goes : x.stop = false := Bool.eq_false_of_not_eq_true isGoing
  rw [goes, Bool.false_or]
  split at isRound
  · next isReady =>
    rw [if_pos isReady]
    split at isRound
    · next isNotify =>
      rw [if_pos isNotify]
      have isInactive : (x.core.o3rob.get c.o3rob_max_size i).type.isActive = false := by
        rw [isNotify]
        rfl
      split at isRound
      · next isFirst =>
        obtain rfl := pure_eq_ok.mp isRound
        refine ⟨.finishes isReady.1 isInactive (.inl isFirst)
          (fun takesTime => Nat.lt_add_of_pos_right takesTime.barrier) rfl, ?_⟩
        simp [Scan.migrate, goes, isFirst]
      · next isLater =>
        obtain rfl := pure_eq_ok.mp isRound
        exact ⟨.leaves rfl fun _ => inactive isInactive, by simp [Scan.stopped, isLater]⟩
    · next isOther =>
      rw [if_neg isOther]
      split at isRound
      · next isWait =>
        rw [if_pos isWait]
        have isInactive : (x.core.o3rob.get c.o3rob_max_size i).type.isActive = false := by
          rw [isWait]
          rfl
        split at isRound
        · next isFirst =>
          obtain rfl := pure_eq_ok.mp isRound
          refine ⟨.finishes isReady.1 isInactive (.inl isFirst.1)
            (fun _ => Nat.lt_add_of_pos_right c.interval_pos) rfl, ?_⟩
          exact goes.trans (decide_eq_false (not_not_intro isFirst)).symm
        · next isLater =>
          obtain rfl := pure_eq_ok.mp isRound
          exact ⟨.leaves rfl fun _ => inactive isInactive, (decide_eq_true isLater).symm⟩
      · next isNoWait =>
        rw [if_neg isNoWait]
        split at isRound
        · next isActive =>
          rw [if_pos (.inl isActive)]
          split at isRound
          · next isGather =>
            obtain rfl := pure_eq_ok.mp isRound
            exact ⟨.leaves rfl fun _ => by simp [letsThrough, InsType.isUpdate, isGather.1], goes⟩
          next isLast =>
          split at isRound
          · exact absurd isRound throw_ne_ok
          split at isRound
          · next isHeld =>
            obtain rfl := pure_eq_ok.mp isRound
            exact ⟨.leaves rfl fun _ => by simp [letsThrough, isHeld], goes⟩
          next isFree =>
          obtain rfl := pure_eq_ok.mp isRound
          refine ⟨.executes isReady.1 isReady.2 goes ?_ ?_ rfl rfl, goes⟩
          · by_cases isGather : (x.core.o3rob.get c.o3rob_max_size i).type = .ins_art_get
            · exact .inl (not_not.mp fun isLater => isLast ⟨isGather, isLater⟩)
            · refine .inr (.inr ?_)
              simp [letsThrough, InsType.isUpdate, isReady, isActive, isGather, isFree]
          · intro send isSend isGather
            exact not_not.mp fun isLater =>
              isLast ⟨activeSends_gather isActive isSend isGather, isLater⟩
        · next isInactive =>
          have isInactive := Bool.eq_false_of_not_eq_true isInactive
          split at isRound
          · next isFree =>
            obtain rfl := pure_eq_ok.mp isRound
            obtain ⟨round, sameStop⟩ :=
              ordinary_round goes isReady.1 isReady.2 isInactive isFree
            rw [if_pos (.inr isFree)]
            exact ⟨round, sameStop.trans goes⟩
          · next isWaiting =>
            rw [if_neg (by simp [isInactive, isWaiting])]
            split at isRound
            · next isInorder =>
              obtain rfl := pure_eq_ok.mp isRound
              exact ⟨.leaves rfl fun _ => inactive isInactive, isInorder.symm⟩
            · next isOutOfOrder =>
              obtain rfl := pure_eq_ok.mp isRound
              exact ⟨.leaves rfl fun _ => inactive isInactive,
                goes.trans (Bool.eq_false_of_not_eq_true isOutOfOrder).symm⟩
  · next isUnready =>
    rw [if_neg isUnready]
    split at isRound
    · next isInorder =>
      obtain rfl := pure_eq_ok.mp isRound
      exact ⟨.leaves rfl fun _ => unready isUnready, isInorder.symm⟩
    · next isOutOfOrder =>
      obtain rfl := pure_eq_ok.mp isRound
      exact ⟨.leaves rfl fun _ => unready isUnready,
        goes.trans (Bool.eq_false_of_not_eq_true isOutOfOrder).symm⟩

/-- What the loop leaves alone: it has looked at the first `n` entries, and what had completed
    before the loop is as it was. -/
structure Scanned (c : O3CoreConfig) (s : O3Core) (curr_time n : ℕ) (x : Scan) : Prop where
  head : x.core.o3rob.head = s.o3rob.head
  size : x.core.o3rob.size = s.o3rob.size
  same : ∀ i < s.o3rob.size,
    n ≤ i ∨ (s.o3rob.get c.o3rob_max_size i).unfinished curr_time = false →
      x.core.o3rob.get c.o3rob_max_size i = s.o3rob.get c.o3rob_max_size i
  stop : x.stop = false ↔ ∀ j < n, stopsAt c s curr_time j = false
  is_migrate_ready : n = 0 → x.core.is_migrate_ready = s.is_migrate_ready
  retired : x.core.history.retired = s.history.retired
  trace : ∃ more, x.core.history.trace = s.history.trace ++ more ∧
    (TakesTime c → ∀ m ready_time, EndsAt more m ready_time → curr_time < ready_time)

theorem Scanned.start : Scanned c s curr_time 0 { core := s } where
  head := rfl
  size := rfl
  same _ _ _ := rfl
  stop := by simp
  is_migrate_ready _ := rfl
  retired := rfl
  trace := ⟨[], (List.append_nil _).symm, fun _ _ _ ends => absurd ends not_endsAt_nil⟩

theorem Scanned.slot {n : ℕ} {x : Scan} (scanned : Scanned c s curr_time n x) (j : ℕ) :
    x.core.o3rob.slot c.o3rob_max_size j = s.o3rob.slot c.o3rob_max_size j := by
  rw [RingBuffer.slot, scanned.head, RingBuffer.slot]

/-- An entry that is issued has not completed. -/
theorem unfinished_of_issued {e : O3ROB} (issued : e.state = .o3irs_issued) :
    e.unfinished curr_time = true := by
  simp [O3ROB.unfinished, issued]

/-- An entry that had not completed before the loop has not completed now. -/
theorem Scanned.round {n : ℕ} {x x' : Scan} (scanned : Scanned c s curr_time n x)
    (fits : s.o3rob.size ≤ c.o3rob_max_size) (isEntry : n < s.o3rob.size)
    (isRound : x.issueAt c curr_time n = .ok x') : Scanned c s curr_time (n + 1) x' := by
  obtain ⟨round, isStop⟩ := issueAt_round isRound
  have sameEntry := scanned.same n isEntry (.inl (Nat.le_refl _))
  have stop : x'.stop = false ↔ ∀ j < n + 1, stopsAt c s curr_time j = false := by
    have sameStop : stopsAt c x.core curr_time n = stopsAt c s curr_time n := by
      unfold stopsAt
      rw [sameEntry]
      by_cases isFirst : n = 0
      · rw [scanned.is_migrate_ready isFirst]
      · simp [isFirst]
    rw [isStop, Bool.or_eq_false_iff, scanned.stop, sameStop]
    constructor
    · rintro ⟨before, now⟩ j isBefore
      cases Nat.lt_succ_iff_lt_or_eq.mp isBefore with
      | inl isOlder => exact before j isOlder
      | inr isNow => exact isNow ▸ now
    · exact fun all => ⟨fun j isOlder => all j (Nat.lt_succ_of_lt isOlder), all n (Nat.lt_succ_self n)⟩
  obtain ⟨more, isTrace, late⟩ := scanned.trace
  have written : ∀ e : O3ROB, (x.core.o3rob.get c.o3rob_max_size n).state = .o3irs_issued →
      ∀ i < s.o3rob.size, n + 1 ≤ i ∨
        (s.o3rob.get c.o3rob_max_size i).unfinished curr_time = false →
      (x.core.o3rob.write (x.core.o3rob.slot c.o3rob_max_size n) e).get c.o3rob_max_size i =
        s.o3rob.get c.o3rob_max_size i := by
    intro e issued i isOther untouched
    have isOtherEntry : i ≠ n := by
      rintro rfl
      cases untouched with
      | inl isLater => exact Nat.not_succ_le_self i isLater
      | inr finished =>
        rw [← sameEntry, unfinished_of_issued issued] at finished
        cases finished
    rw [RingBuffer.get_write_other (isEntry.trans_le fits) (isOther.trans_le fits) isOtherEntry]
    exact scanned.same i isOther (untouched.imp_left Nat.le_of_succ_le)
  cases round with
  | leaves core =>
    exact {
      head := core ▸ scanned.head
      size := core ▸ scanned.size
      same := fun i isOther untouched => by
        rw [core]
        exact scanned.same i isOther (untouched.imp_left Nat.le_of_succ_le)
      stop := stop
      is_migrate_ready := fun isFirst => nomatch isFirst
      retired := core ▸ scanned.retired
      trace := ⟨more, core ▸ isTrace, late⟩ }
  | @finishes ready_time _ issued _ _ isLate core =>
    exact {
      head := by
        rw [core]
        exact scanned.head
      size := by
        rw [core]
        exact scanned.size
      same := by
        rw [core]
        exact written _ issued
      stop := stop
      is_migrate_ready := fun isFirst => nomatch isFirst
      retired := by
        rw [core]
        exact scanned.retired
      trace := by
        refine ⟨more ++ [.started (x.core.history.retired + n) curr_time [],
          .finished (x.core.history.retired + n) ready_time], ?_, ?_⟩
        · rw [core, ← List.append_assoc, ← isTrace]
          exact List.append_assoc _ _ _
        · intro takesTime m r ends
          cases endsAt_append.mp ends with
          | inl before => exact late takesTime m r before
          | inr now =>
            have isTime : r = ready_time := by
              simp only [EndsAt, List.mem_cons, List.not_mem_nil, or_false, reduceCtorEq,
                false_or, RobEvent.finished.injEq] at now
              exact now.2
            exact isTime ▸ isLate takesTime }
  | @executes e sends issued _ _ _ _ core _ =>
    exact {
      head := by
        rw [core]
        exact scanned.head
      size := by
        rw [core]
        exact scanned.size
      same := by
        rw [core]
        exact written _ issued
      stop := stop
      is_migrate_ready := fun isFirst => nomatch isFirst
      retired := by
        rw [core]
        exact scanned.retired
      trace := by
        refine ⟨more ++ [.started (x.core.history.retired + n) curr_time sends], ?_, ?_⟩
        · rw [core, ← List.append_assoc, ← isTrace]
          rfl
        · intro takesTime m r ends
          exact late takesTime m r ((endsAt_append.mp ends).resolve_right (by simp [EndsAt])) }

theorem Scanned.issue (fits : s.o3rob.size ≤ c.o3rob_max_size) :
    ∀ {n : ℕ} {x : Scan}, n ≤ s.o3rob.size → s.issue c curr_time n = .ok x →
      Scanned c s curr_time n x
  | 0, x, _, issued => by
    obtain rfl := pure_eq_ok.mp issued
    exact .start
  | n + 1, x', isEntry, issued => by
    obtain ⟨x, before, isRound⟩ := bind_eq_ok.mp issued
    exact (Scanned.issue fits (Nat.le_of_lt isEntry) before).round fits isEntry isRound

/-- Where the loop has reached an update that it does not hold back, and the update waits for an
    entry that has not completed, it had to wait before the loop. -/
theorem Scanned.stillWaits {n : ℕ} {x : Scan} (scanned : Scanned c s curr_time n x)
    (isEntry : n < s.o3rob.size) (goes : x.stop = false)
    (lets : letsThrough (x.core.o3rob.get c.o3rob_max_size n) curr_time = true)
    (waits : ∃ j < n, some (x.core.o3rob.slot c.o3rob_max_size j) ∈
      (x.core.o3rob.get c.o3rob_max_size n).fields ∧
        (x.core.o3rob.get c.o3rob_max_size j).unfinished curr_time = true) :
    StillWaits c s curr_time n ∧ ¬ AllNamed (s.o3rob.get c.o3rob_max_size n) := by
  have sameEntry := scanned.same n isEntry (.inl (Nat.le_refl _))
  rw [sameEntry] at lets waits
  obtain ⟨j, isOlder, isNamed, isUnfinished⟩ := waits
  simp only [letsThrough, Bool.decide_and, Bool.decide_eq_true, Bool.and_eq_true,
    decide_eq_true_eq] at lets
  obtain ⟨issued, ready, isUpdate, isFree⟩ := lets
  refine ⟨⟨scanned.stop.mp goes, issued, ready, isUpdate, j, isOlder, scanned.slot j ▸ isNamed,
    ?_⟩, fun allNamed => ?_⟩
  · by_contra isFinished
    have finished := Bool.eq_false_of_not_eq_true isFinished
    rw [scanned.same j (isOlder.trans isEntry) (.inr finished), finished] at isUnfinished
    cases isUnfinished
  · rw [isHeld_iff.mpr allNamed] at isFree
    cases isFree

/-- One round of the loop that issues entries. -/
theorem At.round {n : ℕ} {x x' : Scan} (isSound : At c curr_time x.core)
    (isEntry : n < x.core.o3rob.size) (round : Round c curr_time n x x')
    (patient : x.stop = false →
      letsThrough (x.core.o3rob.get c.o3rob_max_size n) curr_time = true →
        ∀ j < n, some (x.core.o3rob.slot c.o3rob_max_size j) ∈
          (x.core.o3rob.get c.o3rob_max_size n).fields →
            (x.core.o3rob.get c.o3rob_max_size j).unfinished curr_time = false) :
    At c curr_time x'.core := by
  have startable : (x.core.o3rob.get c.o3rob_max_size n).state = .o3irs_issued →
      (n = 0 ∨ (x.core.o3rob.get c.o3rob_max_size n).isFree = true) →
        RobSound.Startable c x.core.o3rob x.core.history n := by
    intro issued waits
    refine isSound.startable isEntry issued fun j isOlder isNamed => ?_
    cases waits with
    | inl isFirst => exact absurd (isFirst ▸ isOlder) j.not_lt_zero
    | inr isFree => exact absurd isNamed (not_mem_fields isFree _)
  cases round with
  | leaves core => exact core ▸ isSound
  | @finishes ready_time _ issued inactive waits _ core =>
    have finished := isSound.finish (startable issued waits) inactive rfl ready_time
    rw [core]
    exact ⟨finished.sound, finished.time⟩
  | executes issued _ goes waits gathers core sameType =>
    rw [core]
    rcases waits with isFirst | isFree | lets
    · exact isSound.execute (startable issued (.inl isFirst)) gathers sameType
    · exact isSound.execute (startable issued (.inr isFree)) gathers sameType
    · exact isSound.execute (isSound.startable isEntry issued (patient goes lets)) gathers sameType

theorem At.issue (isSound : At c curr_time s) (restrained : Restrained c s curr_time) :
    ∀ {n : ℕ} {x : Scan}, n ≤ s.o3rob.size → s.issue c curr_time n = .ok x →
      At c curr_time x.core
  | 0, x, _, issued => by
    obtain rfl := pure_eq_ok.mp issued
    exact isSound
  | n + 1, x', isEntry, issued => by
    obtain ⟨x, before, isRound⟩ := bind_eq_ok.mp issued
    have scanned : Scanned c s curr_time n x :=
      .issue isSound.sound.fits.size_le (Nat.le_of_lt isEntry) before
    refine (isSound.issue restrained (Nat.le_of_lt isEntry) before).round
      (scanned.size.symm ▸ isEntry) (issueAt_round isRound).1 fun goes lets j isOlder isNamed => ?_
    by_contra isUnfinished
    obtain ⟨waits, notAll⟩ := scanned.stillWaits isEntry goes lets
      ⟨j, isOlder, isNamed, Bool.eq_true_of_not_eq_false isUnfinished⟩
    exact notAll (restrained n isEntry waits)

/-! ## Wake-up and commit -/

theorem At.wakeAt (isSound : At c curr_time s) (isEntry : i < s.o3rob.size) :
    At c curr_time (wakeAt c curr_time s i) ∧
      (wakeAt c curr_time s i).o3rob.size = s.o3rob.size := by
  unfold O3Core.wakeAt
  simp only
  split
  · next isNow =>
    have completed := isSound.sound.completedBy isEntry isNow.1 (isSound.time ▸ isNow.2.le)
    have woken := List.foldlRecOn (motive := fun s' : O3Core => RobSound c s'.o3rob s.history ∧
        s'.history = s.history ∧ s'.o3rob.size = s.o3rob.size)
      (List.range' (i + 1) (s.o3rob.size - (i + 1)))
      (fun s j => s.wakeEntry c (s.o3rob.slot c.o3rob_max_size i) j) ⟨isSound.sound, rfl, rfl⟩ ?_
    · refine ⟨⟨?_, ?_⟩, woken.2.2⟩
      · rw [woken.2.1]
        exact woken.1
      · rw [woken.2.1]
        exact isSound.time
    · rintro s' ⟨sound, sameHistory, sameSize⟩ j isLater
      rw [List.mem_range'_1] at isLater
      rw [← sameHistory] at sound completed
      have woken := sound.wakeEntry (by omega) isLater.1 completed
      refine ⟨?_, sameHistory, sameSize⟩
      rw [← sameHistory]
      exact woken
  · exact ⟨isSound, rfl⟩

theorem At.wakeUp (isSound : At c curr_time s) : At c curr_time (s.wakeUp c curr_time) := by
  refine (List.foldlRecOn (motive := fun s' : O3Core => At c curr_time s' ∧
    s'.o3rob.size = s.o3rob.size) (List.range s.o3rob.size) (O3Core.wakeAt c curr_time)
    ⟨isSound, rfl⟩ ?_).1
  rintro s' ⟨isSound, sameSize⟩ i isEntry
  obtain ⟨isSound', sameSize'⟩ := isSound.wakeAt (sameSize.symm ▸ List.mem_range.mp isEntry)
  exact ⟨isSound', sameSize'.trans sameSize⟩

theorem At.commit (isSound : At c curr_time s) : At c curr_time (s.commit c curr_time) := by
  have committed := isSound.sound.commit
  rw [isSound.time] at committed
  refine ⟨committed, ?_⟩
  unfold O3Core.commit
  simp only
  split <;> exact isSound.time

/-- Where the call goes on to the reorder buffer, no update that has to wait there is sent. -/
def Unhurried (c : O3CoreConfig) (s : O3Core) (curr_time : ℕ) : Prop :=
  (s.arrive c curr_time).asksForMore c = false → Restrained c s curr_time

instance : Decidable (Unhurried c s curr_time) :=
  inferInstanceAs (Decidable (_ → Restrained c s curr_time))

/-- The phases of a call: it asks for more instructions, or it goes over the reorder buffer. -/
inductive Processed (c : O3CoreConfig) (s : O3Core) (curr_time : ℕ) : O3Core → Prop where
  | asks (asksForMore : (s.arrive c curr_time).asksForMore c = true) :
      Processed c s curr_time (s.arrive c curr_time)
  | issues {ready : O3Core} {x : Scan} (asksForMore : (s.arrive c curr_time).asksForMore c = false)
      (isReady : ready = (s.arrive c curr_time).beforeIssue c curr_time)
      (issued : ready.issue c curr_time ready.o3rob.size = .ok x) :
      Processed c s curr_time
        ((fun s => O3Core.commit c s curr_time)^[c.max_commit_width] (x.core.wakeUp c curr_time))

theorem processed_of_step (stepped : s.step c (.process_event curr_time) = .ok s') :
    Processed c s curr_time s' := by
  change (s.process_event c curr_time).map Prod.snd = .ok s' at stepped
  unfold O3Core.process_event at stepped
  simp only at stepped
  split at stepped
  · next asks =>
    obtain rfl := pure_eq_ok.mp stepped
    exact .asks asks
  · next isGoing =>
    cases issued : ((s.arrive c curr_time).beforeIssue c curr_time).issue c curr_time
        ((s.arrive c curr_time).beforeIssue c curr_time).o3rob.size with
    | error error =>
      rw [issued] at stepped
      cases stepped
    | ok x =>
      rw [issued] at stepped
      obtain rfl := Except.ok.inj stepped
      exact .issues (Bool.eq_false_of_not_eq_true isGoing) rfl issued

theorem process_event_sound (sound : RobSound c s.o3rob s.history)
    (later : s.history.last_time ≤ curr_time) (unhurried : Unhurried c s curr_time)
    (stepped : s.step c (.process_event curr_time) = .ok s') :
    RobSound c s'.o3rob s'.history := by
  have arrived := Grown.arrive sound later
  cases processed_of_step stepped with
  | asks => exact arrived.sound
  | issues asksForMore isReady issued =>
    have grown := arrived.beforeIssue
    rw [← isReady] at grown
    have restrained : Restrained c _ curr_time := grown.restrained.mpr (unhurried asksForMore)
    have woken := (grown.issue restrained (Nat.le_refl _) issued).wakeUp
    exact (Function.Iterate.rec (At c curr_time) woken (fun _ isSound => isSound.commit) _).sound

/-! ## An update that starts too early -/

theorem issueAt_trace {x x' : Scan} (isRound : x.issueAt c curr_time i = .ok x') :
    x.core.history.trace <+: x'.core.history.trace := by
  cases (issueAt_round isRound).1 with
  | leaves core => rw [core]
  | finishes _ _ _ _ core =>
    rw [core]
    exact ⟨_, (List.append_assoc _ _ _).symm⟩
  | executes _ _ _ _ _ core =>
    rw [core]
    exact List.prefix_append _ _

theorem issue_reaches {n : ℕ} : ∀ {m : ℕ} {x : Scan}, n ≤ m → s.issue c curr_time m = .ok x →
    ∃ x', s.issue c curr_time n = .ok x' ∧ x'.core.history.trace <+: x.core.history.trace
  | 0, x, isLater, issued => by
    obtain rfl := Nat.le_zero.mp isLater
    exact ⟨x, issued, List.prefix_refl _⟩
  | m + 1, x, isLater, issued => by
    cases Nat.le_succ_iff.mp isLater with
    | inl before =>
      obtain ⟨x₁, issued₁, isRound⟩ := bind_eq_ok.mp issued
      obtain ⟨x', issued', isPrefix⟩ := issue_reaches before issued₁
      exact ⟨x', issued', isPrefix.trans (issueAt_trace isRound)⟩
    | inr now =>
      subst now
      exact ⟨x, issued, List.prefix_refl _⟩

theorem wakeUp_history : (s.wakeUp c curr_time).history = s.history := by
  refine List.foldlRecOn (motive := fun s' : O3Core => s'.history = s.history) _ _ rfl ?_
  intro s' same i _
  unfold O3Core.wakeAt
  simp only
  split
  · exact List.foldlRecOn (motive := fun s'' : O3Core => s''.history = s.history) _ _ same
      fun _ same _ _ => same
  · exact same

theorem commit_trace : s.history.trace <+: (s.commit c curr_time).history.trace := by
  unfold O3Core.commit
  simp only
  split
  · exact List.prefix_append _ _
  · exact List.prefix_refl _

theorem commits_trace (n : ℕ) : s.history.trace <+:
    ((fun s => O3Core.commit c s curr_time)^[n] s).history.trace :=
  Function.Iterate.rec (fun s' : O3Core => s.history.trace <+: s'.history.trace)
    (List.prefix_refl _) (fun _ isPrefix => isPrefix.trans commit_trace) n

/-- The loop starts an update that it has reached and does not hold back. -/
theorem Scanned.starts {n : ℕ} {x x' : Scan} (scanned : Scanned c s curr_time n x)
    (isEntry : n < s.o3rob.size) (waits : StillWaits c s curr_time n)
    (notAll : ¬ AllNamed (s.o3rob.get c.o3rob_max_size n))
    (isRound : x.issueAt c curr_time n = .ok x') : ∃ sends, x'.core.history.trace =
      x.core.history.trace ++ [.started (s.history.retired + n) curr_time sends] := by
  have sameEntry := scanned.same n isEntry (.inl (Nat.le_refl _))
  have isFree : (s.o3rob.get c.o3rob_max_size n).isHeld = false :=
    Bool.eq_false_of_not_eq_true fun isHeld => notAll (isHeld_iff.mp isHeld)
  have lets : letsThrough (x.core.o3rob.get c.o3rob_max_size n) curr_time = true := by
    rw [sameEntry]
    simp [letsThrough, waits.issued, waits.ready, waits.isUpdate, isFree]
  cases (issueAt_round isRound).1 with
  | leaves _ holds =>
    rw [holds (scanned.stop.mpr waits.reached)] at lets
    cases lets
  | finishes _ inactive =>
    have isUpdate := waits.isUpdate
    rw [← sameEntry] at isUpdate
    simp [InsType.isUpdate, inactive] at isUpdate
  | executes _ _ _ _ _ core =>
    rw [core, ← scanned.retired]
    exact ⟨_, rfl⟩

/-- An entry that had not completed before the loop has not completed by now. -/
theorem Scanned.not_completedBy {n j : ℕ} {x : Scan} (scanned : Scanned c s curr_time n x)
    (takesTime : TakesTime c) (sound : RobSound c s.o3rob s.history) (isEntry : j < s.o3rob.size)
    (isUnfinished : (s.o3rob.get c.o3rob_max_size j).unfinished curr_time = true) :
    ¬ CompletedBy x.core.history.trace (s.history.retired + j) curr_time := by
  rintro ⟨ready_time, isReady, ends⟩
  obtain ⟨more, isTrace, late⟩ := scanned.trace
  rw [isTrace] at ends
  cases endsAt_append.mp ends with
  | inl before =>
    obtain ⟨isCompleted, rfl⟩ := (sound.entries j isEntry).ended ready_time before
    simp [O3ROB.unfinished, isCompleted, isReady] at isUnfinished
  | inr now => exact absurd (late takesTime _ _ now) (Nat.not_lt.mpr isReady)

/-- An update that has to wait, and whose dependencies are not all set, starts too early. -/
theorem started_too_early (takesTime : TakesTime c) (sound : RobSound c s.o3rob s.history)
    (later : s.history.last_time ≤ curr_time)
    (stepped : s.step c (.process_event curr_time) = .ok s')
    (hurried : ¬ Unhurried c s curr_time) :
    ∃ before n sends after, s'.history.trace = before ++ .started n curr_time sends :: after ∧
      ∃ entry deps, (fillings before)[n]? = some (entry, deps) ∧
        ∃ m ∈ deps, ¬ CompletedBy before m curr_time := by
  have isHurried := Classical.not_imp.mp hurried
  cases processed_of_step stepped with
  | asks asks =>
    rw [asks] at isHurried
    cases isHurried.1
  | @issues ready last _ isReady issued =>
    have grown := (Grown.arrive sound later).beforeIssue
    rw [← isReady] at grown
    have unrestrained : ∃ n < ready.o3rob.size, StillWaits c ready curr_time n ∧
        ¬ AllNamed (ready.o3rob.get c.o3rob_max_size n) := by
      by_contra none
      exact isHurried.2 (grown.restrained.mp fun n isEntry waits =>
        not_not.mp fun notAll => none ⟨n, isEntry, waits, notAll⟩)
    obtain ⟨n, isEntry, waits, notAll⟩ := unrestrained
    obtain ⟨x', issued', early⟩ := issue_reaches (Nat.succ_le_of_lt isEntry) issued
    obtain ⟨x, before, isRound⟩ := bind_eq_ok.mp issued'
    have scanned : Scanned c ready curr_time n x :=
      .issue grown.sound.fits.size_le isEntry.le before
    obtain ⟨sends, isStart⟩ := scanned.starts isEntry waits notAll isRound
    obtain ⟨more, isTrace, -⟩ := scanned.trace
    obtain ⟨filled, deps, isFilling, -, -, named⟩ := (grown.sound.entries n isEntry).filling
    obtain ⟨j, isOlder, isNamed, isUnfinished⟩ := waits.waits
    have woken : x'.core.history.trace <+: (last.core.wakeUp c curr_time).history.trace := by
      rw [wakeUp_history]
      exact early
    obtain ⟨after, isLast⟩ := woken.trans (commits_trace c.max_commit_width)
    refine ⟨x.core.history.trace, ready.history.retired + n, sends, after, ?_, filled, deps, ?_,
      ready.history.retired + j, named waits.issued j isOlder isNamed,
      scanned.not_completedBy takesTime grown.sound (isOlder.trans isEntry) isUnfinished⟩
    · rw [← isLast, isStart, List.append_assoc]
      rfl
    · rw [isTrace]
      exact getElem?_fillings_append isFilling more

end ActiveRouting.O3Core

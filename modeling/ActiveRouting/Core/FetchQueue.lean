import ActiveRouting.Core.RobTrace
import Mathlib.Logic.Function.Iterate

/-!
# The queue of fetched instructions

The queue holds the last instructions that the core has been given, and the
entries of the reorder buffer are those of the instructions that have left it,
in their order.
-/

namespace ActiveRouting

open Outcome RobEvent

/-- What an instruction asks of the reorder buffer: an entry for each access, or one entry. -/
def O3Queue.robEntries (instr : O3Queue) : List (InsType × ℕ × Bool) :=
  let access (memaddr : ℕ) (isread : Bool) : List (InsType × ℕ × Bool) :=
    if memaddr = 0 then [] else [(instr.type, memaddr, isread)]
  if instr.type.isActive then
    [(instr.type, if instr.type = .ins_art_dot ∨ instr.type = .ins_pei_dot then instr.raddr2
      else instr.waddr, false)]
  else if instr.raddr = 0 ∧ instr.raddr2 = 0 ∧ instr.waddr = 0 then [(instr.type, 0, false)]
  else access instr.raddr true ++ access instr.raddr2 true ++ access instr.waddr false

def RobEvent.kind (filling : O3ROB × List ℕ) : InsType × ℕ × Bool :=
  (filling.1.type, filling.1.memaddr, filling.1.isread)

variable {c : O3CoreConfig}

structure QueueSound (c : O3CoreConfig) (queue : RingBuffer O3QueueEntry) (h : O3History) :
    Prop where
  fits : queue.Fits c.o3queue_max_size
  size_le : queue.size ≤ h.fed.length
  contents : ∀ i < queue.size, h.fed[h.fed.length - queue.size + i]? =
    some (queue.get c.o3queue_max_size i).instr
  dispatched : ∀ d ∈ dispatches h.trace, d.1 < h.fed.length - queue.size ∧ h.fed[d.1]? = some d.2
  increasing : (dispatches h.trace).Pairwise fun d d' => d.1 < d'.1
  entries : (fillings h.trace).map kind = (dispatches h.trace).flatMap fun d => d.2.robEntries

/-- Entries are filled, and the queue is left alone. -/
structure Fills (s s' : O3Core) (kinds : List (InsType × ℕ × Bool)) : Prop where
  queue : s'.o3queue = s.o3queue
  fed : s'.history.fed = s.history.fed
  dispatches : dispatches s'.history.trace = dispatches s.history.trace
  fillings : (fillings s'.history.trace).map kind = (fillings s.history.trace).map kind ++ kinds

namespace Fills

variable {s s' s'' : O3Core} {kinds kinds' : List (InsType × ℕ × Bool)}

theorem refl : Fills s s [] := ⟨rfl, rfl, rfl, (List.append_nil _).symm⟩

theorem trans (fills : Fills s s' kinds) (fills' : Fills s' s'' kinds') :
    Fills s s'' (kinds ++ kinds') where
  queue := fills'.queue.trans fills.queue
  fed := fills'.fed.trans fills.fed
  dispatches := fills'.dispatches.trans fills.dispatches
  fillings := by rw [fills'.fillings, fills.fillings, List.append_assoc]

/-- Events by which no entry is filled. -/
theorem of_events {more : List RobEvent} (queue : s'.o3queue = s.o3queue)
    (fed : s'.history.fed = s.history.fed) (isTrace : s'.history.trace = s.history.trace ++ more)
    (noDispatch : RobEvent.dispatches more = []) (noFilling : RobEvent.fillings more = []) :
    Fills s s' [] where
  queue := queue
  fed := fed
  dispatches := by rw [isTrace, dispatches_append, noDispatch, List.append_nil]
  fillings := by rw [isTrace, fillings_append, noFilling, List.append_nil, List.append_nil]

theorem fill (s : O3Core) (e : O3ROB) : Fills s (s.fill c e) [(e.type, e.memaddr, e.isread)] where
  queue := rfl
  fed := rfl
  dispatches := by simp [O3Core.fill, O3Core.record, RobEvent.dispatches]
  fillings := by simp [O3Core.fill, O3Core.record, RobEvent.fillings, kind]

end Fills

namespace O3Core

variable {s : O3Core} {curr_time : ℕ}

theorem fillAccess_fills (x : Common) (memaddr : ℕ) (isread : Bool) (y : O3Core × Option ℕ) :
    Fills y.1 (fillAccess c curr_time x memaddr isread y).1
      (if memaddr = 0 then [] else [(x.instr.type, memaddr, isread)]) := by
  unfold fillAccess
  simp only
  split
  · exact .refl
  · exact .fill _ _

theorem fillEntries_fills (x : Common) :
    Fills s (s.fillEntries c curr_time x) x.instr.robEntries := by
  unfold fillEntries O3Queue.robEntries
  simp only
  split
  · next isActive =>
    have isKind : (x.instr.type, if x.instr.type = .ins_art_dot ∨ x.instr.type = .ins_pei_dot then
        x.instr.raddr2 else x.instr.waddr, false) = ((s.activeEntry c curr_time x).type,
          (s.activeEntry c curr_time x).memaddr, (s.activeEntry c curr_time x).isread) := by
      revert isActive
      simp only [activeEntry, common]
      cases x.instr.type <;> simp [InsType.isActive]
    rw [isKind]
    exact .fill _ _
  · split
    · next noAccess =>
      have filled := Fills.fill (c := c) s (s.accessEntry c curr_time x x.instr.waddr false none)
      rw [noAccess.2.2] at filled ⊢
      exact filled
    · exact ((fillAccess_fills x _ true (s, none)).trans (fillAccess_fills x _ true _)).trans
        (fillAccess_fills x _ false _)

theorem execute_fills (i : ℕ) (e : O3ROB) (sends : List CoreSend) :
    Fills s (s.execute c curr_time i e sends) [] :=
  .of_events rfl rfl rfl rfl rfl

theorem finish_fills (i : ℕ) (e : O3ROB) (ready_time : ℕ) :
    Fills s (s.finish c curr_time i e ready_time) [] :=
  .of_events rfl rfl (List.append_assoc _ _ _) rfl rfl

/-- The loops over the reorder buffer fill none. -/
theorem issueAt_fills {x x' : Scan} {i : ℕ} (issued : x.issueAt c curr_time i = .ok x') :
    Fills x.core x'.core [] := by
  have ordinary : ∀ e, Fills x.core (x.ordinary c curr_time i e).core [] := by
    intro e
    unfold Scan.ordinary
    simp only
    split
    · exact finish_fills i e _
    · split
      · exact execute_fills i e _
      · exact .refl
  have migrate : ∀ e ready_time is_ready,
      Fills x.core (x.migrate c curr_time i e ready_time is_ready).core [] := by
    intro e ready_time is_ready
    have finished : Fills x.core (x.core.finish c curr_time i e ready_time) [] :=
      finish_fills i e ready_time
    exact ⟨finished.queue, finished.fed, finished.dispatches, finished.fillings⟩
  unfold Scan.issueAt at issued
  simp only at issued
  repeat' split at issued
  all_goals first
    | exact absurd issued throw_ne_ok
    | obtain rfl := pure_eq_ok.mp issued
  all_goals first
    | exact .refl
    | exact migrate _ _ _
    | exact ordinary _
    | exact execute_fills i _ _

theorem issue_fills : ∀ {n : ℕ} {x : Scan}, s.issue c curr_time n = .ok x → Fills s x.core []
  | 0, x, issued => by
    obtain rfl := pure_eq_ok.mp issued
    exact .refl
  | n + 1, x', issued => by
    obtain ⟨x, before, round⟩ := bind_eq_ok.mp issued
    exact (issue_fills before).trans (issueAt_fills round)

theorem wakeUp_fills : Fills s (s.wakeUp c curr_time) [] := by
  refine List.foldlRecOn (motive := fun s' : O3Core => Fills s s' []) _ _ .refl ?_
  intro s' fills i _
  unfold wakeAt
  simp only
  split
  · refine List.foldlRecOn (motive := fun s'' : O3Core => Fills s s'' []) _ _ fills ?_
    intro s'' fills j _
    exact fills.trans (.of_events rfl rfl (List.append_nil _).symm rfl rfl)
  · exact fills

theorem commit_fills : Fills s (s.commit c curr_time) [] := by
  unfold commit
  simp only
  split
  · exact .of_events rfl rfl rfl rfl rfl
  · exact .refl

end O3Core

namespace QueueSound

variable {s s' : O3Core} {queue queue' : RingBuffer O3QueueEntry} {h : O3History}
  {curr_time : ℕ}

/-- Events of the reorder buffer are no matter of the queue. -/
theorem kept (sound : QueueSound c s.o3queue s.history) (fills : Fills s s' []) :
    QueueSound c s'.o3queue s'.history where
  fits := fills.queue ▸ sound.fits
  size_le := by
    rw [fills.queue, fills.fed]
    exact sound.size_le
  contents := by
    rw [fills.queue, fills.fed]
    exact sound.contents
  dispatched := by
    rw [fills.queue, fills.fed, fills.dispatches]
    exact sound.dispatched
  increasing := by
    rw [fills.dispatches]
    exact sound.increasing
  entries := by
    rw [fills.dispatches, fills.fillings, List.append_nil]
    exact sound.entries

/-- The states of the instructions in the queue change. -/
theorem relabel (sound : QueueSound c queue h) (sameHead : queue'.head = queue.head)
    (sameSize : queue'.size = queue.size)
    (sameInstr : ∀ i < queue.size, (queue'.get c.o3queue_max_size i).instr =
      (queue.get c.o3queue_max_size i).instr) : QueueSound c queue' h where
  fits := ⟨sameHead ▸ sound.fits.head_lt, sameSize ▸ sound.fits.size_le⟩
  size_le := sameSize ▸ sound.size_le
  contents := by
    rw [sameSize]
    intro i isInstr
    rw [sameInstr i isInstr]
    exact sound.contents i isInstr
  dispatched := sameSize ▸ sound.dispatched
  increasing := sound.increasing
  entries := sound.entries

/-- One of them changes its state. -/
theorem write (sound : QueueSound c queue h) {i : ℕ} (isInstr : i < queue.size)
    {q : O3QueueEntry} (sameInstr : q.instr = (queue.get c.o3queue_max_size i).instr) :
    QueueSound c (queue.write (queue.slot c.o3queue_max_size i) q) h := by
  refine sound.relabel rfl rfl ?_
  intro j isOther
  by_cases same : j = i
  · rw [same, RingBuffer.get_write_same, sameInstr]
  · rw [RingBuffer.get_write_other (isInstr.trans_le sound.fits.size_le)
      (isOther.trans_le sound.fits.size_le) same]

theorem add_instruction (sound : QueueSound c s.o3queue s.history) (instr : O3Queue) :
    QueueSound c (s.add_instruction c instr).o3queue (s.add_instruction c instr).history := by
  unfold O3Core.add_instruction
  split
  · exact sound
  · next isFull =>
    have room : s.o3queue.size < c.o3queue_max_size := not_le.mp isFull
    have isLength := sound.size_le
    exact {
      fits := sound.fits.push room
      size_le := by
        rw [List.length_append]
        exact Nat.succ_le_succ isLength
      contents := by
        intro i isInstr
        have isIndex : (s.history.fed ++ [instr]).length - (s.o3queue.size + 1) + i =
            s.history.fed.length - s.o3queue.size + i := by
          simp
        show (s.history.fed ++ [instr])[(s.history.fed ++ [instr]).length -
          (s.o3queue.size + 1) + i]? = _
        rw [isIndex]
        by_cases isOld : i < s.o3queue.size
        · rw [RingBuffer.get_push_old isOld room, List.getElem?_append_left (by omega)]
          exact sound.contents i isOld
        · obtain rfl : i = s.o3queue.size :=
            Nat.le_antisymm (Nat.le_of_lt_succ isInstr) (not_lt.mp isOld)
          rw [RingBuffer.get_push_new, Nat.sub_add_cancel isLength]
          simp
      dispatched := by
        intro d isDispatch
        obtain ⟨isBefore, isFed⟩ := sound.dispatched d isDispatch
        refine ⟨?_, ?_⟩
        · show d.1 < (s.history.fed ++ [instr]).length - (s.o3queue.size + 1)
          simpa using isBefore
        · exact (List.getElem?_append_left (by omega)).trans isFed
      increasing := sound.increasing
      entries := sound.entries }

/-- If all instructions are skipped, those in the queue are. -/
theorem arrive (sound : QueueSound c s.o3queue s.history) :
    QueueSound c (s.arrive c curr_time).o3queue (s.arrive c curr_time).history := by
  unfold O3Core.arrive
  simp only
  split
  · exact {
      fits := ⟨sound.fits.head_lt, Nat.zero_le _⟩
      size_le := Nat.zero_le _
      contents := fun i isInstr => absurd isInstr i.not_lt_zero
      dispatched := fun d isDispatch =>
        ⟨(sound.dispatched d isDispatch).1.trans_le (Nat.sub_le_sub_left (Nat.zero_le _) _),
          (sound.dispatched d isDispatch).2⟩
      increasing := sound.increasing
      entries := sound.entries }
  · exact ⟨sound.fits, sound.size_le, sound.contents, sound.dispatched, sound.increasing,
      sound.entries⟩

theorem load (sound : QueueSound c s.o3queue s.history) :
    QueueSound c (s.load c).o3queue (s.load c).history := by
  have loaded := List.foldlRecOn (motive := fun x : O3Core × ℕ =>
      QueueSound c x.1.o3queue s.history ∧ x.1.history = s.history ∧
        x.1.o3queue.size = s.o3queue.size)
    (List.range s.o3queue.size) (O3Core.loadAt c) (b := (s, 0)) ⟨sound, rfl, rfl⟩ ?_
  · unfold O3Core.load
    rw [loaded.2.1]
    exact loaded.1
  · rintro ⟨s', addr_to_read⟩ ⟨sound, sameHistory, sameSize⟩ i isInstr
    have written := sound.write (sameSize ▸ List.mem_range.mp isInstr)
      (q := { s'.o3queue.get c.o3queue_max_size i with state := .o3iqs_being_loaded }) rfl
    unfold O3Core.loadAt
    simp only
    repeat' split
    all_goals first
      | exact ⟨written, sameHistory, sameSize⟩
      | exact ⟨sound, sameHistory, sameSize⟩

theorem fetch (sound : QueueSound c s.o3queue s.history) (event_time : ℕ) (address : BitVec 64) :
    QueueSound c ((List.range s.o3queue.size).foldl (O3Core.fetchAt c event_time address) s).o3queue
      ((List.range s.o3queue.size).foldl (O3Core.fetchAt c event_time address) s).history := by
  have fetched := List.foldlRecOn (motive := fun s' : O3Core =>
      QueueSound c s'.o3queue s.history ∧ s'.history = s.history ∧
        s'.o3queue.size = s.o3queue.size)
    (List.range s.o3queue.size) (O3Core.fetchAt c event_time address) ⟨sound, rfl, rfl⟩ ?_
  · rw [fetched.2.1]
    exact fetched.1
  · rintro s' ⟨sound, sameHistory, sameSize⟩ i isInstr
    unfold O3Core.fetchAt
    simp only
    split
    · exact ⟨sound.write (sameSize ▸ List.mem_range.mp isInstr) rfl, sameHistory, sameSize⟩
    · exact ⟨sound, sameHistory, sameSize⟩

/-- The oldest instruction leaves the queue for the reorder buffer. -/
theorem leave (sound : QueueSound c s.o3queue s.history) (isInstr : 0 < s.o3queue.size)
    (q : O3QueueEntry)
    (fills : Fills (s.record (.dispatched (s.history.fed.length - s.o3queue.size)
      (s.o3queue.get c.o3queue_max_size 0).instr)) s'
        (s.o3queue.get c.o3queue_max_size 0).instr.robEntries) :
    QueueSound c ((s'.o3queue.write (s'.o3queue.slot c.o3queue_max_size 0) q).pop
      c.o3queue_max_size) s'.history := by
  have sameQueue : s'.o3queue = s.o3queue := fills.queue
  have sameFed : s'.history.fed = s.history.fed := fills.fed
  have isDispatches : dispatches s'.history.trace = dispatches s.history.trace ++
      [(s.history.fed.length - s.o3queue.size, (s.o3queue.get c.o3queue_max_size 0).instr)] := by
    rw [fills.dispatches]
    simp [O3Core.record, dispatches]
  have isFillings : (fillings s'.history.trace).map kind = (fillings s.history.trace).map kind ++
      (s.o3queue.get c.o3queue_max_size 0).instr.robEntries := by
    rw [fills.fillings]
    simp [O3Core.record, fillings]
  have isLength := sound.size_le
  have isSize : (((s.o3queue.write (s.o3queue.slot c.o3queue_max_size 0) q).pop
      c.o3queue_max_size).size) = s.o3queue.size - 1 := rfl
  rw [sameQueue]
  exact {
    fits := sound.fits.write.pop
    size_le := by
      rw [isSize, sameFed]
      omega
    contents := by
      rw [isSize, sameFed]
      intro i isLater
      have isOld : i + 1 < s.o3queue.size := by omega
      have isIndex : s.history.fed.length - (s.o3queue.size - 1) + i =
          s.history.fed.length - s.o3queue.size + (i + 1) := by omega
      rw [isIndex, sound.contents (i + 1) isOld, RingBuffer.get_pop,
        RingBuffer.get_write_other (isInstr.trans_le sound.fits.size_le)
          (isOld.trans_le sound.fits.size_le) i.succ_ne_zero]
    dispatched := by
      rw [isSize, sameFed, isDispatches]
      intro d isDispatch
      cases List.mem_append.mp isDispatch with
      | inl before =>
        obtain ⟨isBefore, isFed⟩ := sound.dispatched d before
        exact ⟨by omega, isFed⟩
      | inr now =>
        rw [List.mem_singleton.mp now]
        exact ⟨by show _ - _ < _; omega, sound.contents 0 isInstr⟩
    increasing := by
      rw [isDispatches, List.pairwise_append]
      refine ⟨sound.increasing, List.pairwise_singleton _ _, ?_⟩
      intro d before d' now
      rw [List.mem_singleton.mp now]
      exact (sound.dispatched d before).1
    entries := by
      rw [isDispatches, isFillings, sound.entries, List.flatMap_append, List.flatMap_singleton] }

theorem dispatch (sound : QueueSound c s.o3queue s.history) :
    QueueSound c (s.dispatch c curr_time).o3queue (s.dispatch c curr_time).history := by
  unfold O3Core.dispatch
  simp only
  split
  · next isReady =>
    exact leave (s := { s with bp := (s.predict c (s.o3queue.get c.o3queue_max_size 0).instr).2 })
      sound isReady.1 _ (O3Core.fillEntries_fills _)
  · exact sound

theorem process_event (sound : QueueSound c s.o3queue s.history)
    (processed : (s.process_event c curr_time).map Prod.snd = .ok s') :
    QueueSound c s'.o3queue s'.history := by
  have arrived : QueueSound c (s.arrive c curr_time).o3queue (s.arrive c curr_time).history :=
    sound.arrive
  unfold O3Core.process_event at processed
  simp only at processed
  split at processed
  · obtain rfl := pure_eq_ok.mp processed
    exact arrived
  · have ready : QueueSound c ((s.arrive c curr_time).beforeIssue c curr_time).o3queue
        ((s.arrive c curr_time).beforeIssue c curr_time).history :=
      Function.Iterate.rec (fun s : O3Core => QueueSound c s.o3queue s.history) arrived.load
        (fun _ sound => sound.dispatch) _
    cases issued : ((s.arrive c curr_time).beforeIssue c curr_time).issue c curr_time
        ((s.arrive c curr_time).beforeIssue c curr_time).o3rob.size with
    | error error =>
      rw [issued] at processed
      cases processed
    | ok x =>
      rw [issued] at processed
      obtain rfl := Except.ok.inj processed
      have woken : QueueSound c (x.core.wakeUp c curr_time).o3queue
          (x.core.wakeUp c curr_time).history :=
        (ready.kept (O3Core.issue_fills issued)).kept O3Core.wakeUp_fills
      exact Function.Iterate.rec (fun s : O3Core => QueueSound c s.o3queue s.history) woken
        (fun _ sound => sound.kept O3Core.commit_fills) _

end QueueSound

end ActiveRouting

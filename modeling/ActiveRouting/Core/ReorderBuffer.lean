import ActiveRouting.Core.RobTrace

/-!
# The reorder buffer

What the reorder buffer and the events say of each other, and how an entry that
enters, starts, completes, wakes another one or commits keeps it so.
-/

namespace ActiveRouting

open RobEvent

variable {c : O3CoreConfig}

/-- The `i`-th entry of the buffer and its events.  A dependency that has not completed is named
    by one of the fields of the entry, as long as it has not started, and what they name are
    dependencies. -/
structure EntrySound (c : O3CoreConfig) (rob : RingBuffer O3ROB) (h : O3History) (i : ℕ) :
    Prop where
  filling : ∃ entry deps, (fillings h.trace)[h.retired + i]? = some (entry, deps) ∧
    entry.type = (rob.get c.o3rob_max_size i).type ∧
    ((rob.get c.o3rob_max_size i).state = .o3irs_issued → ∀ m ∈ deps,
      CompletedBy h.trace m h.last_time ∨ ∃ j < i, m = h.retired + j ∧
        some (rob.slot c.o3rob_max_size j) ∈ (rob.get c.o3rob_max_size i).fields) ∧
    ((rob.get c.o3rob_max_size i).state = .o3irs_issued → ∀ j < i,
      some (rob.slot c.o3rob_max_size j) ∈ (rob.get c.o3rob_max_size i).fields →
        h.retired + j ∈ deps)
  completed : (rob.get c.o3rob_max_size i).state = .o3irs_completed →
    EndsAt h.trace (h.retired + i) (rob.get c.o3rob_max_size i).ready_time
  ended : ∀ ready_time, EndsAt h.trace (h.retired + i) ready_time →
    (rob.get c.o3rob_max_size i).state = .o3irs_completed ∧
      (rob.get c.o3rob_max_size i).ready_time = ready_time

structure RobSound (c : O3CoreConfig) (rob : RingBuffer O3ROB) (h : O3History) : Prop where
  fits : rob.Fits c.o3rob_max_size
  lawful : Lawful Allowed h.trace
  filled : (fillings h.trace).length = h.retired + rob.size
  commits : commits h.trace = List.range h.retired
  done : ∀ n < h.retired, CompletedBy h.trace n h.last_time
  fresh : ∀ n ready_time, EndsAt h.trace n ready_time → n < h.retired + rob.size
  entries : ∀ i < rob.size, EntrySound c rob h i
  outstanding : ∀ k ∈ h.outstanding, ∃ i < rob.size, rob.slot c.o3rob_max_size i = k ∧
    (rob.get c.o3rob_max_size i).state = .o3irs_executing
  nodup : h.outstanding.Nodup

/-- What happens elsewhere leaves an entry as it is. -/
theorem EntrySound.mono {rob rob' : RingBuffer O3ROB} {h h' : O3History} {i : ℕ}
    {more : List RobEvent} (entry : EntrySound c rob h i)
    (sameEntry : rob'.get c.o3rob_max_size i = rob.get c.o3rob_max_size i)
    (sameHead : rob'.head = rob.head) (sameRetired : h'.retired = h.retired)
    (isTrace : h'.trace = h.trace ++ more) (later : h.last_time ≤ h'.last_time)
    (elsewhere : ∀ ready_time, ¬ EndsAt more (h.retired + i) ready_time) :
    EntrySound c rob' h' i where
  filling := by
    have sameSlot : ∀ j, rob'.slot c.o3rob_max_size j = rob.slot c.o3rob_max_size j :=
      fun j => by rw [RingBuffer.slot, sameHead, RingBuffer.slot]
    obtain ⟨filled, deps, isFilling, isType, waits, named⟩ := entry.filling
    simp only [isTrace, sameRetired, sameEntry, sameSlot]
    refine ⟨filled, deps, getElem?_fillings_append isFilling more, isType, ?_, named⟩
    intro isIssued m isDep
    exact (waits isIssued m isDep).imp_left fun completed => completed.mono later more
  completed := by
    rw [isTrace, sameRetired, sameEntry]
    exact fun isCompleted => endsAt_append.mpr (.inl (entry.completed isCompleted))
  ended := by
    rw [isTrace, sameRetired, sameEntry]
    intro ready_time ends
    exact entry.ended ready_time ((endsAt_append.mp ends).resolve_right (elsewhere ready_time))

namespace O3ROB

variable {e : O3ROB} {k k' : ℕ}

@[simp] theorem wake_state : (e.wake k).state = e.state := by
  unfold wake
  split <;> rfl

@[simp] theorem wake_type : (e.wake k).type = e.type := by
  unfold wake
  split <;> rfl

@[simp] theorem wake_ready_time : (e.wake k).ready_time = e.ready_time := by
  unfold wake
  split <;> rfl

/-- No dependency is added. -/
theorem mem_fields_of_wake (isNamed : some k' ∈ (e.wake k).fields) : some k' ∈ e.fields := by
  have kept : ∀ dep : Option ℕ, (some k' = if dep = some k then none else dep) → some k' = dep := by
    intro dep isNamed
    split at isNamed
    · cases isNamed
    · exact isNamed
  unfold wake at isNamed
  simp only at isNamed
  split at isNamed
  · exact isNamed
  · simp only [fields, List.mem_cons, List.not_mem_nil, or_false] at isNamed ⊢
    exact isNamed.imp (kept _) (Or.imp (kept _) (Or.imp (kept _) (Or.imp (kept _)
      (Or.imp (kept _) (Or.imp (kept _) (kept _))))))

/-- Only the dependency on the slot is cleared. -/
theorem mem_fields_wake (isNamed : some k' ∈ e.fields) (isOther : k' ≠ k) :
    some k' ∈ (e.wake k).fields := by
  have kept : ∀ dep : Option ℕ, some k' = dep → some k' = if dep = some k then none else dep := by
    rintro _ rfl
    simp [isOther]
  unfold wake
  simp only
  split
  · exact isNamed
  · simp only [fields, List.mem_cons, List.not_mem_nil, or_false] at isNamed ⊢
    exact isNamed.imp (kept _) (Or.imp (kept _) (Or.imp (kept _) (Or.imp (kept _)
      (Or.imp (kept _) (Or.imp (kept _) (kept _))))))

end O3ROB

namespace RobSound

variable {s : O3Core} {rob : RingBuffer O3ROB} {h : O3History} {e : O3ROB} {i : ℕ}

theorem entry_lt (sound : RobSound c rob h) (isEntry : i < rob.size) : i < c.o3rob_max_size :=
  isEntry.trans_le sound.fits.size_le

/-- An entry that has completed in the buffer has completed in the history. -/
theorem completedBy (sound : RobSound c rob h) (isEntry : i < rob.size)
    (isCompleted : (rob.get c.o3rob_max_size i).state = .o3irs_completed)
    (isReady : (rob.get c.o3rob_max_size i).ready_time ≤ h.last_time) :
    CompletedBy h.trace (h.retired + i) h.last_time :=
  ⟨_, isReady, (sound.entries i isEntry).completed isCompleted⟩

/-- An entry that has not completed in the buffer has not ended in the history. -/
theorem not_endsAt (sound : RobSound c rob h) (isEntry : i < rob.size)
    (isOpen : (rob.get c.o3rob_max_size i).state ≠ .o3irs_completed) (ready_time : ℕ) :
    ¬ EndsAt h.trace (h.retired + i) ready_time :=
  fun ends => isOpen ((sound.entries i isEntry).ended ready_time ends).1

theorem arrive (sound : RobSound c s.o3rob s.history) {curr_time : ℕ}
    (later : s.history.last_time ≤ curr_time) :
    RobSound c (s.arrive c curr_time).o3rob (s.arrive c curr_time).history where
  fits := sound.fits
  lawful := sound.lawful
  filled := sound.filled
  commits := sound.commits
  done n isDone := by
    have completed := (sound.done n isDone).mono later []
    rwa [List.append_nil] at completed
  fresh := sound.fresh
  entries i isEntry := (sound.entries i isEntry).mono rfl rfl rfl (List.append_nil _).symm later
    fun _ => not_endsAt_nil
  outstanding := sound.outstanding
  nodup := sound.nodup

/-- An instruction leaves the queue. -/
theorem dispatched (sound : RobSound c s.o3rob s.history) (serial : ℕ) (instr : O3Queue) :
    RobSound c s.o3rob (s.record (.dispatched serial instr)).history where
  fits := sound.fits
  lawful := sound.lawful.snoc trivial
  filled := by simpa [O3Core.record, fillings] using sound.filled
  commits := by simpa [O3Core.record, RobEvent.commits] using sound.commits
  done n isDone := (sound.done n isDone).mono (Nat.le_refl _) _
  fresh n ready_time ends := sound.fresh n ready_time <|
    (endsAt_append.mp ends).resolve_right (by simp [EndsAt])
  entries i isEntry := (sound.entries i isEntry).mono rfl rfl rfl rfl (Nat.le_refl _)
    (by simp [EndsAt])
  outstanding := sound.outstanding
  nodup := sound.nodup

theorem fill (sound : RobSound c s.o3rob s.history) (room : s.o3rob.size < c.o3rob_max_size)
    (isIssued : e.state = .o3irs_issued) :
    RobSound c (s.fill c e).o3rob (s.fill c e).history where
  fits := sound.fits.push room
  lawful := sound.lawful.snoc trivial
  filled := by
    have isLength := sound.filled
    simp only [O3Core.fill, O3Core.record, fillings_append, List.length_append, isLength]
    rfl
  commits := by simpa [O3Core.fill, O3Core.record, RobEvent.commits] using sound.commits
  done n isDone := (sound.done n isDone).mono (Nat.le_refl _) _
  fresh n ready_time ends := Nat.lt_succ_of_lt <| sound.fresh n ready_time <|
    (endsAt_append.mp ends).resolve_right (by simp [EndsAt])
  entries := by
    intro i isEntry
    by_cases isOld : i < s.o3rob.size
    · exact (sound.entries i isOld).mono (RingBuffer.get_push_old isOld room e) rfl rfl rfl
        (Nat.le_refl _) (by simp [EndsAt])
    · obtain rfl : i = s.o3rob.size := Nat.le_antisymm (Nat.le_of_lt_succ isEntry) (not_lt.mp isOld)
      have isNew : (s.fill c e).o3rob.get c.o3rob_max_size s.o3rob.size = e :=
        RingBuffer.get_push_new e
      have isDep : ∀ m, m ∈ s.depsOf c e ↔ ∃ j < s.o3rob.size,
          some (s.o3rob.slot c.o3rob_max_size j) ∈ e.fields ∧ s.history.retired + j = m := by
        simp [O3Core.depsOf, and_assoc]
      refine ⟨⟨e, s.depsOf c e, ?_, by rw [isNew], ?_, ?_⟩, ?_, ?_⟩
      · simp [O3Core.fill, O3Core.record, ← sound.filled, fillings]
      · rw [isNew]
        intro _ m member
        obtain ⟨j, isOlder, isNamed, rfl⟩ := (isDep m).mp member
        exact .inr ⟨j, isOlder, rfl, isNamed⟩
      · rw [isNew]
        exact fun _ j isOlder isNamed => (isDep _).mpr ⟨j, isOlder, isNamed, rfl⟩
      · rw [isNew, isIssued]
        intro isCompleted
        cases isCompleted
      · intro ready_time ends
        have before := (endsAt_append.mp ends).resolve_right (by simp [EndsAt])
        exact absurd (sound.fresh _ ready_time before) (Nat.lt_irrefl _)
  outstanding := by
    intro k isOutstanding
    obtain ⟨i, isEntry, isSlot, isExecuting⟩ := sound.outstanding k isOutstanding
    refine ⟨i, Nat.lt_succ_of_lt isEntry, isSlot, ?_⟩
    rw [← isExecuting]
    exact congrArg O3ROB.state (RingBuffer.get_push_old isEntry room e)
  nodup := sound.nodup

/-- An entry of the buffer changes, and events happen by which none enters or commits. -/
theorem change (sound : RobSound c rob h) (isEntry : i < rob.size) {h' : O3History}
    {more : List RobEvent} (sameRetired : h'.retired = h.retired)
    (isTrace : h'.trace = h.trace ++ more) (sameTime : h'.last_time = h.last_time)
    (noFilling : fillings more = []) (noCommit : RobEvent.commits more = [])
    (ends : ∀ n ready_time, EndsAt more n ready_time → n = h.retired + i)
    (lawful : Lawful Allowed h'.trace)
    (entry : EntrySound c (rob.write (rob.slot c.o3rob_max_size i) e) h' i)
    (outstanding : ∀ k ∈ h'.outstanding, ∃ j < rob.size, rob.slot c.o3rob_max_size j = k ∧
      ((rob.write (rob.slot c.o3rob_max_size i) e).get c.o3rob_max_size j).state =
        .o3irs_executing)
    (nodup : h'.outstanding.Nodup) :
    RobSound c (rob.write (rob.slot c.o3rob_max_size i) e) h' where
  fits := sound.fits.write
  lawful := lawful
  filled := by
    rw [isTrace, sameRetired, fillings_append, noFilling, List.append_nil]
    exact sound.filled
  commits := by
    rw [isTrace, sameRetired, commits_append, noCommit, List.append_nil]
    exact sound.commits
  done n isDone := by
    rw [isTrace]
    exact (sound.done n (sameRetired ▸ isDone)).mono sameTime.ge more
  fresh n ready_time isEnd := by
    rw [isTrace, endsAt_append] at isEnd
    rw [sameRetired]
    cases isEnd with
    | inl before => exact sound.fresh n ready_time before
    | inr now =>
      rw [ends n ready_time now]
      exact Nat.add_lt_add_left isEntry _
  entries := by
    intro j isOther
    by_cases same : j = i
    · exact same ▸ entry
    · exact (sound.entries j isOther).mono
        (RingBuffer.get_write_other (sound.entry_lt isEntry) (sound.entry_lt isOther) same e) rfl
        sameRetired isTrace sameTime.ge fun ready_time isEnd =>
          same (Nat.add_left_cancel (ends _ ready_time isEnd))
  outstanding := outstanding
  nodup := nodup

/-- The requests without a reply when an entry changes that has none. -/
theorem outstanding_write (sound : RobSound c rob h) (isEntry : i < rob.size)
    (isIdle : (rob.get c.o3rob_max_size i).state ≠ .o3irs_executing) (e : O3ROB) :
    ∀ k ∈ h.outstanding, k ≠ rob.slot c.o3rob_max_size i ∧
      ∃ j < rob.size, rob.slot c.o3rob_max_size j = k ∧
        ((rob.write (rob.slot c.o3rob_max_size i) e).get c.o3rob_max_size j).state =
          .o3irs_executing := by
  intro k isOutstanding
  obtain ⟨j, isOther, isSlot, isExecuting⟩ := sound.outstanding k isOutstanding
  have isOtherEntry : j ≠ i := fun same => isIdle (same ▸ isExecuting)
  refine ⟨?_, j, isOther, isSlot, ?_⟩
  · intro sameSlot
    exact isOtherEntry (RingBuffer.slot_inj (sound.entry_lt isOther) (sound.entry_lt isEntry)
      (isSlot.trans sameSlot))
  · rw [RingBuffer.get_write_other (sound.entry_lt isEntry) (sound.entry_lt isOther) isOtherEntry]
    exact isExecuting

/-- What an entry needs to start. -/
structure Startable (c : O3CoreConfig) (rob : RingBuffer O3ROB) (h : O3History) (i : ℕ) : Prop where
  isEntry : i < rob.size
  isIssued : (rob.get c.o3rob_max_size i).state = .o3irs_issued
  ready : ∀ j < i, some (rob.slot c.o3rob_max_size j) ∈ (rob.get c.o3rob_max_size i).fields →
    CompletedBy h.trace (h.retired + j) h.last_time

theorem started (sound : RobSound c rob h) (startable : Startable c rob h i)
    {sends : List CoreSend}
    (gathers : ∀ send ∈ sends, send.element.type = .et_art_get → i = 0) :
    ∃ entry deps, (fillings h.trace)[h.retired + i]? = some (entry, deps) ∧
      entry.type = (rob.get c.o3rob_max_size i).type ∧
      Allowed h.trace (.started (h.retired + i) h.last_time sends) := by
  obtain ⟨entry, deps, isFilling, isType, waits, -⟩ := (sound.entries i startable.isEntry).filling
  refine ⟨entry, deps, isFilling, isType, ⟨entry, deps, isFilling, ?_⟩, ?_⟩
  · intro m isDep
    rcases waits startable.isIssued m isDep with completed | ⟨j, isOlder, rfl, isNamed⟩
    · exact completed
    · exact startable.ready j isOlder isNamed
  · intro send isSend isGather
    have isFirst := gathers send isSend isGather
    rw [isFirst]
    exact Allowed.olderCommitted sound.lawful sound.commits sound.done

theorem execute (sound : RobSound c s.o3rob s.history)
    (startable : Startable c s.o3rob s.history i) {sends : List CoreSend}
    (gathers : ∀ send ∈ sends, send.element.type = .et_art_get → i = 0)
    (sameType : e.type = (s.o3rob.get c.o3rob_max_size i).type) :
    RobSound c (s.execute c s.history.last_time i e sends).o3rob
      (s.execute c s.history.last_time i e sends).history := by
  obtain ⟨entry, deps, isFilling, isType, allowed⟩ := sound.started startable gathers
  have isIdle : (s.o3rob.get c.o3rob_max_size i).state ≠ .o3irs_executing := by
    simp [startable.isIssued]
  have others := sound.outstanding_write startable.isEntry isIdle { e with state := .o3irs_executing }
  refine sound.change startable.isEntry rfl rfl rfl rfl rfl (fun n ready_time ends => ?_)
    (sound.lawful.snoc allowed) ?_ ?_ ?_
  · simp [EndsAt] at ends
  · refine ⟨⟨entry, deps, getElem?_fillings_append isFilling _, ?_, ?_, ?_⟩, ?_, ?_⟩
    · rw [RingBuffer.get_write_same]
      exact isType.trans sameType.symm
    · rw [RingBuffer.get_write_same]
      intro isIssued
      cases isIssued
    · rw [RingBuffer.get_write_same]
      intro isIssued
      cases isIssued
    · rw [RingBuffer.get_write_same]
      intro isCompleted
      cases isCompleted
    · intro ready_time ends
      have before := (endsAt_append.mp ends).resolve_right (by simp [EndsAt])
      exact absurd before (sound.not_endsAt startable.isEntry (by simp [startable.isIssued]) _)
  · intro k isOutstanding
    cases List.mem_append.mp isOutstanding with
    | inl wasOutstanding => exact (others k wasOutstanding).2
    | inr isNew =>
      obtain rfl := List.mem_singleton.mp isNew
      exact ⟨i, startable.isEntry, rfl, by rw [RingBuffer.get_write_same]⟩
  · refine List.nodup_append.mpr ⟨sound.nodup, List.nodup_singleton _, ?_⟩
    intro k wasOutstanding k' isNew
    rw [List.mem_singleton.mp isNew]
    exact (others k wasOutstanding).1

theorem finish (sound : RobSound c s.o3rob s.history)
    (startable : Startable c s.o3rob s.history i)
    (isInactive : (s.o3rob.get c.o3rob_max_size i).type.isActive = false)
    (sameType : e.type = (s.o3rob.get c.o3rob_max_size i).type) (ready_time : ℕ) :
    RobSound c (s.finish c s.history.last_time i e ready_time).o3rob
      (s.finish c s.history.last_time i e ready_time).history := by
  have nothing : ∀ send ∈ ([] : List CoreSend), send.element.type = .et_art_get → i = 0 :=
    fun _ isSend => nomatch isSend
  obtain ⟨entry, deps, isFilling, isType, allowed⟩ := sound.started startable nothing
  have isIdle : (s.o3rob.get c.o3rob_max_size i).state ≠ .o3irs_executing := by
    simp [startable.isIssued]
  have finished : Allowed (s.history.trace ++ [.started (s.history.retired + i)
      s.history.last_time []]) (.finished (s.history.retired + i) ready_time) :=
    ⟨entry, deps, getElem?_fillings_append isFilling _, isType ▸ isInactive⟩
  have newest : ∀ n r, EndsAt [.started (s.history.retired + i) s.history.last_time [],
      .finished (s.history.retired + i) ready_time] n r → n = s.history.retired + i ∧
        ready_time = r := by
    intro n r ends
    simp only [EndsAt, List.mem_cons, List.not_mem_nil, or_false, reduceCtorEq, false_or,
      RobEvent.finished.injEq] at ends
    exact ends.imp_right Eq.symm
  refine sound.change startable.isEntry rfl (List.append_assoc _ _ _) rfl rfl rfl
    (fun n r ends => (newest n r ends).1) ((sound.lawful.snoc allowed).snoc finished) ?_ ?_
    sound.nodup
  · refine ⟨⟨entry, deps, ?_, ?_, ?_, ?_⟩, ?_, ?_⟩
    · exact getElem?_fillings_append (getElem?_fillings_append isFilling _) _
    · rw [RingBuffer.get_write_same]
      exact isType.trans sameType.symm
    · rw [RingBuffer.get_write_same]
      intro isIssued
      cases isIssued
    · rw [RingBuffer.get_write_same]
      intro isIssued
      cases isIssued
    · rw [RingBuffer.get_write_same]
      exact fun _ => .inl (List.mem_append_right _ List.mem_cons_self)
    · intro r ends
      rw [RingBuffer.get_write_same]
      have isTrace : (s.finish c s.history.last_time i e ready_time).history.trace =
          s.history.trace ++ [.started (s.history.retired + i) s.history.last_time [],
            .finished (s.history.retired + i) ready_time] := List.append_assoc _ _ _
      rw [isTrace, endsAt_append] at ends
      have now := ends.resolve_left
        (sound.not_endsAt startable.isEntry (by simp [startable.isIssued]) _)
      exact ⟨rfl, (newest _ r now).2⟩
  · exact fun k isOutstanding =>
      (sound.outstanding_write startable.isEntry isIdle _ k isOutstanding).2

theorem wakeEntry (sound : RobSound c s.o3rob s.history) {j : ℕ} (isEntry : j < s.o3rob.size)
    (isOlder : i < j)
    (completed : CompletedBy s.history.trace (s.history.retired + i) s.history.last_time) :
    RobSound c (s.wakeEntry c (s.o3rob.slot c.o3rob_max_size i) j).o3rob
      (s.wakeEntry c (s.o3rob.slot c.o3rob_max_size i) j).history := by
  have entry := sound.entries j isEntry
  refine sound.change isEntry rfl (List.append_nil _).symm rfl rfl rfl
    (fun _ _ ends => absurd ends not_endsAt_nil) sound.lawful ?_ ?_ sound.nodup
  · refine ⟨?_, ?_, ?_⟩
    · obtain ⟨filled, deps, isFilling, isType, waits, named⟩ := entry.filling
      rw [RingBuffer.get_write_same]
      refine ⟨filled, deps, isFilling, isType.trans O3ROB.wake_type.symm, ?_, ?_⟩
      · intro isIssued m isDep
        rcases waits (O3ROB.wake_state ▸ isIssued) m isDep with done | ⟨i', isOlder', rfl, isNamed⟩
        · exact .inl done
        · by_cases same : i' = i
          · exact .inl (same ▸ completed)
          · refine .inr ⟨i', isOlder', rfl, O3ROB.mem_fields_wake isNamed ?_⟩
            intro sameSlot
            exact same (RingBuffer.slot_inj (sound.entry_lt (isOlder'.trans isEntry))
              (sound.entry_lt (isOlder.trans isEntry)) sameSlot)
      · exact fun isIssued i' isOlder' isNamed => named (O3ROB.wake_state ▸ isIssued) i' isOlder'
          (O3ROB.mem_fields_of_wake isNamed)
    · rw [RingBuffer.get_write_same, O3ROB.wake_state, O3ROB.wake_ready_time]
      exact entry.completed
    · rw [RingBuffer.get_write_same, O3ROB.wake_state, O3ROB.wake_ready_time]
      exact entry.ended
  · intro k isOutstanding
    obtain ⟨i', isOther, isSlot, isExecuting⟩ := sound.outstanding k isOutstanding
    refine ⟨i', isOther, isSlot, ?_⟩
    by_cases same : i' = j
    · rw [same, RingBuffer.get_write_same, O3ROB.wake_state]
      exact same ▸ isExecuting
    · rw [RingBuffer.get_write_other (sound.entry_lt isEntry) (sound.entry_lt isOther) same]
      exact isExecuting

theorem commit (sound : RobSound c s.o3rob s.history) :
    RobSound c (s.commit c s.history.last_time).o3rob
      (s.commit c s.history.last_time).history := by
  unfold O3Core.commit
  simp only
  split
  · next isReady =>
    obtain ⟨isEntry, isCompleted, isReady⟩ := isReady
    have completed := sound.completedBy isEntry isCompleted isReady
    have allowed : Allowed s.history.trace (.committed s.history.retired) :=
      ⟨by rw [sound.commits, List.length_range], _, completed⟩
    generalize isRest : (s.o3rob.write (s.o3rob.slot c.o3rob_max_size 0)
      { s.o3rob.get c.o3rob_max_size 0 with state := .o3irs_invalid }).pop c.o3rob_max_size = rest
    have isSize : rest.size + 1 = s.o3rob.size := by
      rw [← isRest]
      exact Nat.sub_add_cancel isEntry
    have later : ∀ i < rest.size,
        rest.get c.o3rob_max_size i = s.o3rob.get c.o3rob_max_size (i + 1) := by
      intro i isLater
      rw [← isRest, RingBuffer.get_pop]
      exact RingBuffer.get_write_other (sound.entry_lt isEntry)
        (sound.entry_lt (isSize ▸ Nat.succ_lt_succ isLater)) i.succ_ne_zero _
    have laterSlot : ∀ i, rest.slot c.o3rob_max_size i = s.o3rob.slot c.o3rob_max_size (i + 1) := by
      intro i
      rw [← isRest, RingBuffer.pop_slot, RingBuffer.write_slot]
    show RobSound c rest { s.history with
      retired := s.history.retired + 1
      trace := s.history.trace ++ [.committed s.history.retired] }
    exact {
      fits := isRest ▸ sound.fits.write.pop
      lawful := sound.lawful.snoc allowed
      filled := by
        have isLength := sound.filled
        simp only [fillings_append, List.length_append, isLength, ← isSize]
        simp [fillings]
        omega
      commits := by
        simp only [commits_append, sound.commits, List.range_succ]
        rfl
      done := by
        intro n isDone
        cases Nat.lt_succ_iff_lt_or_eq.mp isDone with
        | inl before => exact (sound.done n before).mono (Nat.le_refl _) _
        | inr now =>
          rw [now]
          exact completed.mono (Nat.le_refl _) _
      fresh := by
        intro n ready_time ends
        have before := (endsAt_append.mp ends).resolve_right (by simp [EndsAt])
        have isOld := sound.fresh n ready_time before
        show n < s.history.retired + 1 + rest.size
        omega
      entries := by
        intro i isLater
        have isOld : i + 1 < s.o3rob.size := isSize ▸ Nat.succ_lt_succ isLater
        have isNumber : s.history.retired + 1 + i = s.history.retired + (i + 1) := by omega
        obtain ⟨filled, deps, isFilling, isType, waits, named⟩ :=
          (sound.entries (i + 1) isOld).filling
        refine ⟨⟨filled, deps, ?_, ?_, ?_, ?_⟩, ?_, ?_⟩
        · exact getElem?_fillings_append (isNumber ▸ isFilling) _
        · rw [later i isLater]
          exact isType
        · rw [later i isLater]
          intro isIssued m isDep
          rcases waits isIssued m isDep with done | ⟨j, isOlder, rfl, isNamed⟩
          · exact .inl (done.mono (Nat.le_refl _) _)
          · cases j with
            | zero => exact .inl (completed.mono (Nat.le_refl _) _)
            | succ j =>
              refine .inr ⟨j, Nat.lt_of_succ_lt_succ isOlder, ?_, ?_⟩
              · show s.history.retired + (j + 1) = s.history.retired + 1 + j
                omega
              · rw [laterSlot]
                exact isNamed
        · rw [later i isLater]
          intro isIssued j isOlder isNamed
          rw [laterSlot] at isNamed
          have isDep := named isIssued (j + 1) (Nat.succ_lt_succ isOlder) isNamed
          have isDepNumber : s.history.retired + (j + 1) = s.history.retired + 1 + j := by omega
          exact isDepNumber ▸ isDep
        · rw [later i isLater]
          intro isDone
          have wasDone := (sound.entries (i + 1) isOld).completed isDone
          rw [← isNumber] at wasDone
          exact endsAt_append.mpr (.inl wasDone)
        · rw [later i isLater]
          intro ready_time ends
          have before := (endsAt_append.mp ends).resolve_right (by simp [EndsAt])
          exact (sound.entries (i + 1) isOld).ended ready_time (isNumber ▸ before)
      outstanding := by
        intro k isOutstanding
        obtain ⟨i, isOther, isSlot, isExecuting⟩ := sound.outstanding k isOutstanding
        cases i with
        | zero =>
          rw [isCompleted] at isExecuting
          cases isExecuting
        | succ i =>
          have isLater : i < rest.size := by omega
          refine ⟨i, isLater, (laterSlot i).trans isSlot, ?_⟩
          rw [later i isLater]
          exact isExecuting
      nodup := sound.nodup }
  · exact sound

theorem acknowledge (sound : RobSound c s.o3rob s.history) {k : ℕ}
    (isOutstanding : k ∈ s.history.outstanding) (event_time : ℕ) :
    RobSound c (s.acknowledge c event_time k).o3rob (s.acknowledge c event_time k).history := by
  obtain ⟨i, isEntry, rfl, isExecuting⟩ := sound.outstanding k isOutstanding
  have isPlace := RingBuffer.place_slot sound.fits.head_lt (sound.entry_lt isEntry)
  obtain ⟨filled, deps, isFilling, isType, -⟩ := (sound.entries i isEntry).filling
  have newest : ∀ r n r', EndsAt [RobEvent.acknowledged (s.history.retired +
      s.o3rob.place c.o3rob_max_size (s.o3rob.slot c.o3rob_max_size i)) r] n r' ↔
        n = s.history.retired + i ∧ r' = r := by
    intro r n r'
    rw [isPlace]
    simp [EndsAt]
  refine sound.change isEntry rfl rfl rfl rfl rfl (fun n r ends => ((newest _ n r).mp ends).1)
    (sound.lawful.snoc trivial) ?_ ?_ (sound.nodup.erase _)
  · refine ⟨⟨filled, deps, getElem?_fillings_append isFilling _, ?_, ?_, ?_⟩, ?_, ?_⟩
    · rw [RingBuffer.get_write_same]
      exact isType
    · rw [RingBuffer.get_write_same]
      intro isIssued
      cases isIssued
    · rw [RingBuffer.get_write_same]
      intro isIssued
      cases isIssued
    · rw [RingBuffer.get_write_same]
      exact fun _ => endsAt_append.mpr (.inr ((newest _ _ _).mpr ⟨rfl, rfl⟩))
    · intro r ends
      rw [RingBuffer.get_write_same]
      have now := (endsAt_append.mp ends).resolve_left
        (sound.not_endsAt isEntry (by simp [isExecuting]) _)
      exact ⟨rfl, ((newest _ _ _).mp now).2.symm⟩
  · intro k' isOther
    obtain ⟨isOtherSlot, wasOutstanding⟩ := sound.nodup.mem_erase_iff.mp isOther
    obtain ⟨j, isOtherEntry, rfl, isExecuting'⟩ := sound.outstanding k' wasOutstanding
    refine ⟨j, isOtherEntry, rfl, ?_⟩
    rw [RingBuffer.get_write_other (sound.entry_lt isEntry) (sound.entry_lt isOtherEntry)
      fun same => isOtherSlot (same ▸ rfl)]
    exact isExecuting'

end RobSound

end ActiveRouting

import ActiveRouting.Core.FetchQueue
import ActiveRouting.Core.Issue
import ActiveRouting.Host.OperandCubes
import ActiveRouting.Library.Run

/-!
# Runs of an out-of-order core

A core keeps its discipline in every run in which each update that still has to wait when the
core is called has all its dependencies set, and a call keeps it only then.
-/

namespace ActiveRouting.O3Core

open Outcome RobEvent Transition

variable {c : O3CoreConfig} {s s' : O3Core}

/-- What the rest of the machine promises: the event queue calls the core in the order of time,
    and each reply answers a request of the core that has had none. -/
def Promised (s : O3Core) : Event → O3Core → Prop
  | .process_event curr_time, _ => s.history.last_time ≤ curr_time
  | .add_rep_event _ local_event, _ => local_event.rob_entry ∈ s.history.outstanding
  | _, _ => True

instance : ∀ (s : O3Core) (event : Event) (s' : O3Core), Decidable (Promised s event s')
  | s, .process_event curr_time, _ =>
    inferInstanceAs (Decidable (s.history.last_time ≤ curr_time))
  | s, .add_rep_event _ local_event, _ =>
    inferInstanceAs (Decidable (local_event.rob_entry ∈ s.history.outstanding))
  | _, .add_instruction _, _ | _, .set_active _, _ | _, .migrate _, _ | _, .add_req_event _ _, _ =>
    .isTrue trivial

/-- At a call of the core, each update that has to wait is held back. -/
def Patient (c : O3CoreConfig) (s : O3Core) : Event → Prop
  | .process_event curr_time => Unhurried c s curr_time
  | _ => True

instance : ∀ (s : O3Core) (event : Event), Decidable (Patient c s event)
  | s, .process_event curr_time => inferInstanceAs (Decidable (Unhurried c s curr_time))
  | _, .add_instruction _ | _, .set_active _ | _, .migrate _ | _, .add_req_event _ _
  | _, .add_rep_event _ _ => .isTrue trivial

/-- The discipline of an out-of-order core. -/
structure Disciplined (c : O3CoreConfig) (s : O3Core) : Prop where
  queue_le : s.o3queue.size ≤ c.o3queue_max_size
  rob_le : s.o3rob.size ≤ c.o3rob_max_size
  /-- Instructions go to the reorder buffer in the order in which they have been given. -/
  dispatched : (dispatches s.history.trace).Pairwise (fun d d' => d.1 < d'.1) ∧
    ∀ d ∈ dispatches s.history.trace, s.history.fed[d.1]? = some d.2
  /-- Each has its own entries there. -/
  entries : (fillings s.history.trace).map kind =
    (dispatches s.history.trace).flatMap fun d => d.2.robEntries
  /-- The entries commit once, in their order and after they have completed, and those that have
      not are in the buffer. -/
  commits : commits s.history.trace = List.range s.history.retired ∧
    (fillings s.history.trace).length = s.history.retired + s.o3rob.size
  completed : ∀ before n after, s.history.trace = before ++ .committed n :: after →
    ∃ time, CompletedBy before n time
  /-- An entry starts when those that it has been recorded as depending on have completed. -/
  waits : ∀ before n curr_time sends after,
    s.history.trace = before ++ .started n curr_time sends :: after →
      ∃ entry deps, (fillings before)[n]? = some (entry, deps) ∧
        ∀ m ∈ deps, CompletedBy before m curr_time
  /-- A gather is sent when all older entries have committed, and all older updates have been
      acknowledged. -/
  gathers : ∀ before n curr_time sends after,
    s.history.trace = before ++ .started n curr_time sends :: after →
      ∀ send ∈ sends, send.element.type = .et_art_get → OlderCommitted before n curr_time

/-- What is kept by every step. -/
structure Sound (c : O3CoreConfig) (s : O3Core) : Prop where
  queue : QueueSound c s.o3queue s.history
  rob : RobSound c s.o3rob s.history

theorem sound_start : Sound c start where
  queue := {
    fits := ⟨c.queue_pos, Nat.zero_le _⟩
    size_le := Nat.le_refl _
    contents := fun i isInstr => absurd isInstr i.not_lt_zero
    dispatched := fun _ isDispatch => nomatch isDispatch
    increasing := .nil
    entries := rfl }
  rob := {
    fits := ⟨Nat.zero_lt_of_lt c.rob_gt, Nat.zero_le _⟩
    lawful := .nil
    filled := rfl
    commits := rfl
    done := fun n isDone => absurd isDone n.not_lt_zero
    fresh := fun _ _ ends => absurd ends not_endsAt_nil
    entries := fun i isEntry => absurd isEntry i.not_lt_zero
    outstanding := fun _ isOutstanding => nomatch isOutstanding
    nodup := .nil }

namespace Sound

theorem nacked (sound : Sound c s) (isNacked : s.nacked c = .ok s') : Sound c s' := by
  unfold O3Core.nacked at isNacked
  split at isNacked
  · exact absurd isNacked throw_ne_ok
  · obtain rfl := pure_eq_ok.mp isNacked
    exact ⟨sound.queue, sound.rob⟩

theorem send (sound : Sound c s) (sends : List CoreSend) : Sound c (s.send sends) :=
  ⟨sound.queue, sound.rob⟩

theorem add_req_event (sound : Sound c s) {event_time : ℕ} {local_event : NocElement}
    (added : s.add_req_event c event_time local_event = .ok s') : Sound c s' := by
  unfold O3Core.add_req_event at added
  simp only at added
  split at added
  · obtain rfl := pure_eq_ok.mp added
    exact sound.send _
  · exact (sound.send _).nacked added
  · obtain rfl := pure_eq_ok.mp added
    refine ⟨QueueSound.fetch (s := { s with num_consecutive_nacks := 0 }) sound.queue _ _, ?_⟩
    have sameRob := List.foldlRecOn (motive := fun s' : O3Core => s'.o3rob = s.o3rob ∧
        s'.history = s.history) (List.range s.o3queue.size)
      (fetchAt c event_time local_event.address) (b := { s with num_consecutive_nacks := 0 })
      ⟨rfl, rfl⟩ ?_
    · rw [sameRob.1, sameRob.2]
      exact sound.rob
    · intro s' same i _
      unfold fetchAt
      simp only
      split <;> exact same

theorem acknowledge (sound : Sound c s) (event_time : ℕ) {rob_entry : ℕ}
    (isOutstanding : rob_entry ∈ s.history.outstanding) :
    Sound c (s.acknowledge c event_time rob_entry) := by
  have fills : Fills s (s.acknowledge c event_time rob_entry) [] :=
    .of_events rfl rfl rfl rfl rfl
  exact ⟨sound.queue.kept fills, sound.rob.acknowledge isOutstanding event_time⟩

theorem add_rep_event (sound : Sound c s) {event_time : ℕ} {local_event : NocElement}
    (isOutstanding : local_event.rob_entry ∈ s.history.outstanding)
    (added : s.add_rep_event c event_time local_event = .ok s') : Sound c s' := by
  have acknowledged : ∀ {condition : Prop} [Decidable condition],
      (if condition then pure (s.acknowledge c event_time local_event.rob_entry)
        else throw .assertion : Except O3Error O3Core) = .ok s' → Sound c s' := by
    intro condition _ answered
    split at answered
    · obtain rfl := pure_eq_ok.mp answered
      exact sound.acknowledge event_time isOutstanding
    · exact absurd answered throw_ne_ok
  unfold O3Core.add_rep_event at added
  simp only at added
  split at added
  · obtain rfl := pure_eq_ok.mp added
    exact sound.send _
  · exact (sound.send _).nacked added
  all_goals exact acknowledged added

theorem step (sound : Sound c s) {event : Event} (stepped : s.step c event = .ok s')
    (promised : Promised s event s') (patient : Patient c s event) : Sound c s' := by
  cases event with
  | add_instruction instr =>
    obtain rfl := pure_eq_ok.mp stepped
    refine ⟨sound.queue.add_instruction instr, ?_⟩
    unfold add_instruction
    split
    · exact sound.rob
    · exact {
        sound.rob with
        entries := fun i isEntry => { sound.rob.entries i isEntry with } }
  | set_active is_active =>
    obtain rfl := pure_eq_ok.mp stepped
    exact ⟨sound.queue, sound.rob⟩
  | migrate is_migrate_ready =>
    obtain rfl := pure_eq_ok.mp stepped
    exact ⟨sound.queue, sound.rob⟩
  | process_event curr_time =>
    exact ⟨sound.queue.process_event stepped, process_event_sound sound.rob promised patient stepped⟩
  | add_req_event event_time local_event => exact sound.add_req_event stepped
  | add_rep_event event_time local_event => exact sound.add_rep_event promised stepped

theorem disciplined (sound : Sound c s) : Disciplined c s where
  queue_le := sound.queue.fits.size_le
  rob_le := sound.rob.fits.size_le
  dispatched := ⟨sound.queue.increasing, fun d isDispatch => (sound.queue.dispatched d isDispatch).2⟩
  entries := sound.queue.entries
  commits := ⟨sound.rob.commits, sound.rob.filled⟩
  completed before _ after split := (sound.rob.lawful before _ after split).2
  waits before _ _ _ after split := (sound.rob.lawful before _ after split).1
  gathers before _ _ _ after split := (sound.rob.lawful before _ after split).2

end Sound

theorem sound_of_run {events : List Event} (run : Run (step c)
    (fun s event s' => Promised s event s' ∧ Patient c s event) start events s) : Sound c s :=
  run.invariant sound_start fun _ _ _ sound stepped guarded => sound.step stepped guarded.1 guarded.2

/-- In every run whose calls hold back the updates that have to wait, the core is disciplined.
    Where the instructions that complete by themselves take time, the next call leaves it so if
    and only if it does the same. -/
theorem o3core_discipline {events : List Event} (run : Run (step c)
    (fun s event s' => Promised s event s' ∧ Patient c s event) start events s) :
    Disciplined c s ∧ (TakesTime c → ∀ curr_time s', s.history.last_time ≤ curr_time →
      s.step c (.process_event curr_time) = .ok s' →
        (Disciplined c s' ↔ Unhurried c s curr_time)) := by
  have sound := sound_of_run run
  refine ⟨sound.disciplined, fun takesTime curr_time s' later stepped => ⟨fun disciplined => ?_,
    fun unhurried => (sound.step stepped later unhurried).disciplined⟩⟩
  by_contra hurried
  obtain ⟨before, n, sends, after, isTrace, entry, deps, isFilling, m, isDep, isOpen⟩ :=
    started_too_early takesTime sound.rob later stepped hurried
  obtain ⟨entry', deps', isFilling', completed⟩ :=
    disciplined.waits before n curr_time sends after isTrace
  obtain rfl : deps = deps' := by
    simpa using congrArg (Option.map Prod.snd) (isFilling.symm.trans isFilling')
  exact isOpen (completed m isDep)

/-- A core that processes in every cycle. -/
def smallCore : O3CoreConfig where
  host := Host.fourControllers
  max_issue_width := 8
  process_interval := 1

/-- A load of a word, and active instructions on words. -/
def loadWord (raddr : ℕ) : O3Queue where
  ready_time := 0
  waddr := 0
  wlen := 0
  raddr := raddr
  raddr2 := 0
  rlen := 8
  ip := 4096
  type := .no_mem
  rr := (0, 0, 0, 0)
  rw := (0, 0, 0, 0)

def activeWord (type : InsType) : O3Queue :=
  { loadWord 64 with type := type, waddr := 1024, raddr2 := 128, wlen := 1 }

/-- The reply to the request of an entry, or to the read of the instructions. -/
def replyTo (type : EventType) (rob_entry : ℕ) : NocElement where
  id := 0
  type := type
  address := 4096
  from_stack := []
  rob_entry := rob_entry

/-- Four loads are issued, and instructions that follow them are in the reorder buffer. -/
def issueLoads (instrs : List InsType) : List Event :=
  [.add_instruction (loadWord 64), .add_instruction (loadWord 128),
    .add_instruction (loadWord 192), .add_instruction (loadWord 256)] ++
  instrs.map (fun type => .add_instruction (activeWord type)) ++
  [.process_event 0, .add_req_event 1 (replyTo .et_read 0), .process_event 1, .process_event 2]

/-- All loads are answered, and then the dot product, before a gather is sent. -/
def answerAll : List Event :=
  issueLoads [.ins_art_dot, .ins_art_get] ++
    [.add_rep_event 3 (replyTo .et_read 0), .add_rep_event 3 (replyTo .et_read 2),
      .add_rep_event 3 (replyTo .et_read 1), .add_rep_event 3 (replyTo .et_read 3),
      .process_event 3, .process_event 4, .add_rep_event 5 (replyTo .et_art_dot 4),
      .process_event 5, .process_event 6]

/-- The gather of the last run has been sent, and the core may be called again. -/
theorem o3core_discipline_gather : ∃ s, Run (step smallCore)
    (fun s event s' => Promised s event s' ∧ Patient smallCore s event) start answerAll s ∧
      s.history.retired = 5 ∧ s.history.outstanding = [5] ∧ Disciplined smallCore s ∧
        ∃ s', s.step smallCore (.process_event 7) = .ok s' ∧
          (Disciplined smallCore s' ↔ Unhurried smallCore s 7) := by
  have runs : (Transition.execute (step smallCore) (fun s event s' => Promised s event s' ∧
      Patient smallCore s event) start answerAll).any fun s =>
        s.history.retired = 5 ∧ s.history.outstanding = [5] ∧ s.history.last_time ≤ 7 ∧
          (s.step smallCore (.process_event 7)).toOption.isSome := by
    decide +kernel
  obtain ⟨s, executed, isLast⟩ := (Option.any_eq_true _ _).mp runs
  have run := execute_run executed
  obtain ⟨isRetired, isOutstanding, later, goesOn⟩ := of_decide_eq_true isLast
  obtain ⟨disciplined, exactly⟩ := o3core_discipline run
  refine ⟨s, run, isRetired, isOutstanding, disciplined, ?_⟩
  cases stepped : s.step smallCore (.process_event 7) with
  | error error =>
    rw [stepped] at goesOn
    cases goesOn
  | ok s' => exact ⟨s', rfl, exactly ⟨by decide, by decide, by decide, by decide⟩ 7 s' later stepped⟩

/-- Only the first of the four loads is answered. -/
def answerOne : List Event :=
  issueLoads [.ins_art_dot] ++
    [.add_rep_event 3 (replyTo .et_read 0), .process_event 3, .process_event 4]

def startsFifth : RobEvent → Bool
  | .started n _ _ => n = 4
  | _ => false

def completesSecond : RobEvent → Bool
  | .finished n _ | .acknowledged n _ => n = 1
  | _ => false

/-- The dot product is sent although the second of the loads that it depends on has not
    completed. -/
theorem o3core_premature_dot : ¬ ∀ (c : O3CoreConfig) (events : List Event) (s : O3Core),
    Run (step c) Promised start events s → Disciplined c s := by
  intro always
  have runs : (Transition.execute (step smallCore) Promised start answerOne).any fun s =>
      s.history.trace.any startsFifth ∧ s.history.trace.all (fun event => !completesSecond event) ∧
        (fillings s.history.trace)[4]?.any (fun filling => 1 ∈ filling.2) := by
    decide +kernel
  obtain ⟨s, executed, isLast⟩ := (Option.any_eq_true _ _).mp runs
  obtain ⟨isStarted, isOpen, isNamed⟩ := of_decide_eq_true isLast
  have disciplined := always smallCore answerOne s (execute_run executed)
  obtain ⟨event, isEvent, isStart⟩ := List.any_eq_true.mp isStarted
  cases event with
  | started n curr_time sends =>
    obtain rfl : n = 4 := of_decide_eq_true isStart
    obtain ⟨before, after, isSplit⟩ := List.append_of_mem isEvent
    obtain ⟨entry, deps, isFilling, waits⟩ := disciplined.waits before 4 curr_time sends after isSplit
    rw [isSplit, getElem?_fillings_append isFilling] at isNamed
    obtain ⟨ready_time, -, isCompleted⟩ := waits 1 (of_decide_eq_true isNamed)
    have noCompletion := List.all_eq_true.mp isOpen
    rw [isSplit] at noCompletion
    have isOpenEvent : ∀ event ∈ before, completesSecond event = false := by
      intro event member
      simpa using noCompletion event (List.mem_append_left _ member)
    cases isCompleted with
    | inl finished => cases isOpenEvent _ finished
    | inr acknowledged => cases isOpenEvent _ acknowledged
  | _ => cases isStart

end ActiveRouting.O3Core

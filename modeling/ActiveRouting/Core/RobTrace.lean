import ActiveRouting.Core.O3Core
import ActiveRouting.Library.History

/-!
# The discipline of an out-of-order core

What a core may do, as a law for the events of its reorder buffer: an entry
starts when those that it depends on have completed, a gather is sent when all
older entries have committed, and the entries commit in their order.
-/

namespace ActiveRouting

/-- An active instruction that is no gather. -/
def InsType.isUpdate (type : InsType) : Bool := type.isActive ∧ type ≠ .ins_art_get

namespace RobEvent

/-- The entries of the reorder buffer in their order, with their dependencies. -/
def fillings (trace : List RobEvent) : List (O3ROB × List ℕ) :=
  trace.filterMap fun
    | .filled entry deps => some (entry, deps)
    | _ => none

def dispatches (trace : List RobEvent) : List (ℕ × O3Queue) :=
  trace.filterMap fun
    | .dispatched serial instr => some (serial, instr)
    | _ => none

def commits (trace : List RobEvent) : List ℕ :=
  trace.filterMap fun
    | .committed n => some n
    | _ => none

/-- An entry ends at a certain time, by itself or with a reply. -/
def EndsAt (trace : List RobEvent) (n ready_time : ℕ) : Prop :=
  .finished n ready_time ∈ trace ∨ .acknowledged n ready_time ∈ trace

/-- An entry has completed by a certain time. -/
def CompletedBy (trace : List RobEvent) (n time : ℕ) : Prop :=
  ∃ ready_time ≤ time, .finished n ready_time ∈ trace ∨ .acknowledged n ready_time ∈ trace

/-- All entries before one have committed, the updates after their acknowledgement. -/
def OlderCommitted (trace : List RobEvent) (n time : ℕ) : Prop :=
  ∀ m < n, .committed m ∈ trace ∧ ∀ entry deps, (fillings trace)[m]? = some (entry, deps) →
    entry.type.isUpdate → ∃ ready_time ≤ time, .acknowledged m ready_time ∈ trace

/-- The law. -/
def Allowed (before : List RobEvent) : RobEvent → Prop
  | .started n curr_time sends =>
    (∃ entry deps, (fillings before)[n]? = some (entry, deps) ∧
      ∀ m ∈ deps, CompletedBy before m curr_time) ∧
    ∀ send ∈ sends, send.element.type = .et_art_get → OlderCommitted before n curr_time
  | .finished n _ => ∃ entry deps, (fillings before)[n]? = some (entry, deps) ∧
      entry.type.isActive = false
  | .committed n => n = (commits before).length ∧ ∃ time, CompletedBy before n time
  | _ => True

variable {trace before after : List RobEvent} {event : RobEvent} {n m time later : ℕ}
  {entry : O3ROB} {deps : List ℕ}

@[simp] theorem fillings_append :
    fillings (before ++ after) = fillings before ++ fillings after :=
  List.filterMap_append

@[simp] theorem dispatches_append :
    dispatches (before ++ after) = dispatches before ++ dispatches after :=
  List.filterMap_append

@[simp] theorem commits_append : commits (before ++ after) = commits before ++ commits after :=
  List.filterMap_append

theorem mem_commits : n ∈ commits trace ↔ .committed n ∈ trace := by
  unfold commits
  rw [List.mem_filterMap]
  constructor
  · rintro ⟨event, member, isCommit⟩
    cases event <;> simp_all
  · intro member
    exact ⟨_, member, rfl⟩

theorem endsAt_append : EndsAt (before ++ after) n time ↔
    EndsAt before n time ∨ EndsAt after n time := by
  simp only [EndsAt, List.mem_append]
  exact or_or_or_comm

theorem not_endsAt_nil : ¬ EndsAt [] n time := by simp [EndsAt]

theorem CompletedBy.mono (completed : CompletedBy trace n time) (le : time ≤ later)
    (more : List RobEvent) : CompletedBy (trace ++ more) n later := by
  obtain ⟨ready_time, isReady, member⟩ := completed
  exact ⟨ready_time, isReady.trans le,
    member.imp (List.mem_append_left more) (List.mem_append_left more)⟩

theorem getElem?_fillings_append {filling : O3ROB × List ℕ}
    (isFilling : (fillings before)[n]? = some filling) (after : List RobEvent) :
    (fillings (before ++ after))[n]? = some filling := by
  obtain ⟨bounded, -⟩ := List.getElem?_eq_some_iff.mp isFilling
  rw [fillings_append, List.getElem?_append_left bounded, isFilling]

/-- An active instruction does not complete by itself. -/
theorem Allowed.not_finished (lawful : Lawful Allowed trace)
    (isFilling : (fillings trace)[n]? = some (entry, deps)) (isActive : entry.type.isActive = true)
    {ready_time : ℕ} : .finished n ready_time ∉ trace := by
  intro member
  obtain ⟨before, after, isSplit, other, _, wasFilling, isInactive⟩ := lawful.of_mem member
  rw [isSplit] at isFilling
  have same := (getElem?_fillings_append wasFilling _).symm.trans isFilling
  obtain rfl : other = entry := by simpa using congrArg (Option.map Prod.fst) same
  exact Bool.false_ne_true (isInactive.symm.trans isActive)

/-- When the entries before one have committed, a gather may be sent. -/
theorem Allowed.olderCommitted (lawful : Lawful Allowed trace) (isCommits : commits trace =
    List.range n) (completed : ∀ m < n, CompletedBy trace m time) : OlderCommitted trace n time := by
  intro m isOlder
  refine ⟨mem_commits.mp (isCommits ▸ List.mem_range.mpr isOlder), ?_⟩
  intro entry deps isFilling isUpdate
  obtain ⟨ready_time, isReady, finished | acknowledged⟩ := completed m isOlder
  · have isActive : entry.type.isActive = true := by
      simp only [InsType.isUpdate, Bool.decide_and, Bool.and_eq_true, decide_eq_true_eq] at isUpdate
      exact isUpdate.1
    exact absurd finished (Allowed.not_finished lawful isFilling isActive)
  · exact ⟨ready_time, isReady, acknowledged⟩

end RobEvent

end ActiveRouting

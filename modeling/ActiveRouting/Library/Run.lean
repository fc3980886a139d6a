import Mathlib.Logic.Basic
import Mathlib.Order.WellFounded

/-!
# Runs of a step function

A system is a step function that may fail.  A run is a list of actions whose
steps succeed and meet a guard, which states what the environment promises or
which part of the behaviour is looked at.
-/

namespace Transition

variable {σ α ε : Type} (step : σ → α → Except ε σ) (guard : σ → α → σ → Prop)

inductive Run : σ → List α → σ → Prop where
  | start (state : σ) : Run state [] state
  | next {first state state' : σ} {actions : List α} {action : α} : Run first actions state →
      step state action = .ok state' → guard state action state' →
      Run first (actions ++ [action]) state'

variable {step guard}

/-- What holds at the start and is preserved by every step holds after a run. -/
theorem Run.invariant {invariant : σ → Prop} {first last : σ} {actions : List α}
    (run : Run step guard first actions last) (initially : invariant first)
    (preserved : ∀ state action state', invariant state → step state action = .ok state' →
      guard state action state' → invariant state') : invariant last := by
  induction run with
  | start => exact initially
  | next _ stepped guarded inductionHypothesis =>
    exact preserved _ _ _ inductionHypothesis stepped guarded

theorem Run.cons {first second last : σ} {action : α} {actions : List α}
    (stepped : step first action = .ok second) (guarded : guard first action second)
    (run : Run step guard second actions last) : Run step guard first (action :: actions) last := by
  induction run with
  | start => exact Run.next (.start first) stepped guarded
  | next _ stepped' guarded' inductionHypothesis => exact inductionHypothesis.next stepped' guarded'

/-- A run in which what is done promises more. -/
theorem Run.strengthen {guard' : σ → α → σ → Prop} {first last : σ} {actions : List α}
    (run : Run step guard first actions last)
    (promised : ∀ action ∈ actions, ∀ state state', guard state action state' →
      guard' state action state') : Run step guard' first actions last := by
  induction run with
  | start => exact .start _
  | next _ stepped guarded inductionHypothesis =>
    refine .next (inductionHypothesis fun action member => ?_) stepped
      (promised _ (List.mem_append_right _ (List.mem_singleton_self _)) _ _ guarded)
    exact promised action (List.mem_append_left _ member)

/-- Where a state that is not at rest can make a step that lowers a rank, a run comes to
    rest. -/
theorem Run.exists_rest {β : Type} [LT β] [WellFoundedLT β] {invariant rests : σ → Prop}
    (rank : σ → β)
    (steps : ∀ state, invariant state → rests state ∨ ∃ action state',
      step state action = .ok state' ∧ guard state action state' ∧ invariant state' ∧
        rank state' < rank state) {first : σ} (initially : invariant first) :
    ∃ actions last, Run step guard first actions last ∧ invariant last ∧ rests last := by
  generalize isRank : rank first = bound
  induction bound using WellFoundedLT.induction generalizing first with
  | ind bound inductionHypothesis =>
    cases steps first initially with
    | inl atRest => exact ⟨[], first, .start first, initially, atRest⟩
    | inr moves =>
      obtain ⟨action, second, stepped, guarded, holds, falls⟩ := moves
      obtain ⟨actions, last, run, holdsLast, atRest⟩ :=
        inductionHypothesis _ (isRank ▸ falls) holds rfl
      exact ⟨action :: actions, last, .cons stepped guarded run, holdsLast, atRest⟩

variable (step guard)

/-- Execute a list of actions as long as steps succeed and are guarded. -/
def execute [∀ state action state', Decidable (guard state action state')] :
    σ → List α → Option σ
  | state, [] => some state
  | state, action :: actions =>
    match step state action with
    | .error _ => none
    | .ok state' => if guard state action state' then execute state' actions else none

variable {step guard}

theorem execute_run [∀ state action state', Decidable (guard state action state')] {last : σ} :
    ∀ {actions : List α} {first : σ}, execute step guard first actions = some last →
      Run step guard first actions last
  | [], first, executed => Option.some.inj executed ▸ .start first
  | action :: actions, first, executed => by
    rw [execute] at executed
    cases stepped : step first action with
    | error _ => rw [stepped] at executed; cases executed
    | ok second =>
      simp only [stepped] at executed
      by_cases guarded : guard first action second
      · rw [if_pos guarded] at executed
        exact .cons stepped guarded (execute_run executed)
      · rw [if_neg guarded] at executed
        cases executed

/-- The state that an execution ends in, with what was read off there. -/
theorem execute_reaches {β : Type*} [∀ state action state', Decidable (guard state action state')]
    {actions : List α} {first : σ} {outcome : σ → β} {value : β}
    (executed : (execute step guard first actions).map outcome = some value) :
    ∃ last, Run step guard first actions last ∧ outcome last = value := by
  obtain ⟨last, executed, isValue⟩ := Option.map_eq_some_iff.mp executed
  exact ⟨last, execute_run executed, isValue⟩

end Transition

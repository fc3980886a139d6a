import Mathlib.Data.List.Nodup
import Mathlib.Logic.Function.Basic

/-!
# Wait queues

Parties that wait at places, in the order of their arrival.
-/

namespace WaitQueues

open Function

variable {π τ : Type}

/-- No party waits twice, be it at one place or at two. -/
structure Exclusive (waiters : π → List τ) : Prop where
  nodup : ∀ place, (waiters place).Nodup
  unique : ∀ place place' party, party ∈ waiters place → party ∈ waiters place' → place = place'

/-- A party waits somewhere. -/
def Waits (waiters : π → List τ) (party : τ) : Prop := ∃ place, party ∈ waiters place

variable {waiters : π → List τ} {place : π} {party : τ} {rest queue : List τ}

variable [DecidableEq π]

theorem mem_update {place' : π} {party' : τ} :
    party' ∈ update waiters place queue place' ↔
      place' = place ∧ party' ∈ queue ∨ place' ≠ place ∧ party' ∈ waiters place' := by
  by_cases same : place' = place
  · subst same
    simp
  · simp [same]

theorem mem_arrive {place' : π} {party' : τ} :
    party' ∈ update waiters place (waiters place ++ [party]) place' ↔
      party' ∈ waiters place' ∨ place' = place ∧ party' = party := by
  by_cases same : place' = place
  · subst same
    simp
  · simp [same]

/-- A party that waits nowhere goes to the end of a queue. -/
theorem Exclusive.arrive (exclusive : Exclusive waiters) (idle : ¬ Waits waiters party) :
    Exclusive (update waiters place (waiters place ++ [party])) where
  nodup place' := by
    by_cases same : place' = place
    · subst same
      rw [update_self]
      exact List.Nodup.append (exclusive.nodup place') (List.nodup_singleton _)
        (List.disjoint_singleton.mpr fun waits => idle ⟨place', waits⟩)
    · rw [update_of_ne same]
      exact exclusive.nodup place'
  unique place₁ place₂ party' waits waits' := by
    rcases mem_arrive.mp waits with old | ⟨isPlace, new⟩
    · rcases mem_arrive.mp waits' with old' | ⟨_, new'⟩
      · exact exclusive.unique _ _ _ old old'
      · exact absurd ⟨_, new' ▸ old⟩ idle
    · rcases mem_arrive.mp waits' with old' | ⟨isPlace', _⟩
      · exact absurd ⟨_, new ▸ old'⟩ idle
      · exact isPlace.trans isPlace'.symm

theorem waits_arrive {party' : τ} :
    Waits (update waiters place (waiters place ++ [party])) party' ↔
      Waits waiters party' ∨ party' = party := by
  simp only [Waits, mem_arrive]
  constructor
  · rintro ⟨place', old | ⟨_, new⟩⟩
    · exact .inl ⟨place', old⟩
    · exact .inr new
  · rintro (⟨place', old⟩ | new)
    · exact ⟨place', .inl old⟩
    · exact ⟨place, .inr ⟨rfl, new⟩⟩

/-- Parties leave a queue. -/
theorem Exclusive.shrink (exclusive : Exclusive waiters) (part : queue.Sublist (waiters place)) :
    Exclusive (update waiters place queue) where
  nodup place' := by
    by_cases same : place' = place
    · subst same
      rw [update_self]
      exact (exclusive.nodup place').sublist part
    · rw [update_of_ne same]
      exact exclusive.nodup place'
  unique place₁ place₂ party' waits waits' := by
    have old : ∀ place', party' ∈ update waiters place queue place' → party' ∈ waiters place' := by
      intro place' waits
      rcases mem_update.mp waits with ⟨rfl, stays⟩ | ⟨_, old⟩
      · exact part.subset stays
      · exact old
    exact exclusive.unique _ _ _ (old _ waits) (old _ waits')

theorem Waits.of_shrink {party' : τ} (part : queue.Sublist (waiters place))
    (waits : Waits (update waiters place queue) party') : Waits waiters party' := by
  obtain ⟨place', waits⟩ := waits
  rcases mem_update.mp waits with ⟨rfl, stays⟩ | ⟨_, old⟩
  · exact ⟨place', part.subset stays⟩
  · exact ⟨place', old⟩

theorem waits_leave {party' : τ} (exclusive : Exclusive waiters)
    (first : waiters place = party :: rest) :
    Waits (update waiters place rest) party' ↔ Waits waiters party' ∧ party' ≠ party := by
  simp only [Waits, mem_update]
  constructor
  · rintro ⟨place', ⟨rfl, inRest⟩ | ⟨other, old⟩⟩
    · refine ⟨⟨place', first ▸ List.mem_cons_of_mem _ inRest⟩, fun isFirst => ?_⟩
      exact (List.nodup_cons.mp (first ▸ exclusive.nodup place')).1 (isFirst ▸ inRest)
    · refine ⟨⟨place', old⟩, fun isFirst => other ?_⟩
      exact exclusive.unique _ _ _ (isFirst ▸ old) (first ▸ List.mem_cons_self)
  · rintro ⟨⟨place', old⟩, notFirst⟩
    by_cases same : place' = place
    · subst same
      rw [first] at old
      exact ⟨place', .inl ⟨rfl, (List.mem_cons.mp old).resolve_left notFirst⟩⟩
    · exact ⟨place', .inr ⟨same, old⟩⟩

end WaitQueues

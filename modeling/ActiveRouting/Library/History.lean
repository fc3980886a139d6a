import Mathlib.Data.List.Basic

/-!
# Histories

A history lists events in the order in which they have happened.  It is lawful
when each of its events is allowed by those before it.
-/

variable {ε : Type} {allowed : List ε → ε → Prop} {history : List ε} {event : ε}

def Lawful (allowed : List ε → ε → Prop) (history : List ε) : Prop :=
  ∀ before event after, history = before ++ event :: after → allowed before event

namespace Lawful

theorem nil : Lawful allowed [] :=
  fun _ _ _ isNil => nomatch (List.append_eq_nil_iff.mp isNil.symm).2

theorem snoc (lawful : Lawful allowed history) (isAllowed : allowed history event) :
    Lawful allowed (history ++ [event]) := by
  intro before other after split
  rcases List.eq_nil_or_concat after with isLast | ⟨rest, last, isConcat⟩
  · subst isLast
    obtain ⟨sameBefore, sameEvent⟩ := List.append_inj' split rfl
    obtain rfl : event = other := by simpa using sameEvent
    exact sameBefore ▸ isAllowed
  · subst isConcat
    have split' : history ++ [event] = (before ++ other :: rest) ++ [last] := by
      simpa using split
    exact lawful before other rest (List.append_inj' split' rfl).1

/-- An event has been allowed by those before it. -/
theorem of_mem (lawful : Lawful allowed history) (member : event ∈ history) :
    ∃ before after, history = before ++ event :: after ∧ allowed before event := by
  obtain ⟨before, after, split⟩ := List.append_of_mem member
  exact ⟨before, after, split, lawful before event after split⟩

end Lawful

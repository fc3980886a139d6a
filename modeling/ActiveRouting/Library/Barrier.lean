import Mathlib.Data.Nat.Basic
import Mathlib.Logic.Function.Basic

/-!
# Counting barriers

One counter per key: each arrival counts, and the arrival that completes the
number of parties releases the barrier and resets its counter.
-/

namespace Barrier

variable {κ : Type}

/-- Whether the next arrival at `key` releases the barrier. -/
def Releases (parties counts : κ → ℕ) (key : κ) : Prop := counts key + 1 = parties key

instance (parties counts : κ → ℕ) (key : κ) : Decidable (Releases parties counts key) :=
  inferInstanceAs (Decidable (_ = _))

/-- Every arrival is in a release or is still counted. -/
structure Balanced (parties counts arrived released : κ → ℕ) : Prop where
  sum : ∀ key, arrived key = parties key * released key + counts key
  below : ∀ key, counts key < parties key

namespace Balanced

variable {parties counts arrived released : κ → ℕ}

theorem start (positive : ∀ key, 0 < parties key) :
    Balanced parties (fun _ => 0) (fun _ => 0) fun _ => 0 :=
  ⟨fun _ => rfl, positive⟩

theorem released_eq (balanced : Balanced parties counts arrived released) (key : κ) :
    released key = arrived key / parties key := by
  have below := balanced.below key
  rw [balanced.sum key, Nat.mul_add_div (by omega), Nat.div_eq_of_lt below, Nat.add_zero]

theorem counts_eq (balanced : Balanced parties counts arrived released) (key : κ) :
    counts key = arrived key % parties key := by
  rw [balanced.sum key, Nat.mul_add_mod, Nat.mod_eq_of_lt (balanced.below key)]

end Balanced

variable [DecidableEq κ]

/-- The counters after an arrival at `key`. -/
def arrive (parties counts : κ → ℕ) (key : κ) : κ → ℕ :=
  Function.update counts key (if Releases parties counts key then 0 else counts key + 1)

/-- One more at `key`. -/
def bump (total : κ → ℕ) (key : κ) : κ → ℕ := Function.update total key (total key + 1)

theorem bump_self (total : κ → ℕ) (key : κ) : bump total key key = total key + 1 :=
  Function.update_self _ _ _

theorem bump_of_ne {key key' : κ} (total : κ → ℕ) (ne : key' ≠ key) :
    bump total key key' = total key' := Function.update_of_ne ne _ _

theorem arrive_of_ne {key key' : κ} (parties counts : κ → ℕ) (ne : key' ≠ key) :
    arrive parties counts key key' = counts key' := Function.update_of_ne ne _ _

theorem arrive_of_releases {parties counts : κ → ℕ} {key : κ}
    (releases : Releases parties counts key) : arrive parties counts key key = 0 := by
  rw [arrive, Function.update_self, if_pos releases]

theorem arrive_of_waits {parties counts : κ → ℕ} {key : κ}
    (waits : ¬ Releases parties counts key) : arrive parties counts key key = counts key + 1 := by
  rw [arrive, Function.update_self, if_neg waits]

namespace Balanced

variable {parties counts arrived released : κ → ℕ}

theorem release (balanced : Balanced parties counts arrived released) {key : κ}
    (releases : Releases parties counts key) :
    Balanced parties (arrive parties counts key) (bump arrived key) (bump released key) := by
  constructor
  · intro key'
    by_cases same : key' = key
    · subst same
      have sum := balanced.sum key'
      rw [bump_self, bump_self, arrive_of_releases releases, Nat.mul_add]
      rw [Releases] at releases
      omega
    · rw [bump_of_ne _ same, bump_of_ne _ same, arrive_of_ne _ _ same]
      exact balanced.sum key'
  · intro key'
    by_cases same : key' = key
    · subst same
      rw [arrive_of_releases releases]
      exact Nat.zero_lt_of_lt (balanced.below key')
    · rw [arrive_of_ne _ _ same]
      exact balanced.below key'

theorem wait (balanced : Balanced parties counts arrived released) {key : κ}
    (waits : ¬ Releases parties counts key) :
    Balanced parties (arrive parties counts key) (bump arrived key) released := by
  constructor
  · intro key'
    by_cases same : key' = key
    · subst same
      have sum := balanced.sum key'
      rw [bump_self, arrive_of_waits waits]
      omega
    · rw [bump_of_ne _ same, arrive_of_ne _ _ same]
      exact balanced.sum key'
  · intro key'
    by_cases same : key' = key
    · subst same
      have below := balanced.below key'
      rw [arrive_of_waits waits]
      rw [Releases] at waits
      omega
    · rw [arrive_of_ne _ _ same]
      exact balanced.below key'

end Balanced

end Barrier

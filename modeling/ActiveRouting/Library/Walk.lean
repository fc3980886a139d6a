import Mathlib.Data.Option.Basic
import Mathlib.Order.Basic

/-!
# Ranked walks

Following a partial step function towards a target, when every step lowers a
rank by exactly one: the walk reaches the target after as many steps as the
rank says and meets no point twice.
-/

namespace ActiveRouting.Library.Walk

variable {α : Type*}

/-- The point reached after `n` steps, if the walk does not get stuck. -/
def follow (step : α → Option α) (a : α) : ℕ → Option α
  | 0 => some a
  | n + 1 => (follow step a n).bind step

/-- Inside `region` every step but the last brings a point one closer to
    `target`. -/
structure Ranked (step : α → Option α) (target : α) (region : α → Prop) (rank : α → ℕ) :
    Prop where
  rank_target : rank target = 0
  step_rank : ∀ a, region a → a ≠ target → ∃ b, step a = some b ∧ region b ∧ rank b + 1 = rank a

namespace Ranked

variable {step : α → Option α} {target a : α} {region : α → Prop} {rank : α → ℕ}

theorem follow_rank (h : Ranked step target region rank) (ha : region a) :
    ∀ {n : ℕ}, n ≤ rank a → ∃ b, follow step a n = some b ∧ region b ∧ rank b + n = rank a
  | 0, _ => ⟨a, rfl, ha, rfl⟩
  | n + 1, hn => by
    obtain ⟨b, hb, hregion, hrank⟩ := h.follow_rank ha (Nat.le_of_succ_le hn)
    have hne : b ≠ target := by
      rintro rfl
      rw [h.rank_target] at hrank
      omega
    obtain ⟨c, hstep, hc, hc_rank⟩ := h.step_rank b hregion hne
    exact ⟨c, by rw [follow, hb, Option.bind_some, hstep], hc, by omega⟩

/-- The walk reaches the target. -/
theorem follow_target (h : Ranked step target region rank) (ha : region a) :
    follow step a (rank a) = some target := by
  obtain ⟨b, hb, hregion, hrank⟩ := h.follow_rank ha (Nat.le_refl _)
  by_cases hbt : b = target
  · rw [hb, hbt]
  · obtain ⟨c, -, -, hc⟩ := h.step_rank b hregion hbt
    omega

/-- The walk meets no point twice. -/
theorem follow_injective (h : Ranked step target region rank) (ha : region a) {m n : ℕ}
    (hm : m ≤ rank a) (hn : n ≤ rank a) (heq : follow step a m = follow step a n) : m = n := by
  obtain ⟨b, hb, -, hb_rank⟩ := h.follow_rank ha hm
  obtain ⟨c, hc, -, hc_rank⟩ := h.follow_rank ha hn
  obtain rfl : b = c := by simpa [hb, hc] using heq
  omega

theorem follow_ne_target (h : Ranked step target region rank) (ha : region a) {n : ℕ}
    (hn : n < rank a) : follow step a n ≠ some target := by
  intro heq
  have := h.follow_injective ha (Nat.le_of_lt hn) (Nat.le_refl _) (heq.trans (h.follow_target ha).symm)
  omega

end Ranked

end ActiveRouting.Library.Walk

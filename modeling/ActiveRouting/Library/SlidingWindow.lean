import Mathlib.Data.List.Forall2
import Mathlib.Data.List.Count

/-!
# Sliding windows

A limit on the events of every window of a certain width, kept by one counter for each recent
event.  A counter starts at the width, is lowered at every step, and is dropped when it has run
out and is the oldest.
-/

namespace SlidingWindow

/-- The events of the window that starts at a certain time. -/
def within (width start : ℕ) (times : List ℕ) : ℕ :=
  times.countP fun time => start ≤ time && time < start + width

/-- No window holds more events than the limit. -/
def Limited (limit width : ℕ) (times : List ℕ) : Prop := ∀ start, within width start times ≤ limit

/-- Before the step at time `now`: an event without a counter has left the windows that are still
    to come, and a counter runs until its event has. -/
def Covers (width now : ℕ) (counters times : List ℕ) : Prop :=
  ∃ old recent, times = old ++ recent ∧ (∀ time ∈ old, time + width ≤ now) ∧
    List.Forall₂ (fun time counter => time + width < now + counter) recent counters

/-- In the step at time `now`, once the counters have been lowered. -/
def Lowered (width now : ℕ) (counters times : List ℕ) : Prop :=
  ∃ old recent, times = old ++ recent ∧ (∀ time ∈ old, time + width ≤ now) ∧
    List.Forall₂ (fun time counter => time + width ≤ now + counter) recent counters

variable {limit width now : ℕ} {counters times : List ℕ}

theorem limited_nil : Limited limit width [] := fun _ => Nat.zero_le limit

theorem covers_nil : Covers width now [] [] := ⟨[], [], by simp⟩

/-- Time passes. -/
theorem Covers.later (covers : Covers width now counters times) {later : ℕ} (le : now ≤ later) :
    Covers width later counters times := by
  obtain ⟨old, recent, isTimes, gone, running⟩ := covers
  refine ⟨old, recent, isTimes, ?_, running.imp ?_⟩
  · intro time member
    have := gone time member
    omega
  · intro time counter runs
    omega

/-- Every counter is lowered, by one at most. -/
theorem Covers.lower (covers : Covers width now counters times) {lowered : ℕ → ℕ}
    (byOne : ∀ counter, counter ≤ lowered counter + 1) :
    Lowered width now (counters.map lowered) times := by
  obtain ⟨old, recent, isTimes, gone, running⟩ := covers
  refine ⟨old, recent, isTimes, gone, List.forall₂_map_right_iff.mpr (running.imp ?_)⟩
  intro time counter runs
  have := byOne counter
  omega

/-- The oldest counter is dropped when it has run out. -/
theorem Lowered.drop (lowered : Lowered width now counters times) :
    Lowered width now (if counters.head? = some 0 then counters.tail else counters) times := by
  split
  · rename_i ranOut
    obtain ⟨old, recent, isTimes, gone, running⟩ := lowered
    cases running with
    | nil => cases ranOut
    | @cons time counter recent counters runs running =>
      obtain rfl := Option.some.inj ranOut
      refine ⟨old ++ [time], recent, by simp [isTimes], ?_, running⟩
      intro earlier member
      cases List.mem_append.mp member with
      | inl wasGone => exact gone earlier wasGone
      | inr isTime => exact List.mem_singleton.mp isTime ▸ runs
  · exact lowered

/-- A window that has not ended at the time `now` holds only events with a counter. -/
theorem Lowered.within_le (lowered : Lowered width now counters times) {start : ℕ}
    (lasts : now < start + width) :
    within width start times ≤ counters.length := by
  obtain ⟨old, recent, rfl, gone, running⟩ := lowered
  have left : within width start old = 0 := by
    apply List.countP_eq_zero.mpr
    intro time member
    have := gone time member
    simp
    omega
  calc within width start (old ++ recent) = within width start recent := by
        simpa [within] using left
    _ ≤ recent.length := List.countP_le_length
    _ = counters.length := running.length_eq

/-- A step without an event. -/
theorem Lowered.pass (lowered : Lowered width now counters times) :
    Covers width (now + 1) counters times := by
  obtain ⟨old, recent, isTimes, gone, running⟩ := lowered
  refine ⟨old, recent, isTimes, ?_, running.imp ?_⟩
  · intro time member
    have := gone time member
    omega
  · intro time counter runs
    omega

/-- A step with an event, which gets a counter. -/
theorem Lowered.event (lowered : Lowered width now counters times) :
    Covers width (now + 1) (counters ++ [width]) (times ++ [now]) := by
  obtain ⟨old, recent, isTimes, gone, running⟩ := lowered.pass
  refine ⟨old, recent ++ [now], by simp [isTimes], gone, ?_⟩
  exact List.rel_append running (.cons (by omega) .nil)

/-- Fewer counters than the limit leave room for one more event. -/
theorem Limited.event (limited : Limited limit width times)
    (lowered : Lowered width now counters times) (room : counters.length < limit) :
    Limited limit width (times ++ [now]) := by
  intro start
  have earlier := limited start
  by_cases inWindow : start ≤ now ∧ now < start + width
  · have few := lowered.within_le inWindow.2
    simp only [within, List.countP_append] at few ⊢
    simp [inWindow]
    omega
  · simpa [within, List.countP_append, inWindow] using earlier

end SlidingWindow

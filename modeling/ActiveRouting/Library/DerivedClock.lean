import Mathlib.Algebra.Order.Floor.Semiring
import Mathlib.Data.Rat.Floor
import Mathlib.Tactic.FieldSimp
import Mathlib.Tactic.Linarith
import Mathlib.Tactic.Ring

/-!
# Clocks derived from a clock

A clock that is stepped along with a base clock of another period.  The ratio of
the two is kept by two counters, which start anew when the clocks meet.
-/

/-- The periods of the two clocks. -/
structure Periods where
  base : ℚ
  derived : ℚ
  base_pos : 0 < base
  derived_pos : 0 < derived

/-- `tuner` counts the steps of the base clock and `clock` those of the derived one;
    `cycles` are the clocks of the components that it steps. -/
structure DerivedClock (ι : Type) where
  tuner : ℕ := 1
  clock : ℕ := 1
  cycles : ι → ℕ := fun _ => 0

namespace Periods

variable (p : Periods)

/-- The time of a number of base cycles, in derived cycles. -/
def time (ticks : ℕ) : ℚ := p.base * ticks / p.derived

def elapsed (ticks : ℕ) : ℕ := ⌊p.time ticks⌋₊

theorem time_nonneg (ticks : ℕ) : 0 ≤ p.time ticks :=
  div_nonneg (mul_nonneg p.base_pos.le ticks.cast_nonneg) p.derived_pos.le

theorem time_add (ticks more : ℕ) : p.time (ticks + more) = p.time ticks + p.time more := by
  simp only [time, Nat.cast_add]
  ring

theorem time_mono {ticks later : ℕ} (le : ticks ≤ later) : p.time ticks ≤ p.time later := by
  obtain ⟨more, rfl⟩ := Nat.exists_eq_add_of_le le
  rw [time_add]
  have positive := p.time_nonneg more
  linarith

theorem elapsed_mono {ticks later : ℕ} (le : ticks ≤ later) : p.elapsed ticks ≤ p.elapsed later :=
  Nat.floor_le_floor (p.time_mono le)

theorem lt_iff_lt_time {clock ticks : ℕ} :
    p.derived * clock < p.base * ticks ↔ (clock : ℚ) < p.time ticks := by
  rw [time, lt_div_iff₀ p.derived_pos, mul_comm]

theorem eq_iff_time_eq {clock ticks : ℕ} :
    p.base * ticks = p.derived * clock ↔ p.time ticks = clock := by
  rw [time, div_eq_iff p.derived_pos.ne', mul_comm p.derived]

/-- Where the clocks have met, they go on as from the start. -/
theorem elapsed_add {met count : ℕ} (meet : p.time met = count) (ticks : ℕ) :
    p.elapsed (met + ticks) = count + p.elapsed ticks := by
  rw [elapsed, time_add, meet, add_comm, Nat.floor_add_natCast (p.time_nonneg ticks), add_comm]
  rfl

theorem le_elapsed {count ticks : ℕ} : count ≤ p.elapsed ticks ↔ (count : ℚ) ≤ p.time ticks :=
  Nat.le_floor_iff (p.time_nonneg ticks)

theorem elapsed_eq {count ticks : ℕ} (le : (count : ℚ) ≤ p.time ticks)
    (lt : p.time ticks < count + 1) : p.elapsed ticks = count :=
  (Nat.floor_eq_iff (p.time_nonneg ticks)).mpr ⟨le, lt⟩

/-- A faster clock has made a cycle more after each base cycle. -/
theorem elapsed_succ_of_fast (fast : p.derived ≤ p.base) (ticks : ℕ) :
    p.elapsed ticks + 1 ≤ p.elapsed (ticks + 1) := by
  rw [le_elapsed, time_add, Nat.cast_add, Nat.cast_one]
  have one : 1 ≤ p.time 1 := by
    rw [time, Nat.cast_one, mul_one]
    exact (one_le_div p.derived_pos).mpr fast
  have floor : (p.elapsed ticks : ℚ) ≤ p.time ticks := Nat.floor_le (p.time_nonneg ticks)
  linarith

/-- A slower clock has made at most one. -/
theorem elapsed_succ_of_slow (slow : p.base ≤ p.derived) (ticks : ℕ) :
    p.elapsed (ticks + 1) ≤ p.elapsed ticks + 1 := by
  apply Nat.lt_succ_iff.mp
  rw [elapsed, Nat.floor_lt (p.time_nonneg _), time_add]
  have one : p.time 1 ≤ 1 := by
    rw [time, Nat.cast_one, mul_one]
    exact (div_le_one p.derived_pos).mpr slow
  have floor : p.time ticks < p.elapsed ticks + 1 := Nat.lt_floor_add_one _
  push_cast
  linarith

end Periods

namespace DerivedClock

variable {ι : Type} (p : Periods) (d : DerivedClock ι)

def tick : DerivedClock ι :=
  { d with clock := d.clock + 1, cycles := fun i => d.cycles i + 1 }

def restart : DerivedClock ι := { d with tuner := 0, clock := 0 }

/-- The base clock has made a cycle. -/
def advance (ticks : ℕ) : DerivedClock ι := { d with tuner := d.tuner + ticks }

/-- The derived clock is stepped until the next cycle would not be before the base clock. -/
def catchUp (d : DerivedClock ι) : DerivedClock ι :=
  if _behind : p.derived * (d.clock + 1) < p.base * d.tuner then catchUp d.tick else d
termination_by ⌈p.time d.tuner⌉₊ - d.clock
decreasing_by
  have isBehind : ((d.clock + 1 : ℕ) : ℚ) < p.time d.tuner :=
    p.lt_iff_lt_time.mp (by push_cast; exact _behind)
  have before := Nat.lt_ceil.mpr isBehind
  show ⌈p.time d.tuner⌉₊ - (d.clock + 1) < _
  omega

/-- Where the next cycle is at the base clock, both counters start anew after it. -/
def meet : DerivedClock ι :=
  if p.base * d.tuner = p.derived * (d.clock + 1) then d.tick.restart else d

/-- A cycle of the base clock, for a derived clock that is not slower. -/
def stepFast : DerivedClock ι := ((d.catchUp p).meet p).tick.advance 1

/-- A cycle of the base clock, for a derived clock that is not faster. -/
def stepSlow : DerivedClock ι :=
  (if p.derived * d.clock < p.base * d.tuner then d.tick
    else if p.base * d.tuner = p.derived * d.clock then d.restart.tick
    else d).advance 1

/-- A number of cycles of the base clock at once: the derived clock is set to the last cycle
    before it, and the components that are moved are stepped for the difference. -/
def jump (moved : ι → Bool) (ticks : ℕ) : DerivedClock ι where
  tuner := d.tuner + ticks
  clock := p.elapsed (d.tuner + ticks)
  cycles i := if moved i then d.cycles i + (p.elapsed (d.tuner + ticks) - d.clock) else d.cycles i

/-- A slower clock is left alone where it is ahead. -/
def jumpSlow (moved : ι → Bool) (ticks : ℕ) : DerivedClock ι :=
  if p.derived * d.clock < p.base * (d.tuner + ticks : ℕ) then d.jump p moved ticks
  else d.advance ticks

/-- After `ticks` cycles of the base clock the derived clock has made `total`: the counters have
    started anew where the clocks have met, and the components that are moved were stepped
    with the derived clock. -/
structure Synced (moved : ι → Bool) (first : ι → ℕ) (ticks total : ℕ) : Prop where
  met : ∃ met count : ℕ, p.time met = count ∧ ticks = met + d.tuner ∧ total = count + d.clock
  cycles : ∀ i, moved i = true → d.cycles i + 1 = first i + total

variable {p d} {moved : ι → Bool} {first : ι → ℕ} {ticks total : ℕ}

theorem Synced.tick (synced : d.Synced p moved first ticks total) :
    d.tick.Synced p moved first ticks (total + 1) where
  met := by
    obtain ⟨met, count, meet, isTicks, isTotal⟩ := synced.met
    exact ⟨met, count, meet, isTicks, congrArg (· + 1) isTotal⟩
  cycles i isMoved := congrArg (· + 1) (synced.cycles i isMoved)

theorem Synced.advance (synced : d.Synced p moved first ticks total) (more : ℕ) :
    (d.advance more).Synced p moved first (ticks + more) total where
  met := by
    obtain ⟨met, count, meet, isTicks, isTotal⟩ := synced.met
    exact ⟨met, count, meet, isTicks ▸ Nat.add_assoc _ _ _, isTotal⟩
  cycles := synced.cycles

/-- Where the clocks meet, the counters start anew. -/
theorem Synced.restart (synced : d.Synced p moved first ticks total)
    (meets : p.time d.tuner = d.clock) : d.restart.Synced p moved first ticks total where
  met := by
    obtain ⟨met, count, meet, isTicks, isTotal⟩ := synced.met
    refine ⟨met + d.tuner, count + d.clock, ?_, isTicks, isTotal⟩
    rw [p.time_add, meet, meets, Nat.cast_add]
  cycles := synced.cycles

theorem Synced.elapsed_eq (synced : d.Synced p moved first ticks total) :
    ∃ count, p.elapsed ticks = count + p.elapsed d.tuner ∧ total = count + d.clock := by
  obtain ⟨met, count, meet, isTicks, isTotal⟩ := synced.met
  exact ⟨count, isTicks ▸ p.elapsed_add meet d.tuner, isTotal⟩

/-- The derived clock is not ahead if its counter is not. -/
theorem Synced.le_iff (synced : d.Synced p moved first ticks total) :
    total ≤ p.elapsed ticks ↔ (d.clock : ℚ) ≤ p.time d.tuner := by
  obtain ⟨count, isElapsed, isTotal⟩ := synced.elapsed_eq
  rw [isElapsed, isTotal, Nat.add_le_add_iff_left, p.le_elapsed]

theorem Synced.total_eq (synced : d.Synced p moved first ticks total)
    (le : (d.clock : ℚ) ≤ p.time d.tuner) (lt : p.time d.tuner < d.clock + 1) :
    total = p.elapsed ticks := by
  obtain ⟨count, isElapsed, isTotal⟩ := synced.elapsed_eq
  rw [isElapsed, isTotal, p.elapsed_eq le lt]

theorem start_synced (p : Periods) (moved : ι → Bool) :
    ({} : DerivedClock ι).Synced p moved (fun _ => 0) 1 1 where
  met := ⟨0, 0, by simp [Periods.time], rfl, rfl⟩
  cycles _ _ := rfl

/-- The loop ends with the derived clock at its last cycle before the base clock, or with the
    next one at the base clock. -/
theorem Synced.catchUp (synced : d.Synced p moved first ticks total)
    (le : (d.clock : ℚ) ≤ p.time d.tuner) :
    ∃ caught, (d.catchUp p).Synced p moved first ticks caught ∧
      ((d.catchUp p).clock : ℚ) ≤ p.time (d.catchUp p).tuner ∧
        p.time (d.catchUp p).tuner ≤ (d.catchUp p).clock + 1 := by
  fun_induction DerivedClock.catchUp p d generalizing total with
  | case1 d behind inductionHypothesis =>
    have isBehind : ((d.clock + 1 : ℕ) : ℚ) < p.time d.tuner :=
      p.lt_iff_lt_time.mp (by push_cast; exact behind)
    exact inductionHypothesis synced.tick isBehind.le
  | case2 d caughtUp =>
    refine ⟨total, synced, le, ?_⟩
    have notBehind : ¬ ((d.clock + 1 : ℕ) : ℚ) < p.time d.tuner := fun behind =>
      caughtUp (by exact_mod_cast p.lt_iff_lt_time.mpr behind)
    exact_mod_cast not_lt.mp notBehind

/-- After it the derived clock has made the cycles that the base clock's time holds. -/
theorem Synced.meet (synced : d.Synced p moved first ticks total)
    (le : (d.clock : ℚ) ≤ p.time d.tuner) (caughtUp : p.time d.tuner ≤ d.clock + 1) :
    (d.meet p).Synced p moved first ticks (p.elapsed ticks) := by
  have meets : p.base * d.tuner = p.derived * (d.clock + 1) ↔
      p.time d.tuner = (d.clock + 1 : ℕ) := by
    rw [← p.eq_iff_time_eq, Nat.cast_succ]
  unfold DerivedClock.meet
  split
  · rename_i coincide
    have restarted := synced.tick.restart (meets.mp coincide)
    have isElapsed : total + 1 = p.elapsed ticks :=
      synced.tick.total_eq (meets.mp coincide).ge
        (by rw [DerivedClock.tick, meets.mp coincide]; exact lt_add_one _)
    exact isElapsed ▸ restarted
  · rename_i apart
    rw [meets, Nat.cast_succ] at apart
    exact synced.total_eq le (lt_of_le_of_ne caughtUp apart) ▸ synced

/-- A clock that is ahead makes its own cycle only. -/
theorem stepFast_of_ahead (ahead : p.base * d.tuner < p.derived * (d.clock + 1)) :
    d.stepFast p = d.tick.advance 1 := by
  have caughtUp : d.catchUp p = d := by
    rw [DerivedClock.catchUp, dif_neg (not_lt.mpr ahead.le)]
  rw [stepFast, caughtUp, DerivedClock.meet, if_neg ahead.ne]

theorem Synced.stepFast (synced : d.Synced p moved first ticks total)
    (ready : total ≤ p.elapsed ticks) :
    (d.stepFast p).Synced p moved first (ticks + 1) (p.elapsed ticks + 1) := by
  obtain ⟨_, caught, le, caughtUp⟩ := synced.catchUp (synced.le_iff.mp ready)
  exact (caught.meet le caughtUp).tick.advance 1

theorem Synced.stepSlow (synced : d.Synced p moved first ticks total)
    (atLeast : p.elapsed ticks ≤ total) (atMost : total ≤ p.elapsed ticks + 1) :
    (d.stepSlow p).Synced p moved first (ticks + 1) (p.elapsed ticks + 1) := by
  unfold DerivedClock.stepSlow
  split
  · rename_i behind
    have notAhead := synced.le_iff.mpr (p.lt_iff_lt_time.mp behind).le
    exact (Nat.le_antisymm notAhead atLeast ▸ synced).tick.advance 1
  · rename_i notBehind
    rw [p.lt_iff_lt_time] at notBehind
    split
    · rename_i coincide
      have meets := p.eq_iff_time_eq.mp coincide
      have isElapsed := synced.total_eq meets.ge (meets ▸ lt_add_one _)
      exact (isElapsed ▸ synced.restart meets).tick.advance 1
    · rename_i apart
      rw [p.eq_iff_time_eq] at apart
      have ahead : ¬ total ≤ p.elapsed ticks := fun notAhead =>
        apart (le_antisymm (not_lt.mp notBehind) (synced.le_iff.mp notAhead))
      have isTotal : total = p.elapsed ticks + 1 := by omega
      exact (isTotal ▸ synced).advance 1

theorem Synced.jump (synced : d.Synced p moved first ticks total) (more : ℕ)
    (ready : total ≤ p.elapsed (ticks + more)) :
    (d.jump p moved more).Synced p moved first (ticks + more) (p.elapsed (ticks + more)) := by
  have advanced := synced.advance more
  have le : d.clock ≤ p.elapsed (d.tuner + more) := p.le_elapsed.mpr (advanced.le_iff.mp ready)
  obtain ⟨met, count, meet, isTicks, isTotal⟩ := advanced.met
  have isElapsed : p.elapsed (ticks + more) = count + p.elapsed (d.tuner + more) :=
    isTicks ▸ p.elapsed_add meet (d.tuner + more)
  refine ⟨⟨met, count, meet, isTicks, isElapsed⟩, fun i isMoved => ?_⟩
  have stepped := synced.cycles i isMoved
  rw [isTotal, show (d.advance more).clock = d.clock from rfl] at stepped
  simp only [isElapsed, DerivedClock.jump, isMoved, if_true]
  omega

/-- What the steps of a clock that is not slower keep. -/
def ReadyFast (p : Periods) (moved : ι → Bool) (first : ι → ℕ) (ticks : ℕ)
    (d : DerivedClock ι) : Prop :=
  ∃ total, d.Synced p moved first ticks total ∧ total ≤ p.elapsed ticks

/-- What the steps of a clock that is not faster keep. -/
def ReadySlow (p : Periods) (moved : ι → Bool) (first : ι → ℕ) (ticks : ℕ)
    (d : DerivedClock ι) : Prop :=
  ∃ total, d.Synced p moved first ticks total ∧ p.elapsed ticks ≤ total ∧
    total ≤ p.elapsed ticks + 1

theorem start_readyFast (fast : p.derived ≤ p.base) (moved : ι → Bool) :
    ({} : DerivedClock ι).ReadyFast p moved (fun _ => 0) 1 :=
  ⟨1, start_synced p moved, (Nat.le_add_left 1 _).trans (p.elapsed_succ_of_fast fast 0)⟩

theorem start_readySlow (slow : p.base ≤ p.derived) (moved : ι → Bool) :
    ({} : DerivedClock ι).ReadySlow p moved (fun _ => 0) 1 := by
  have atMost := p.elapsed_succ_of_slow slow 0
  have atStart : p.elapsed 0 = 0 := by simp [Periods.elapsed, Periods.time]
  rw [atStart] at atMost
  exact ⟨1, start_synced p moved, atMost, Nat.le_add_left 1 _⟩

theorem ReadyFast.step (fast : p.derived ≤ p.base) (ready : d.ReadyFast p moved first ticks) :
    (d.stepFast p).ReadyFast p moved first (ticks + 1) := by
  obtain ⟨total, synced, notAhead⟩ := ready
  exact ⟨_, synced.stepFast notAhead, p.elapsed_succ_of_fast fast ticks⟩

theorem ReadySlow.step (slow : p.base ≤ p.derived) (ready : d.ReadySlow p moved first ticks) :
    (d.stepSlow p).ReadySlow p moved first (ticks + 1) := by
  obtain ⟨total, synced, atLeast, atMost⟩ := ready
  exact ⟨_, synced.stepSlow atLeast atMost, p.elapsed_succ_of_slow slow ticks,
    Nat.succ_le_succ (p.elapsed_mono ticks.le_succ)⟩

theorem ReadyFast.jump (ready : d.ReadyFast p moved first ticks) (more : ℕ) :
    (d.jump p moved more).ReadyFast p moved first (ticks + more) := by
  obtain ⟨total, synced, notAhead⟩ := ready
  have later := p.elapsed_mono (Nat.le_add_right ticks more)
  exact ⟨_, synced.jump more (notAhead.trans later), le_rfl⟩

theorem ReadySlow.jump (ready : d.ReadySlow p moved first ticks) (more : ℕ) :
    (d.jumpSlow p moved more).ReadySlow p moved first (ticks + more) := by
  obtain ⟨total, synced, atLeast, atMost⟩ := ready
  have later := p.elapsed_mono (Nat.le_add_right ticks more)
  have advanced := synced.advance more
  unfold DerivedClock.jumpSlow
  split
  · rename_i behind
    have notAhead := advanced.le_iff.mpr (p.lt_iff_lt_time.mp behind).le
    exact ⟨_, synced.jump more notAhead, le_rfl, Nat.le_succ _⟩
  · rename_i notBehind
    have isAhead : p.elapsed (ticks + more) ≤ total := by
      by_contra isLess
      have notAhead := advanced.le_iff.mp (Nat.le_of_lt (not_le.mp isLess))
      obtain ⟨count, isElapsed, isTotal⟩ := advanced.elapsed_eq
      have clockLess : (d.advance more).clock + 1 ≤ p.elapsed (d.advance more).tuner := by omega
      rw [p.le_elapsed, Nat.cast_succ] at clockLess
      exact notBehind (p.lt_iff_lt_time.mpr (lt_of_lt_of_le (lt_add_one _) clockLess))
    exact ⟨total, advanced, isAhead, by omega⟩

/-- The cycles that the components have made after a number of steps depend only on the time. -/
theorem ReadyFast.cycles_iterate (fast : p.derived ≤ p.base) (steps : ℕ)
    (ready : d.ReadyFast p moved first ticks) {i : ι} (isMoved : moved i = true) :
    ((stepFast p)^[steps + 1] d).cycles i = first i + p.elapsed (ticks + steps) := by
  induction steps generalizing d ticks with
  | zero =>
    obtain ⟨total, synced, notAhead⟩ := ready
    exact Nat.succ.inj ((synced.stepFast notAhead).cycles i isMoved)
  | succ steps inductionHypothesis =>
    rw [Function.iterate_succ_apply, inductionHypothesis (ready.step fast), Nat.add_right_comm,
      Nat.add_assoc]

theorem ReadySlow.cycles_iterate (slow : p.base ≤ p.derived) (steps : ℕ)
    (ready : d.ReadySlow p moved first ticks) {i : ι} (isMoved : moved i = true) :
    ((stepSlow p)^[steps + 1] d).cycles i = first i + p.elapsed (ticks + steps) := by
  induction steps generalizing d ticks with
  | zero =>
    obtain ⟨total, synced, atLeast, atMost⟩ := ready
    exact Nat.succ.inj ((synced.stepSlow atLeast atMost).cycles i isMoved)
  | succ steps inductionHypothesis =>
    rw [Function.iterate_succ_apply, inductionHypothesis (ready.step slow), Nat.add_right_comm,
      Nat.add_assoc]

/-- A jump and at least one step make the cycles that as many steps make. -/
theorem ReadyFast.jump_agrees (fast : p.derived ≤ p.base) (more steps : ℕ)
    (ready : d.ReadyFast p moved first ticks) {i : ι} (isMoved : moved i = true) :
    ((stepFast p)^[steps + 1] (d.jump p moved more)).cycles i =
      ((stepFast p)^[more + steps + 1] d).cycles i := by
  rw [(ready.jump more).cycles_iterate fast steps isMoved,
    ready.cycles_iterate fast (more + steps) isMoved, Nat.add_assoc]

theorem ReadySlow.jump_agrees (slow : p.base ≤ p.derived) (more steps : ℕ)
    (ready : d.ReadySlow p moved first ticks) {i : ι} (isMoved : moved i = true) :
    ((stepSlow p)^[steps + 1] (d.jumpSlow p moved more)).cycles i =
      ((stepSlow p)^[more + steps + 1] d).cycles i := by
  rw [(ready.jump more).cycles_iterate slow steps isMoved,
    ready.cycles_iterate slow (more + steps) isMoved, Nat.add_assoc]

end DerivedClock

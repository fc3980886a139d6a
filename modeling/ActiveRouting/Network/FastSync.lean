import ActiveRouting.Library.DerivedClock
import Mathlib.Tactic.NormNum

/-!
# Fast synchronisation of the clocks

`Network::Update` steps the links and the cubes for the cycles that their clocks
make in one CPU cycle.  `Network::MultiStep` moves the clocks over many CPU
cycles at once, and its next `Update` makes up for the rounding.  Only the
clocks are modelled: every component ends its `Update` with one `Step`.
-/

namespace ActiveRouting

/-- The constructor rejects a CPU clock that is faster than the links. -/
structure ClockPeriods where
  gCpuClkPeriod : ℚ
  linkPeriod : ℚ
  tCK : ℚ
  cpu_pos : 0 < gCpuClkPeriod
  link_pos : 0 < linkPeriod
  tCK_pos : 0 < tCK
  link_le : linkPeriod ≤ gCpuClkPeriod

/-- The components that are stepped in every CPU cycle. -/
inductive HostPart where
  | hmcCont (i : ℕ)
  | downLinkMaster (i l : ℕ)
  | upLinkSlave (i l : ℕ)
  deriving DecidableEq, Repr

/-- The components that `HMC::Update` steps. -/
inductive CubePart where
  | hmc
  | crossbarSwitch
  | vaultController (v : ℕ)
  | commandQueue (v : ℕ)
  | dram (v : ℕ)
  | downLinkSlave (l : ℕ)
  | upLinkMaster (l : ℕ)
  deriving DecidableEq, Repr

/-- `MultiStep` passes over the link masters of the cubes. -/
def CubePart.moved : CubePart → Bool
  | .upLinkMaster _ => false
  | _ => true

/-- `currentClockCycle` of the network and of its components.  The tuner and the clock of a
    cube are `dramTuner[i]` and its `clockTuner`. -/
structure NetworkClocks where
  currentClockCycle : ℕ := 0
  host : HostPart → ℕ := fun _ => 0
  downLinks : DerivedClock ℕ := {}
  upLinks : DerivedClock (ℕ × ℕ) := {}
  hmcs : ℕ → DerivedClock CubePart := fun _ => {}

namespace ClockPeriods

variable (p : ClockPeriods)

def links : Periods where
  base := p.gCpuClkPeriod
  derived := p.linkPeriod
  base_pos := p.cpu_pos
  derived_pos := p.link_pos

def cubes : Periods where
  base := p.gCpuClkPeriod
  derived := p.tCK
  base_pos := p.cpu_pos
  derived_pos := p.tCK_pos

end ClockPeriods

/-- `(int)` of a double that is assigned to a `uint64_t`.  A value that no `int` holds becomes
    the least one, whose sign is extended. -/
def intCast (x : ℚ) : ℕ := if ⌊x⌋₊ < 2 ^ 31 then ⌊x⌋₊ else 2 ^ 64 - 2 ^ 31

/-- One of the clocks in `MultiStep`, with the `MultiStep` of its components. -/
def multiStepClock {ι : Type} (p : Periods) (moved : ι → Bool) (d : DerivedClock ι)
    (cycles : ℕ) : DerivedClock ι :=
  let tuner := d.tuner + cycles
  let clock := intCast (p.base * tuner / p.derived)
  let moves := (clock + 2 ^ 64 - d.clock) % 2 ^ 64
  { tuner, clock, cycles := fun i => if moved i then d.cycles i + moves else d.cycles i }

namespace NetworkClocks

variable (p : ClockPeriods) (c : NetworkClocks)

def Update : NetworkClocks where
  currentClockCycle := c.currentClockCycle + 1
  host part := c.host part + 1
  downLinks := c.downLinks.stepFast p.links
  upLinks := c.upLinks.stepFast p.links
  hmcs i :=
    if p.gCpuClkPeriod ≤ p.tCK then (c.hmcs i).stepSlow p.cubes else (c.hmcs i).stepFast p.cubes

def MultiStep (cycles : ℕ) : NetworkClocks where
  currentClockCycle := c.currentClockCycle + cycles
  host part := c.host part + cycles
  downLinks := multiStepClock p.links (fun _ => true) c.downLinks cycles
  upLinks := multiStepClock p.links (fun _ => true) c.upLinks cycles
  hmcs i :=
    if p.gCpuClkPeriod ≤ p.tCK then
      if p.gCpuClkPeriod * ((c.hmcs i).tuner + cycles : ℕ) > p.tCK * (c.hmcs i).clock then
        multiStepClock p.cubes CubePart.moved (c.hmcs i) cycles
      else (c.hmcs i).advance cycles
    else multiStepClock p.cubes CubePart.moved (c.hmcs i) cycles

/-- A `MultiStep` sets the clocks to numbers that an `int` holds. -/
structure Fits (cycles : ℕ) : Prop where
  downLinks : p.links.elapsed (c.downLinks.tuner + cycles) < 2 ^ 31
  upLinks : p.links.elapsed (c.upLinks.tuner + cycles) < 2 ^ 31
  hmcs : ∀ i, p.tCK < p.gCpuClkPeriod ∨
    p.tCK * (c.hmcs i).clock < p.gCpuClkPeriod * ((c.hmcs i).tuner + cycles : ℕ) →
      p.cubes.elapsed ((c.hmcs i).tuner + cycles) < 2 ^ 31

/-- The states that the network reaches from its construction. -/
inductive Reachable : NetworkClocks → Prop where
  | start : Reachable {}
  | update {c : NetworkClocks} : Reachable c → Reachable (c.Update p)
  | multiStep {c : NetworkClocks} (cycles : ℕ) :
      Reachable c → c.Fits p cycles → Reachable (c.MultiStep p cycles)

/-- The clocks of the CPU, the host's side, the links and the parts of the cubes agree. -/
structure Agrees (c c' : NetworkClocks) : Prop where
  cpu : c.currentClockCycle = c'.currentClockCycle
  host : ∀ part, c.host part = c'.host part
  downLinks : ∀ l, c.downLinks.cycles l = c'.downLinks.cycles l
  upLinks : ∀ l, c.upLinks.cycles l = c'.upLinks.cycles l
  hmcs : ∀ i part, part.moved = true → (c.hmcs i).cycles part = (c'.hmcs i).cycles part

/-- What holds in every reachable state: the clocks have kept pace with the CPU's. -/
structure InStep (ticks : ℕ) : Prop where
  downLinks : c.downLinks.ReadyFast p.links (fun _ => true) (fun _ => 0) ticks
  upLinks : c.upLinks.ReadyFast p.links (fun _ => true) (fun _ => 0) ticks
  slow : p.gCpuClkPeriod ≤ p.tCK →
    ∀ i, (c.hmcs i).ReadySlow p.cubes CubePart.moved (fun _ => 0) ticks
  fast : p.tCK < p.gCpuClkPeriod →
    ∀ i, (c.hmcs i).ReadyFast p.cubes CubePart.moved (fun _ => 0) ticks

variable {p c} {ticks : ℕ}

/-- Where the clock fits, the cast and the unsigned difference do not matter. -/
theorem multiStepClock_eq_jump {ι : Type} {p : Periods} {moved : ι → Bool} {d : DerivedClock ι}
    {cycles : ℕ} (fits : p.elapsed (d.tuner + cycles) < 2 ^ 31)
    (notAhead : d.clock ≤ p.elapsed (d.tuner + cycles)) :
    multiStepClock p moved d cycles = d.jump p moved cycles := by
  have isClock : intCast (p.base * (d.tuner + cycles : ℕ) / p.derived) =
      p.elapsed (d.tuner + cycles) := if_pos fits
  have moves : (p.elapsed (d.tuner + cycles) + 2 ^ 64 - d.clock) % 2 ^ 64 =
      p.elapsed (d.tuner + cycles) - d.clock := by omega
  simp only [multiStepClock, isClock, moves, DerivedClock.jump]

theorem start_inStep : InStep p {} 1 where
  downLinks := DerivedClock.start_readyFast p.link_le _
  upLinks := DerivedClock.start_readyFast p.link_le _
  slow slow _ := DerivedClock.start_readySlow slow _
  fast fast _ := DerivedClock.start_readyFast fast.le _

theorem InStep.update (inStep : c.InStep p ticks) : (c.Update p).InStep p (ticks + 1) where
  downLinks := inStep.downLinks.step p.link_le
  upLinks := inStep.upLinks.step p.link_le
  slow slow i := by
    simp only [Update, if_pos slow]
    exact (inStep.slow slow i).step slow
  fast fast i := by
    simp only [Update, if_neg (not_le.mpr fast)]
    exact (inStep.fast fast i).step fast.le

/-- Where the clock is not ahead, it is set to a number that is not below it. -/
theorem clock_le_of_ready {ι : Type} {p : Periods} {moved : ι → Bool} {first : ι → ℕ}
    {d : DerivedClock ι} (ready : d.ReadyFast p moved first ticks) (cycles : ℕ) :
    d.clock ≤ p.elapsed (d.tuner + cycles) := by
  obtain ⟨total, synced, notAhead⟩ := ready
  exact (p.le_elapsed.mpr (synced.le_iff.mp notAhead)).trans
    (p.elapsed_mono (Nat.le_add_right _ cycles))

theorem clock_le_of_behind {ι : Type} {p : Periods} {d : DerivedClock ι} {cycles : ℕ}
    (behind : p.derived * d.clock < p.base * (d.tuner + cycles : ℕ)) :
    d.clock ≤ p.elapsed (d.tuner + cycles) :=
  p.le_elapsed.mpr (p.lt_iff_lt_time.mp behind).le

theorem MultiStep_downLinks {cycles : ℕ} (inStep : c.InStep p ticks) (fits : c.Fits p cycles) :
    (c.MultiStep p cycles).downLinks = c.downLinks.jump p.links (fun _ => true) cycles :=
  multiStepClock_eq_jump fits.downLinks (clock_le_of_ready inStep.downLinks cycles)

theorem MultiStep_upLinks {cycles : ℕ} (inStep : c.InStep p ticks) (fits : c.Fits p cycles) :
    (c.MultiStep p cycles).upLinks = c.upLinks.jump p.links (fun _ => true) cycles :=
  multiStepClock_eq_jump fits.upLinks (clock_le_of_ready inStep.upLinks cycles)

theorem MultiStep_slow {cycles : ℕ} (fits : c.Fits p cycles)
    (slow : p.gCpuClkPeriod ≤ p.tCK) (i : ℕ) :
    (c.MultiStep p cycles).hmcs i = (c.hmcs i).jumpSlow p.cubes CubePart.moved cycles := by
  simp only [MultiStep, if_pos slow, DerivedClock.jumpSlow]
  split
  · rename_i behind
    rw [multiStepClock_eq_jump (fits.hmcs i (.inr behind)) (clock_le_of_behind behind)]
    exact (if_pos behind).symm
  · rename_i notBehind
    exact (if_neg notBehind).symm

theorem MultiStep_fast {cycles : ℕ} (inStep : c.InStep p ticks) (fits : c.Fits p cycles)
    (fast : p.tCK < p.gCpuClkPeriod) (i : ℕ) :
    (c.MultiStep p cycles).hmcs i = (c.hmcs i).jump p.cubes CubePart.moved cycles := by
  simp only [MultiStep, if_neg (not_le.mpr fast)]
  exact multiStepClock_eq_jump (fits.hmcs i (.inl fast))
    (clock_le_of_ready (inStep.fast fast i) cycles)

theorem InStep.multiStep {cycles : ℕ} (inStep : c.InStep p ticks) (fits : c.Fits p cycles) :
    (c.MultiStep p cycles).InStep p (ticks + cycles) where
  downLinks := MultiStep_downLinks inStep fits ▸ inStep.downLinks.jump cycles
  upLinks := MultiStep_upLinks inStep fits ▸ inStep.upLinks.jump cycles
  slow slow i := MultiStep_slow fits slow i ▸ (inStep.slow slow i).jump cycles
  fast fast i := MultiStep_fast inStep fits fast i ▸ (inStep.fast fast i).jump cycles

theorem Reachable.inStep (reachable : Reachable p c) : ∃ ticks, c.InStep p ticks := by
  induction reachable with
  | start => exact ⟨1, start_inStep⟩
  | update _ inductionHypothesis =>
    obtain ⟨ticks, inStep⟩ := inductionHypothesis
    exact ⟨ticks + 1, inStep.update⟩
  | multiStep cycles _ fits inductionHypothesis =>
    obtain ⟨ticks, inStep⟩ := inductionHypothesis
    exact ⟨ticks + cycles, inStep.multiStep fits⟩

/-- Each clock goes its own way in a number of `Update`s. -/
theorem Update_iterate (p : ClockPeriods) (steps : ℕ) (c : NetworkClocks) :
    (Update p)^[steps] c =
      { currentClockCycle := c.currentClockCycle + steps
        host := fun part => c.host part + steps
        downLinks := (DerivedClock.stepFast p.links)^[steps] c.downLinks
        upLinks := (DerivedClock.stepFast p.links)^[steps] c.upLinks
        hmcs := fun i =>
          if p.gCpuClkPeriod ≤ p.tCK then (DerivedClock.stepSlow p.cubes)^[steps] (c.hmcs i)
          else (DerivedClock.stepFast p.cubes)^[steps] (c.hmcs i) } := by
  induction steps generalizing c with
  | zero => simp
  | succ steps inductionHypothesis =>
    rw [Function.iterate_succ_apply, inductionHypothesis]
    simp only [Update, Function.iterate_succ_apply, Nat.add_assoc, Nat.add_comm 1]
    congr
    funext i
    split <;> rfl

/-- A `MultiStep` and at least one `Update` agree with as many `Update`s. -/
theorem InStep.agrees {cycles : ℕ} (inStep : c.InStep p ticks) (fits : c.Fits p cycles)
    (steps : ℕ) :
    ((Update p)^[steps + 1] (c.MultiStep p cycles)).Agrees
      ((Update p)^[cycles + steps + 1] c) := by
  rw [Update_iterate, Update_iterate]
  constructor
  case cpu => exact Nat.add_assoc _ _ _
  case host => exact fun part => Nat.add_assoc _ _ _
  case downLinks =>
    intro l
    rw [MultiStep_downLinks inStep fits]
    exact inStep.downLinks.jump_agrees p.link_le cycles steps rfl
  case upLinks =>
    intro l
    rw [MultiStep_upLinks inStep fits]
    exact inStep.upLinks.jump_agrees p.link_le cycles steps rfl
  case hmcs =>
    intro i part isMoved
    cases le_or_gt p.gCpuClkPeriod p.tCK with
    | inl slow =>
      simp only [if_pos slow, MultiStep_slow fits slow]
      exact (inStep.slow slow i).jump_agrees slow cycles steps isMoved
    | inr fast =>
      simp only [if_neg (not_le.mpr fast), MultiStep_fast inStep fits fast]
      exact (inStep.fast fast i).jump_agrees fast.le cycles steps isMoved

/-- From every reachable state a `MultiStep` whose clocks fit, followed by any number of
    `Update`s but none at all, advances the clocks as that many `Update`s do. -/
theorem fast_sync (reachable : Reachable p c) {cycles : ℕ} (fits : c.Fits p cycles) {updates : ℕ}
    (updated : 1 ≤ updates) :
    ((Update p)^[updates] (c.MultiStep p cycles)).Agrees ((Update p)^[cycles + updates] c) := by
  obtain ⟨ticks, inStep⟩ := reachable.inStep
  obtain ⟨steps, rfl⟩ := Nat.exists_eq_add_of_le' updated
  exact inStep.agrees fits steps

/-- A CPU clock of 2 GHz with links of 10 Gb/s and the cubes' DRAM of 1.25 GHz. -/
def gigahertz : ClockPeriods where
  gCpuClkPeriod := 1 / 2
  linkPeriod := 1 / 10
  tCK := 4 / 5
  cpu_pos := by norm_num
  link_pos := by norm_num
  tCK_pos := by norm_num
  link_le := by norm_num

theorem fast_sync_gigahertz :
    ((Update gigahertz)^[2] (MultiStep gigahertz {} 3)).Agrees ((Update gigahertz)^[3 + 2] {}) :=
  fast_sync .start
    { downLinks := by norm_num [Periods.elapsed, Periods.time, ClockPeriods.links, gigahertz]
      upLinks := by norm_num [Periods.elapsed, Periods.time, ClockPeriods.links, gigahertz]
      hmcs := fun _ _ => (Nat.floor_lt (Periods.time_nonneg _ _)).mpr (by
        norm_num [Periods.time, ClockPeriods.cubes, gigahertz]) }
    (by decide)

/-- Clocks of one period. -/
def onePeriod : ClockPeriods where
  gCpuClkPeriod := 1
  linkPeriod := 1
  tCK := 1
  cpu_pos := one_pos
  link_pos := one_pos
  tCK_pos := one_pos
  link_le := le_rfl

/-- A clock that an `int` does not hold is set far ahead, and the links stay there. -/
theorem fast_sync_overflow : ¬ ∀ (p : ClockPeriods) (c : NetworkClocks), Reachable p c →
    ∀ cycles ≥ 1, ∀ updates ≥ 1,
      ((Update p)^[updates] (c.MultiStep p cycles)).Agrees
        ((Update p)^[cycles + updates] c) := by
  intro agrees
  have isElapsed (ticks : ℕ) : onePeriod.links.elapsed ticks = ticks := by
    simp [Periods.elapsed, Periods.time, ClockPeriods.links, onePeriod]
  obtain ⟨cycles, isCycles⟩ : ∃ cycles : ℕ, cycles = 2 ^ 31 := ⟨_, rfl⟩
  have overflows : intCast (onePeriod.links.base * (1 + cycles : ℕ) / onePeriod.links.derived) =
      2 ^ 64 - 2 ^ 31 :=
    if_neg (by rw [← Periods.time, ← Periods.elapsed, isElapsed]; omega)
  have stepped : (Update onePeriod (MultiStep onePeriod {} cycles)).downLinks.cycles 0 =
      2 ^ 64 - 2 ^ 31 := by
    obtain ⟨clock, isClock⟩ : ∃ clock : ℕ, clock = 2 ^ 64 - 2 ^ 31 := ⟨_, rfl⟩
    have ahead : (1 + cycles : ℚ) < clock + 1 := by
      have isLess : 1 + cycles < clock + 1 := by omega
      exact_mod_cast isLess
    simp only [Update, MultiStep, multiStepClock, overflows, if_true, ← isClock]
    rw [DerivedClock.stepFast_of_ahead (by simpa [ClockPeriods.links, onePeriod] using ahead)]
    simp only [DerivedClock.advance, DerivedClock.tick]
    omega
  have exact : ((Update onePeriod)^[cycles + 1] {}).downLinks.cycles 0 = 1 + cycles := by
    rw [Update_iterate, start_inStep.downLinks.cycles_iterate le_rfl _ rfl, isElapsed,
      Nat.zero_add]
  have same := (agrees onePeriod {} .start cycles (by omega) 1 le_rfl).downLinks 0
  rw [exact] at same
  have differ := stepped.symm.trans same
  omega

end NetworkClocks

end ActiveRouting

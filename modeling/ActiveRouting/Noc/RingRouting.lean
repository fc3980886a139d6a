import ActiveRouting.Noc.Ring

/-!
# Ways round the ring

Where the sums of positions fit into a word, an event goes the shorter way and does
not turn back.
-/

namespace ActiveRouting

namespace Ring

/-- The nodes from one to another in the order of the positions, and against it. -/
def clockwise (num_nodes i target_pos : ℕ) : ℕ := (num_nodes + target_pos - i) % num_nodes

def counterClockwise (num_nodes i target_pos : ℕ) : ℕ := (num_nodes + i - target_pos) % num_nodes

def hops (num_nodes i target_pos : ℕ) : ℕ :=
  min (clockwise num_nodes i target_pos) (counterClockwise num_nodes i target_pos)

section Distances

variable {num_nodes i target_pos : ℕ}

theorem clockwise_eq (inside : i < num_nodes) (targetInside : target_pos < num_nodes) :
    clockwise num_nodes i target_pos =
      if i ≤ target_pos then target_pos - i else num_nodes + target_pos - i := by
  unfold clockwise
  split
  · have sum : num_nodes + target_pos - i = target_pos - i + num_nodes := by omega
    rw [sum, Nat.add_mod_right, Nat.mod_eq_of_lt (by omega)]
  · exact Nat.mod_eq_of_lt (by omega)

theorem counterClockwise_eq (inside : i < num_nodes) (targetInside : target_pos < num_nodes) :
    counterClockwise num_nodes i target_pos =
      if target_pos ≤ i then i - target_pos else num_nodes + i - target_pos :=
  clockwise_eq targetInside inside

end Distances

section Hops

variable {num_nodes i target_pos : ℕ}

/-- Sums of two positions of a ring of at most `2 ^ 31` nodes fit into a word. -/
theorem nextHop_eq (small : num_nodes ≤ 2 ^ 31) (inside : i < num_nodes)
    (targetInside : target_pos < num_nodes) :
    nextHop num_nodes i target_pos =
      if target_pos = i then none
      else if clockwise num_nodes i target_pos ≤ num_nodes / 2 then
        some (.ring_cw, if i + 1 = num_nodes then 0 else i + 1, .ring_ccw)
      else some (.ring_ccw, if i = 0 then num_nodes - 1 else i - 1, .ring_cw) := by
  have noWrap : ∀ value < 2 ^ 32, wrap value = value := fun value fits => Nat.mod_eq_of_lt fits
  have up : wrap (i + 1) % num_nodes = if i + 1 = num_nodes then 0 else i + 1 := by
    rw [noWrap _ (by omega)]
    split
    · rename_i isLast
      rw [isLast, Nat.mod_self]
    · exact Nat.mod_eq_of_lt (by omega)
  have down : wrap (num_nodes + i - 1) % num_nodes = if i = 0 then num_nodes - 1 else i - 1 := by
    rw [noWrap _ (by omega)]
    split
    · rename_i isFirst
      rw [isFirst, Nat.add_zero, Nat.mod_eq_of_lt (by omega)]
    · have sum : num_nodes + i - 1 = i - 1 + num_nodes := by omega
      rw [sum, Nat.add_mod_right, Nat.mod_eq_of_lt (by omega)]
  unfold nextHop
  rw [up, down, clockwise_eq inside targetInside]
  by_cases same : target_pos = i
  · subst same
    simp
  · rw [if_neg same]
    by_cases before : i < target_pos
    · rw [if_pos before.le]
      have notAfter : ¬ target_pos < i := before.not_gt
      simp only [before, notAfter, true_and, false_and, or_false, ne_eq, same, not_false_eq_true,
        if_true]
    · have after : target_pos < i := by omega
      rw [if_neg (by omega : ¬ i ≤ target_pos), noWrap _ (by omega)]
      simp only [before, after, true_and, false_and, false_or, ne_eq, same, not_false_eq_true,
        if_true]

/-- The way that an event goes from a node. -/
def direction (num_nodes i target_pos : ℕ) : ring_dir :=
  if clockwise num_nodes i target_pos ≤ num_nodes / 2 then .ring_cw else .ring_ccw

/-- The nodes that are left on a way. -/
def left (num_nodes : ℕ) (way : ring_dir) (i target_pos : ℕ) : ℕ :=
  match way with
  | .ring_cw => clockwise num_nodes i target_pos
  | .ring_ccw => counterClockwise num_nodes i target_pos

theorem left_direction (inside : i < num_nodes) (targetInside : target_pos < num_nodes) :
    left num_nodes (direction num_nodes i target_pos) i target_pos =
      hops num_nodes i target_pos := by
  have up := clockwise_eq inside targetInside
  have down := counterClockwise_eq inside targetInside
  unfold hops direction
  split
  · show clockwise num_nodes i target_pos = _
    split at up <;> split at down <;> omega
  · show counterClockwise num_nodes i target_pos = _
    split at up <;> split at down <;> omega

/-- A hop stays in the ring and on the way, and leaves one node less. -/
theorem nextHop_nearer {next : ℕ} {way port : ring_dir} (small : num_nodes ≤ 2 ^ 31)
    (inside : i < num_nodes) (targetInside : target_pos < num_nodes)
    (hop : nextHop num_nodes i target_pos = some (way, next, port)) :
    next < num_nodes ∧ way = direction num_nodes i target_pos ∧
      left num_nodes way next target_pos + 1 = left num_nodes way i target_pos ∧
      (next ≠ target_pos → direction num_nodes next target_pos = way) := by
  rw [nextHop_eq small inside targetInside] at hop
  split at hop
  · cases hop
  · rename_i different
    split at hop
    · rename_i near
      obtain ⟨rfl, rfl, rfl⟩ := by simpa using hop
      have nextInside : (if i + 1 = num_nodes then 0 else i + 1) < num_nodes := by
        split <;> omega
      refine ⟨nextInside, by rw [direction, if_pos near], ?_, ?_⟩
      · rw [clockwise_eq inside targetInside] at near
        simp only [left]
        rw [clockwise_eq inside targetInside, clockwise_eq nextInside targetInside]
        split <;> split <;> split <;> omega
      · intro _
        rw [direction, if_pos]
        rw [clockwise_eq inside targetInside] at near
        rw [clockwise_eq nextInside targetInside]
        split <;> split at near <;> split <;> omega
    · rename_i far
      obtain ⟨rfl, rfl, rfl⟩ := by simpa using hop
      have nextInside : (if i = 0 then num_nodes - 1 else i - 1) < num_nodes := by
        split <;> omega
      refine ⟨nextInside, by rw [direction, if_neg far], ?_, ?_⟩
      · rw [clockwise_eq inside targetInside] at far
        simp only [left]
        rw [counterClockwise_eq inside targetInside, counterClockwise_eq nextInside targetInside]
        split <;> split <;> split <;> omega
      · intro notYet
        rw [direction, if_neg]
        rw [clockwise_eq inside targetInside] at far
        rw [clockwise_eq nextInside targetInside]
        split <;> split at far <;> split at notYet <;> split <;> omega

theorem nextHop_none (small : num_nodes ≤ 2 ^ 31) (inside : i < num_nodes)
    (targetInside : target_pos < num_nodes) (stops : nextHop num_nodes i target_pos = none) :
    i = target_pos := by
  rw [nextHop_eq small inside targetInside] at stops
  split at stops
  · rename_i same
    exact same.symm
  · split at stops <;> cases stops

end Hops

end Ring

end ActiveRouting

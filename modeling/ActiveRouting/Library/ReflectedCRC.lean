import Mathlib.Data.BitVec
import Mathlib.Logic.Function.Iterate

/-!
# Reflected CRCs

The remainder of a division over GF(2) in a register that is shifted to the right: its bits stand
for the coefficients from the highest power on the right to the constant one on the left.  The
division takes the bits of the message one by one; a table takes several at a time.
-/

namespace ReflectedCRC

variable {w : ℕ} (poly : BitVec w)

/-- The register is multiplied by the variable. -/
def shift (c : BitVec w) : BitVec w := if c.getLsbD 0 then (c >>> 1) ^^^ poly else c >>> 1

/-- A bit of the message joins the highest power before the register is shifted. -/
def divideBit (c : BitVec w) (bit : Bool) : BitVec w :=
  shift poly (c ^^^ (BitVec.ofBool bit).setWidth w)

/-- The bit by bit division of a message. -/
def divide (c : BitVec w) (message : List Bool) : BitVec w := message.foldl (divideBit poly) c

/-- The bits of a number, the lowest first. -/
def bits (n : ℕ) (x : ℕ) : List Bool := (List.range n).map x.testBit

/-! ## Linearity -/

theorem getLsbD_shift (c : BitVec w) (i : ℕ) :
    (shift poly c).getLsbD i = (c.getLsbD (i + 1) ^^ (c.getLsbD 0 && poly.getLsbD i)) := by
  unfold shift
  cases c.getLsbD 0 <;> simp [Nat.add_comm]

theorem shift_xor (a b : BitVec w) : shift poly (a ^^^ b) = shift poly a ^^^ shift poly b := by
  apply BitVec.eq_of_getLsbD_eq
  intro i _
  simp only [getLsbD_shift, BitVec.getLsbD_xor]
  cases a.getLsbD 0 <;> cases b.getLsbD 0 <;> cases a.getLsbD (i + 1) <;>
    cases b.getLsbD (i + 1) <;> simp

theorem shifts_xor (n : ℕ) (a b : BitVec w) :
    (shift poly)^[n] (a ^^^ b) = (shift poly)^[n] a ^^^ (shift poly)^[n] b := by
  induction n generalizing a b with
  | zero => rfl
  | succ n inductionHypothesis =>
    simp only [Function.iterate_succ_apply, shift_xor, inductionHypothesis]

/-- As long as the highest powers are absent, the register only moves. -/
theorem shifts_of_low {n : ℕ} {c : BitVec w} (absent : ∀ i < n, c.getLsbD i = false) :
    (shift poly)^[n] c = c >>> n := by
  induction n with
  | zero => simp
  | succ n inductionHypothesis =>
    have moved := inductionHypothesis fun i bound => absent i (by omega)
    have isAbsent : (c >>> n).getLsbD 0 = false := by simpa using absent n (by omega)
    rw [Function.iterate_succ_apply', moved, shift, isAbsent]
    simp [BitVec.shiftRight_add]

variable {poly}

/-- A polynomial with a constant coefficient loses nothing. -/
theorem shift_injective (constant : poly.msb = true) : Function.Injective (shift poly) := by
  have faithful : ∀ c : BitVec w, shift poly c = 0#w → c = 0#w := by
    intro c isZero
    have zero : ∀ i, (c.getLsbD (i + 1) ^^ (c.getLsbD 0 && poly.getLsbD i)) = false := by
      intro i
      rw [← getLsbD_shift, isZero]
      simp
    -- the constant coefficient shows the highest power, which the shift drops
    have highest : c.getLsbD 0 = false := by
      have last := zero (w - 1)
      rw [← BitVec.msb_eq_getLsbD_last, constant, BitVec.getLsbD_of_ge c _ (by omega)] at last
      simpa using last
    apply BitVec.eq_of_getLsbD_eq
    intro i _
    cases i with
    | zero => simpa using highest
    | succ i => simpa [highest] using zero i
  intro a b same
  have isZero : shift poly (a ^^^ b) = 0#w := by rw [shift_xor, same, BitVec.xor_self]
  exact BitVec.xor_eq_zero_iff.mp (faithful _ isZero)

theorem shifts_injective (constant : poly.msb = true) (n : ℕ) :
    Function.Injective (shift poly)^[n] :=
  (shift_injective constant).iterate n

/-! ## Several bits at a time -/

/-- The bits of a message as a register, the first one at the highest power. -/
def load (w : ℕ) : List Bool → BitVec w
  | [] => 0#w
  | bit :: message => (load w message <<< 1) ^^^ (BitVec.ofBool bit).setWidth w

theorem getLsbD_load : ∀ (message : List Bool) {i : ℕ}, i < w →
    (load w message).getLsbD i = message.getD i false
  | [], i, _ => by simp [load]
  | bit :: message, 0, bound => by simp [load, bound]
  | bit :: message, i + 1, bound => by
    have rest := getLsbD_load message (Nat.lt_of_succ_lt bound)
    simpa [load, bound, Nat.lt_of_succ_lt bound] using rest

theorem load_injective {message message' : List Bool} (sameLength : message.length = message'.length)
    (fits : message.length ≤ w) (same : load w message = load w message') : message = message' := by
  apply List.ext_getElem sameLength
  intro i bound bound'
  have bit := congrArg (fun register => register.getLsbD i) same
  simpa [getLsbD_load _ (Nat.lt_of_lt_of_le bound fits), bound, bound'] using bit

theorem shift_load {message : List Bool} (fits : message.length < w) :
    shift poly (load w message <<< 1) = load w message := by
  apply BitVec.eq_of_getLsbD_eq
  intro i bound
  rw [getLsbD_shift]
  by_cases isLast : i + 1 < w
  · simp [isLast, bound]
  · have absent : message.length ≤ i := by omega
    simp [isLast, getLsbD_load message bound, absent]

/-- A message that fits into the register joins it at once. -/
theorem divide_eq_shifts : ∀ {message : List Bool} (c : BitVec w), message.length ≤ w →
    divide poly c message = (shift poly)^[message.length] (c ^^^ load w message)
  | [], c, _ => by simp [divide, load]
  | bit :: message, c, fits => by
    have joins : divideBit poly c bit ^^^ load w message =
        shift poly (c ^^^ load w (bit :: message)) := by
      rw [load, BitVec.xor_comm (load w message <<< 1), ← BitVec.xor_assoc, shift_xor,
        shift_load fits, divideBit]
    calc divide poly c (bit :: message) = divide poly (divideBit poly c bit) message := rfl
      _ = (shift poly)^[message.length] (divideBit poly c bit ^^^ load w message) :=
        divide_eq_shifts _ (Nat.le_of_succ_le fits)
      _ = (shift poly)^[message.length + 1] (c ^^^ load w (bit :: message)) := by
        rw [joins, Function.iterate_succ_apply]

theorem length_bits (n x : ℕ) : (bits n x).length = n := by simp [bits]

theorem bits_add (m n x : ℕ) : bits (m + n) x = bits m x ++ bits n (x >>> m) := by
  simp [bits, List.range_add, Function.comp_def, Nat.testBit_shiftRight]

theorem bits_eq_iff {n x y : ℕ} : bits n x = bits n y ↔ x % 2 ^ n = y % 2 ^ n := by
  constructor
  · intro same
    apply Nat.eq_of_testBit_eq
    intro i
    rw [Nat.testBit_mod_two_pow, Nat.testBit_mod_two_pow]
    by_cases bound : i < n
    · have bit := congrArg (fun list => list[i]?) same
      simpa [bits, bound] using bit
    · simp [bound]
  · intro same
    apply List.map_congr_left
    intro i member
    have bit := congrArg (fun number => number.testBit i) same
    simpa [Nat.testBit_mod_two_pow, List.mem_range.mp member] using bit

theorem load_bits {n : ℕ} (x : BitVec n) :
    load w (bits n x.toNat) = x.setWidth w := by
  apply BitVec.eq_of_getLsbD_eq
  intro i bound
  rw [getLsbD_load _ bound, BitVec.getLsbD_setWidth]
  by_cases inside : i < n
  · simp [bits, inside, bound, BitVec.testBit_toNat]
  · simp [bits, inside, BitVec.getLsbD_of_ge x i (by omega)]

/-- The division by a table: the entry for the highest powers, after the message has joined them,
    and the rest moved. -/
theorem divide_bits {n : ℕ} (x : BitVec n) (fits : n ≤ w) (c : BitVec w) :
    divide poly c (bits n x.toNat) =
      (shift poly)^[n] (((c ^^^ x.setWidth w).setWidth n).setWidth w) ^^^ (c >>> n) := by
  have joined : divide poly c (bits n x.toNat) = _ :=
    divide_eq_shifts c ((length_bits n x.toNat).trans_le fits)
  rw [length_bits, load_bits x] at joined
  generalize isSum : c ^^^ x.setWidth w = sum at joined
  -- the highest powers go through the table, the others only move
  have absent : ∀ i < n, (sum ^^^ (sum.setWidth n).setWidth w).getLsbD i = false := by
    intro i bound
    simp [bound, Nat.lt_of_lt_of_le bound fits]
  have moved : (sum ^^^ (sum.setWidth n).setWidth w) >>> n = c >>> n := by
    apply BitVec.eq_of_getLsbD_eq
    intro i _
    simp [← isSum]
  calc divide poly c (bits n x.toNat) = (shift poly)^[n] sum := joined
    _ = (shift poly)^[n] ((sum.setWidth n).setWidth w ^^^
          (sum ^^^ (sum.setWidth n).setWidth w)) := by
        rw [BitVec.xor_comm sum, ← BitVec.xor_assoc, BitVec.xor_self, BitVec.zero_xor]
    _ = (shift poly)^[n] ((sum.setWidth n).setWidth w) ^^^ (c >>> n) := by
        rw [shifts_xor, shifts_of_low poly absent, moved]

/-! ## Errors that are found -/

theorem divide_append (c : BitVec w) (first second : List Bool) :
    divide poly c (first ++ second) = divide poly (divide poly c first) second :=
  List.foldl_append

theorem divide_injective (constant : poly.msb = true) (message : List Bool) :
    Function.Injective fun c => divide poly c message := by
  induction message with
  | nil => exact Function.injective_id
  | cons bit message inductionHypothesis =>
    intro a b same
    have divided : divideBit poly a bit = divideBit poly b bit := inductionHypothesis same
    exact (BitVec.xor_left_inj _).mp (shift_injective constant divided)

/-- Two messages differ within a certain number of bits that follow each other. -/
def DiffersWithin (n : ℕ) (message message' : List Bool) : Prop :=
  ∃ before part part' after, message = before ++ part ++ after ∧
    message' = before ++ part' ++ after ∧ part.length = part'.length ∧ part.length ≤ n ∧ part ≠ part'

theorem DiffersWithin.of_ne {n : ℕ} {message message' : List Bool}
    (sameLength : message.length = message'.length) (short : message.length ≤ n)
    (different : message ≠ message') : DiffersWithin n message message' :=
  ⟨[], message, message', [], by simp, by simp, sameLength, short, different⟩

theorem DiffersWithin.inside {n : ℕ} {message message' : List Bool}
    (differs : DiffersWithin n message message') (first last : List Bool) :
    DiffersWithin n (first ++ message ++ last) (first ++ message' ++ last) := by
  obtain ⟨before, part, part', after, rfl, rfl, facts⟩ := differs
  exact ⟨first ++ before, part, part', after ++ last, by simp, by simp, facts⟩

theorem bits_split {n i : ℕ} (x : ℕ) (bound : i < n) :
    bits n x = bits i x ++ [x.testBit i] ++ bits (n - (i + 1)) (x >>> (i + 1)) := by
  have whole : n = i + 1 + (n - (i + 1)) := by omega
  conv => lhs; rw [whole, bits_add, bits_add]
  simp [bits]

/-- One bit is changed. -/
theorem DiffersWithin.of_flip {n m i x y : ℕ} (positive : 0 < m) (bound : i < n)
    (flipped : y % 2 ^ n = x % 2 ^ n ^^^ 2 ^ i) : DiffersWithin m (bits n x) (bits n y) := by
  have same : bits n y = bits n (x ^^^ 2 ^ i) := by
    apply bits_eq_iff.mpr
    rw [flipped, Nat.xor_mod_two_pow, Nat.mod_eq_of_lt (Nat.pow_lt_pow_right (by decide) bound)]
  have before : bits i (x ^^^ 2 ^ i) = bits i x := by
    apply bits_eq_iff.mpr
    simp [Nat.xor_mod_two_pow]
  have after : (x ^^^ 2 ^ i) >>> (i + 1) = x >>> (i + 1) := by
    apply Nat.eq_of_testBit_eq
    intro j
    have other : i ≠ i + 1 + j := by omega
    simp [Nat.testBit_shiftRight, Nat.testBit_two_pow_of_ne other]
  refine ⟨bits i x, [x.testBit i], [!x.testBit i], bits (n - (i + 1)) (x >>> (i + 1)),
    bits_split x bound, ?_, rfl, positive, by simp⟩
  rw [same, bits_split _ bound, before, after]
  simp

/-- Two messages that differ in a part that fits into the register have different remainders. -/
theorem divide_ne (constant : poly.msb = true) {message message' : List Bool} (c : BitVec w)
    (differs : DiffersWithin w message message') : divide poly c message ≠ divide poly c message' := by
  obtain ⟨before, part, part', after, rfl, rfl, sameLength, fits, different⟩ := differs
  intro same
  simp only [divide_append] at same
  have divided := divide_injective constant after same
  generalize divide poly c before = register at divided
  have first : divide poly register part = _ := divide_eq_shifts register fits
  have second : divide poly register part' = _ :=
    divide_eq_shifts register (sameLength ▸ fits)
  rw [first, second, ← sameLength] at divided
  have loaded := (BitVec.xor_right_inj _).mp (shifts_injective constant part.length divided)
  exact different (load_injective sameLength fits loaded)

end ReflectedCRC

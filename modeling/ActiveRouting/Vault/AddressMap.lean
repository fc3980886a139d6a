import ActiveRouting.Cube.CrossbarSwitch
import ActiveRouting.Library.MixedRadix
import Mathlib.Tactic.Positivity
import Mathlib.Tactic.Ring

/-!
# The address map

`vaultMap` of `CrossbarSwitch.cpp` and `AddressMapping` of `VaultController.cpp`, for any
sizes of a cube.  A block of a cube has one vault, bank, row and column.
-/

namespace ActiveRouting

/-- `NUM_VAULTS`, `NUM_BANKS`, `NUM_ROWS`, `NUM_COLS` and `ADDRESS_MAPPING`.  A column is one
    byte, and a block has `blockSize` of them. -/
structure Geometry where
  numVaults : ℕ
  numBanks : ℕ
  numRows : ℕ
  numCols : ℕ
  blockSize : ℕ

/-- Where a block is. -/
structure Place where
  vault : ℕ
  bank : ℕ
  row : ℕ
  col : ℕ
  deriving DecidableEq

/-- `>>` of an address, which is defined for fewer bits than it has. -/
def shiftRight (address bits : ℕ) : Option ℕ := if bits < 64 then some (address >>> bits) else none

namespace Geometry

variable (g : Geometry)

/-- `vaultMap` of the crossbar switch. -/
def vaultMap (ADRS : BitVec 64) : Option ℕ := do
  let address ← shiftRight ADRS.toNat (log2 g.blockSize)
  pure (address &&& (g.numVaults - 1))

/-- `AddressMapping`: the bank, column and row of an address. -/
def addressMapping (physicalAddress : BitVec 64) : Option (ℕ × ℕ × ℕ) := do
  let maxBlockBit := log2 g.blockSize
  let address ← shiftRight physicalAddress.toNat (maxBlockBit + log2 g.numVaults)
  let bankAdd := address &&& (g.numBanks - 1)
  let address ← shiftRight address (log2 g.numBanks)
  let colAdd := (address &&& ((g.numCols - 1) >>> maxBlockBit)) <<< maxBlockBit
  let address ← shiftRight address (unsignedSub (log2 g.numCols) maxBlockBit)
  pure (bankAdd, colAdd, address &&& (g.numRows - 1))

/-- The vault that gets a request, and its bank, row and column there. -/
def place (ADRS : BitVec 64) : Option Place := do
  let vault ← g.vaultMap ADRS
  let (bank, col, row) ← g.addressMapping ADRS
  pure ⟨vault, bank, row, col⟩

/-- The bytes of a cube. -/
def capacity : ℕ := g.numVaults * g.numBanks * g.numRows * g.numCols

/-- The addresses of the blocks of a cube. -/
def blocks : Set (BitVec 64) := {ADRS | ADRS.toNat < g.capacity ∧ g.blockSize ∣ ADRS.toNat}

/-- The places of the blocks. -/
def places : Set Place :=
  {place | place.vault < g.numVaults ∧ place.bank < g.numBanks ∧ place.row < g.numRows ∧
    place.col < g.numCols ∧ g.blockSize ∣ place.col}

/-- Every block has a place of its own, and every place a block. -/
def Bijective : Prop := Set.BijOn g.place g.blocks (some '' g.places)

end Geometry

/-- A power of two that an `int` holds. -/
def IsPower (size : ℕ) : Prop := ∃ bits ≤ 30, size = 2 ^ bits

/-- A choice of sizes, up to the width of an address. -/
structure Geometry.Chosen (g : Geometry) : Prop where
  vaults : IsPower g.numVaults
  banks : IsPower g.numBanks
  cols : IsPower g.numCols
  blocks : IsPower g.blockSize
  rows : 0 < g.numRows
  width : g.capacity ≤ 2 ^ 64

/-! ## Bit fields -/

section Fields

theorem log2_two_pow (bits : ℕ) : log2 (2 ^ bits) = bits := by
  rw [log2, Nat.log2_two_pow, Nat.one_shiftLeft, if_neg (lt_irrefl _)]

theorem shiftRight_of_lt {address bits : ℕ} (inside : bits < 64) :
    shiftRight address bits = some (address >>> bits) := if_pos inside

theorem shiftRight_eq {address bits : ℕ} (inside : bits < 64) :
    shiftRight address bits = some (address / 2 ^ bits) := by
  rw [shiftRight_of_lt inside, Nat.shiftRight_eq_div_pow]

/-- A mask of ones reaches all numbers up to it only if it ends below a power of two. -/
theorem exists_two_pow_of_and {last : ℕ} (covers : ∀ value ≤ last, value &&& last = value) :
    ∃ bits, last + 1 = 2 ^ bits := by
  cases last with
  | zero => exact ⟨0, rfl⟩
  | succ n =>
    -- the ones below the highest bit are in the mask
    obtain ⟨low, high⟩ := (Nat.log2_eq_iff (Nat.succ_ne_zero n)).mp rfl
    generalize (n + 1).log2 = bits at low high
    have ones := covers (2 ^ bits - 1) (by omega)
    rw [Nat.and_comm, Nat.and_two_pow_sub_one_eq_mod] at ones
    have quotient : (n + 1) / 2 ^ bits = 1 :=
      Nat.div_eq_of_lt_le (by omega) (by rw [pow_succ] at high; omega)
    have parts := Nat.div_add_mod (n + 1) (2 ^ bits)
    rw [quotient, ones] at parts
    refine ⟨bits + 1, ?_⟩
    have positive : 0 < 2 ^ bits := Nat.two_pow_pos bits
    rw [pow_succ]
    omega

end Fields

/-! ## The fields of an address -/

namespace Geometry

/-- The bits of the sizes of a cube. -/
structure Widths (g : Geometry) (v b c m : ℕ) : Prop where
  vaults : g.numVaults = 2 ^ v
  banks : g.numBanks = 2 ^ b
  cols : g.numCols = 2 ^ c
  blocks : g.blockSize = 2 ^ m
  vaultBits : v ≤ 30
  bankBits : b ≤ 30
  colBits : c ≤ 30
  blockBits : m ≤ 30

theorem Chosen.widths {g : Geometry} (chosen : g.Chosen) : ∃ v b c m, g.Widths v b c m := by
  obtain ⟨v, vaultBits, vaults⟩ := chosen.vaults
  obtain ⟨b, bankBits, banks⟩ := chosen.banks
  obtain ⟨c, colBits, cols⟩ := chosen.cols
  obtain ⟨m, blockBits, blocks⟩ := chosen.blocks
  exact ⟨v, b, c, m, vaults, banks, cols, blocks, vaultBits, bankBits, colBits, blockBits⟩

variable {g : Geometry} {v b c m : ℕ}

/-- The place of an address in its fields. -/
theorem Widths.place_eq (w : g.Widths v b c m) (le : m ≤ c) (ADRS : BitVec 64) :
    g.place ADRS = some ⟨ADRS.toNat / 2 ^ m % 2 ^ v, ADRS.toNat / 2 ^ m / 2 ^ v % 2 ^ b,
      ADRS.toNat / 2 ^ m / 2 ^ v / 2 ^ b / 2 ^ (c - m) &&& (g.numRows - 1),
      ADRS.toNat / 2 ^ m / 2 ^ v / 2 ^ b % 2 ^ (c - m) * 2 ^ m⟩ := by
  obtain ⟨vaults, banks, cols, blocks, vaultBits, bankBits, colBits, blockBits⟩ := w
  have mask : (2 ^ c - 1) >>> m = 2 ^ (c - m) - 1 := by
    have product : 2 ^ (c - m) * 2 ^ m = 2 ^ c := by rw [← pow_add, Nat.sub_add_cancel le]
    have positive : 0 < 2 ^ m := Nat.two_pow_pos m
    rw [Nat.shiftRight_eq_div_pow, ← product]
    refine Nat.div_eq_of_lt_le ?_ ?_
    · rw [Nat.sub_mul, Nat.one_mul]
      omega
    · rw [Nat.sub_add_cancel (Nat.two_pow_pos _)]
      exact Nat.sub_lt (Nat.mul_pos (Nat.two_pow_pos _) positive) Nat.one_pos
  have isVault : g.vaultMap ADRS = some (ADRS.toNat / 2 ^ m % 2 ^ v) := by
    rw [vaultMap, blocks, vaults, log2_two_pow, shiftRight_eq (by omega)]
    exact congrArg some (Nat.and_two_pow_sub_one_eq_mod _ v)
  have isMapped : g.addressMapping ADRS = some (ADRS.toNat / 2 ^ m / 2 ^ v % 2 ^ b,
      ADRS.toNat / 2 ^ m / 2 ^ v / 2 ^ b % 2 ^ (c - m) * 2 ^ m,
      ADRS.toNat / 2 ^ m / 2 ^ v / 2 ^ b / 2 ^ (c - m) &&& (g.numRows - 1)) := by
    have first : shiftRight ADRS.toNat (m + v) = some (ADRS.toNat / 2 ^ m / 2 ^ v) := by
      rw [shiftRight_eq (by omega), pow_add, Nat.div_div_eq_div_mul]
    simp only [addressMapping, vaults, banks, cols, blocks, log2_two_pow, mask,
      unsignedSub_eq le (by omega : c < 2 ^ 32), Nat.and_two_pow_sub_one_eq_mod, Nat.shiftLeft_eq,
      first, shiftRight_eq (by omega : b < 64), shiftRight_eq (by omega : c - m < 64),
      Option.bind_eq_bind, Option.bind_some, Option.pure_def]
  rw [place, isVault, isMapped]
  rfl

/-- The digits of a block: its vault, its bank, its block in the row and its row. -/
def bases (g : Geometry) (c m : ℕ) : List ℕ := [g.numVaults, g.numBanks, 2 ^ (c - m), g.numRows]

def wordOf (m : ℕ) (place : Place) : List ℕ := [place.vault, place.bank, place.col / 2 ^ m, place.row]

def placeOf (m : ℕ) : List ℕ → Place
  | [vault, bank, block, row] => ⟨vault, bank, row, block * 2 ^ m⟩
  | _ => ⟨0, 0, 0, 0⟩

theorem exists_of_fits {word : List ℕ} (fits : MixedRadix.Fits (g.bases c m) word) :
    ∃ vault bank block row, word = [vault, bank, block, row] ∧ vault < g.numVaults ∧
      bank < g.numBanks ∧ block < 2 ^ (c - m) ∧ row < g.numRows := by
  obtain _ | ⟨isVault, fits⟩ := fits
  obtain _ | ⟨isBank, fits⟩ := fits
  obtain _ | ⟨isBlock, fits⟩ := fits
  obtain _ | ⟨isRow, fits⟩ := fits
  cases fits
  exact ⟨_, _, _, _, rfl, isVault, isBank, isBlock, isRow⟩

theorem Widths.bijOn_placeOf (w : g.Widths v b c m) (le : m ≤ c) :
    Set.BijOn (placeOf m) {word | MixedRadix.Fits (g.bases c m) word} g.places := by
  have positive : 0 < 2 ^ m := Nat.two_pow_pos m
  have product : 2 ^ (c - m) * 2 ^ m = 2 ^ c := by rw [← pow_add, Nat.sub_add_cancel le]
  have inverse : Set.InvOn (wordOf m) (placeOf m) {word | MixedRadix.Fits (g.bases c m) word}
      g.places := by
    constructor
    · intro word fits
      obtain ⟨vault, bank, block, row, rfl, -⟩ := exists_of_fits fits
      simp only [placeOf, wordOf, Nat.mul_div_cancel _ positive]
    · rintro ⟨vault, bank, row, col⟩ ⟨-, -, -, -, aligned⟩
      rw [w.blocks] at aligned
      simp only [wordOf, placeOf, Nat.div_mul_cancel aligned]
  refine inverse.bijOn ?_ ?_
  · intro word fits
    obtain ⟨vault, bank, block, row, rfl, isVault, isBank, isBlock, isRow⟩ := exists_of_fits fits
    refine ⟨isVault, isBank, isRow, ?_, w.blocks ▸ Nat.dvd_mul_left _ _⟩
    rw [w.cols, ← product]
    exact Nat.mul_lt_mul_of_pos_right isBlock positive
  · rintro place ⟨isVault, isBank, isRow, isCol, -⟩
    refine .cons isVault (.cons isBank (.cons ?_ (.cons isRow .nil)))
    rw [w.cols, ← product] at isCol
    exact Nat.div_lt_of_lt_mul (Nat.mul_comm _ _ ▸ isCol)

/-- The number of a block. -/
theorem Widths.bijOn_blocks (w : g.Widths v b c m) (le : m ≤ c) (width : g.capacity ≤ 2 ^ 64) :
    Set.BijOn (fun ADRS : BitVec 64 => ADRS.toNat / 2 ^ m) g.blocks
      {n | n < (g.bases c m).prod} := by
  have positive : 0 < 2 ^ m := Nat.two_pow_pos m
  have product : (g.bases c m).prod * 2 ^ m = g.capacity := by
    have cols : g.numCols = 2 ^ (c - m) * 2 ^ m := by
      rw [w.cols, ← pow_add, Nat.sub_add_cancel le]
    simp only [bases, capacity, cols, List.prod_cons, List.prod_nil]
    ring
  have inside : ∀ n < (g.bases c m).prod, n * 2 ^ m < g.capacity := fun n small =>
    product ▸ Nat.mul_lt_mul_of_pos_right small positive
  have isNat : ∀ n < (g.bases c m).prod, (BitVec.ofNat 64 (n * 2 ^ m)).toNat = n * 2 ^ m :=
    fun n small => Nat.mod_eq_of_lt ((inside n small).trans_le width)
  have inverse : Set.InvOn (fun n => BitVec.ofNat 64 (n * 2 ^ m))
      (fun ADRS : BitVec 64 => ADRS.toNat / 2 ^ m) g.blocks {n | n < (g.bases c m).prod} := by
    constructor
    · rintro ADRS ⟨-, aligned⟩
      rw [w.blocks] at aligned
      show BitVec.ofNat 64 (ADRS.toNat / 2 ^ m * 2 ^ m) = ADRS
      rw [Nat.div_mul_cancel aligned]
      exact BitVec.ofNat_toNat 64 ADRS
    · intro n small
      show (BitVec.ofNat 64 (n * 2 ^ m)).toNat / 2 ^ m = n
      rw [isNat n small, Nat.mul_div_cancel _ positive]
  refine inverse.bijOn ?_ ?_
  · rintro ADRS ⟨small, -⟩
    rw [← product, Nat.mul_comm] at small
    exact Nat.div_lt_of_lt_mul small
  · intro n small
    refine ⟨?_, ?_⟩
    · rw [isNat n small]
      exact inside n small
    · rw [isNat n small, w.blocks]
      exact Nat.dvd_mul_left _ _

/-! ## Bijection -/

/-- With a power of two of rows, the place of a block is its digits. -/
theorem Widths.place_digits (w : g.Widths v b c m) (le : m ≤ c) {r : ℕ} (rows : g.numRows = 2 ^ r)
    (ADRS : BitVec 64) :
    some (placeOf m (MixedRadix.digits (g.bases c m) (ADRS.toNat / 2 ^ m))) = g.place ADRS := by
  rw [w.place_eq le, rows, Nat.and_two_pow_sub_one_eq_mod]
  simp only [bases, MixedRadix.digits, placeOf, w.vaults, w.banks, rows]

theorem Widths.bijective (w : g.Widths v b c m) (le : m ≤ c) {r : ℕ} (rows : g.numRows = 2 ^ r)
    (width : g.capacity ≤ 2 ^ 64) : g.Bijective := by
  have words := (MixedRadix.bijOn_digits (g.bases c m)).comp (w.bijOn_blocks le width)
  have placed := (w.bijOn_placeOf le).comp words
  have inOption : Set.BijOn some g.places (some '' g.places) :=
    (Option.some_injective Place).injOn.bijOn_image
  exact (inOption.comp placed).congr fun ADRS _ => w.place_digits le rows ADRS

/-- The rows that the mask reaches. -/
theorem Widths.rows_of_bijective (w : g.Widths v b c m) (le : m ≤ c) (rows : 0 < g.numRows)
    (bijective : g.Bijective) : ∃ r, g.numRows = 2 ^ r := by
  obtain ⟨r, isPower⟩ : ∃ r, g.numRows - 1 + 1 = 2 ^ r := by
    refine exists_two_pow_of_and fun row isRow => ?_
    have isPlace : ⟨0, 0, row, 0⟩ ∈ g.places := by
      refine ⟨?_, ?_, Nat.lt_of_le_pred rows isRow, ?_, Nat.dvd_zero _⟩
      · exact w.vaults ▸ Nat.two_pow_pos v
      · exact w.banks ▸ Nat.two_pow_pos b
      · exact w.cols ▸ Nat.two_pow_pos c
    obtain ⟨ADRS, -, isAt⟩ := bijective.surjOn (Set.mem_image_of_mem some isPlace)
    rw [w.place_eq le] at isAt
    have sameRow := congrArg Place.row (Option.some.inj isAt)
    dsimp only at sameRow
    rw [← sameRow, Nat.and_assoc, Nat.and_self]
  exact ⟨r, by omega⟩

/-- A block that is larger than a row is shifted by more bits than an address has. -/
theorem Widths.le_of_bijective (w : g.Widths v b c m) (positive : 0 < g.capacity)
    (bijective : g.Bijective) : m ≤ c := by
  by_contra larger
  have isBlock : (0 : BitVec 64) ∈ g.blocks := ⟨positive, Nat.dvd_zero _⟩
  obtain ⟨place, -, isAt⟩ := bijective.mapsTo isBlock
  have noShift : ∀ address, shiftRight address (unsignedSub c m) = none := by
    intro address
    have small := w.colBits
    have bits := w.blockBits
    have difference := unsignedSub_of_lt (Nat.not_le.mp larger) (by omega)
    rw [shiftRight, if_neg (by omega)]
  have unmapped : g.place 0 = none := by
    simp [Geometry.place, addressMapping, w.cols, w.blocks, log2_two_pow, noShift]
  rw [unmapped] at isAt
  cases isAt

theorem Widths.capacity_pos (w : g.Widths v b c m) (rows : 0 < g.numRows) : 0 < g.capacity := by
  rw [capacity, w.vaults, w.banks, w.cols]
  positivity

/-- The address map is a bijection exactly where a block is not larger than a row and the
    number of rows is a power of two too. -/
theorem bijective_iff (chosen : g.Chosen) :
    g.Bijective ↔ g.blockSize ≤ g.numCols ∧ ∃ r, g.numRows = 2 ^ r := by
  obtain ⟨v, b, c, m, w⟩ := chosen.widths
  have sizes : g.blockSize ≤ g.numCols ↔ m ≤ c := by
    rw [w.blocks, w.cols]
    exact Nat.pow_le_pow_iff_right Nat.one_lt_two
  rw [sizes]
  constructor
  · intro bijective
    have le := w.le_of_bijective (w.capacity_pos chosen.rows) bijective
    exact ⟨le, w.rows_of_bijective le chosen.rows bijective⟩
  · rintro ⟨le, r, rows⟩
    exact w.bijective le rows chosen.width

/-- The sizes of `DRAMConfig.h`. -/
def sizes : Geometry := ⟨32, 8, 16384, 1024, 64⟩

theorem chosen_sizes : sizes.Chosen where
  vaults := ⟨5, by decide, rfl⟩
  banks := ⟨3, by decide, rfl⟩
  cols := ⟨10, by decide, rfl⟩
  blocks := ⟨6, by decide, rfl⟩
  rows := by decide
  width := by decide

theorem bijective_iff_sizes : sizes.Bijective :=
  (bijective_iff chosen_sizes).mpr ⟨by decide, 14, rfl⟩

/-- Three rows, of which the mask reaches the first and the last. -/
def threeRows : Geometry := ⟨1, 1, 3, 32, 32⟩

/-- Two vaults of half a block each. -/
def halfBlocks : Geometry := ⟨2, 1, 1, 32, 64⟩

theorem widths_threeRows : threeRows.Widths 0 0 5 5 := by
  constructor <;> decide

/-- The two places of the cube have one block, whatever the fields are. -/
theorem not_bijective_halfBlocks : ¬ halfBlocks.Bijective := by
  intro bijective
  have single : ∀ ADRS ∈ halfBlocks.blocks, ADRS = 0 := by
    rintro ADRS ⟨small, aligned⟩
    have zero : ADRS.toNat = 0 := Nat.eq_zero_of_dvd_of_lt aligned small
    exact BitVec.eq_of_toNat_eq zero
  have isPlace : ∀ vault < 2, ⟨vault, 0, 0, 0⟩ ∈ halfBlocks.places := fun vault isVault =>
    ⟨isVault, Nat.one_pos, Nat.one_pos, (by decide : 0 < 32), Nat.dvd_zero _⟩
  have isAt : ∀ vault < 2, halfBlocks.place 0 = some ⟨vault, 0, 0, 0⟩ := by
    intro vault isVault
    obtain ⟨ADRS, isBlock, isAt⟩ :=
      bijective.surjOn (Set.mem_image_of_mem some (isPlace vault isVault))
    rw [← single ADRS isBlock]
    exact isAt
  have same := (isAt 0 (by decide)).symm.trans (isAt 1 (by decide))
  exact absurd (congrArg Place.vault (Option.some.inj same)) (by decide)

theorem not_bijective :
    (threeRows.Chosen ∧ ¬ threeRows.Bijective) ∧ halfBlocks.Chosen ∧ ¬ halfBlocks.Bijective := by
  have chosen : ∀ g : Geometry, g = threeRows ∨ g = halfBlocks → g.Chosen := by
    rintro g (rfl | rfl)
    · exact ⟨⟨0, by decide, rfl⟩, ⟨0, by decide, rfl⟩, ⟨5, by decide, rfl⟩, ⟨5, by decide, rfl⟩,
        by decide, by decide⟩
    · exact ⟨⟨1, by decide, rfl⟩, ⟨0, by decide, rfl⟩, ⟨5, by decide, rfl⟩, ⟨6, by decide, rfl⟩,
        by decide, by decide⟩
  refine ⟨⟨chosen _ (.inl rfl), fun bijective => ?_⟩, chosen _ (.inr rfl), not_bijective_halfBlocks⟩
  obtain ⟨r, rows⟩ := widths_threeRows.rows_of_bijective le_rfl (by decide) bijective
  have three : 3 = 2 ^ r := rows
  cases r with
  | zero => cases three
  | succ r =>
    rw [pow_succ] at three
    omega

end Geometry

/-! ## The maps of the cubes -/

/-- The sizes of a cube with a vault controller's configuration. -/
def DRAMConfig.geometry (c : DRAMConfig) : Geometry :=
  ⟨numVaults, c.numBanks, c.numRows, c.numCols, c.addressMapping⟩

theorem DRAMConfig.blockBits (c : DRAMConfig) : log2 c.addressMapping < 9 := by
  unfold addressMapping
  cases c.mappingScheme <;> decide

/-- `AddressMapping` of the vault controllers. -/
theorem addressMapping_geometry (c : DRAMConfig) (ADRS : BitVec 64)
    (fits : log2 c.addressMapping ≤ log2 c.numCols) (banks : log2 c.numBanks < 64)
    (cols : log2 c.numCols < 64) :
    c.geometry.addressMapping ADRS = some (VaultController.addressMapping c ADRS) := by
  have blocks := c.blockBits
  have vaults : log2 numVaults = 5 := by decide
  have difference := unsignedSub_eq fits (by omega)
  have first : ∀ address, shiftRight address (log2 c.addressMapping + 5) =
      some (address >>> (log2 c.addressMapping + 5)) := fun _ => shiftRight_of_lt (by omega)
  have second : ∀ address, shiftRight address (log2 c.numBanks) =
      some (address >>> log2 c.numBanks) := fun _ => shiftRight_of_lt banks
  have third : ∀ address, shiftRight address (log2 c.numCols - log2 c.addressMapping) =
      some (address >>> (log2 c.numCols - log2 c.addressMapping)) :=
    fun _ => shiftRight_of_lt (by omega)
  simp [Geometry.addressMapping, DRAMConfig.geometry, VaultController.addressMapping, vaults,
    difference, first, second, third]

/-- The vault to which the crossbar switch sends a request. -/
theorem vaultMap_geometry (k : CubeConfig) (ADRS : BitVec 64) :
    k.dram.geometry.vaultMap ADRS = some (k.vaultMap ADRS) := by
  have bits : log2 k.dram.addressMapping = k.dram.addressMapping.log2 := by
    unfold DRAMConfig.addressMapping
    cases k.dram.mappingScheme <;> decide
  have shifted : shiftRight ADRS.toNat (log2 k.dram.geometry.blockSize) =
      some (ADRS.toNat >>> log2 k.dram.addressMapping) :=
    shiftRight_of_lt (k.dram.blockBits.trans (by decide))
  rw [Geometry.vaultMap, shifted, CubeConfig.vaultMap, bits]
  exact congrArg some (Nat.and_two_pow_sub_one_eq_mod _ 5)

end ActiveRouting

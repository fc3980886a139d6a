import ActiveRouting.Host.PTSHMCController

/-!
# The cubes of operands

An ordinary request goes to the directory, and from there to the controller, of
its address (`which_mc`), which chooses the cube.  The operands of an update are
named by the controller that the update goes to.
-/

namespace ActiveRouting.Host

variable (c : HostConfig)

/-- The transaction of an ordinary request, at the controller of its address. -/
def ordinaryTran (tag : ℕ) (lqele : LocalQueueElement) (type : TranType) : Transaction :=
  newTran c (c.which_mc lqele.address) tag lqele type

/-- A request that is neither active nor a `PEI`. -/
def isOrdinary : TranType → Bool
  | .MEM_READ | .MEM_WRITE | .MEM_EVICT => true
  | _ => false

/-- The cube that is named for an operand serves ordinary requests of its address. -/
def ServesOrdinary (cube : ℤ) (operand : BitVec 64) : Prop :=
  ∀ tag lqele type, isOrdinary type = true → lqele.address = operand →
    (ordinaryTran c tag lqele type).dest_cube1 = cube

variable {c}

theorem ordinaryTran_dest_cube {type : TranType} (ordinary : isOrdinary type = true) (tag : ℕ)
    (lqele : LocalQueueElement) :
    (ordinaryTran c tag lqele type).dest_cube1 = c.get_active_cube_num lqele.address := by
  cases type with
  | MEM_READ => rfl
  | MEM_WRITE => rfl
  | MEM_EVICT => rfl
  | ART_GET => cases ordinary
  | ART_ADD => cases ordinary
  | ART_MULT => cases ordinary
  | ART_DOT => cases ordinary
  | PEI_DOT => cases ordinary
  | PEI_ATOMIC => cases ordinary

theorem servesOrdinary_iff {cube : ℤ} {operand : BitVec 64} :
    ServesOrdinary c cube operand ↔ cube = c.get_active_cube_num operand := by
  constructor
  · intro serves
    exact (serves 0 { id := 0, type := .et_read, address := operand } .MEM_READ rfl rfl).symm
  · intro isActive tag lqele type ordinary isOperand
    rw [ordinaryTran_dest_cube ordinary, isOperand]
    exact isActive.symm

/-- Controllers with cubes name different cubes for one address. -/
theorem get_cube_num_eq_iff (cubes : 0 < c.cubes_per_mc) {num num' : ℕ} {addr : BitVec 64} :
    c.get_cube_num num addr = c.get_cube_num num' addr ↔ num = num' := by
  constructor
  · intro same
    have products : num * c.cubes_per_mc = num' * c.cubes_per_mc := Nat.add_right_cancel same
    exact Nat.eq_of_mul_eq_mul_right cubes products
  · intro same
    rw [same]

theorem servesOrdinary_get_cube_num (cubes : 0 < c.cubes_per_mc) {num : ℕ} {operand : BitVec 64} :
    ServesOrdinary c (c.get_cube_num num operand) operand ↔ num = c.which_mc operand := by
  rw [servesOrdinary_iff]
  exact Nat.cast_inj.trans (get_cube_num_eq_iff cubes)

/-- The operand of an `ART_ADD` or `ART_DOT` has its cube; those of an `ART_MULT`
    have theirs exactly if it goes to the controller of both. -/
theorem operand_cubes_iff (cubes : 0 < c.cubes_per_mc) (num tag : ℕ) (lqele : LocalQueueElement) :
    ServesOrdinary c (newTran c num tag lqele .ART_ADD).dest_cube1 lqele.src_addr1 ∧
      ServesOrdinary c (newTran c num tag lqele .ART_DOT).dest_cube1 lqele.src_addr2 ∧
      (ServesOrdinary c (newTran c num tag lqele .ART_MULT).dest_cube1 lqele.src_addr1 ↔
        num = c.which_mc lqele.src_addr1) ∧
      (ServesOrdinary c (newTran c num tag lqele .ART_MULT).dest_cube2 lqele.src_addr2 ↔
        num = c.which_mc lqele.src_addr2) := by
  refine ⟨?_, ?_, ?_, ?_⟩
  · exact servesOrdinary_iff.2 rfl
  · exact servesOrdinary_iff.2 rfl
  · exact servesOrdinary_get_cube_num cubes
  · exact servesOrdinary_get_cube_num cubes

/-- Four controllers with four cubes each. -/
def fourControllers : HostConfig where
  art_scheme := .art_addr
  hmc_top := .DFLY
  hmcs_size := 4
  num_mcs := 4
  num_mcs_log2 := 2
  process_interval := 10
  cubes_per_mc := 4
  cube_interleave_base_bit := 14
  interleave_xor_base_bit := 20
  geq_interleave_base_bit := 12
  geq_interleave_xor_base_bit := 20

/-- A multiplication whose operands belong to the controllers 0 and 1. -/
def acrossControllers : LocalQueueElement :=
  { id := 0, type := .et_art_mult, src_addr1 := 0, src_addr2 := 4096 }

theorem operand_cubes_iff_acrossControllers :
    ServesOrdinary fourControllers
        (newTran fourControllers 0 0 acrossControllers .ART_MULT).dest_cube1 0 ∧
      ¬ ServesOrdinary fourControllers
        (newTran fourControllers 0 0 acrossControllers .ART_MULT).dest_cube2 4096 := by
  have agrees := operand_cubes_iff (c := fourControllers) (by decide) 0 0 acrossControllers
  exact ⟨agrees.2.2.1.2 (by decide), fun serves => absurd (agrees.2.2.2.1 serves) (by decide)⟩

/-- Controller 0, which the scheme `art_addr` chooses, names its own cube 0 for
    the second operand, which is served in cube 4. -/
theorem second_operand_elsewhere :
    fourControllers.which_mc acrossControllers.src_addr1 = 0 ∧
      (newTran fourControllers 0 0 acrossControllers .ART_MULT).dest_cube2 = 0 ∧
      (ordinaryTran fourControllers 0 { id := 1, type := .et_read, address := 4096 }
        .MEM_READ).dest_cube1 = 4 := by
  decide

end ActiveRouting.Host

import Mathlib.Data.Nat.Dist
import Mathlib.Tactic.IntervalCases
import ActiveRouting.Network.ParentLinks

/-!
# Parent links in the mesh

Forward packets travel in X first and requests towards the root in Y first, so
that the way back from any cube of a route retraces the last hop.
-/

namespace ActiveRouting.MeshNet

variable {dim : ℕ}

/-! ## Coordinates and wires -/

theorem pos_injective {x y x' y' : ℕ} (hx : x < dim) (hx' : x' < dim)
    (h : dim * y + x = dim * y' + x') : x = x' ∧ y = y' := by
  have hmod := congrArg (· % dim) h
  have hdiv := congrArg (· / dim) h
  have hdim : 0 < dim := by omega
  simp only [Nat.mul_add_mod, Nat.mod_eq_of_lt hx, Nat.mod_eq_of_lt hx'] at hmod
  simp only [Nat.mul_add_div hdim, Nat.div_eq_of_lt hx, Nat.div_eq_of_lt hx'] at hdiv
  omega

theorem exists_pos {cube : ℕ} (h : cube < dim * dim) :
    ∃ x y, x < dim ∧ y < dim ∧ cube = dim * y + x := by
  have hdim : 0 < dim := Nat.pos_of_ne_zero (by rintro rfl; simp at h)
  exact ⟨cube % dim, cube / dim, Nat.mod_lt _ hdim, Nat.div_lt_of_lt_mul h,
    (Nat.div_add_mod cube dim).symm⟩

theorem pos_lt {x y : ℕ} (hx : x < dim) (hy : y < dim) : dim * y + x < dim * dim := by
  have := Nat.mul_le_mul_left dim (Nat.succ_le_of_lt hy)
  rw [Nat.mul_succ] at this
  omega

theorem findXY_pos {x y : ℕ} (hx : x < dim) : MeshRF.findXY (dim * dim) (dim * y + x) = (x, y) := by
  have hdim : 0 < dim := by omega
  rw [MeshRF.findXY, Nat.sqrt_eq]
  simp [Nat.mod_eq_of_lt hx, Nat.mul_add_div hdim, Nat.div_eq_of_lt hx]

/-- The far end of a link of the cube at `(x, y)`. -/
def farEnd (dim y x : ℕ) : ℕ → LinkEnd
  | 0 => if 0 < x then .hmc (dim * y + x - 1) rightLink else .hmcCont y
  | 1 => if 0 < y then .hmc (dim * y + x - dim) botLink else .hmcCont (dim + x)
  | 2 => if x < dim - 1 then .hmc (dim * y + x + 1) leftLink else .hmcCont (2 * dim + y)
  | _ => if y < dim - 1 then .hmc (dim * y + x + dim) topLink else .hmcCont (3 * dim + x)

theorem mem_cubeLinks {y x node link : ℕ} {e : LinkEnd} :
    (LinkEnd.hmc node link, e) ∈ cubeLinks dim y x ↔
      node = dim * y + x ∧ link < numLinks ∧ e = farEnd dim y x link := by
  constructor
  · intro h
    simp only [cubeLinks, List.mem_append] at h
    rcases h with ((h | h) | h) | h <;> split at h <;>
      simp_all [farEnd, leftLink, topLink, rightLink, botLink, numLinks]
  · rintro ⟨rfl, hlink, rfl⟩
    simp only [numLinks] at hlink
    simp only [cubeLinks, List.mem_append]
    interval_cases link
    · exact Or.inl (Or.inl (Or.inl (by simp only [farEnd]; split <;> simp [leftLink])))
    · exact Or.inl (Or.inl (Or.inr (by simp only [farEnd]; split <;> simp [topLink])))
    · exact Or.inl (Or.inr (by simp only [farEnd]; split <;> simp [rightLink]))
    · exact Or.inr (by simp only [farEnd]; split <;> simp [botLink])

theorem wiring_hmc {x y link : ℕ} (hx : x < dim) (hy : y < dim) (hlink : link < numLinks) :
    wiring dim (.hmc (dim * y + x) link) = some (farEnd dim y x link) := by
  apply Wiring.connectAll_of_mem
  · simp only [meshLinks, List.mem_flatMap, List.mem_range]
    exact ⟨y, hy, x, hx, mem_cubeLinks.mpr ⟨rfl, hlink, rfl⟩⟩
  · intro e he
    simp only [meshLinks, List.mem_flatMap, List.mem_range] at he
    obtain ⟨y', -, x', hx', hmem⟩ := he
    obtain ⟨hpos, -, rfl⟩ := mem_cubeLinks.mp hmem
    obtain ⟨rfl, rfl⟩ := pos_injective hx hx' hpos
    rfl

/-! ## Hops in coordinates -/

/-- `findNextLink` between two positions of the mesh. -/
theorem findNextLink_pos {x y dx dy : ℕ} (hx : x < dim) (hdx : dx < dim) (req : Bool) :
    (network dim).findNextLink (dim * y + x) (dim * dy + dx) req =
      if x = dx ∧ y = dy then (if x = 0 then leftLink else rightLink)
      else if (req = false ∧ x ≠ dx) ∨ y = dy then (if dx < x then leftLink else rightLink)
      else (if dy < y then topLink else botLink) := by
  simp only [network, MeshRF.findNextLink, findXY_pos hx, findXY_pos hdx]
  by_cases hxd : x = dx <;> by_cases hyd : y = dy <;> cases req <;> simp [hxd, hyd]

/-- The neighbour on a link, with the link of arrival. -/
inductive Adjacent (dim : ℕ) : ℕ → ℕ → ℕ → ℕ → ℕ → ℕ → Prop where
  | left {x y : ℕ} : x + 1 < dim → y < dim → Adjacent dim (x + 1) y leftLink x y rightLink
  | right {x y : ℕ} : x + 1 < dim → y < dim → Adjacent dim x y rightLink (x + 1) y leftLink
  | top {x y : ℕ} : x < dim → y + 1 < dim → Adjacent dim x (y + 1) topLink x y botLink
  | bot {x y : ℕ} : x < dim → y + 1 < dim → Adjacent dim x y botLink x (y + 1) topLink

theorem Adjacent.bounds {x y l x' y' l' : ℕ} (h : Adjacent dim x y l x' y' l') :
    x < dim ∧ y < dim ∧ x' < dim ∧ y' < dim := by
  cases h <;> omega

theorem Adjacent.symm {x y l x' y' l' : ℕ} (h : Adjacent dim x y l x' y' l') :
    Adjacent dim x' y' l' x y l := by
  cases h with
  | left hx hy => exact .right hx hy
  | right hx hy => exact .left hx hy
  | top hx hy => exact .bot hx hy
  | bot hx hy => exact .top hx hy

theorem Adjacent.linkSlaveP {x y l x' y' l' : ℕ} (h : Adjacent dim x y l x' y' l') :
    (network dim).linkSlaveP (.hmc (dim * y + x) l) = some (.hmc (dim * y' + x') l') := by
  obtain ⟨hx, hy, -, -⟩ := h.bounds
  have hlink : l < numLinks := by cases h <;> decide
  change wiring dim (.hmc (dim * y + x) l) = _
  rw [wiring_hmc hx hy hlink]
  cases h with
  | left hx hy => simp [farEnd, leftLink, rightLink, ← Nat.add_assoc]
  | right hx hy => simp [farEnd, rightLink, leftLink, Nat.lt_sub_of_add_lt hx, Nat.add_assoc]
  | top hx hy => simp [farEnd, topLink, botLink, Nat.mul_succ]; omega
  | bot hx hy =>
    simp only [farEnd, botLink, topLink, Nat.lt_sub_of_add_lt hy, if_true, Nat.mul_succ]
    rw [Nat.add_right_comm]

/-- The link towards a neighbour is the link it is on. -/
theorem Adjacent.findNextLink {x y l x' y' l' : ℕ} (h : Adjacent dim x y l x' y' l') (req : Bool) :
    (network dim).findNextLink (dim * y + x) (dim * y' + x') req = l := by
  obtain ⟨hx, -, hx', -⟩ := h.bounds
  rw [findNextLink_pos hx hx']
  cases h <;> simp

theorem Adjacent.hop {x y l x' y' l' d : ℕ} {req : Bool} (h : Adjacent dim x y l x' y' l')
    (hl : (network dim).findNextLink (dim * y + x) d req = l) :
    (network dim).hop req (dim * y + x) d = some (dim * y' + x', l') := by
  rw [Network.hop, hl, h.linkSlaveP]

theorem Adjacent.neighborCubeID {x y l x' y' l' : ℕ} (h : Adjacent dim x y l x' y' l') :
    (network dim).neighborCubeID (dim * y + x) l = dim * y' + x' := by
  rw [Network.neighborCubeID, h.linkSlaveP]

/-- Towards any other position the link leads to a neighbour that is closer. -/
theorem findNextLink_adjacent {x y dx dy : ℕ} (hx : x < dim) (hy : y < dim) (hdx : dx < dim)
    (hdy : dy < dim) (hne : ¬ (x = dx ∧ y = dy)) (req : Bool) :
    ∃ x' y' l', Adjacent dim x y ((network dim).findNextLink (dim * y + x) (dim * dy + dx) req)
        x' y' l' ∧
      Nat.dist x' dx + Nat.dist y' dy + 1 = Nat.dist x dx + Nat.dist y dy := by
  rw [findNextLink_pos hx hdx, if_neg hne]
  split
  · by_cases hless : dx < x
    · obtain ⟨x, rfl⟩ : ∃ x', x = x' + 1 := ⟨x - 1, by omega⟩
      rw [if_pos hless]
      refine ⟨x, y, rightLink, .left hx hy, ?_⟩
      simp only [Nat.dist]
      omega
    · rw [if_neg hless]
      refine ⟨x + 1, y, leftLink, .right (by omega) hy, ?_⟩
      simp only [Nat.dist]
      omega
  · by_cases hless : dy < y
    · obtain ⟨y, rfl⟩ : ∃ y', y = y' + 1 := ⟨y - 1, by omega⟩
      rw [if_pos hless]
      refine ⟨x, y, botLink, .top hx hy, ?_⟩
      simp only [Nat.dist]
      omega
    · rw [if_neg hless]
      refine ⟨x, y + 1, topLink, .bot hx (by omega), ?_⟩
      simp only [Nat.dist]
      omega

/-! ## Forward routes -/

def Between (a b c : ℕ) : Prop := (a ≤ b ∧ b ≤ c) ∨ (c ≤ b ∧ b ≤ a)

/-- The positions of the forward route: along the root's row to the
    destination's column, then along that column. -/
def OnRoutePos (rx ry dx dy x y : ℕ) : Prop :=
  (y = ry ∧ Between rx x dx) ∨ (x = dx ∧ Between ry y dy)

/-- A forward hop stays on the route, and the Y-first rule points back along
    the link of arrival. -/
theorem onRoutePos_step {rx ry dx dy x y x' y' l l' : ℕ} (hx : x < dim) (hrx : rx < dim)
    (hdx : dx < dim) (hon : OnRoutePos rx ry dx dy x y) (hne : ¬ (x = dx ∧ y = dy))
    (hl : (network dim).findNextLink (dim * y + x) (dim * dy + dx) false = l)
    (hadj : Adjacent dim x y l x' y' l') :
    OnRoutePos rx ry dx dy x' y' ∧ ¬ (x' = rx ∧ y' = ry) ∧
      (network dim).findNextLink (dim * y' + x') (dim * ry + rx) true = l' := by
  obtain ⟨-, -, hx', -⟩ := hadj.bounds
  rw [findNextLink_pos hx hdx, if_neg hne] at hl
  rw [findNextLink_pos hx' hrx]
  simp only [OnRoutePos, Between] at *
  cases hadj <;> simp only [leftLink, topLink, rightLink, botLink] at hl ⊢ <;> grind

theorem onRoute_pos {rx ry dx dy cube : ℕ} (hrx : rx < dim) (hry : ry < dim) (hdx : dx < dim)
    (hdy : dy < dim) (hon : (network dim).OnRoute (dim * ry + rx) (dim * dy + dx) cube) :
    ∃ x y, x < dim ∧ y < dim ∧ cube = dim * y + x ∧ OnRoutePos rx ry dx dy x y := by
  induction hon with
  | source =>
    refine ⟨rx, ry, hrx, hry, rfl, Or.inl ⟨rfl, ?_⟩⟩
    simp only [Between]
    omega
  | next _ hne hhop ih =>
    obtain ⟨x, y, hx, hy, rfl, hon⟩ := ih
    have hne' : ¬ (x = dx ∧ y = dy) := by
      rintro ⟨rfl, rfl⟩
      exact hne rfl
    obtain ⟨x', y', l', hadj, -⟩ := findNextLink_adjacent hx hy hdx hdy hne' false
    rw [hadj.hop rfl] at hhop
    obtain ⟨rfl, -⟩ : dim * y' + x' = _ ∧ l' = _ := by simpa using hhop
    obtain ⟨-, -, hx', hy'⟩ := hadj.bounds
    exact ⟨x', y', hx', hy', rfl, (onRoutePos_step hx hrx hdx hon hne' rfl hadj).1⟩

theorem network_parent_of_hop {root dest cube node link : ℕ} (hroot : root < dim * dim)
    (hdest : dest < dim * dim) (hon : (network dim).OnRoute root dest cube) (hne : cube ≠ dest)
    (hhop : (network dim).hop false cube dest = some (node, link)) :
    node < dim * dim ∧ node ≠ root ∧ (network dim).parentLink node root = link ∧
      (network dim).parentCube node root = cube := by
  obtain ⟨rx, ry, hrx, hry, rfl⟩ := exists_pos hroot
  obtain ⟨dx, dy, hdx, hdy, rfl⟩ := exists_pos hdest
  obtain ⟨x, y, hx, hy, rfl, hpos⟩ := onRoute_pos hrx hry hdx hdy hon
  have hne' : ¬ (x = dx ∧ y = dy) := by
    rintro ⟨rfl, rfl⟩
    exact hne rfl
  obtain ⟨x', y', l', hadj, -⟩ := findNextLink_adjacent hx hy hdx hdy hne' false
  rw [hadj.hop rfl] at hhop
  obtain ⟨rfl, rfl⟩ : dim * y' + x' = node ∧ l' = link := by simpa using hhop
  obtain ⟨-, -, hx', hy'⟩ := hadj.bounds
  obtain ⟨-, hne_root, hback⟩ := onRoutePos_step hx hrx hdx hpos hne' rfl hadj
  refine ⟨pos_lt hx' hy', fun h => hne_root (pos_injective hx' hrx h), hback, ?_⟩
  rw [Network.parentCube, Network.parentLink, hback, hadj.symm.neighborCubeID]

/-- The distance of a cube from the root, in hops. -/
def distance (dim root cube : ℕ) : ℕ :=
  Nat.dist (cube % dim) (root % dim) + Nat.dist (cube / dim) (root / dim)

theorem distance_pos {x y rx ry : ℕ} (hx : x < dim) (hrx : rx < dim) :
    distance dim (dim * ry + rx) (dim * y + x) = Nat.dist x rx + Nat.dist y ry := by
  have hdim : 0 < dim := by omega
  simp [distance, Nat.mod_eq_of_lt hx, Nat.mod_eq_of_lt hrx, Nat.mul_add_div hdim,
    Nat.div_eq_of_lt hx, Nat.div_eq_of_lt hrx]

/-- The parent of a cube is its neighbour on the link towards the root. -/
theorem exists_parent {root cube : ℕ} (hroot : root < dim * dim) (hcube : cube < dim * dim)
    (hne : cube ≠ root) :
    ∃ x y x' y' l', cube = dim * y + x ∧
      Adjacent dim x y ((network dim).parentLink cube root) x' y' l' ∧
      (network dim).parentCube cube root = dim * y' + x' ∧
      distance dim root (dim * y' + x') < distance dim root cube := by
  obtain ⟨rx, ry, hrx, hry, rfl⟩ := exists_pos hroot
  obtain ⟨x, y, hx, hy, rfl⟩ := exists_pos hcube
  have hne' : ¬ (x = rx ∧ y = ry) := by
    rintro ⟨rfl, rfl⟩
    exact hne rfl
  obtain ⟨x', y', l', hadj, hdist⟩ := findNextLink_adjacent hx hy hrx hry hne' true
  obtain ⟨-, -, hx', -⟩ := hadj.bounds
  refine ⟨x, y, x', y', l', rfl, hadj, hadj.neighborCubeID, ?_⟩
  rw [distance_pos hx hrx, distance_pos hx' hrx]
  omega

theorem network_treeConsistent (dim : ℕ) : (network dim).TreeConsistent where
  parent_of_hop := network_parent_of_hop
  response_hop := by
    intro root cube hroot hcube hne
    obtain ⟨x, y, x', y', l', rfl, hadj, hparent, -⟩ := exists_parent hroot hcube hne
    rw [hparent]
    exact ⟨hadj.findNextLink false, l', hadj.hop (hadj.findNextLink false)⟩
  parents_reach := by
    intro root cube hroot hcube
    refine Network.parents_reach_of_rank _ (distance dim root) ?_ hcube
    intro c hc hne
    obtain ⟨x, y, x', y', l', rfl, hadj, hparent, hless⟩ := exists_parent hroot hc hne
    obtain ⟨-, -, hx', hy'⟩ := hadj.bounds
    exact hparent ▸ ⟨pos_lt hx' hy', hless⟩

end ActiveRouting.MeshNet

namespace ActiveRouting.Network

/-- In every dragonfly and every mesh the parent link of a cube is the link by
    which the forward route came in, all updates of a flow that reach a cube
    name one parent there, and the parents lead back to the root. -/
theorem parentLink_consistent :
    (∀ k, (DFly.network (2 ^ k)).TreeConsistent ∧ (DFly.network (2 ^ k)).SingleParent) ∧
      ∀ dimension, (MeshNet.network dimension).TreeConsistent ∧
        (MeshNet.network dimension).SingleParent :=
  ⟨fun k => ⟨DFly.network_treeConsistent k, (DFly.network_treeConsistent k).singleParent⟩,
    fun dimension => ⟨MeshNet.network_treeConsistent dimension,
      (MeshNet.network_treeConsistent dimension).singleParent⟩⟩

end ActiveRouting.Network

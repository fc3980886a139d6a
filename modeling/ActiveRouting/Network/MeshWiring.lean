import ActiveRouting.Network.MeshRouting

/-!
# The wiring of the mesh

The links between the cubes are attached as the routing function takes them,
but the constructor attaches four controllers for each row and column, of
which the network has four in all.
-/

namespace ActiveRouting.MeshNet

variable {dim : ℕ}

/-- The number of controllers that the constructor allocates. -/
def ncpus : ℕ := 4

/-- The connections of the end `m` of a link. -/
def connections (dim : ℕ) (m : LinkEnd) : List (LinkEnd × LinkEnd) :=
  (meshLinks dim).filter fun a => a.1 = m

/-- Every link between two cubes is attached once, to the facing link of the neighbour, and
    there are no others. -/
structure LinksAttached (dim : ℕ) : Prop where
  once : ∀ {x y l x' y' l' : ℕ}, Adjacent dim x y l x' y' l' →
    connections dim (.hmc (dim * y + x) l) = [(.hmc (dim * y + x) l, .hmc (dim * y' + x') l')]
  matching : ∀ {x y l x' y' l' : ℕ}, Adjacent dim x y l x' y' l' →
    wiring dim (.hmc (dim * y + x) l) = some (.hmc (dim * y' + x') l') ∧
      wiring dim (.hmc (dim * y' + x') l') = some (.hmc (dim * y + x) l)
  only : ∀ {node l node' l' : ℕ}, (LinkEnd.hmc node l, LinkEnd.hmc node' l') ∈ meshLinks dim →
    ∃ x y x' y', node = dim * y + x ∧ node' = dim * y' + x' ∧ Adjacent dim x y l x' y' l'

/-- Every controller that a link is attached to exists. -/
def ControllersExist (dim : ℕ) : Prop :=
  ∀ cont e, (LinkEnd.hmcCont cont, e) ∈ meshLinks dim ∨ (e, LinkEnd.hmcCont cont) ∈ meshLinks dim →
    cont < ncpus

/-- From every cube, and from the cube of every controller, packets reach every cube. -/
structure Reaches (dim : ℕ) : Prop where
  cube : ∀ src < dim * dim, ∀ dest < dim * dim, ∀ req,
    ∃ hops, (network dim).walk req src dest hops = some dest
  controller : ∀ cont src l, wiring dim (.hmcCont cont) = some (.hmc src l) →
    ∀ dest < dim * dim, ∃ hops, (network dim).walk false src dest hops = some dest

/-- What comes back to the cube of a controller leaves it on the link to the controller. -/
def Returns (dim : ℕ) : Prop :=
  ∀ cont cube l, wiring dim (.hmcCont cont) = some (.hmc cube l) →
    wiring dim (.hmc cube ((network dim).findNextLink cube cube false)) = some (.hmcCont cont)

/-- What is expected of the wiring of a mesh. -/
structure WellWired (dim : ℕ) : Prop where
  links : LinksAttached dim
  controllers : ControllersExist dim
  reaches : Reaches dim
  returns : Returns dim

/-! ## Links between cubes -/

theorem mem_meshLinks {m e : LinkEnd} : (m, e) ∈ meshLinks dim ↔
    ∃ x y, x < dim ∧ y < dim ∧ (m, e) ∈ cubeLinks dim y x := by
  simp only [meshLinks, List.mem_flatMap, List.mem_range]
  constructor
  · rintro ⟨y, hy, x, hx, h⟩
    exact ⟨x, y, hx, hy, h⟩
  · rintro ⟨x, y, hx, hy, h⟩
    exact ⟨y, hy, x, hx, h⟩

/-- A cube's own link is attached once in the pass for the cube. -/
theorem cubeLinks_filter {x y l : ℕ} (hl : l < numLinks) :
    (cubeLinks dim y x).filter (fun a => a.1 = .hmc (dim * y + x) l) =
      [(.hmc (dim * y + x) l, farEnd dim y x l)] := by
  simp only [numLinks] at hl
  unfold cubeLinks
  simp only [List.filter_append]
  interval_cases l <;> split <;> split <;> split <;> split <;>
    simp_all [farEnd, leftLink, topLink, rightLink, botLink]

theorem cubeLinks_filter_of_ne {x y node l : ℕ} (hne : node ≠ dim * y + x) :
    (cubeLinks dim y x).filter (fun a => a.1 = .hmc node l) = [] := by
  rw [List.filter_eq_nil_iff]
  rintro ⟨m, e⟩ hmem hm
  obtain rfl : m = .hmc node l := by simpa using hm
  exact hne (mem_cubeLinks.mp hmem).1

theorem flatMap_range_single {α : Type} {f : ℕ → List α} {i : ℕ} :
    ∀ {n : ℕ}, i < n → (∀ j, j ≠ i → f j = []) → (List.range n).flatMap f = f i
  | 0, hi, _ => by omega
  | n + 1, hi, hothers => by
    rw [List.range_succ, List.flatMap_append, List.flatMap_singleton]
    by_cases hin : i = n
    · subst hin
      have hbefore : (List.range i).flatMap f = [] :=
        List.flatMap_eq_nil_iff.mpr fun j hj => hothers j (by simp at hj; omega)
      rw [hbefore, List.nil_append]
    · rw [flatMap_range_single (by omega) hothers, hothers n (Ne.symm hin), List.append_nil]

theorem connections_pos {x y l : ℕ} (hx : x < dim) (hy : y < dim) (hl : l < numLinks) :
    connections dim (.hmc (dim * y + x) l) = [(.hmc (dim * y + x) l, farEnd dim y x l)] := by
  rw [connections, meshLinks, List.filter_flatMap, flatMap_range_single hy, List.filter_flatMap,
    flatMap_range_single hx]
  · exact cubeLinks_filter hl
  · intro x' hx'
    exact cubeLinks_filter_of_ne fun h => hx' (by omega)
  · intro y' hy'
    rw [List.filter_flatMap, List.flatMap_eq_nil_iff]
    intro x' hx'
    refine cubeLinks_filter_of_ne fun h => hy' ?_
    exact (pos_injective hx (List.mem_range.mp hx') h).2.symm

theorem Adjacent.farEnd {x y l x' y' l' : ℕ} (h : Adjacent dim x y l x' y' l') :
    l < numLinks ∧ MeshNet.farEnd dim y x l = .hmc (dim * y' + x') l' := by
  obtain ⟨hx, hy, -, -⟩ := h.bounds
  have hl : l < numLinks := by cases h <;> decide
  exact ⟨hl, Option.some.inj ((wiring_hmc hx hy hl).symm.trans h.linkSlaveP)⟩

/-- A link that leads to a cube leads to a neighbour. -/
theorem adjacent_of_farEnd {x y l node' l' : ℕ} (hx : x < dim) (hy : y < dim) (hl : l < numLinks)
    (h : .hmc node' l' = farEnd dim y x l) :
    ∃ x' y', node' = dim * y' + x' ∧ Adjacent dim x y l x' y' l' := by
  simp only [numLinks] at hl
  interval_cases l <;> simp only [farEnd] at h <;> split at h <;> cases h
  · obtain ⟨x, rfl⟩ : ∃ x', x = x' + 1 := ⟨x - 1, by omega⟩
    exact ⟨x, y, by omega, .left hx hy⟩
  · obtain ⟨y, rfl⟩ : ∃ y', y = y' + 1 := ⟨y - 1, by omega⟩
    exact ⟨x, y, by rw [Nat.mul_succ]; omega, .top hx hy⟩
  · exact ⟨x + 1, y, by omega, .right (by omega) hy⟩
  · exact ⟨x, y + 1, by rw [Nat.mul_succ]; omega, .bot hx (by omega)⟩

theorem linksAttached (dim : ℕ) : LinksAttached dim where
  once h := by
    obtain ⟨hx, hy, -, -⟩ := h.bounds
    obtain ⟨hl, hfar⟩ := h.farEnd
    rw [connections_pos hx hy hl, hfar]
  matching h := ⟨h.linkSlaveP, h.symm.linkSlaveP⟩
  only h := by
    obtain ⟨x, y, hx, hy, hmem⟩ := mem_meshLinks.mp h
    obtain ⟨rfl, hl, hfar⟩ := mem_cubeLinks.mp hmem
    obtain ⟨x', y', rfl, hadj⟩ := adjacent_of_farEnd hx hy hl hfar
    exact ⟨x, y, x', y', rfl, rfl, hadj⟩

/-! ## Controllers -/

/-- The links of controllers that are connected in the pass for one cube. -/
theorem mem_cubeLinks_hmcCont {y x cont : ℕ} {e : LinkEnd} :
    (LinkEnd.hmcCont cont, e) ∈ cubeLinks dim y x ↔
      (x = 0 ∧ cont = y ∧ e = .hmc (dim * y + x) 0) ∨
      (y = 0 ∧ cont = dim + x ∧ e = .hmc (dim * y + x) 1) ∨
      (¬ x < dim - 1 ∧ cont = 2 * dim + y ∧ e = .hmc (dim * y + x) 2) ∨
      (¬ y < dim - 1 ∧ cont = 3 * dim + x ∧ e = .hmc (dim * y + x) 3) := by
  simp only [cubeLinks, List.mem_append, or_assoc]
  refine or_congr ?_ (or_congr ?_ (or_congr ?_ ?_)) <;> split <;> simp_all <;> omega

/-- A connection comes from an assignment. -/
theorem mem_of_connectAll {m e : LinkEnd} :
    ∀ {as : List (LinkEnd × LinkEnd)} {w : Wiring}, w.connectAll as m = some e →
      w m = some e ∨ (m, e) ∈ as
  | [], _, h => .inl h
  | (m', e') :: as, w, h => by
    rw [Wiring.connectAll_cons] at h
    rcases mem_of_connectAll h with hw | hmem
    · by_cases hm : m = m'
      · subst hm
        obtain rfl : e' = e := by simpa [Wiring.connect] using hw
        exact .inr List.mem_cons_self
      · exact .inl (by simpa [Wiring.connect, hm] using hw)
    · exact .inr (List.mem_cons_of_mem _ hmem)

/-- A controller is at a cube of the mesh. -/
theorem wiring_hmcCont_lt {cont cube l : ℕ}
    (h : wiring dim (.hmcCont cont) = some (.hmc cube l)) : cube < dim * dim := by
  rcases mem_of_connectAll h with hnone | hmem
  · cases hnone
  · obtain ⟨x, y, hx, hy, hpass⟩ := mem_meshLinks.mp hmem
    rcases mem_cubeLinks_hmcCont.mp hpass with h | h | h | h <;>
      · cases h.2.2
        exact pos_lt hx hy

theorem ranked (req : Bool) {dest : ℕ} (hdest : dest < dim * dim) :
    Library.Walk.Ranked (fun c => ((network dim).hop req c dest).map Prod.fst) dest
      (· < dim * dim) (distance dim dest) where
  rank_target := by simp [distance]
  step_rank := by
    intro c hc hne
    obtain ⟨x, y, hx, hy, rfl⟩ := exists_pos hc
    obtain ⟨dx, dy, hdx, hdy, rfl⟩ := exists_pos hdest
    have hne' : ¬ (x = dx ∧ y = dy) := by
      rintro ⟨rfl, rfl⟩
      exact hne rfl
    obtain ⟨x', y', l', hadj, hdist⟩ := findNextLink_adjacent hx hy hdx hdy hne' req
    obtain ⟨-, -, hx', hy'⟩ := hadj.bounds
    refine ⟨dim * y' + x', ?_, pos_lt hx' hy', ?_⟩
    · rw [hadj.hop rfl]
      rfl
    · rw [distance_pos hx' hdx, distance_pos hx hdx, hdist]

theorem reaches (dim : ℕ) : Reaches dim where
  cube _ hsrc _ hdest req := ⟨_, (ranked req hdest).follow_target hsrc⟩
  controller _ _ _ h _ hdest := ⟨_, (ranked false hdest).follow_target (wiring_hmcCont_lt h)⟩

/-- The bottom row needs more controllers than there are. -/
theorem not_controllersExist (hdim : 2 ≤ dim) : ¬ ControllersExist dim := by
  intro hexist
  have hmem : (LinkEnd.hmcCont (3 * dim + 1), LinkEnd.hmc (dim * (dim - 1) + 1) 3) ∈
      meshLinks dim :=
    mem_meshLinks.mpr ⟨1, dim - 1, by omega, by omega,
      mem_cubeLinks_hmcCont.mpr (.inr (.inr (.inr ⟨by omega, rfl, rfl⟩)))⟩
  have hlt := hexist _ _ (.inl hmem)
  simp only [ncpus] at hlt
  omega

/-- What comes back to the first cube leaves it to the left, but controller `dim` is above. -/
theorem not_returns (hdim : 2 ≤ dim) : ¬ Returns dim := by
  intro hreturns
  have habove : wiring dim (.hmcCont dim) = some (.hmc 0 1) := by
    apply Wiring.connectAll_of_mem
    · exact mem_meshLinks.mpr ⟨0, 0, by omega, by omega,
        mem_cubeLinks_hmcCont.mpr (.inr (.inl ⟨rfl, rfl, by simp⟩))⟩
    · intro e he
      obtain ⟨x, y, hx, hy, hpass⟩ := mem_meshLinks.mp he
      rcases mem_cubeLinks_hmcCont.mp hpass with h | h | h | h
      · omega
      · obtain ⟨rfl, hcont, rfl⟩ := h
        obtain rfl : x = 0 := by omega
        simp
      · omega
      · omega
  have hback := hreturns dim 0 1 habove
  have hpos : 0 < dim := by omega
  have hleft : (network dim).findNextLink 0 0 false = leftLink := by
    simpa using @findNextLink_pos dim 0 0 0 0 hpos hpos false
  have hfar := wiring_hmc (x := 0) (y := 0) hpos hpos (by decide : leftLink < numLinks)
  rw [hleft] at hback
  simp only [Nat.mul_zero, Nat.add_zero] at hfar
  rw [hfar] at hback
  simp only [farEnd, leftLink, Nat.lt_irrefl, if_false, Option.some.injEq,
    LinkEnd.hmcCont.injEq] at hback
  omega

/-- No mesh with two or more rows is wired as expected: the links between the cubes are attached
    once and lead to every cube, but the constructor attaches controllers that do not exist, and
    replies do not come back to all of them. -/
theorem mesh_wiring (dim : ℕ) (hdim : 2 ≤ dim) :
    ¬ WellWired dim ∧ LinksAttached dim ∧ Reaches dim ∧ ¬ ControllersExist dim ∧ ¬ Returns dim :=
  ⟨fun h => not_controllersExist hdim h.controllers, linksAttached dim, reaches dim,
    not_controllersExist hdim, not_returns hdim⟩

theorem mesh_wiring_four : ¬ WellWired 4 ∧ LinksAttached 4 ∧ Reaches 4 :=
  ⟨(mesh_wiring 4 (by decide)).1, (mesh_wiring 4 (by decide)).2.1,
    (mesh_wiring 4 (by decide)).2.2.1⟩

/-- In the mesh of 16 cubes the left end of the bottom row is attached to controller 12 of 4. -/
theorem mesh_wiring_controller : (LinkEnd.hmc 12 botLink, LinkEnd.hmcCont 12) ∈ meshLinks 4 ∧
    ¬ WellWired 4 :=
  ⟨by decide, fun h => absurd (h.controllers 12 (.hmc 12 botLink) (.inr (by decide))) (by decide)⟩

end ActiveRouting.MeshNet

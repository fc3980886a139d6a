import ActiveRouting.Network.DFlyDelivery

/-!
# Parent links

A flow is a tree of cubes: every cube on a forward route from the flow's root
records as its parent the neighbour on the link that it computes back towards
the root.  `TreeConsistent` says that this link is the one by which the forward
route came in, and that the parents lead back to the root; it is what the
protocol relies on, and holds for the dragonfly and for the mesh.
-/

namespace ActiveRouting

namespace Network

/-- The forward routes and the parent links of a network fit together. -/
structure TreeConsistent (net : Network) : Prop where
  /-- The parent link is the link of arrival, and the parent the cube that sent
      the packet. -/
  parent_of_hop : ∀ {root dest cube node link : ℕ}, root < net.nodes → dest < net.nodes →
    net.OnRoute root dest cube → cube ≠ dest → net.hop false cube dest = some (node, link) →
    node < net.nodes ∧ node ≠ root ∧ net.parentLink node root = link ∧
      net.parentCube node root = cube
  /-- A response addressed to the parent leaves by the parent link and arrives
      there in one hop. -/
  response_hop : ∀ {root cube : ℕ}, root < net.nodes → cube < net.nodes → cube ≠ root →
    net.findNextLink cube (net.parentCube cube root) false = net.parentLink cube root ∧
      ∃ link, net.hop false cube (net.parentCube cube root) =
        some (net.parentCube cube root, link)
  /-- The parents of a cube lead to the root. -/
  parents_reach : ∀ {root cube : ℕ}, root < net.nodes → cube < net.nodes →
    ∃ n, (fun c => net.parentCube c root)^[n] cube = root ∧
      ∀ m < n, (fun c => net.parentCube c root)^[m] cube ≠ root

/-- Routes of one flow that meet in a cube come from one neighbour by one link,
    and that neighbour is the parent which either of them records. -/
def SingleParent (net : Network) : Prop :=
  ∀ {root dest dest' cube cube' node link link' : ℕ}, root < net.nodes → dest < net.nodes →
    dest' < net.nodes → net.OnRoute root dest cube → cube ≠ dest →
    net.hop false cube dest = some (node, link) → net.OnRoute root dest' cube' → cube' ≠ dest' →
    net.hop false cube' dest' = some (node, link') →
    cube = cube' ∧ link = link' ∧ net.parentCube node root = cube

namespace TreeConsistent

variable {net : Network}

theorem onRoute_lt (h : TreeConsistent net) {root dest cube : ℕ} (hroot : root < net.nodes)
    (hdest : dest < net.nodes) (hon : net.OnRoute root dest cube) : cube < net.nodes := by
  cases hon with
  | source => exact hroot
  | next hon hne hhop => exact (h.parent_of_hop hroot hdest hon hne hhop).1

theorem singleParent (h : TreeConsistent net) : net.SingleParent := by
  intro root dest dest' cube cube' node link link' hroot hdest hdest' hon hne hhop hon' hne' hhop'
  obtain ⟨-, -, hlink, hcube⟩ := h.parent_of_hop hroot hdest hon hne hhop
  obtain ⟨-, -, hlink', hcube'⟩ := h.parent_of_hop hroot hdest' hon' hne' hhop'
  exact ⟨hcube.symm.trans hcube', hlink.symm.trans hlink', hcube⟩

end TreeConsistent

/-- Parents that come closer to the root lead there. -/
theorem parents_reach_of_rank (net : Network) {root : ℕ} (rank : ℕ → ℕ)
    (hrank : ∀ c < net.nodes, c ≠ root →
      net.parentCube c root < net.nodes ∧ rank (net.parentCube c root) < rank c) :
    ∀ {cube : ℕ}, cube < net.nodes →
      ∃ n, (fun c => net.parentCube c root)^[n] cube = root ∧
        ∀ m < n, (fun c => net.parentCube c root)^[m] cube ≠ root := by
  intro cube hcube
  induction hr : rank cube using Nat.strong_induction_on generalizing cube with
  | _ r ih =>
    by_cases hroot : cube = root
    · exact ⟨0, hroot, by simp⟩
    · obtain ⟨hlt, hless⟩ := hrank cube hcube hroot
      obtain ⟨n, hn, hfirst⟩ := ih _ (hr ▸ hless) hlt rfl
      refine ⟨n + 1, by rwa [Function.iterate_succ_apply], ?_⟩
      intro m hm
      cases m with
      | zero => exact hroot
      | succ m =>
        rw [Function.iterate_succ_apply]
        exact hfirst m (by omega)

end Network

/-! ## The dragonfly -/

namespace DFly

open ActiveRouting.Library.HierarchicalWords
open ActiveRouting.Library.Numerals

/-- `neighborCubeID` behind an inner wire. -/
theorem network_neighborCubeID {k : ℕ} {c w : List (Fin 4)} {l p : Fin 4} (hc : c.length = k)
    (h : cross l c = some (w, p)) :
    (network (2 ^ k)).neighborCubeID (number c) l = number w := by
  rw [Network.neighborCubeID, network_linkSlaveP]
  have hwire : wiring (4 ^ k) (.hmc (number c) l) = some (wordEnd (w, p)) := wiring_cross hc h
  rw [hwire]
  rfl

/-- The cubes of a forward route are those of the abstract route, and come
    closer to the destination. -/
theorem onRoute_words {k : ℕ} {r d : List (Fin 4)} (hr : r.length = k) (hd : d.length = k)
    {cube : ℕ} (hon : (network (2 ^ k)).OnRoute (number r) (number d) cube) :
    ∃ c : List (Fin 4), c.length = k ∧ number c = cube ∧ OnRoute r d c ∧ hops c d ≤ hops r d := by
  induction hon with
  | source => exact ⟨r, hr, rfl, onRoute_source r d, Nat.le_refl _⟩
  | next _ hne hhop ih =>
    obtain ⟨c, hc, rfl, hon, hless⟩ := ih
    obtain ⟨w, p, hcross, hhops⟩ := hops_nextPort 0 (hc.trans hd.symm) fun h => hne (h ▸ rfl)
    rw [network_hop hc hd, hcross] at hhop
    obtain ⟨rfl, -⟩ : number w = _ ∧ (p : ℕ) = _ := by simpa using hhop
    have hstep := onRoute_step 0 0 (hr.trans hc.symm) (hd.trans hc.symm) (fun h => hne (h ▸ rfl)) hon
      hcross
    exact ⟨w, (cross_length hcross).trans hc, rfl, hstep.1, by omega⟩

theorem network_parent_of_hop {k root dest cube node link : ℕ} (hroot : root < 4 ^ k)
    (hdest : dest < 4 ^ k) (hon : (network (2 ^ k)).OnRoute root dest cube) (hne : cube ≠ dest)
    (hhop : (network (2 ^ k)).hop false cube dest = some (node, link)) :
    node < 4 ^ k ∧ node ≠ root ∧ (network (2 ^ k)).parentLink node root = link ∧
      (network (2 ^ k)).parentCube node root = cube := by
  obtain ⟨r, hr, rfl⟩ := exists_word hroot
  obtain ⟨d, hd, rfl⟩ := exists_word hdest
  obtain ⟨c, hc, rfl, hon_c, hless⟩ := onRoute_words hr hd hon
  have hne' : c ≠ d := fun h => hne (h ▸ rfl)
  obtain ⟨w, p, hcross, hhops⟩ := hops_nextPort 0 (hc.trans hd.symm) hne'
  rw [network_hop hc hd, hcross] at hhop
  obtain ⟨rfl, rfl⟩ : number w = node ∧ (p : ℕ) = link := by simpa using hhop
  have hw : w.length = k := (cross_length hcross).trans hc
  obtain ⟨-, hback⟩ := onRoute_step 0 0 (hr.trans hc.symm) (hd.trans hc.symm) hne' hon_c hcross
  have hlink : (network (2 ^ k)).parentLink (number w) (number r) = p := by
    rw [Network.parentLink, network_findNextLink hw hr, hback]
  refine ⟨hw ▸ number_lt w, ?_, hlink, ?_⟩
  · intro h
    obtain rfl := number_injective (hw.trans hr.symm) h
    omega
  · rw [Network.parentCube, hlink, network_neighborCubeID hw (cross_symm hcross)]

/-- The parent of a cube, as the far end of the wire towards the root. -/
theorem exists_parent {k root cube : ℕ} (hroot : root < 4 ^ k) (hcube : cube < 4 ^ k)
    (hne : cube ≠ root) :
    ∃ (c w : List (Fin 4)) (l p : Fin 4), c.length = k ∧ w.length = k ∧ number c = cube ∧
      cross l c = some (w, p) ∧ (network (2 ^ k)).parentLink cube root = l ∧
      (network (2 ^ k)).parentCube cube root = number w ∧
      distance k root (number w) < distance k root cube := by
  obtain ⟨r, hr, rfl⟩ := exists_word hroot
  obtain ⟨c, hc, rfl⟩ := exists_word hcube
  obtain ⟨w, p, hcross, hhops⟩ := hops_nextPort 0 (hc.trans hr.symm) fun h => hne (h ▸ rfl)
  have hw : w.length = k := (cross_length hcross).trans hc
  have hlink : (network (2 ^ k)).parentLink (number c) (number r) = nextPort 0 c r :=
    network_findNextLink hc hr true
  refine ⟨c, w, nextPort 0 c r, p, hc, hw, rfl, hcross, hlink, ?_, ?_⟩
  · rw [Network.parentCube, hlink, network_neighborCubeID hc hcross]
  · simp only [distance, digits_number hc, digits_number hr, digits_number hw]
    omega

theorem network_treeConsistent (k : ℕ) : (network (2 ^ k)).TreeConsistent where
  parent_of_hop := by
    rw [network_nodes]
    exact network_parent_of_hop
  response_hop := by
    rw [network_nodes]
    intro root cube hroot hcube hne
    obtain ⟨c, w, l, p, hc, hw, rfl, hcross, hlink, hparent, -⟩ := exists_parent hroot hcube hne
    rw [hlink, hparent, network_findNextLink hc hw, network_hop hc hw, nextPort_cross 0 hcross,
      hcross]
    exact ⟨rfl, p, rfl⟩
  parents_reach := by
    intro root cube hroot hcube
    refine Network.parents_reach_of_rank _ (distance k root) ?_ hcube
    intro c hc hne
    rw [network_nodes] at *
    obtain ⟨-, w, -, -, -, hw, -, -, -, hparent, hless⟩ := exists_parent hroot hc hne
    exact hparent ▸ ⟨hw ▸ number_lt w, hless⟩

end DFly

end ActiveRouting

import Mathlib.Data.Finset.Range
import ActiveRouting.Library.GatherTree
import ActiveRouting.Network.MeshWiring
import ActiveRouting.Network.ParentLinks

/-!
# The tree of a flow

The parents that the cubes record for a flow are a tree in which the updates go down
and the answers go up.  A packet with two operands goes down to the cube from which
the routes to the two operands differ.
-/

namespace ActiveRouting

open Library.Walk (Ranked)

namespace Network

/-- What a network of cubes offers to the flows. -/
structure Supports (net : Network) : Prop where
  tree : net.TreeConsistent
  link_lt : ∀ {cube dest : ℕ} (req : Bool), cube < net.nodes → dest < net.nodes →
    net.findNextLink cube dest req < numLinks
  /-- A link between cubes is used in both directions, and it is the one that the cubes
      take towards each other. -/
  adjacent : ∀ {cube link node far : ℕ}, cube < net.nodes → link < numLinks →
    net.linkSlaveP (.hmc cube link) = some (.hmc node far) →
    node < net.nodes ∧ node ≠ cube ∧ far < numLinks ∧
      net.linkSlaveP (.hmc node far) = some (.hmc cube link) ∧
        ∀ req, net.findNextLink cube node req = link
  ranked : ∀ {dest : ℕ}, dest < net.nodes → ∃ rank : ℕ → ℕ,
    Ranked (fun c => (net.hop false c dest).map Prod.fst) dest (· < net.nodes) rank ∧
      ∀ cube < net.nodes, rank cube ≤ net.nodes

/-- A controller is attached to a cube, which takes the controller for the root of its
    flows. -/
structure Attached (net : Network) (cont root : ℕ) : Prop where
  inside : root < net.nodes
  linkIn : net.linkSlaveP (.hmcCont cont) = some (.hmc root (net.parentLink root root))
  linkOut : net.linkSlaveP (.hmc root (net.parentLink root root)) = some (.hmcCont cont)
  parent : net.parentCube root root = root
  answer : net.findNextLink root root false = net.parentLink root root

/-- The tree of the flows with a given root. -/
def flowTree (net : Network) (root : ℕ) : GatherTree.Tree ℕ where
  root := root
  parent cube := if cube = root then root else net.parentCube cube root
  nodes := Finset.range net.nodes
  parent_root := if_pos rfl

variable {net : Network} {root : ℕ}

theorem flowTree_parent {cube : ℕ} (other : cube ≠ root) :
    (net.flowTree root).parent cube = net.parentCube cube root := if_neg other

theorem child_iff {cube node : ℕ} : (net.flowTree root).Child cube node ↔
    node < net.nodes ∧ node ≠ root ∧ net.parentCube node root = cube ∧ node ≠ cube := by
  constructor
  · intro child
    have other : node ≠ root := child.notRoot
    have parent := child.parent
    rw [flowTree_parent other] at parent
    exact ⟨Finset.mem_range.mp child.inside, other, parent, child.ne⟩
  · rintro ⟨inside, other, parent, ne⟩
    exact ⟨Finset.mem_range.mpr inside, other, (flowTree_parent other).trans parent, ne⟩

namespace Supports

variable (supports : net.Supports) (inRoot : root < net.nodes)
include supports inRoot

/-- The links between a cube and its parent. -/
theorem child_links {cube node : ℕ} (child : (net.flowTree root).Child cube node) :
    cube < net.nodes ∧ net.findNextLink cube node false < numLinks ∧
      net.parentLink node root < numLinks ∧
      net.linkSlaveP (.hmc cube (net.findNextLink cube node false)) =
        some (.hmc node (net.parentLink node root)) ∧
      net.linkSlaveP (.hmc node (net.parentLink node root)) =
        some (.hmc cube (net.findNextLink cube node false)) ∧
      net.findNextLink node cube false = net.parentLink node root := by
  obtain ⟨inside, other, rfl, -⟩ := child_iff.mp child
  obtain ⟨sameLink, link, hops⟩ := supports.tree.response_hop inRoot inside other
  have wire := linkSlaveP_of_hop hops
  rw [sameLink] at wire
  have isLink : net.parentLink node root < numLinks := supports.link_lt true inside inRoot
  obtain ⟨inCube, -, inFar, back, direct⟩ := supports.adjacent inside isLink wire
  obtain ⟨-, -, -, -, forth⟩ := supports.adjacent inCube inFar back
  rw [forth false]
  exact ⟨inCube, inFar, isLink, back, wire, sameLink⟩

/-- A hop on a forward route leads to a child. -/
theorem child_of_hop {cube dest node link : ℕ} (inDest : dest < net.nodes)
    (onRoute : net.OnRoute root dest cube) (ne : cube ≠ dest)
    (hops : net.hop false cube dest = some (node, link)) :
    (net.flowTree root).Child cube node ∧ net.findNextLink cube node false =
      net.findNextLink cube dest false := by
  obtain ⟨inside, other, -, parent⟩ :=
    supports.tree.parent_of_hop inRoot inDest onRoute ne hops
  have inCube := supports.tree.onRoute_lt inRoot inDest onRoute
  have isLink : net.findNextLink cube dest false < numLinks :=
    supports.link_lt false inCube inDest
  obtain ⟨-, neCube, -, -, direct⟩ := supports.adjacent inCube isLink (linkSlaveP_of_hop hops)
  exact ⟨child_iff.mpr ⟨inside, other, parent, neCube⟩, direct false⟩

/-- The cubes of a forward route are above its end. -/
theorem above_of_onRoute {dest : ℕ} (inDest : dest < net.nodes) {cube : ℕ}
    (onRoute : net.OnRoute root dest cube) : (net.flowTree root).Above cube dest := by
  obtain ⟨rank, ranked, -⟩ := supports.ranked inDest
  induction isRank : rank cube using Nat.strong_induction_on generalizing cube with
  | _ n ih =>
    by_cases atEnd : cube = dest
    · exact atEnd ▸ .refl _ _
    · have inCube := supports.tree.onRoute_lt inRoot inDest onRoute
      obtain ⟨node, moved, -, falls⟩ := ranked.step_rank cube inCube atEnd
      obtain ⟨⟨node', link⟩, hops, rfl⟩ := Option.map_eq_some_iff.mp moved
      obtain ⟨child, -⟩ := supports.child_of_hop inRoot inDest onRoute atEnd hops
      have closer : rank node' < n := by
        simp only at falls
        omega
      have above := (ih (rank node') closer (onRoute.next atEnd hops) rfl).parent
      rwa [child.parent] at above

end Supports

/-! ## Where an update stops -/

/-- The cube is one of two, or the routes to them part in it. -/
def Parts (net : Network) (dest1 dest2 cube : ℕ) : Prop :=
  cube = dest1 ∨ cube = dest2 ∨
    net.findNextLink cube dest1 false ≠ net.findNextLink cube dest2 false

instance (net : Network) (dest1 dest2 cube : ℕ) : Decidable (net.Parts dest1 dest2 cube) :=
  inferInstanceAs (Decidable (_ ∨ _ ∨ _))

/-- On the way to two cubes, the cube where the ways part, within a number of hops. -/
def splitCube (net : Network) (dest1 dest2 : ℕ) : ℕ → ℕ → ℕ
  | 0, cube => cube
  | n + 1, cube =>
    if net.Parts dest1 dest2 cube then cube
    else
      match net.hop false cube dest1 with
      | some (node, _) => splitCube net dest1 dest2 n node
      | none => cube

/-- The ways from a cube to two others part in a cube. -/
inductive SplitsAt (net : Network) (dest1 dest2 : ℕ) : ℕ → ℕ → Prop where
  | here {cube : ℕ} : net.Parts dest1 dest2 cube → SplitsAt net dest1 dest2 cube cube
  | next {cube node link dest : ℕ} : ¬ net.Parts dest1 dest2 cube →
      net.hop false cube dest1 = some (node, link) → SplitsAt net dest1 dest2 node dest →
      SplitsAt net dest1 dest2 cube dest

theorem SplitsAt.of_parts {dest1 dest2 cube dest : ℕ} (splits : net.SplitsAt dest1 dest2 cube dest)
    (parts : net.Parts dest1 dest2 cube) : dest = cube := by
  cases splits with
  | here => rfl
  | next goesOn => exact absurd parts goesOn

theorem SplitsAt.of_hop {dest1 dest2 cube node link dest : ℕ}
    (splits : net.SplitsAt dest1 dest2 cube dest) (goesOn : ¬ net.Parts dest1 dest2 cube)
    (hops : net.hop false cube dest1 = some (node, link)) : net.SplitsAt dest1 dest2 node dest := by
  cases splits with
  | here parts => exact absurd parts goesOn
  | next _ hops' rest =>
    rw [hops] at hops'
    cases hops'
    exact rest

namespace Supports

theorem splitsAt_splitCube (supports : net.Supports) {dest1 : ℕ} (inDest : dest1 < net.nodes)
    (dest2 : ℕ) {cube : ℕ} (inCube : cube < net.nodes) :
    net.SplitsAt dest1 dest2 cube (net.splitCube dest1 dest2 net.nodes cube) := by
  obtain ⟨rank, ranked, bound⟩ := supports.ranked inDest
  have enough := bound cube inCube
  generalize net.nodes = n at enough ⊢
  induction n generalizing cube with
  | zero =>
    -- no hop is left: the cube is the first of the two
    refine .here (.inl ?_)
    by_contra ne
    obtain ⟨node, -, -, falls⟩ := ranked.step_rank cube inCube ne
    omega
  | succ n ih =>
    rw [splitCube]
    by_cases parts : net.Parts dest1 dest2 cube
    · rw [if_pos parts]
      exact .here parts
    · rw [if_neg parts]
      obtain ⟨node, moved, inside, falls⟩ :=
        ranked.step_rank cube inCube fun same => parts (.inl same)
      obtain ⟨⟨node', link⟩, hops, rfl⟩ := Option.map_eq_some_iff.mp moved
      have enough' : rank node' ≤ n := by
        simp only at falls
        omega
      rw [hops]
      exact .next parts hops (ih inside enough')

/-- The ways to two cubes are the same up to where they part. -/
theorem onRoute_second {dest1 dest2 cube node link : ℕ}
    (goesOn : ¬ net.Parts dest1 dest2 cube) (onRoute : net.OnRoute root dest2 cube)
    (hops : net.hop false cube dest1 = some (node, link)) : net.OnRoute root dest2 node := by
  rw [Parts, not_or, not_or, not_not] at goesOn
  obtain ⟨-, ne, sameLink⟩ := goesOn
  have hops' : net.hop false cube dest2 = some (node, link) := by
    rw [hop, ← sameLink]
    exact hops
  exact onRoute.next ne hops'

end Supports

end Network

/-! ## The dragonfly -/

namespace DFly

open ActiveRouting.Library.HierarchicalWords
open ActiveRouting.Library.Numerals

end DFly

/-! ## The mesh -/

namespace MeshNet

variable {dim : ℕ}

end MeshNet

end ActiveRouting

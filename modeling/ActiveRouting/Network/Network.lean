import Mathlib.Logic.Function.Basic
import ActiveRouting.Library.Walk
import ActiveRouting.Network.RoutingFunction

/-!
# The memory networks

`Network.cpp`: how the constructors of `DFly` and `MeshNet` connect link
masters to link slaves, and what `HMC::RegisterNeighbors` reads from the
result.  A constructor is the list of its assignments to `linkSlaveP` in
program order; the pointers start as `NULL`.
-/

namespace ActiveRouting

/-- One end of a link: link `link` of `hmcs[node]`, or the link of
    `hmcConts[cont]`.  The same names serve for the link masters
    (`upLinkMasters`, `downLinkMasters[0]`) and for the link slaves
    (`downLinkSlaves`, `upLinkSlaves[0]`) of these components. -/
inductive LinkEnd where
  | hmc (node link : ℕ)
  | hmcCont (cont : ℕ)
  deriving DecidableEq, Repr

/-- For each link master the link slave its link leads to:
    `master->linkP->linkSlaveP`. -/
abbrev Wiring := LinkEnd → Option LinkEnd

namespace Wiring

/-- `master->linkP->linkSlaveP = slave`. -/
def connect (w : Wiring) (a : LinkEnd × LinkEnd) : Wiring :=
  Function.update w a.1 (some a.2)

/-- A block of assignments, in program order. -/
def connectAll (w : Wiring) (as : List (LinkEnd × LinkEnd)) : Wiring :=
  as.foldl connect w

theorem connectAll_cons (w : Wiring) (a : LinkEnd × LinkEnd) (as : List (LinkEnd × LinkEnd)) :
    w.connectAll (a :: as) = (w.connect a).connectAll as := rfl

theorem connectAll_of_notMem {m : LinkEnd} :
    ∀ {as : List (LinkEnd × LinkEnd)} {w : Wiring}, (∀ s, (m, s) ∉ as) → w.connectAll as m = w m
  | [], _, _ => rfl
  | (m', s') :: as, w, h => by
    have hne : m ≠ m' := by
      rintro rfl
      exact h s' List.mem_cons_self
    rw [connectAll_cons, connectAll_of_notMem fun s hs => h s (List.mem_cons_of_mem _ hs)]
    exact Function.update_of_ne hne _ _

/-- A master that is only ever connected to `s`, and is connected at least
    once, ends up connected to `s`. -/
theorem connectAll_of_mem {m s : LinkEnd} :
    ∀ {as : List (LinkEnd × LinkEnd)} {w : Wiring}, (m, s) ∈ as →
      (∀ s', (m, s') ∈ as → s' = s) → w.connectAll as m = some s
  | [], _, hmem, _ => by simp at hmem
  | (m', s') :: as, w, hmem, huniq => by
    rw [connectAll_cons]
    by_cases hlater : (m, s) ∈ as
    · exact connectAll_of_mem hlater fun s' hs => huniq s' (List.mem_cons_of_mem _ hs)
    · obtain ⟨rfl, rfl⟩ : m = m' ∧ s = s' := by simpa [hlater] using hmem
      rw [connectAll_of_notMem]
      · exact Function.update_self _ _ _
      · intro s' hs
        exact hlater (huniq s' (List.mem_cons_of_mem _ hs) ▸ hs)

end Wiring

/-- A constructed network: the number of cubes, the links, and the routing
    function the crossbars call (`rf->findNextLink(_, nodeId, dest, req)`). -/
structure Network where
  nodes : ℕ
  linkSlaveP : Wiring
  findNextLink : ℕ → ℕ → Bool → ℕ

namespace Network

/-- `HMC::RegisterNeighbors`: the cube behind a link, or the cube itself where
    the link leads to a controller. -/
def neighborCubeID (net : Network) (cubeID link : ℕ) : ℕ :=
  match net.linkSlaveP (.hmc cubeID link) with
  | some (.hmc node _) => node
  | _ => cubeID

/-- One hop of a packet towards `dest`: the next cube and the link by which the
    packet gets there; `none` where the chosen link leads to no cube. -/
def hop (net : Network) (req : Bool) (cubeID dest : ℕ) : Option (ℕ × ℕ) :=
  match net.linkSlaveP (.hmc cubeID (net.findNextLink cubeID dest req)) with
  | some (.hmc node link) => some (node, link)
  | _ => none

theorem linkSlaveP_of_hop {net : Network} {req : Bool} {cubeID dest node link : ℕ}
    (h : net.hop req cubeID dest = some (node, link)) :
    net.linkSlaveP (.hmc cubeID (net.findNextLink cubeID dest req)) = some (.hmc node link) := by
  rw [hop] at h
  split at h
  · rename_i hw
    rw [hw]
    simpa using h
  · simp at h

/-- The cube a packet for `dest` is at after `n` hops from `src`. -/
def walk (net : Network) (req : Bool) (src dest : ℕ) : ℕ → Option ℕ :=
  Library.Walk.follow (fun c => (net.hop req c dest).map Prod.fst) src

/-- The cubes on the forward route of a packet from `root` to `dest`. -/
inductive OnRoute (net : Network) (root dest : ℕ) : ℕ → Prop where
  | source : OnRoute net root dest root
  | next {cube node link : ℕ} : OnRoute net root dest cube → cube ≠ dest →
      net.hop false cube dest = some (node, link) → OnRoute net root dest node

/-- The link that a cube computes back towards the root of a flow. -/
def parentLink (net : Network) (cubeID root : ℕ) : ℕ := net.findNextLink cubeID root true

/-- The `parent` that a cube records in a flow entry. -/
def parentCube (net : Network) (cubeID root : ℕ) : ℕ :=
  net.neighborCubeID cubeID (net.parentLink cubeID root)

end Network

/-! ## `DFly` -/

namespace DFly

/-- The two-dimensional vectors `LM` and `LS` of the construction. -/
abbrev Rows := ℕ → ℕ → LinkEnd

/-- The intra-group connections of one level, for `n` quads of virtual routers. -/
def intraGroupLinks (n : ℕ) (LM LS : Rows) : List (LinkEnd × LinkEnd) :=
  (List.range n).flatMap fun i =>
    (List.range 4).flatMap fun j =>
      ((List.range numLinks).filter fun l => j ≠ l).map fun l =>
        (LM (i * 4 + j) l, LS (i * 4 + l) j)

/-- `LM_next` and `LS_next`: a quad acts as one virtual router of the level
    above, whose link `j` is link `j` of the quad's member `j`. -/
def nextLevel (rows : Rows) : Rows := fun i j => rows (i * 4 + j) j

/-- The `while (n > 1)` loop. -/
def wireGroups (n : ℕ) (LM LS : Rows) (w : Wiring) : Wiring × Rows × Rows :=
  if 1 < n then
    wireGroups (n / 4) (nextLevel LM) (nextLevel LS)
      (w.connectAll (intraGroupLinks (n / 4) LM LS))
  else (w, LM, LS)
termination_by n
decreasing_by omega

/-- `ncpus`. -/
def ncpus : ℕ := 4

/-- The connections of the controllers to the outer links of the top level. -/
def hostLinks (LM LS : Rows) : List (LinkEnd × LinkEnd) :=
  (List.range ncpus).flatMap fun i => [(.hmcCont i, LS 0 i), (LM 0 i, .hmcCont i)]

/-- All links after the constructor of `DFly`. -/
def wiring (nodes : ℕ) : Wiring :=
  let (w, LM, LS) := wireGroups nodes LinkEnd.hmc LinkEnd.hmc fun _ => none
  w.connectAll (hostLinks LM LS)

/-- The dragonfly network of a given dimension. -/
def network (dimension : ℕ) : Network where
  nodes := dimension * dimension
  linkSlaveP := wiring (dimension * dimension)
  findNextLink := DFlyRF.findNextLink (dimension * dimension)

end DFly

/-! ## `MeshNet` -/

namespace MeshNet

/-- The connections of the cube at `(x, y)`: left, top, right, bottom.  At the
    border a link leads to a controller, and the controller's link back. -/
def cubeLinks (dimension y x : ℕ) : List (LinkEnd × LinkEnd) :=
  let pos := dimension * y + x
  (if 0 < x then [(.hmc pos leftLink, .hmc (pos - 1) rightLink)]
    else [(.hmc pos leftLink, .hmcCont y), (.hmcCont y, .hmc pos 0)]) ++
  (if 0 < y then [(.hmc pos topLink, .hmc (pos - dimension) botLink)]
    else [(.hmc pos topLink, .hmcCont (dimension + x)), (.hmcCont (dimension + x), .hmc pos 1)]) ++
  (if x < dimension - 1 then [(.hmc pos rightLink, .hmc (pos + 1) leftLink)]
    else [(.hmc pos rightLink, .hmcCont (2 * dimension + y)),
      (.hmcCont (2 * dimension + y), .hmc pos 2)]) ++
  (if y < dimension - 1 then [(.hmc pos botLink, .hmc (pos + dimension) topLink)]
    else [(.hmc pos botLink, .hmcCont (3 * dimension + x)),
      (.hmcCont (3 * dimension + x), .hmc pos 3)])

/-- The nested loops over `y` and `x`. -/
def meshLinks (dimension : ℕ) : List (LinkEnd × LinkEnd) :=
  (List.range dimension).flatMap fun y =>
    (List.range dimension).flatMap fun x => cubeLinks dimension y x

/-- All links after the constructor of `MeshNet`. -/
def wiring (dimension : ℕ) : Wiring :=
  Wiring.connectAll (fun _ => none) (meshLinks dimension)

/-- The mesh network of a given dimension. -/
def network (dimension : ℕ) : Network where
  nodes := dimension * dimension
  linkSlaveP := wiring dimension
  findNextLink := MeshRF.findNextLink (dimension * dimension)

end MeshNet

end ActiveRouting

import Mathlib.Data.Nat.Sqrt
import ActiveRouting.SimConfig

/-!
# Next-hop functions

`RoutingFunction.cpp`: the link on which a cube sends a packet towards another
cube, for the dragonfly and for the mesh.  Cube ids and links are natural
numbers; `_nodes` is the number of cubes the function was built for.
-/

namespace ActiveRouting

namespace DFlyRF

/-- The `while (nodes > 1)` loop of `dFlyRF::findNextLink`, with the fall-back
    to `my_quad` after it. -/
def quadLoop (nodes myNode destNode myQuad destQuad : ℕ) : ℕ :=
  if 1 < nodes then
    let destNode := destNode - destQuad * nodes
    let myNode := myNode - myQuad * nodes
    let destQuad := destNode / (nodes / 4)
    let myQuad := myNode / (nodes / 4)
    if myQuad = destQuad then quadLoop (nodes / 4) myNode destNode myQuad destQuad
    else destQuad
  else myQuad
termination_by nodes
decreasing_by omega

/-- `dFlyRF::findNextLink`.  The direction flag `req` is not used. -/
def findNextLink (nodes nodeId dest : ℕ) (_req : Bool) : ℕ :=
  quadLoop nodes nodeId dest 0 0

end DFlyRF

namespace MeshRF

/-- `meshRF::findXY`. -/
def findXY (nodes nodeId : ℕ) : ℕ × ℕ :=
  let dimension := nodes.sqrt
  (nodeId % dimension, nodeId / dimension)

/-- `meshRF::findNextLink`: X before Y for a forward packet, Y before X when
    `req` is set. -/
def findNextLink (nodes nodeId dest : ℕ) (req : Bool) : ℕ :=
  let (myX, myY) := findXY nodes nodeId
  let (destX, destY) := findXY nodes dest
  if req = false then
    if myX = destX then
      if myY = destY then
        if myX = 0 then leftLink else rightLink
      else if destY < myY then topLink else botLink
    else if destX < myX then leftLink else rightLink
  else
    if myY = destY then
      if myX = destX then
        if myX = 0 then leftLink else rightLink
      else if destX < myX then leftLink else rightLink
    else if destY < myY then topLink else botLink

end MeshRF

end ActiveRouting

import StructSearch.Outline.Basic

/-!
# Walking an outline

The nodes below a node in pre-order, and the nodes above it up to the root.

Both are read off the links between parents and children. In an outline that was built by adding
nodes, the bounds used here are never reached.
-/

namespace StructSearch.Outline

/-- The nodes met by a walk from a stack of nodes that are still to visit. A visited node puts its
children on the stack. The walk makes at most the given number of visits. -/
def walk (outline : Outline) : Nat → List NodeId → List NodeId
  | 0, _ => []
  | _ + 1, [] => []
  | visits + 1, id :: stack => id :: outline.walk visits (outline.children id ++ stack)

/-- The nodes below a node in pre-order, without the node itself. No node is visited twice, so the
size of the outline bounds the walk. -/
def descendants (outline : Outline) (id : NodeId) : List NodeId :=
  outline.walk outline.size (outline.children id)

/-- The nodes above a node, from its parent to the root. A parent is older than its children, so
the numbers fall on the way up. -/
def ancestors (outline : Outline) (id : NodeId) : List NodeId :=
  match outline.parent? id with
  | none => []
  | some parent => if _h : parent < id then parent :: outline.ancestors parent else []
termination_by id

/-- Whether a node lies strictly below another one. -/
def isWithin (outline : Outline) (id scope : NodeId) : Bool :=
  (outline.ancestors id).contains scope

/-- The nodes above a node that lie strictly below `scope`; all nodes above it if `scope` is not
among them. -/
def ancestorsWithin (outline : Outline) (id scope : NodeId) : List NodeId :=
  (outline.ancestors id).takeWhile (· != scope)

end StructSearch.Outline

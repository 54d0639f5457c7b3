import StructSearch.Outline.Basic
import StructSearch.Text.Quoted

/-!
# Nodes in words

A node of an outline as a line of text for inspection.
-/

namespace StructSearch.Outline

open Source

/-- A position with the names of its parts. -/
def showPosition (p : Position) : String :=
  "Position \x7b line: " ++ toString p.line ++ ", column: " ++ toString p.column ++ " \x7d"

/-- An extent with the names of its parts. -/
def showExtent (e : Extent) : String :=
  "Extent \x7b start: " ++ showPosition e.start ++ ", end: " ++ showPosition e.stop ++ " \x7d"

/-- The number, kind, spelling and extent of a node. -/
def showNode (id : NodeId) (info : NodeInfo) : String :=
  "Node \x7b id: " ++ toString id ++ ", kind: " ++ info.kind.name ++ ", spelling: " ++
    Text.quoted info.spelling ++ ", extent: " ++ showExtent info.extent ++ " \x7d"

end StructSearch.Outline

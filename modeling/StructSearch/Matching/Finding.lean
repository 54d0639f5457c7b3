import StructSearch.Matching.Resolve
import StructSearch.Text.Bytes

/-!
# Findings

The matches of a pattern in an outline as records of their own: each matched node once, in the
order of the source.

This is what the program hands out: findings do not refer to the outline any more. Two nodes with
the same extent stay in the order in which they were added.
-/

namespace StructSearch.Matching

variable [Regex.Engine]

open Query Source

/-- A matched node, with the path of its file if that is known, its kind and spelling, and where it
stands in lines and columns and in bytes. -/
structure Finding where
  path : Option String
  kind : Kind
  spelling : String
  extent : Extent
  range : ByteRange
  deriving Repr, DecidableEq, Inhabited

namespace Finding

/-- The record of a node. -/
def ofInfo (path : Option String) (info : NodeInfo) : Finding :=
  ⟨path, info.kind, info.spelling, info.extent, info.range⟩

/-- The line on which a match starts. -/
def line (finding : Finding) : Nat := finding.extent.start.line

/-- The matched text of the source, if the bytes of the match lie in it and do not cut a character.
-/
def text? (finding : Finding) (source : String) : Option String :=
  (Text.slice? source.toList finding.range.start finding.range.stop).map String.ofList

/-- A match as `path:line:column: kind spelling`. -/
def print (finding : Finding) : String :=
  let place := match finding.path with
    | some path => path ++ ":"
    | none => ""
  place ++ finding.extent.start.print ++ ": " ++ finding.kind.name ++ " " ++ finding.spelling

end Finding

/-- The order of matches: by extent, then by number, so that what starts earlier comes first. -/
def precedes (outline : Outline) (i j : NodeId) : Bool :=
  let extent (id : NodeId) := ((outline.info? id).map (·.extent)).getD default
  decide (extent i < extent j ∨ extent i = extent j ∧ i ≤ j)

/-- A list without an element that equals the one before it. -/
def dropRepeats : List NodeId → List NodeId
  | [] => []
  | [id] => [id]
  | i :: j :: rest => if i = j then dropRepeats (j :: rest) else i :: dropRepeats (j :: rest)

/-- The matches of a pattern in an outline below its root: each matched node once, sorted. An
operator may list a node more than once, and such repeats are dropped. -/
def collect (outline : Outline) (path : Option String) (mode : Mode) (pattern : Pattern) :
    List Finding :=
  let nodes := (resolve outline mode pattern Outline.root).mergeSort (precedes outline)
  (dropRepeats nodes).filterMap fun id => (outline.info? id).map (Finding.ofInfo path)

end StructSearch.Matching

import StructSearch.Source.ParseTree

/-!
# Syntax faults

The errors that a parser marked in its tree: the outermost marked nodes, in the order of the
source.

The parser marks every node with whether there is an error in it, so that the parts of a tree
without one are not searched.
-/

namespace StructSearch.Source

/-- A stretch of a source that does not parse, or a token that is missing. -/
structure SyntaxFault where
  range : ByteRange
  position : Position
  message : String
  deriving Repr, DecidableEq, Inhabited

/-- The fault of a marked node. -/
def SyntaxFault.ofLabel (source : List Char) (label : Label) : SyntaxFault where
  range := label.range
  position := positionAt source label.range.start
  message := if label.isMissing then "missing " ++ label.name else "syntax error"

namespace ParseTree

mutual

/-- The faults of a tree. What lies inside a fault is not listed, and parts without any fault are
not searched. -/
def faults (source : List Char) : ParseTree → List SyntaxFault
  | node label children =>
    if label.isError || label.isMissing then [SyntaxFault.ofLabel source label]
    else if label.hasError then faultsAll source children
    else []

/-- The faults of a list of trees. -/
def faultsAll (source : List Char) : List ParseTree → List SyntaxFault
  | [] => []
  | tree :: rest => faults source tree ++ faultsAll source rest

end

/-- Whether a tree holds a fault. -/
def hasFaults (tree : ParseTree) : Bool := tree.label.hasError

end ParseTree

end StructSearch.Source

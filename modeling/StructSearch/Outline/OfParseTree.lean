import StructSearch.Outline.Inference
import StructSearch.Outline.Rules

/-!
# Outlines of parse trees

`Outline.ofParseTree` builds the outline of a parse tree by the rules of its constructs and then
fills in the types that only the whole file tells.

This is the whole of the lowering: the state is threaded through the rules from the top node on, and
the second phase is run on the outline that they leave.
-/

namespace StructSearch

open Source

/-- Builds the nodes of a tree below a parent. The trees inside it are smaller, which bounds the
recursion. -/
def buildTree (source : List Char) (role : Role) (tree : ParseTree) (parent : NodeId) :
    Build (Option NodeId) :=
  Rules.rule source
    (fun role inner parent =>
      if _h : inner.size < tree.size then buildTree source role inner parent else return none)
    role tree parent
termination_by tree.size

/-- The draft before any construct is built: the root covers the whole tree, is spelled as the file
is called, and nothing is visible. -/
def Draft.start (source : List Char) (name : String) (tree : ParseTree) : Draft :=
  { outline := .single
      { NodeInfo.ofTree source .fileUnit name tree with isDefinition := true } }

/-- The draft after everything below the top node is built. -/
def Draft.finish (source : List Char) (name : String) (tree : ParseTree) : Draft :=
  ((Rules.children (buildTree source) tree Outline.root).run (Draft.start source name tree)).2

/-- The outline of a source with a parse tree; the root is spelled `name`. -/
def Outline.ofParseTree (source : String) (name : String) (tree : ParseTree) : Outline :=
  let draft := Draft.finish source.toList name tree
  draft.outline.inferTypes draft.results

end StructSearch

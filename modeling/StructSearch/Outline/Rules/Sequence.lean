import StructSearch.Outline.Draft

/-!
# Sequences of constructs

Rules take a function that builds the trees inside their construct. Here it is applied to the trees
of a sequence, in the order of the source.

The order of the nodes of an outline is decided here: each construct is built completely before the
next one is begun.
-/

namespace StructSearch

open Source

/-- How the trees inside a construct are built: from the role of the new node, the tree and the
number of the parent to the number of the main node made, if any. -/
abbrev Recursion : Type := Role → ParseTree → NodeId → Build (Option NodeId)

namespace Rules

/-- Builds the trees that are still to do, in order; a transparent tree gives way to the trees
inside it. The list of pending trees takes the place of a recursion, so that deep nesting of
transparent trees needs no more room. -/
def drain (build : Recursion) (parent : NodeId) (pending : List ParseTree) : Build Unit :=
  match pending with
  | [] => pure ()
  | tree :: rest =>
    if tree.construct.isTransparent then drain build parent (tree.namedChildren ++ rest)
    else do
      let _ ← build .member tree parent
      drain build parent rest
termination_by ParseTree.sizeAll pending
decreasing_by
  · have := ParseTree.sizeAll_namedChildren_lt tree
    simp only [ParseTree.sizeAll_append, ParseTree.sizeAll]
    omega
  · have : 0 < tree.size := by rw [ParseTree.size_eq]; omega
    simp only [ParseTree.sizeAll]
    omega

/-- Builds the constructs inside a tree, its named children, looking through those that are
transparent. -/
def children (build : Recursion) (tree : ParseTree) (parent : NodeId) : Build Unit :=
  drain build parent tree.namedChildren

/-- Builds trees one after the other, each by the rule of its own construct. -/
def each (build : Recursion) (parent : NodeId) : List ParseTree → Build Unit
  | [] => pure ()
  | tree :: rest => do
    let _ ← build .member tree parent
    each build parent rest

/-- Builds a tree if there is one. -/
def optional (build : Recursion) (parent : NodeId) : Option ParseTree → Build Unit
  | none => pure ()
  | some tree => do
    let _ ← build .member tree parent

/-- A branch of conditional compilation: everything but its condition and the name it tests. All
branches of a conditional are built. -/
def branch (build : Recursion) (tree : ParseTree) (parent : NodeId) : Build Unit :=
  let inside := ParseTree.without .name (ParseTree.without .condition tree.children)
  each build parent (inside.filter (·.label.isNamed))

/-- A label such as `public:` sets the access of the members after it. A label with any other text
changes nothing. -/
def accessLabel (source : List Char) (tree : ParseTree) : Build Unit :=
  match Access.ofKeyword? (String.ofList (Text.trim (tree.text source))) with
  | some access => modify (·.withAccess access)
  | none => pure ()

end Rules

end StructSearch

import StructSearch.Outline.Rules.Sequence

/-!
# Rules of expressions

How names, member accesses and calls become nodes of an outline. Other expressions are looked
through, unless they are the argument of a call.

Types are filled in as far as they are known at the place of the expression; the rest is left to the
inference of types after the whole file is lowered.
-/

namespace StructSearch

open Source

namespace Rules

/-- A name that refers to a declaration, with the type of the latest visible one. If none is visible
the type is left empty for the inference. -/
def referenceRule (source : List Char) (role : Role) (tree : ParseTree) (parent : NodeId) :
    Build NodeId := do
  let name := ParseNames.declared source tree
  let draft ← get
  Build.push parent role
    { NodeInfo.ofTree source .declRef name tree with type := (draft.typeOf? name).getD "" }

/-- A member taken from an object. The object is built below it, and the type is left open, since
members of all classes go by their names alone. -/
def memberRule (source : List Char) (build : Recursion) (role : Role) (tree : ParseTree)
    (parent : NodeId) : Build NodeId := do
  let name := match tree.part? .field with
    | some field => ParseNames.declared source field
    | none => ""
  let id ← Build.push parent role (NodeInfo.ofTree source .memberRef name tree)
  optional build id (tree.part? .argument)
  return id

/-- The part of a call's function that holds expressions: the object of a member call, or a
function that is no plain name. -/
def calleeInside? (callee : ParseTree) : Option ParseTree :=
  match callee.construct with
  | .fieldExpression => callee.part? .argument
  | .identifier | .qualifiedIdentifier | .templateFunction => none
  | _ => some callee

/-- Whether a construct is an expression with a node of its own. -/
def isExpression : Construct → Bool
  | .callExpression | .identifier | .qualifiedIdentifier | .fieldExpression => true
  | _ => false

/-- An argument of a call. One without a rule of its own becomes a node with its text, and with its
type if it is a literal, above what is inside it. -/
def argument (source : List Char) (build : Recursion) (call : NodeId) (tree : ParseTree) :
    Build Unit := do
  if isExpression tree.construct then
    let _ ← build .argument tree call
  else
    let id ← Build.push call .argument
      { NodeInfo.ofTree source .otherExpr (tree.words source) tree with
        type := literalType tree.construct (tree.text source) }
    children build tree id

/-- The arguments of a call in order, without the comments between them. -/
def arguments (source : List Char) (build : Recursion) (call : NodeId) :
    List ParseTree → Build Unit
  | [] => pure ()
  | tree :: rest => do
    if tree.construct != .comment then argument source build call tree
    arguments source build call rest

/-- A call, with the result type of the first function of its name that was declared so far. What
stands in the called function is built before the arguments. -/
def callRule (source : List Char) (build : Recursion) (role : Role) (tree : ParseTree)
    (parent : NodeId) : Build NodeId := do
  let callee := tree.part? .function
  let name := match callee with
    | some callee => ParseNames.ofCallee source callee
    | none => ""
  let draft ← get
  let result := (draft.resultOf? name).getD ""
  let id ← Build.push parent role
    { NodeInfo.ofTree source .callExpr name tree with type := result, result }
  optional build id (callee.bind calleeInside?)
  match tree.part? .arguments with
  | some list => arguments source build id list.namedChildren
  | none => pure ()
  return id

end Rules

end StructSearch

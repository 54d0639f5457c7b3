import StructSearch.Outline.Rules.Sequence

/-!
# Rules of namespaces and types

How namespaces, classes, enumerations and names for types become nodes of an outline.

A type without a body makes a node as well, which is then no definition. What stands in a body is
built below the node of the type, and the names declared there are forgotten behind it, but for
those of enumerations.
-/

namespace StructSearch

open Source

namespace Rules

/-- Opens namespaces one inside the other, all with the place of the whole definition. Gives the
first and the innermost of them; for no names nothing is opened. -/
def namespaces (source : List Char) (tree : ParseTree) (parent : NodeId) :
    List String → Build (Option NodeId × NodeId)
  | [] => return (none, parent)
  | name :: names => do
    let id ← Build.push parent .member
      { NodeInfo.ofTree source .namespaceDecl name tree with isDefinition := true }
    let (_, innermost) ← namespaces source tree id names
    return (some id, innermost)

/-- A namespace, or several in the form `a::b`. What stands in the body is built below the innermost
one; the outermost is the node of the construct. -/
def namespaceRule (source : List Char) (build : Recursion) (tree : ParseTree) (parent : NodeId) :
    Build (Option NodeId) := do
  let (first, innermost) ← namespaces source tree parent (ParseNames.ofNamespace source tree)
  match tree.part? .body with
  | some body => Build.inBlock (children build body innermost)
  | none => pure ()
  return first

/-- The name of a class or enumeration; one without a name takes that of its typedef. -/
def specifierName (source : List Char) (fallback : Option String) (tree : ParseTree) : String :=
  match tree.part? .name with
  | some name => ParseNames.ofType source name
  | none => fallback.getD ""

/-- The kind of a class, structure or union. -/
def recordKind (construct : Construct) : Kind :=
  match construct with
  | .classSpecifier => .classDecl
  | .structSpecifier => .structDecl
  | _ => .unionDecl

/-- The type that a class, structure or union declares: its name, with the keyword before it unless
it is a class. Without a name it is empty. -/
def recordType (kind : Kind) (name : String) : String :=
  if name.isEmpty then ""
  else match kind with
    | .structDecl => "struct " ++ name
    | .unionDecl => "union " ++ name
    | _ => name

/-- The access of the first members, before any label: private in a class, public in a structure or
union. -/
def initialAccess (kind : Kind) : Access := if kind = .classDecl then .isPrivate else .isPublic

/-- A class, structure or union. With a body it is a definition, its name is recorded, and its
members are built inside it with the access that they have by default. -/
def recordRule (source : List Char) (build : Recursion) (fallback : Option String)
    (tree : ParseTree) (parent : NodeId) : Build (Option NodeId) := do
  let kind := recordKind tree.construct
  let name := specifierName source fallback tree
  let body := tree.part? .body
  let draft ← get
  let id ← Build.push parent .member
    { NodeInfo.ofTree source kind name tree with
      type := recordType kind name, isDefinition := body.isSome, access := draft.memberAccess }
  match body with
  | none => pure ()
  | some body =>
    modify (·.withClass name)
    Build.inside (.ofClass name (initialAccess kind)) (Build.inBlock (children build body id))
  return some id

/-- The constants of an enumeration, which stay visible after it. Each has the type of the
enumeration; other children of the body, such as the branches of conditional compilation, are passed
over. -/
def enumerators (source : List Char) (build : Recursion) (type : String) (parent : NodeId) :
    List ParseTree → Build Unit
  | [] => pure ()
  | tree :: rest => do
    if tree.construct = .enumerator then
      match tree.part? .name with
      | none => pure ()
      | some name =>
        let spelling := name.words source
        let id ← Build.push parent .member
          { NodeInfo.ofTree source .enumConstant spelling tree with type, isDefinition := true }
        Build.declare spelling type
        optional build id (tree.part? .value)
    enumerators source build type parent rest

/-- An enumeration. It is a definition if it has a body, and its constants are children of its node.
-/
def enumRule (source : List Char) (build : Recursion) (fallback : Option String)
    (tree : ParseTree) (parent : NodeId) : Build (Option NodeId) := do
  let name := specifierName source fallback tree
  let body := tree.part? .body
  let draft ← get
  let id ← Build.push parent .member
    { NodeInfo.ofTree source .enumDecl name tree with
      isDefinition := body.isSome, access := draft.memberAccess }
  match body with
  | none => pure ()
  | some body => enumerators source build name id body.namedChildren
  return some id

/-- A name for a type, in the form `using name = type`. The node has the type as it is written. -/
def aliasRule (source : List Char) (tree : ParseTree) (parent : NodeId) :
    Build (Option NodeId) := do
  let words (part : Part) : String := match tree.part? part with
    | some tree => tree.words source
    | none => ""
  let draft ← get
  let id ← Build.push parent .member
    { NodeInfo.ofTree source .aliasDecl (words .name) tree with
      type := words .type, isDefinition := true, access := draft.memberAccess }
  return some id

end Rules

end StructSearch

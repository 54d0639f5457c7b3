import StructSearch.Outline.Rules.Types

/-!
# Rules of declarations

How functions, variables and typedefs become nodes of an outline. A declaration with several
declarators makes one node for each.

The place of a variable reaches from the start of its declaration to the end of its own declarator,
so that the places of several variables of one declaration overlap.
-/

namespace StructSearch

open Source

namespace Rules

/-- The kind of a function whose name is not qualified, by the class around it: a constructor has
the name of the class. -/
def memberFunctionKind (memberClass : Option String) (name : String) : Kind :=
  match memberClass with
  | some className => if className = name then .ctor else .method
  | none => .functionDecl

/-- The name and kind of a function that is defined outside its class, such as `Widget::draw`. It is
a constructor if it has the name of the scope before it, and a method if that scope is a class with
a body so far. -/
def qualifiedFunction (source : List Char) (classes : List String) (tree : ParseTree) :
    String × Kind :=
  let (scope, inner) := ParseNames.unqualify none tree
  let name := ParseNames.declared source inner
  let scopeName := match scope with
    | some scope => ParseNames.ofType source scope
    | none => ""
  let kind : Kind :=
    if inner.construct = .destructorName then .dtor
    else if !scopeName.isEmpty && scopeName == name then .ctor
    else if classes.contains scopeName then .method
    else .functionDecl
  (name, kind)

/-- The name and kind of a function. A name that starts with `~` is that of a destructor, with or
without qualifiers. -/
def functionNameKind (source : List Char) (draft : Draft) : Option ParseTree → String × Kind
  | none => ("", .functionDecl)
  | some tree =>
    match tree.construct with
    | .destructorName => (tree.words source, .dtor)
    | .qualifiedIdentifier => qualifiedFunction source draft.classes tree
    | _ =>
      let name := ParseNames.declared source tree
      (name, memberFunctionKind draft.memberClass? name)

/-- The parameters of a function, visible from their declaration on. So a default value may refer to
the parameters before it, and is built below its own. -/
def parameters (source : List Char) (build : Recursion) (parent : NodeId) :
    List DeclaredParameter → Build Unit
  | [] => pure ()
  | parameter :: rest => do
    let id ← Build.push parent .argument
      { NodeInfo.ofTree source .paramDecl parameter.name parameter.tree with
        type := parameter.type, isDefinition := true }
    Build.declare parameter.name parameter.type
    optional build id (parameter.tree.part? .defaultValue)
    parameters source build parent rest

/-- The body of a function, after the initial values of the members that it sets, which a
constructor writes before its body. -/
def functionBody (build : Recursion) (tree body : ParseTree) (id : NodeId) : Build Unit := do
  match tree.firstNamed? .fieldInitializerList with
  | some initializers => children build initializers id
  | none => pure ()
  let _ ← build .member body id

/-- A function with a declarator, declared or, with a body, defined by `tree`. The name is visible
after the node is made, so also inside the body; parameters are visible in the body only.
Constructors and destructors have the result type `void`. -/
def function (source : List Char) (build : Recursion) (tree : ParseTree) (declarator : Declarator)
    (signature : ParseTree) (base : BaseType) (parent : NodeId) (body : Option ParseTree) :
    Build NodeId := do
  let draft ← get
  let (name, kind) := functionNameKind source draft declarator.name
  let result := match kind with
    | .ctor | .dtor => "void"
    | _ => declarator.typeSpelling base.spelling
  let declared := DeclaredParameter.ofFunction source signature
  let type := result ++ " (" ++ String.intercalate ", " (declared.map (·.type)) ++ ")"
  let id ← Build.push parent .member
    { NodeInfo.ofTree source kind name tree with
      type, result
      isDefinition := body.isSome
      isVirtual := tree.hasChild .virtualKeyword || tree.hasChild .virtualFunctionSpecifier
      isStatic := hasStorage source tree "static"
      isConst := hasConst source signature
      access := draft.memberAccess }
  Build.declare name type
  modify (·.withResult name result)
  Build.inBlock do
    parameters source build id declared
    match body with
    | some body => Build.inside .ofFunction (functionBody build tree body id)
    | none => pure ()
  return id

/-- The definition of a function. If taking its declarator apart finds no function, it makes
nothing, and its body is not looked at. -/
def functionDefinitionRule (source : List Char) (build : Recursion) (tree : ParseTree)
    (parent : NodeId) : Build (Option NodeId) := do
  match tree.part? .declarator with
  | none => return none
  | some declarator =>
    let declarator := Declarator.ofTree source declarator
    match declarator.function with
    | none => return none
    | some signature =>
      let base := BaseType.ofTree source tree
      let id ← function source build tree declarator signature base parent (tree.part? .body)
      return some id

/-- A variable or data member that one declarator of a declaration declares. It is visible before
its initial value is built. The initial value is that of the declarator, or else the default value
of the whole declaration. -/
def variableRule (source : List Char) (build : Recursion) (tree declaratorTree : ParseTree)
    (declarator : Declarator) (base : BaseType) (parent : NodeId) : Build NodeId := do
  let draft ← get
  let isStatic := hasStorage source tree "static"
  let kind : Kind := if draft.memberClass?.isSome && !isStatic then .fieldDecl else .varDecl
  let name := match declarator.name with
    | some name => ParseNames.declared source name
    | none => ""
  let type := declarator.typeSpelling base.spelling
  let range : ByteRange := ⟨tree.range.start, declaratorTree.range.stop⟩
  let id ← Build.push parent .member
    { kind, spelling := name, type, range, isStatic
      extent := extentOf source range
      isConst := declarator.outerConst.getD base.isConst
      isDefinition := kind == .varDecl && !hasStorage source tree "extern"
      access := draft.memberAccess }
  Build.declare name type
  optional build id (declarator.value.or (tree.part? .defaultValue))
  return id

/-- The functions and variables of a declaration, one for each declarator. Gives the first node,
which is the one that a template around the declaration changes. -/
def declarators (source : List Char) (build : Recursion) (tree : ParseTree) (base : BaseType)
    (parent : NodeId) (first : Option NodeId) : List ParseTree → Build (Option NodeId)
  | [] => return first
  | declaratorTree :: rest => do
    let declarator := Declarator.ofTree source declaratorTree
    let id ← match declarator.function with
      | some signature => function source build tree declarator signature base parent none
      | none => variableRule source build tree declaratorTree declarator base parent
    declarators source build tree base parent (first.or (some id)) rest

/-- The type of a declaration if it is defined on the spot, as in `struct S { int a; } s;`. -/
def inlineType? (tree : ParseTree) : Option ParseTree :=
  (tree.part? .type).filter fun type => (type.part? .body).isSome

/-- The type of a declaration that declares nothing else, such as `struct S;`. -/
def bareType? (tree : ParseTree) : Option ParseTree :=
  (tree.part? .type).filter fun type =>
    (tree.parts .declarator).isEmpty && type.construct.isTypeSpecifier

/-- A declaration of variables, data members, functions or a type. A type that is defined or only
named there comes before the declarators. -/
def declarationRule (source : List Char) (build : Recursion) (tree : ParseTree) (parent : NodeId) :
    Build (Option NodeId) := do
  let first ← match (inlineType? tree).or (bareType? tree) with
    | some type => build .member type parent
    | none => pure none
  declarators source build tree (BaseType.ofTree source tree) parent first (tree.parts .declarator)

/-- The names that a typedef declares. Gives the first node. If the type has no spelling of its own,
all names have the first one as their type. -/
def typedefNames (source : List Char) (tree : ParseTree) (base : BaseType)
    (firstName : Option String) (parent : NodeId) (first : Option NodeId) :
    List ParseTree → Build (Option NodeId)
  | [] => return first
  | declaratorTree :: rest => do
    let declarator := Declarator.ofTree source declaratorTree
    let type :=
      if base.spelling.isEmpty then firstName.getD "" else declarator.typeSpelling base.spelling
    let draft ← get
    let id ← Build.push parent .member
      { NodeInfo.ofTree source .typedefDecl (declarator.words source) tree with
        type, isDefinition := true, access := draft.memberAccess }
    typedefNames source tree base firstName parent (first.or (some id)) rest

/-- A typedef, which also names an unnamed type that is defined in it, after the first of its
declarators. -/
def typedefRule (source : List Char) (build : Recursion) (tree : ParseTree) (parent : NodeId) :
    Build (Option NodeId) := do
  let declaratorTrees := tree.parts .declarator
  let firstName := declaratorTrees.head?.bind fun declaratorTree =>
    (Declarator.ofTree source declaratorTree).name.map (·.words source)
  let first ← match inlineType? tree with
    | some type =>
      if type.construct = .enumSpecifier then enumRule source build firstName type parent
      else recordRule source build firstName type parent
    | none => pure none
  typedefNames source tree (BaseType.ofTree source tree) firstName parent first declaratorTrees

end Rules

end StructSearch

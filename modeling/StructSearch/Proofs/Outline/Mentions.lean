import Mathlib.Tactic
import StructSearch.Outline.Rules

/-!
# Names and their scopes

What a source does with names is told by its mentions: declarations, references, and scopes with
mentions inside. A name is visible from its declaration to the end of the innermost scope around it,
and a reference means the latest visible declaration of its name.

The scopes are the bodies of functions, classes and namespaces, compound statements, and the
statements `for`, `while`, `if` and `switch`, which can declare a name in their header. These last
scopes are kept apart. They can be dissolved, so that their names stay visible after them; that
changes nothing if all names in them are declared inside blocks.

Results:
* `Mention.typesAll`: the types of references, as scopes give them.
* `mentions`, `mentionsOfFile`: the mentions of a parse tree.
* `Mention.dissolvedAll_agrees`: statements that declare nothing can be dissolved.
* `mentions_of_isTransparent`: the mentions of a construct without a rule.
-/

namespace StructSearch

open Source ParseTree

/-- What a source does with names. -/
inductive Mention where
  /-- A declaration of a name with a type. -/
  | declares (name type : String)
  /-- A use of a name. -/
  | refers (name : String)
  /-- A compound statement, or the body of a function, class or namespace. -/
  | block (inside : List Mention)
  /-- Another statement with a scope of its own. -/
  | statement (inside : List Mention)
  deriving Repr, Inhabited

namespace Mention

/-! ## What references mean -/

/-- The visible names after a mention, the latest first. A scope keeps its names to itself. -/
def visibleAfter (visible : List Binding) : Mention → List Binding
  | declares name type => if name.isEmpty then visible else ⟨name, type⟩ :: visible
  | refers _ => visible
  | block _ => visible
  | statement _ => visible

/-- The visible names after some mentions. -/
def visibleAfterAll (visible : List Binding) (mentions : List Mention) : List Binding :=
  mentions.foldl visibleAfter visible

/-- The type of the latest visible declaration of a name. -/
def typeIn? (visible : List Binding) (name : String) : Option String :=
  (visible.find? (·.name == name)).map (·.type)

mutual

/-- The references of a mention in order, each with the type of the latest visible declaration. -/
def types : List Binding → Mention → List (String × Option String)
  | _, declares _ _ => []
  | visible, refers name => [(name, typeIn? visible name)]
  | visible, block inside => typesAll visible inside
  | visible, statement inside => typesAll visible inside

/-- The references of some mentions in order, each with the type of the latest visible
declaration. -/
def typesAll : List Binding → List Mention → List (String × Option String)
  | _, [] => []
  | visible, mention :: rest =>
    types visible mention ++ typesAll (visibleAfter visible mention) rest

end

theorem visibleAfterAll_append (visible : List Binding) (mentions more : List Mention) :
    visibleAfterAll visible (mentions ++ more) =
      visibleAfterAll (visibleAfterAll visible mentions) more :=
  List.foldl_append

theorem typesAll_append (visible : List Binding) (mentions more : List Mention) :
    typesAll visible (mentions ++ more) =
      typesAll visible mentions ++ typesAll (visibleAfterAll visible mentions) more := by
  induction mentions generalizing visible with
  | nil => rfl
  | cons mention rest ih =>
    rw [List.cons_append, typesAll, typesAll, ih, List.append_assoc]
    rfl

/-! ## Statements without a scope -/

mutual

/-- The mention as it would be if statements other than blocks had no scope. -/
def dissolved : Mention → List Mention
  | declares name type => [declares name type]
  | refers name => [refers name]
  | block inside => [block (dissolvedAll inside)]
  | statement inside => dissolvedAll inside

/-- The mentions as they would be if statements other than blocks had no scope. -/
def dissolvedAll : List Mention → List Mention
  | [] => []
  | mention :: rest => dissolved mention ++ dissolvedAll rest

end

theorem dissolvedAll_append (mentions more : List Mention) :
    dissolvedAll (mentions ++ more) = dissolvedAll mentions ++ dissolvedAll more := by
  induction mentions with
  | nil => rfl
  | cons mention rest ih =>
    rw [List.cons_append, dissolvedAll, dissolvedAll, ih, List.append_assoc]

theorem dissolvedAll_singleton (mention : Mention) :
    dissolvedAll [mention] = dissolved mention := by
  rw [dissolvedAll, dissolvedAll, List.append_nil]

/-- Whether a mention is a declaration. -/
def isDeclaration : Mention → Bool
  | declares _ _ => true
  | _ => false

mutual

/-- Whether no statement but blocks declares a name. -/
def isContained : Mention → Bool
  | declares _ _ => true
  | refers _ => true
  | block inside => areContained inside
  | statement inside => inside.all (!·.isDeclaration) && areContained inside

/-- Whether no statement but blocks declares a name, in any of the mentions. -/
def areContained : List Mention → Bool
  | [] => true
  | mention :: rest => isContained mention && areContained rest

end

theorem visibleAfterAll_of_no_declaration {mentions : List Mention}
    (h : mentions.all (!·.isDeclaration) = true) (visible : List Binding) :
    visibleAfterAll visible mentions = visible := by
  induction mentions with
  | nil => rfl
  | cons mention rest ih =>
    rw [List.all_cons, Bool.and_eq_true] at h
    have hmention : visibleAfter visible mention = visible := by
      cases mention with
      | declares => cases h.1
      | refers | block | statement => rfl
    rw [visibleAfterAll, List.foldl_cons, hmention]
    exact ih h.2

mutual

/-- A statement that declares nothing can be dissolved. -/
theorem dissolved_agrees : ∀ (mention : Mention), mention.isContained = true → ∀ visible,
    visibleAfterAll visible mention.dissolved = visibleAfter visible mention ∧
      typesAll visible mention.dissolved = types visible mention
  | declares name type, _, visible => ⟨rfl, rfl⟩
  | refers name, _, visible => ⟨rfl, rfl⟩
  | block inside, h, visible => by
    have hinside := dissolvedAll_agrees inside h visible
    rw [dissolved]
    exact ⟨rfl, by rw [typesAll, types, types, hinside.2, typesAll, List.append_nil]⟩
  | statement inside, h, visible => by
    rw [isContained, Bool.and_eq_true] at h
    have hinside := dissolvedAll_agrees inside h.2 visible
    rw [dissolved, types]
    exact ⟨hinside.1.trans (visibleAfterAll_of_no_declaration h.1 visible), hinside.2⟩

/-- Statements that declare nothing can be dissolved. -/
theorem dissolvedAll_agrees : ∀ (mentions : List Mention), areContained mentions = true →
    ∀ visible, visibleAfterAll visible (dissolvedAll mentions) =
      visibleAfterAll visible mentions ∧
        typesAll visible (dissolvedAll mentions) = typesAll visible mentions
  | [], _, visible => ⟨rfl, rfl⟩
  | mention :: rest, h, visible => by
    rw [areContained, Bool.and_eq_true] at h
    have hmention := dissolved_agrees mention h.1 visible
    have hrest := dissolvedAll_agrees rest h.2 (visibleAfter visible mention)
    rw [dissolvedAll, visibleAfterAll_append, typesAll_append, hmention.1, hmention.2, hrest.1,
      hrest.2]
    exact ⟨rfl, rfl⟩

end

end Mention

/-! ## The mentions of a parse tree -/

/-- The statements that have a scope of their own, as the grammar names them. -/
def scopeStatements : List String :=
  ["compound_statement", "for_statement", "while_statement", "if_statement", "switch_statement"]

/-- What a tree mentions, in a scope of its own if it is a statement that has one. -/
def withScope (tree : ParseTree) (mentions : List Mention) : List Mention :=
  if scopeStatements.contains tree.label.name then [.statement mentions] else mentions

namespace Mentions

section Rules

variable (source : List Char) (inside : Option String → ParseTree → List Mention)
  (memberClass : Option String)

/-- The mentions of the constructs inside a tree. -/
def children (tree : ParseTree) : List Mention :=
  tree.namedChildren.flatMap (inside memberClass)

/-- The mentions of a tree, if there is one. -/
def optional (tree? : Option ParseTree) : List Mention :=
  tree?.toList.flatMap (inside memberClass)

/-- A class, structure or union has a scope. -/
def ofRecord (fallback : Option String) (tree : ParseTree) : List Mention :=
  match tree.part? .body with
  | some body => [.block (children inside (some (Rules.specifierName source fallback tree)) body)]
  | none => []

/-- A constant of an enumeration is declared before its value. -/
def ofEnumerator (type : String) (tree : ParseTree) : List Mention :=
  if tree.construct = .enumerator then
    match tree.part? .name with
    | some name =>
      .declares (name.words source) type :: optional inside memberClass (tree.part? .value)
    | none => []
  else []

/-- An enumeration has no scope: its constants are visible after it. -/
def ofEnum (fallback : Option String) (tree : ParseTree) : List Mention :=
  match tree.part? .body with
  | some body => body.namedChildren.flatMap
      (ofEnumerator source inside memberClass (Rules.specifierName source fallback tree))
  | none => []

/-- The name of a function, and whether it makes or destroys objects of its class. -/
def functionName : Option ParseTree → String × Bool
  | none => ("", false)
  | some tree =>
    match tree.construct with
    | .destructorName => (tree.words source, true)
    | .qualifiedIdentifier =>
      let (scope, inner) := ParseNames.unqualify none tree
      let name := ParseNames.declared source inner
      let className := scope.elim "" (ParseNames.ofType source)
      (name, inner.construct = .destructorName || (!className.isEmpty && className == name))
    | _ =>
      let name := ParseNames.declared source tree
      (name, memberClass == some name)

/-- The type of a function; one that makes or destroys objects has no result. -/
def functionType (declarator : Declarator) (signature : ParseTree) (base : BaseType) : String :=
  let result :=
    if (functionName source memberClass declarator.name).2 then "void"
    else declarator.typeSpelling base.spelling
  result ++ " (" ++
    String.intercalate ", " ((DeclaredParameter.ofFunction source signature).map (·.type)) ++ ")"

/-- A parameter is declared before its default value. -/
def ofParameter (parameter : DeclaredParameter) : List Mention :=
  .declares parameter.name parameter.type ::
    optional inside memberClass (parameter.tree.part? .defaultValue)

/-- The body of a function comes after the members that it sets. -/
def ofBody (tree body : ParseTree) : List Mention :=
  (tree.firstNamed? .fieldInitializerList).toList.flatMap (children inside none) ++
    inside none body

/-- A function is declared before the scope of its parameters and its body. -/
def ofFunction (tree : ParseTree) (declarator : Declarator) (signature : ParseTree)
    (base : BaseType) (body : Option ParseTree) : List Mention :=
  [.declares (functionName source memberClass declarator.name).1
      (functionType source memberClass declarator signature base),
    .block ((DeclaredParameter.ofFunction source signature).flatMap
        (ofParameter inside memberClass) ++
      body.toList.flatMap (ofBody inside tree))]

/-- The definition of a function. -/
def ofFunctionDefinition (tree : ParseTree) : List Mention :=
  match tree.part? .declarator with
  | none => []
  | some declaratorTree =>
    let declarator := Declarator.ofTree source declaratorTree
    match declarator.function with
    | none => []
    | some signature =>
      ofFunction source inside memberClass tree declarator signature
        (BaseType.ofTree source tree) (tree.part? .body)

/-- A declarator declares a function, or a variable before its value. -/
def ofDeclarator (tree declaratorTree : ParseTree) : List Mention :=
  let declarator := Declarator.ofTree source declaratorTree
  let base := BaseType.ofTree source tree
  match declarator.function with
  | some signature => ofFunction source inside memberClass tree declarator signature base none
  | none =>
    .declares (declarator.name.elim "" (ParseNames.declared source))
        (declarator.typeSpelling base.spelling) ::
      optional inside memberClass (declarator.value.or (tree.part? .defaultValue))

/-- A declaration mentions its type if that is defined on the spot, then what it declares. -/
def ofDeclaration (tree : ParseTree) : List Mention :=
  optional inside memberClass ((Rules.inlineType? tree).or (Rules.bareType? tree)) ++
    (tree.parts .declarator).flatMap (ofDeclarator source inside memberClass tree)

/-- A typedef mentions its type if that is defined on the spot. -/
def ofTypedef (tree : ParseTree) : List Mention :=
  let firstName := (tree.parts .declarator).head?.bind fun declaratorTree =>
    (Declarator.ofTree source declaratorTree).name.map (·.words source)
  match Rules.inlineType? tree with
  | some type =>
    if type.construct = .enumSpecifier then ofEnum source inside memberClass firstName type
    else ofRecord source inside firstName type
  | none => []

/-- An argument of a call. -/
def ofArgument (tree : ParseTree) : List Mention :=
  if Rules.isExpression tree.construct then inside memberClass tree
  else withScope tree (children inside memberClass tree)

/-- A call mentions its function, unless that is a plain name, and then its arguments. -/
def ofCall (tree : ParseTree) : List Mention :=
  optional inside memberClass ((tree.part? .function).bind Rules.calleeInside?) ++
    (tree.part? .arguments).toList.flatMap fun list =>
      (list.namedChildren.filter (·.construct != .comment)).flatMap
        (ofArgument inside memberClass)

/-- A branch of conditional compilation. -/
def ofBranch (tree : ParseTree) : List Mention :=
  ((ParseTree.without .name (ParseTree.without .condition tree.children)).filter
    (·.label.isNamed)).flatMap (inside memberClass)

/-- The mentions of a tree, given those of the trees inside it. -/
def ofTree (tree : ParseTree) : List Mention :=
  match tree.construct with
  | .namespaceDefinition =>
    (tree.part? .body).toList.map fun body => .block (children inside memberClass body)
  | .classSpecifier | .structSpecifier | .unionSpecifier => ofRecord source inside none tree
  | .enumSpecifier => ofEnum source inside memberClass none tree
  | .templateDeclaration => optional inside memberClass (Rules.templated? tree)
  | .functionDefinition => ofFunctionDefinition source inside memberClass tree
  | .declaration | .fieldDeclaration => ofDeclaration source inside memberClass tree
  | .typeDefinition => ofTypedef source inside memberClass tree
  | .callExpression => ofCall inside memberClass tree
  | .identifier | .qualifiedIdentifier => [.refers (ParseNames.declared source tree)]
  | .fieldExpression => optional inside memberClass (tree.part? .argument)
  | .compoundStatement => [.block (children inside memberClass tree)]
  | .preprocIf | .preprocIfdef | .preprocElif | .preprocElifdef => ofBranch inside memberClass tree
  | construct =>
    if construct.isTransparent then withScope tree (children inside memberClass tree) else []

/-- A construct without a rule mentions what the constructs inside it mention. -/
theorem ofTree_of_isTransparent {tree : ParseTree} (h : tree.construct.isTransparent = true) :
    ofTree source inside memberClass tree =
      withScope tree (children inside memberClass tree) := by
  unfold ofTree
  split
  case h_20 => exact if_pos h
  all_goals
    next hconstruct =>
      rw [hconstruct] at h
      cases h

end Rules

end Mentions

/-- The mentions of a tree among the members of a class. The trees inside it are smaller, which
bounds the recursion. -/
def mentions (source : List Char) (memberClass : Option String) (tree : ParseTree) :
    List Mention :=
  Mentions.ofTree source
    (fun memberClass inner =>
      if _h : inner.size < tree.size then mentions source memberClass inner else [])
    memberClass tree
termination_by tree.size

/-- The mentions of a file. -/
def mentionsOfFile (source : List Char) (tree : ParseTree) : List Mention :=
  Mentions.children (mentions source) none tree

/-- The mentions of a construct without a rule. -/
theorem mentions_of_isTransparent {source : List Char} {tree : ParseTree}
    (h : tree.construct.isTransparent = true) (memberClass : Option String) :
    mentions source memberClass tree =
      withScope tree (Mentions.children (mentions source) memberClass tree) := by
  rw [mentions, Mentions.ofTree_of_isTransparent source _ memberClass h]
  congr 1
  refine List.flatMap_congr fun child hchild => ?_
  exact dif_pos (size_lt_of_mem_children (List.mem_of_mem_filter hchild))

end StructSearch

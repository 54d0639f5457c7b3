import StructSearch.Outline.Names

/-!
# Declarators and types

A declarator such as `*const (&name)[3] = value` wraps the declared name in pointers, references,
arrays, functions and an initial value. `Declarator.ofTree` takes the wrapping apart, and
`Declarator.typeSpelling` writes the type that it makes of a base type.

The spelling of a type is put together from three texts, for pointers and references, for arrays,
and for a pointer to a function. The order in which pointers and arrays were wrapped around each
other is lost in this.
-/

namespace StructSearch

open Source

/-- The parts of a declarator, as they are collected on the way from its outermost node to the
declared name. -/
structure Declarator where
  /-- The declared name. -/
  name : Option ParseTree := none
  /-- The innermost function declarator, if a function is declared. -/
  function : Option ParseTree := none
  /-- The initial value. -/
  value : Option ParseTree := none
  /-- The marks of pointers and references, from the outermost tree inwards. -/
  pointers : String := ""
  /-- The bounds of arrays, from the innermost tree outwards. -/
  arrays : String := ""
  /-- Whether the outermost pointer is constant, if there is a pointer. -/
  outerConst : Option Bool := none
  /-- The signature of a pointer to a function. -/
  functionPointer : Option String := none
  deriving Inhabited

/-- Whether a tree has a qualifier `const` among its children. -/
def hasConst (source : List Char) (tree : ParseTree) : Bool :=
  tree.namedChildren.any fun child =>
    child.construct == .typeQualifier && child.isText source "const"

/-- Whether a declaration has a storage class, such as `static` or `extern`. -/
def hasStorage (source : List Char) (tree : ParseTree) (keyword : String) : Bool :=
  tree.namedChildren.any fun child =>
    child.construct == .storageClassSpecifier && child.isText source keyword

namespace Declarator

/-- The type that a declarator makes of a base type: the base, a blank, the pointers and references,
and the arrays. The signature of a pointer to a function takes the place of both. -/
def typeSpelling (d : Declarator) (base : String) : String :=
  match d.functionPointer with
  | some signature => base ++ " " ++ signature
  | none =>
    if !d.pointers.isEmpty then base ++ " " ++ d.pointers ++ d.arrays
    else if !d.arrays.isEmpty then base ++ " " ++ d.arrays
    else base

/-- The declarator after the top node of a tree is taken into account, and the tree in which the
declared name lies, if there is more to unwrap. -/
def step (source : List Char) (d : Declarator) (tree : ParseTree) :
    Declarator × Option ParseTree :=
  match tree.construct with
  | .initDeclarator => ({ d with value := tree.part? .value }, tree.part? .declarator)
  | .pointerDeclarator | .abstractPointerDeclarator =>
    let isConst := hasConst source tree
    ({ d with
        outerConst := d.outerConst.or (some isConst)
        pointers := d.pointers ++ "*" ++ if isConst then "const" else "" },
      tree.part? .declarator)
  | .referenceDeclarator | .abstractReferenceDeclarator =>
    let mark := match tree.children.head? with
      | some token => String.ofList (token.text source)
      | none => "&"
    ({ d with pointers := d.pointers ++ mark }, tree.namedChildren.getLast?)
  | .arrayDeclarator | .abstractArrayDeclarator =>
    let bound := match tree.part? .size with
      | some size => size.words source
      | none => ""
    ({ d with arrays := "[" ++ bound ++ "]" ++ d.arrays }, tree.part? .declarator)
  | .parenthesizedDeclarator => (d, tree.namedChildren.head?)
  | .functionDeclarator | .abstractFunctionDeclarator =>
    let inner := tree.part? .declarator
    if inner.any (·.construct == .parenthesizedDeclarator) then
      let parameters := match tree.part? .parameters with
        | some list => list.words source
        | none => ""
      ({ d with functionPointer := some ("(*)" ++ parameters) }, inner)
    else ({ d with function := some tree }, inner)
  | _ => ({ d with name := some tree }, none)

theorem mem_children_of_step_eq {source : List Char} {d e : Declarator} {tree next : ParseTree}
    (h : step source d tree = (e, some next)) : next ∈ tree.children := by
  have of_last {l : List ParseTree} (hl : l.getLast? = some next) : next ∈ l :=
    List.mem_of_getLast? hl
  have of_head {l : List ParseTree} (hl : l.head? = some next) : next ∈ l :=
    List.mem_of_head? hl
  have of_named (hl : next ∈ tree.namedChildren) : next ∈ tree.children :=
    (List.mem_filter.1 hl).1
  unfold step at h
  split at h
  all_goals simp only [Prod.mk.injEq] at h
  · exact ParseTree.mem_children_of_part?_eq h.2
  · exact ParseTree.mem_children_of_part?_eq h.2
  · exact ParseTree.mem_children_of_part?_eq h.2
  · exact of_named (of_last h.2)
  · exact of_named (of_last h.2)
  · exact ParseTree.mem_children_of_part?_eq h.2
  · exact ParseTree.mem_children_of_part?_eq h.2
  · exact of_named (of_head h.2)
  · split at h
    · simp only [Prod.mk.injEq] at h
      exact ParseTree.mem_children_of_part?_eq h.2
    · simp only [Prod.mk.injEq] at h
      exact ParseTree.mem_children_of_part?_eq h.2
  · split at h
    · simp only [Prod.mk.injEq] at h
      exact ParseTree.mem_children_of_part?_eq h.2
    · simp only [Prod.mk.injEq] at h
      exact ParseTree.mem_children_of_part?_eq h.2
  · simp at h

/-- The declarator `d` with the wrapping of a tree added, from the outermost node of the tree to the
declared name. -/
def unwrap (source : List Char) (d : Declarator) (tree : ParseTree) : Declarator :=
  match _h : step source d tree with
  | (d, none) => d
  | (d, some next) => unwrap source d next
termination_by tree.size
decreasing_by exact ParseTree.size_lt_of_mem_children (mem_children_of_step_eq _h)

/-- The parts of the declarator that a tree writes. -/
def ofTree (source : List Char) (tree : ParseTree) : Declarator := unwrap source {} tree

/-- The declared name as it stands in the source. -/
def words (source : List Char) (d : Declarator) : String :=
  match d.name with
  | some name => name.words source
  | none => ""

end Declarator

/-! ## Base types -/

/-- The type written before the declarators of a declaration. -/
structure BaseType where
  spelling : String
  isConst : Bool
  deriving Repr, DecidableEq, Inhabited

/-- The spelling of a type: its words, or for one that is defined on the spot its name alone. A type
that is defined there without a name has no spelling. -/
def typeWords (source : List Char) (tree : ParseTree) : String :=
  match tree.part? .body with
  | none => tree.words source
  | some _ =>
    match tree.part? .name with
    | some name => ParseNames.ofType source name
    | none => ""

/-- The base type of a declaration: its qualifiers, then its type. Qualifiers behind the type are
moved before it. -/
def BaseType.ofTree (source : List Char) (tree : ParseTree) : BaseType :=
  let qualifiers := (tree.namedChildren.filter (·.construct == .typeQualifier)).map (·.words source)
  let type := match tree.part? .type with
    | some type => typeWords source type
    | none => ""
  { spelling := String.intercalate " " ((qualifiers ++ [type]).filter (!·.isEmpty))
    isConst := qualifiers.contains "const" }

/-! ## Parameters -/

/-- A declared parameter. -/
structure DeclaredParameter where
  tree : ParseTree
  name : String
  type : String
  deriving Inhabited

namespace DeclaredParameter

/-- The name and type of a parameter. It may have no name, and no declarator at all; a pack of
parameters has an ellipsis behind its type. -/
def ofTree (source : List Char) (tree : ParseTree) : DeclaredParameter :=
  let base := BaseType.ofTree source tree
  let declarator := match tree.part? .declarator with
    | some declarator => Declarator.ofTree source declarator
    | none => {}
  let type := declarator.typeSpelling base.spelling
  { tree
    name := declarator.words source
    type := if tree.construct = .variadicParameterDeclaration then type ++ "..." else type }

/-- Whether a parameter is the single word `void`, which declares that there are none. A pointer to
`void` is a parameter. -/
def isVoid (source : List Char) (tree : ParseTree) : Bool :=
  (tree.part? .declarator).isNone && (tree.part? .type).any (·.isText source "void")

/-- The parameters that a function declarator declares. Comments and the ellipsis of a variadic
function are no parameters. -/
def ofFunction (source : List Char) (function : ParseTree) : List DeclaredParameter :=
  match function.part? .parameters with
  | none => []
  | some list =>
    (list.namedChildren.filter fun tree => tree.construct.isParameter && !isVoid source tree).map
      (ofTree source)

end DeclaredParameter

/-- The type of a literal, empty for other expressions. A number with a point or an exponent is a
`double`, unless it is hexadecimal, and any other an `int`; suffixes do not count. -/
def literalType (construct : Construct) (text : List Char) : String :=
  match construct with
  | .numberLiteral =>
    if text.any (fun c => c == '.' || c == 'e' || c == 'E') &&
        !List.isPrefixOf ['0', 'x'] text then
      "double"
    else "int"
  | .stringLiteral | .concatenatedString | .rawStringLiteral => "const char *"
  | .charLiteral => "char"
  | .trueLiteral | .falseLiteral => "bool"
  | .nullLiteral | .nullptrLiteral => "std::nullptr_t"
  | _ => ""

end StructSearch

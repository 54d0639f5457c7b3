import StructSearch.Source.ParseTree

/-!
# Names in a source

The names that declarations and expressions go by: without the scopes and template arguments
around them, and with single spaces between their words.

The lowering of declarations and expressions takes all its spellings from here, apart from those of
types, which also depend on declarators.
-/

namespace StructSearch

open Source

namespace ParseNames

/-- The unqualified name of a tree: `a::b::f` is `f`, and `f<int>` is `f`. -/
def declared (source : List Char) (tree : ParseTree) : String :=
  match tree.construct with
  | .qualifiedIdentifier | .templateFunction | .templateMethod =>
    match _h : tree.part? .name with
    | some name => declared source name
    | none => tree.words source
  | _ => tree.words source
termination_by tree.size
decreasing_by exact ParseTree.size_lt_of_part?_eq _h

/-- The unqualified name of a type: `a::B` is `B`, and `B<int>` is `B`. -/
def ofType (source : List Char) (tree : ParseTree) : String :=
  match tree.construct with
  | .templateType | .qualifiedTypeIdentifier =>
    match _h : tree.part? .name with
    | some name => ofType source name
    | none => tree.words source
  | _ => tree.words source
termination_by tree.size
decreasing_by exact ParseTree.size_lt_of_part?_eq _h

/-- The innermost tree that a qualified identifier names and the scope written right before it. A
step without a scope keeps the one before. -/
def unqualify (scope : Option ParseTree) (tree : ParseTree) : Option ParseTree × ParseTree :=
  if tree.construct = .qualifiedIdentifier then
    let scope := (tree.part? .scope).or scope
    match _h : tree.part? .name with
    | some name => unqualify scope name
    | none => (scope, tree)
  else (scope, tree)
termination_by tree.size
decreasing_by exact ParseTree.size_lt_of_part?_eq _h

/-- The name that a call goes by: that of the member or function that is called. It is empty if the
function is no name, as in a call of a call. -/
def ofCallee (source : List Char) (callee : ParseTree) : String :=
  match callee.construct with
  | .fieldExpression =>
    match callee.part? .field with
    | some field => declared source field
    | none => ""
  | .identifier | .qualifiedIdentifier | .templateFunction => declared source callee
  | _ => ""

/-! ## Nested namespaces -/

/-- The pieces of a text between double colons, empty ones included. Of three colons in a row the
first two are taken. -/
def splitColons : List Char → List (List Char)
  | [] => [[]]
  | ':' :: ':' :: rest => [] :: splitColons rest
  | c :: rest =>
    match splitColons rest with
    | [] => [[c]]
    | piece :: pieces => (c :: piece) :: pieces

/-- A text without the word `inline` at its start, however often it stands there. The letters are
dropped whatever follows them, also inside a longer name. -/
def dropInline : List Char → List Char
  | 'i' :: 'n' :: 'l' :: 'i' :: 'n' :: 'e' :: rest => dropInline rest
  | text => text

/-- The names of a namespace written in the form `a::b::c`. White space around each name is dropped,
and so is the keyword `inline` before it. -/
def nested (text : List Char) : List String :=
  (splitColons text).map fun piece =>
    String.ofList (Text.trim (dropInline (Text.trim piece)))

/-- The names of the namespaces that a definition opens, from the outside in. One without a name
opens a single namespace with the empty name. -/
def ofNamespace (source : List Char) (tree : ParseTree) : List String :=
  match tree.part? .name with
  | some name =>
    if name.construct = .nestedNamespaceSpecifier then nested (name.text source)
    else [name.words source]
  | none => [""]

end ParseNames

end StructSearch

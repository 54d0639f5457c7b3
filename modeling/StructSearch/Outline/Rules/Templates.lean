import StructSearch.Outline.Rules.Sequence

/-!
# Rules of templates

A template makes no node of its own: the node of its declaration gains the place of the template and
its parameters.

The parameters come after the children that the node has already, although they stand before them in
the source.
-/

namespace StructSearch

open Source

namespace Rules

/-- The name of the first child that is a type identifier. -/
def typeIdentifier (source : List Char) (tree : ParseTree) : String :=
  match tree.firstNamed? .typeIdentifier with
  | some name => name.words source
  | none => ""

/-- The kind, name and type of a template parameter: of a type, of a value, or of a template.
Anything else between the brackets is no parameter. -/
def templateParameter? (source : List Char) (tree : ParseTree) : Option (Kind × String × String) :=
  match tree.construct with
  | .typeParameterDeclaration | .variadicTypeParameterDeclaration =>
    let name := typeIdentifier source tree
    some (.templateTypeParam, name, name)
  | .optionalTypeParameterDeclaration =>
    let name := match tree.part? .name with
      | some name => name.words source
      | none => ""
    some (.templateTypeParam, name, name)
  | .parameterDeclaration | .optionalParameterDeclaration | .variadicParameterDeclaration =>
    let parameter := DeclaredParameter.ofTree source tree
    some (.templateValueParam, parameter.name, parameter.type)
  | .templateTemplateParameterDeclaration =>
    let name := match tree.namedChildren.getLast? with
      | some declared => typeIdentifier source declared
      | none => ""
    some (.templateTemplateParam, name, "")
  | _ => none

/-- The parameters of a template, added to the node of its declaration in the order of the source.
-/
def templateParameters (source : List Char) (owner : NodeId) : List ParseTree → Build Unit
  | [] => pure ()
  | tree :: rest => do
    match templateParameter? source tree with
    | none => pure ()
    | some (kind, name, type) =>
      let _ ← Build.push owner .template
        { NodeInfo.ofTree source kind name tree with type, isDefinition := true }
    templateParameters source owner rest

/-- The kind of a template of a declaration: there are kinds for templates of classes and of
functions, and all other declarations keep their own. -/
def templateKind : Kind → Kind
  | .classDecl | .structDecl | .unionDecl => .classTemplate
  | .functionDecl | .method => .functionTemplate
  | kind => kind

/-- The declaration that a template makes general: its first construct that is neither its
parameters nor a comment. -/
def templated? (tree : ParseTree) : Option ParseTree :=
  ((ParseTree.without .parameters tree.children).filter (·.label.isNamed)).find?
    (·.construct != .comment)

/-- A template: the node of its declaration gains the template's kind, place and parameters. With an
empty list of parameters, as a specialization has, the kind stays. -/
def templateRule (source : List Char) (build : Recursion) (tree : ParseTree) (parent : NodeId) :
    Build (Option NodeId) := do
  let main ← match templated? tree with
    | some inner => build .member inner parent
    | none => pure none
  match main with
  | none => return none
  | some id =>
    let list := tree.part? .parameters
    let isGeneral := list.any (!·.namedChildren.isEmpty)
    modify fun draft => { draft with
      outline := draft.outline.modifyInfo id fun info => { info with
        kind := if isGeneral then templateKind info.kind else info.kind
        extent := tree.extent source
        range := tree.range } }
    match list with
    | some list => templateParameters source id list.namedChildren
    | none => pure ()
    return some id

end Rules

end StructSearch

import StructSearch.Outline.Basic
import StructSearch.Outline.Declarator

/-!
# Drafts of an outline

While an outline is built from a parse tree, its draft holds the outline so far, the classes and
functions around the current place, the names that are visible there with their types, the names of
the classes defined so far and the result types of the functions declared so far.

This is the state of the part of the program that lowers parse trees to outlines. Nodes are only
ever added to it, and so are classes and results; bindings and frames are restored when a block,
class or function ends.
-/

namespace StructSearch

open Source

/-- What encloses the current place: a class around its members, or a function around its body.
Blocks and namespaces make no frame. -/
inductive Frame where
  /-- A class with a name, and the access of the members that follow. -/
  | ofClass (name : String) (access : Access)
  /-- The body of a function. -/
  | ofFunction
  deriving Repr, DecidableEq, Inhabited

/-- A visible name and its type. -/
structure Binding where
  name : String
  type : String
  deriving Repr, DecidableEq, Inhabited

/-- The state in which an outline is built: the outline so far, and what the rules have to know of
the declarations before and around the current place. -/
structure Draft where
  outline : Outline
  /-- The enclosing classes and functions, the innermost first. -/
  frames : List Frame := []
  /-- The visible names, the latest first. -/
  bindings : List Binding := []
  /-- The names of the classes that have a body so far. -/
  classes : List String := []
  /-- The result type of the first function with each name. -/
  results : List (String × String) := []
  deriving Inhabited

/-- A step in building an outline. -/
abbrev Build : Type → Type := StateM Draft

namespace Draft

/-- The type of the latest visible declaration of a name, so that an inner declaration hides an
outer one. -/
def typeOf? (draft : Draft) (name : String) : Option String :=
  (draft.bindings.find? (·.name == name)).map (·.type)

/-- The result type of the first function with a name. -/
def resultOf? (draft : Draft) (name : String) : Option String := draft.results.lookup name

/-- The class whose members stand at the current place: the innermost enclosing thing, if it is a
class. Inside the body of a function there is none. -/
def memberClass? (draft : Draft) : Option String :=
  match draft.frames with
  | .ofClass name _ :: _ => some name
  | _ => none

/-- The access of a member at the current place, which only the members of a class have. -/
def memberAccess (draft : Draft) : Access :=
  match draft.frames with
  | .ofClass _ access :: _ => access
  | _ => .none

/-- The draft after a node is added. -/
def withNode (draft : Draft) (parent : NodeId) (role : Role) (info : NodeInfo) : Draft :=
  { draft with outline := draft.outline.add parent info role }

/-- The draft in which a name is visible; the empty name never is. -/
def withBinding (draft : Draft) (name type : String) : Draft :=
  if name.isEmpty then draft else { draft with bindings := ⟨name, type⟩ :: draft.bindings }

/-- The draft in which a class is defined; the empty name is not recorded. -/
def withClass (draft : Draft) (name : String) : Draft :=
  if name.isEmpty then draft else { draft with classes := name :: draft.classes }

/-- The draft in which a function is declared; the first result type of a name stays. -/
def withResult (draft : Draft) (name result : String) : Draft :=
  if (draft.resultOf? name).isSome then draft
  else { draft with results := (name, result) :: draft.results }

/-- The draft in which members have an access, if the place is inside a class. A label elsewhere
changes nothing. -/
def withAccess (draft : Draft) (access : Access) : Draft :=
  match draft.frames with
  | .ofClass name _ :: frames => { draft with frames := .ofClass name access :: frames }
  | _ => draft

end Draft

namespace Build

/-- Adds a node and gives its number, which is the number of nodes before it. -/
def push (parent : NodeId) (role : Role) (info : NodeInfo) : Build NodeId :=
  modifyGet fun draft => (draft.outline.size, draft.withNode parent role info)

/-- Makes a name visible. -/
def declare (name type : String) : Build Unit := modify (·.withBinding name type)

/-- Runs a step and forgets the names that it made visible. The names of classes and the results of
functions stay. -/
def inBlock {α : Type} (step : Build α) : Build α := do
  let before ← get
  let value ← step
  modify fun draft => { draft with bindings := before.bindings }
  return value

/-- Runs a step inside a class or function. -/
def inside {α : Type} (frame : Frame) (step : Build α) : Build α := do
  modify fun draft => { draft with frames := frame :: draft.frames }
  let value ← step
  modify fun draft => { draft with frames := draft.frames.tail }
  return value

end Build

/-- The record of a node that covers a tree. -/
def NodeInfo.ofTree (source : List Char) (kind : Kind) (spelling : String) (tree : ParseTree) :
    NodeInfo :=
  { kind, spelling, extent := tree.extent source, range := tree.range }

end StructSearch

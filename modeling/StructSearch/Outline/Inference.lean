import StructSearch.Outline.Walk

/-!
# Types by name

A reference or call that has no type yet takes that of the first declaration of its name in the
file, wherever that stands.

This is the second phase of the lowering, after all nodes are made. It fills in the types that were
not known when a node was made, because the declaration stands further on, and changes nothing else.
-/

namespace StructSearch.Outline

/-- The spellings and types of the nodes below the root whose kind is asked for, in pre-order. Of
several with one spelling the first is found. -/
def declaredTypes (outline : Outline) (ofKind : Kind → Bool) : List (String × String) :=
  (outline.descendants root).filterMap fun id =>
    match outline.info? id with
    | none => none
    | some info => if ofKind info.kind then some (info.spelling, info.type) else none

/-- Declarations that give values: variables, data members, parameters and constants. -/
def isValue : Kind → Bool
  | .varDecl | .fieldDecl | .paramDecl | .enumConstant => true
  | _ => false

/-- The record of a node with its type filled in. A reference takes the type of a value, or else of
a function; a member only that of a value; a call takes the result type of a function. A type that
is known already is kept. -/
def inferInfo (values functions results : List (String × String)) (info : NodeInfo) : NodeInfo :=
  if !info.type.isEmpty then info
  else match info.kind with
    | .declRef =>
      match (values.lookup info.spelling).or (functions.lookup info.spelling) with
      | some type => { info with type }
      | none => info
    | .memberRef =>
      match values.lookup info.spelling with
      | some type => { info with type }
      | none => info
    | .callExpr =>
      match results.lookup info.spelling with
      | some type => { info with type, result := type }
      | none => info
    | _ => info

/-- The outline with every record changed. -/
def mapInfo (outline : Outline) (f : NodeInfo → NodeInfo) : Outline :=
  ⟨outline.slots.map fun slot => { slot with info := f slot.info },
    by simpa using outline.size_pos⟩

/-- The outline with the types of references and calls filled in, given the result types of
functions. -/
def inferTypes (outline : Outline) (results : List (String × String)) : Outline :=
  outline.mapInfo (inferInfo (outline.declaredTypes isValue)
    (outline.declaredTypes Kind.isFunctionDeclaration) results)

end StructSearch.Outline

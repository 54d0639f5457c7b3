import StructSearch.Outline.Walk
import StructSearch.Query.Pattern

/-!
# Qualifiers

Which nodes below a scope a qualifier admits, once as the list of these nodes found on the way
down, and once as a test of a single node on the way up.

The search engine uses the first where it lists matches and the second where it tests a node that
was found in another way. That they agree is proved, not assumed.
-/

namespace StructSearch.Matching

variable [Regex.Engine]

open Query

/-- Whether a node is a scope whose name a qualifier accepts. -/
def isNamedScope (outline : Outline) (name : Field) (id : NodeId) : Bool :=
  match outline.info? id with
  | none => false
  | some info => info.kind.isScope && name.accepts info.spelling

/-- The scopes reached from `scopes` through a chain of names, one level of nesting for each. -/
def descend (outline : Outline) : List Field → List NodeId → List NodeId
  | [], scopes => scopes
  | name :: chain, scopes =>
    descend outline chain
      (scopes.flatMap fun scope => (outline.children scope).filter (isNamedScope outline name))

/-- The nodes below `scope` that a qualifier admits, in pre-order for a single scope. A chain leads
from `scope` itself, one level for each name, to the children of the last scopes. -/
def candidates (outline : Outline) (qualifier : Qualifier) (scope : NodeId) : List NodeId :=
  match qualifier with
  | .anywhere => outline.descendants scope
  | .fileScope => outline.children scope
  | .chain names => (descend outline names [scope]).flatMap outline.children

/-- The node reached by going up from `current` through scopes with these names, the innermost
first. -/
def climb (outline : Outline) : List Field → Option NodeId → Option NodeId
  | [], current => current
  | _ :: _, none => none
  | name :: names, some id =>
    if isNamedScope outline name id then climb outline names (outline.parent? id) else none

/-- Whether a qualifier admits a node below `scope`. A chain is followed upwards and must end
exactly at `scope`. -/
def inScope (outline : Outline) (qualifier : Qualifier) (id scope : NodeId) : Bool :=
  match qualifier with
  | .anywhere => outline.isWithin id scope
  | .fileScope => outline.parent? id == some scope
  | .chain names => climb outline names.reverse (outline.parent? id) == some scope

end StructSearch.Matching

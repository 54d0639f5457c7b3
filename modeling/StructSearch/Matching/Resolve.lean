import StructSearch.Matching.Entity
import StructSearch.Matching.Scope

/-!
# Resolving patterns

`resolve` lists the nodes below a scope that match a pattern, going down the outline. `satisfies`
tests a single node, going up. An entity matches in pre-order; an operator may list a node more
than once.

Whether something lies below a node is asked with `finds`, which stops at the first match and never
lists the others. `finds_eq_any` says that it answers as the list would.

This is the heart of the search engine: the meaning of the operators of patterns. A match of a right
side is looked for below the match of the left side, which is the scope there.
-/

namespace StructSearch.Matching

variable [Regex.Engine]

open Query

mutual

/-- The nodes below `scope` that match a pattern, for an entity in pre-order. The matches of the
left side come before those of the right for `|`, and for `<` those inside each match of the left
side follow one another. -/
def resolve (outline : Outline) (mode : Mode) : Pattern → NodeId → List NodeId
  | .entity entity qualifier contents, scope =>
    (candidates outline qualifier scope).filter fun id =>
      entityFits outline mode entity id && containsAll outline mode contents id
  | .combine operator left right, scope =>
    match operator with
    | .or => resolve outline mode left scope ++ resolve outline mode right scope
    | .and =>
      (resolve outline mode left scope).filter fun id => satisfies outline mode right id scope
    | .child | .constraint =>
      (resolve outline mode left scope).filter fun id => finds outline mode right id fun _ => true
    | .notChild =>
      (resolve outline mode left scope).filter fun id =>
        !finds outline mode right id fun _ => true
    | .parent =>
      (resolve outline mode left scope).flatMap fun id => resolve outline mode right id
    | .notParent =>
      (resolve outline mode left scope).filter fun id =>
        !(outline.ancestorsWithin id scope).any fun above =>
          satisfies outline mode right above scope
termination_by structural pattern => pattern

/-- Whether some node below `scope` matches a pattern and passes a test. Nodes are asked about in
the order in which `resolve` lists them, up to the first that passes. -/
def finds (outline : Outline) (mode : Mode) : Pattern → NodeId → (NodeId → Bool) → Bool
  | .entity entity qualifier contents, scope, test =>
    (candidates outline qualifier scope).any fun id =>
      (entityFits outline mode entity id && containsAll outline mode contents id) && test id
  | .combine operator left right, scope, test =>
    match operator with
    | .or => finds outline mode left scope test || finds outline mode right scope test
    | .and =>
      finds outline mode left scope fun id => satisfies outline mode right id scope && test id
    | .child | .constraint =>
      finds outline mode left scope fun id => (finds outline mode right id fun _ => true) && test id
    | .notChild =>
      finds outline mode left scope fun id =>
        !(finds outline mode right id fun _ => true) && test id
    | .parent => finds outline mode left scope fun id => finds outline mode right id test
    | .notParent =>
      finds outline mode left scope fun id =>
        (!(outline.ancestorsWithin id scope).any fun above =>
          satisfies outline mode right above scope) && test id
termination_by structural pattern => pattern

/-- Whether a node matches a pattern below `scope`, told from the node and what is above it. Only
what must lie inside the node is looked for downwards. -/
def satisfies (outline : Outline) (mode : Mode) : Pattern → NodeId → NodeId → Bool
  | .entity entity qualifier contents, id, scope =>
    inScope outline qualifier id scope &&
      (entityFits outline mode entity id && containsAll outline mode contents id)
  | .combine operator left right, id, scope =>
    match operator with
    | .or => satisfies outline mode left id scope || satisfies outline mode right id scope
    | .and => satisfies outline mode left id scope && satisfies outline mode right id scope
    | .child | .constraint =>
      satisfies outline mode left id scope && finds outline mode right id fun _ => true
    | .notChild =>
      satisfies outline mode left id scope && !finds outline mode right id fun _ => true
    | .parent =>
      (outline.ancestorsWithin id scope).any fun above =>
        satisfies outline mode left above scope && satisfies outline mode right id above
    | .notParent =>
      satisfies outline mode left id scope &&
        !(outline.ancestorsWithin id scope).any fun above =>
          satisfies outline mode right above scope
termination_by structural pattern => pattern

/-- Whether a node has a match of every pattern below it. Different patterns may have the same
match. -/
def containsAll (outline : Outline) (mode : Mode) : List Pattern → NodeId → Bool
  | [], _ => true
  | pattern :: patterns, id =>
    (finds outline mode pattern id fun _ => true) && containsAll outline mode patterns id
termination_by structural patterns => patterns

end

/-- Looking for a match that passes a test is asking whether the list of matches has one. This is by
structure of the pattern, since `finds` follows `resolve` operator by operator. -/
theorem finds_eq_any (outline : Outline) (mode : Mode) :
    ∀ (pattern : Pattern) (scope : NodeId) (test : NodeId → Bool),
      finds outline mode pattern scope test = (resolve outline mode pattern scope).any test
  | .entity _ _ _, _, _ => by simp only [finds, resolve, List.any_filter]
  | .combine operator left right, scope, test => by
    have hLeft := finds_eq_any outline mode left
    have hRight := finds_eq_any outline mode right
    cases operator <;>
      simp only [finds, resolve, hLeft, hRight, List.any_append, List.any_filter, List.any_flatMap]

end StructSearch.Matching

import StructSearch.Proofs.Matching.Agreement

/-!
# Inside a match and outside every match

`R < L` goes down from each match of `R` and resolves `L` anew below it. `L !< R` goes up from each
match of `L` and tests the nodes it meets before the scope. An entity that may stand anywhere fits
a node or not whatever the scope is, so for such an `L` the two ask about the same matches: those
that lie inside a match of `R`, and those that do not.

Results:
* `mem_resolve_anywhere`: the matches of an entity without a qualifier.
* `mem_resolve_parent_iff`: the matches of `R < L` are found on the way up too.
* `resolve_splits_at_parent`: every match of `L` belongs to exactly one of `R < L` and `L !< R`.
-/

namespace StructSearch.Matching

open Query Outline

section AnyEngine

variable [Regex.Engine]

/-- What lies outside all matches of `right` is what has no node above it, below the scope, that
satisfies `right`. -/
theorem mem_resolve_notParent_iff {outline : Outline} {mode : Mode} {left right : Pattern}
    {scope id : NodeId} :
    id ∈ resolve outline mode (.combine .notParent left right) scope ↔
      id ∈ resolve outline mode left scope ∧
        ¬∃ above ∈ outline.ancestorsWithin id scope,
          satisfies outline mode right above scope = true := by
  rw [resolve, List.mem_filter, Bool.not_eq_true', Bool.eq_false_iff, ne_eq, List.any_eq_true]

section

variable {outline : Outline} (h : outline.Linked) {mode : Mode} {entity : Entity}
  {contents : List Pattern}
include h

/-- An entity without a qualifier is listed below every node that stands above a fit. -/
theorem mem_resolve_anywhere {scope id : NodeId} :
    id ∈ resolve outline mode (.entity entity .anywhere contents) scope ↔
      scope ∈ outline.ancestors id ∧
        (entityFits outline mode entity id && containsAll outline mode contents id) = true := by
  rw [resolve, List.mem_filter, candidates, h.mem_descendants_iff]

/-- What lies inside a match of `right` is what has a node above it, below the scope, that satisfies
`right`. -/
theorem mem_resolve_parent_iff {right : Pattern} {scope id : NodeId} :
    id ∈ resolve outline mode (.combine .parent right (.entity entity .anywhere contents)) scope ↔
      id ∈ resolve outline mode (.entity entity .anywhere contents) scope ∧
        ∃ above ∈ outline.ancestorsWithin id scope,
          satisfies outline mode right above scope = true := by
  rw [mem_resolve_anywhere h, resolve, List.mem_flatMap]
  constructor
  · rintro ⟨above, hright, hid⟩
    obtain ⟨habove, hfits⟩ := (mem_resolve_anywhere h).1 hid
    -- the match of `right` lies below the scope, so going up meets it before the scope
    have hscope : scope ∈ outline.ancestors above := within_of_mem_resolve h mode right hright
    exact ⟨⟨h.mem_ancestors_trans habove hscope, hfits⟩, above,
      h.mem_ancestorsWithin habove hscope, (mem_resolve_iff h mode right).1 hright⟩
  · rintro ⟨⟨-, hfits⟩, above, hwithin, hsat⟩
    have habove : above ∈ outline.ancestors id := (List.takeWhile_sublist _).subset hwithin
    exact ⟨above, (mem_resolve_iff h mode right).2 hsat, (mem_resolve_anywhere h).2 ⟨habove, hfits⟩⟩

end

/-- The matches of an entity without a qualifier are those inside a match of another pattern and
those outside all its matches, and none is both. -/
theorem resolve_splits_at_parent {outline : Outline} (h : outline.Reachable) (mode : Mode)
    (entity : Entity) (contents : List Pattern) (right : Pattern) (scope : NodeId) :
    let left : Pattern := .entity entity .anywhere contents
    let inside := resolve outline mode (.combine .parent right left) scope
    let outside := resolve outline mode (.combine .notParent left right) scope
    (∀ id, id ∈ resolve outline mode left scope ↔ id ∈ inside ∨ id ∈ outside) ∧
      inside.Disjoint outside := by
  intro left inside outside
  constructor
  · intro id
    rw [mem_resolve_parent_iff h.linked, mem_resolve_notParent_iff, ← and_or_left]
    exact (and_iff_left (Classical.em _)).symm
  · intro id hinside houtside
    have habove := ((mem_resolve_parent_iff h.linked).1 hinside).2
    exact (mem_resolve_notParent_iff.1 houtside).2 habove

end AnyEngine

/-- Of two functions, one in the other, only the inner one lies inside a function. -/
theorem resolve_splits_nestedFunctions :
    let function : Pattern := .entity (.func {}) .anywhere []
    resolve nestedFunctions .standard function root = [1, 2] ∧
      resolve nestedFunctions .standard (.combine .parent function function) root = [2] ∧
      1 ∈ resolve nestedFunctions .standard (.combine .notParent function function) root ∧
      2 ∉ resolve nestedFunctions .standard (.combine .notParent function function) root := by
  intro function
  have hall : resolve nestedFunctions .standard function root = [1, 2] := by decide
  have hinside : resolve nestedFunctions .standard (.combine .parent function function) root =
      [2] := by decide
  obtain ⟨hunion, hdisjoint⟩ := resolve_splits_at_parent reachable_nestedFunctions .standard
    (.func {}) [] function root
  simp only [show Pattern.entity (.func {}) .anywhere [] = function from rfl, hall, hinside]
    at hunion hdisjoint
  refine ⟨hall, hinside, ?_, hdisjoint List.mem_cons_self⟩
  exact ((hunion 1).1 List.mem_cons_self).resolve_left (by decide)

end StructSearch.Matching

import StructSearch.Matching.Resolve
import StructSearch.Proofs.Outline.Links
import StructSearch.Regex.Builtin

/-!
# Going down and going up find the same matches

`resolve` lists the matches of a pattern below a scope on the way down; `satisfies` tests one node
on the way up, and cuts the way at the scope. The operator `<` moves the scope to the node above
in both, so the agreement is proved for all scopes at once.

Results:
* `mem_candidates_iff`: a qualifier lists the nodes that it admits.
* `mem_resolve_iff`: a pattern lists the nodes that satisfy it.
* `within_of_mem_resolve`: every match lies strictly below the scope.
-/

namespace StructSearch.Matching

open Query Outline

section AnyEngine

variable [Regex.Engine]

/-- Induction on the operands and the contents of a pattern. -/
theorem Pattern.part_induction {motive : Pattern → Prop}
    (entity : ∀ entity qualifier contents, (∀ content ∈ contents, motive content) →
      motive (.entity entity qualifier contents))
    (combine : ∀ operator left right, motive left → motive right →
      motive (.combine operator left right)) : ∀ pattern, motive pattern
  | .entity e qualifier contents =>
    entity e qualifier contents fun content _ => part_induction entity combine content
  | .combine operator left right =>
    combine operator left right (part_induction entity combine left)
      (part_induction entity combine right)

/-- Induction on the operands of a pattern, for properties that do not look into contents. -/
theorem Pattern.operand_induction {motive : Pattern → Prop}
    (entity : ∀ entity qualifier contents, motive (.entity entity qualifier contents))
    (combine : ∀ operator left right, motive left → motive right →
      motive (.combine operator left right)) (pattern : Pattern) : motive pattern :=
  part_induction (fun e qualifier contents _ => entity e qualifier contents) combine pattern

/-! ## Qualifiers -/

theorem climb_none (outline : Outline) (names : List Field) :
    climb outline names none = none := by
  cases names <;> rfl

theorem climb_append (outline : Outline) (inner outer : List Field) :
    ∀ current, climb outline (inner ++ outer) current =
      climb outline outer (climb outline inner current) := by
  induction inner with
  | nil => intro current; rfl
  | cons name inner ih =>
    intro current
    cases current with
    | none => simp [climb, climb_none]
    | some id =>
      rw [List.cons_append, climb, climb]
      split_ifs
      · exact ih _
      · rw [climb_none]

section

variable {outline : Outline} (h : outline.Linked)
include h

theorem mem_scopes_iff {name : Field} {scopes : List NodeId} {id : NodeId} :
    id ∈ (scopes.flatMap fun scope =>
        (outline.children scope).filter (isNamedScope outline name)) ↔
      ∃ scope ∈ scopes, climb outline [name] (some id) = some scope := by
  rw [List.mem_flatMap]
  refine exists_congr fun scope => and_congr_right fun _ => ?_
  rw [List.mem_filter, h.mem_children, climb]
  split_ifs with hname
  · simp [climb, hname]
  · simp [hname]

/-- The scopes reached through a chain are the nodes from which the chain, read backwards, leads
back up. -/
theorem mem_descend_iff {id : NodeId} (names : List Field) :
    ∀ scopes, id ∈ descend outline names scopes ↔
      ∃ scope ∈ scopes, climb outline names.reverse (some id) = some scope := by
  induction names with
  | nil =>
    intro scopes
    simp [descend, climb]
  | cons name names ih =>
    intro scopes
    rw [descend, ih, List.reverse_cons]
    simp only [mem_scopes_iff h, climb_append]
    constructor
    · rintro ⟨inner, ⟨scope, hs, hname⟩, hclimb⟩
      exact ⟨scope, hs, by rw [hclimb, hname]⟩
    · rintro ⟨scope, hs, hclimb⟩
      cases hinner : climb outline names.reverse (some id) with
      | none => simp [hinner, climb_none] at hclimb
      | some inner => exact ⟨inner, ⟨scope, hs, by rw [← hinner, hclimb]⟩, rfl⟩

theorem mem_candidates_iff {qualifier : Qualifier} {id scope : NodeId} :
    id ∈ candidates outline qualifier scope ↔ inScope outline qualifier id scope = true := by
  cases qualifier with
  | anywhere =>
    rw [candidates, inScope, isWithin, h.mem_descendants_iff, List.contains_iff_mem]
  | fileScope =>
    rw [candidates, inScope, h.mem_children, beq_iff_eq]
  | chain names =>
    rw [candidates, inScope, List.mem_flatMap, beq_iff_eq]
    simp only [h.mem_children, mem_descend_iff h, List.mem_singleton, exists_eq_left]
    cases outline.parent? id with
    | none => simp [climb_none]
    | some parent => simp

theorem within_of_climb {id scope : NodeId} (names : List Field) :
    ∀ current, climb outline names (some current) = some scope →
      current ∈ outline.ancestors id → scope ∈ outline.ancestors id := by
  induction names with
  | nil =>
    rintro current ⟨⟩ hc
    exact hc
  | cons name names ih =>
    intro current hclimb hc
    rw [climb] at hclimb
    split_ifs at hclimb
    cases hp : outline.parent? current with
    | none => simp [hp, climb_none] at hclimb
    | some parent =>
      rw [hp] at hclimb
      have hup : parent ∈ outline.ancestors current :=
        h.mem_ancestors_iff.2 ⟨parent, hp, Or.inl rfl⟩
      exact ih parent hclimb (h.mem_ancestors_trans hc hup)

/-- A qualifier admits only nodes strictly below the scope. -/
theorem within_of_inScope {qualifier : Qualifier} {id scope : NodeId}
    (hs : inScope outline qualifier id scope = true) : scope ∈ outline.ancestors id := by
  have hparent : ∀ {parent}, outline.parent? id = some parent → parent ∈ outline.ancestors id :=
    fun hp => h.mem_ancestors_iff.2 ⟨_, hp, Or.inl rfl⟩
  cases qualifier with
  | anywhere => simpa [inScope, isWithin] using hs
  | fileScope => exact hparent (beq_iff_eq.1 hs)
  | chain names =>
    rw [inScope, beq_iff_eq] at hs
    cases hp : outline.parent? id with
    | none => simp [hp, climb_none] at hs
    | some parent =>
      rw [hp] at hs
      exact within_of_climb h _ _ hs (hparent hp)

/-! ## Patterns -/

/-- A match lies strictly below the scope. -/
theorem within_of_mem_resolve (mode : Mode) (pattern : Pattern) :
    ∀ {scope id : NodeId}, id ∈ resolve outline mode pattern scope →
      scope ∈ outline.ancestors id := by
  induction pattern using Pattern.operand_induction with
  | entity entity qualifier contents =>
    intro scope id hmem
    rw [resolve, List.mem_filter] at hmem
    exact within_of_inScope h ((mem_candidates_iff h).1 hmem.1)
  | combine operator left right ihl ihr =>
    intro scope id hmem
    cases operator with
    | or =>
      rw [resolve] at hmem
      obtain hl | hr := List.mem_append.1 hmem
      · exact ihl hl
      · exact ihr hr
    | parent =>
      rw [resolve] at hmem
      obtain ⟨above, hl, hr⟩ := List.mem_flatMap.1 hmem
      exact h.mem_ancestors_trans (ihr hr) (ihl hl)
    | and | child | constraint | notChild | notParent =>
      rw [resolve] at hmem
      exact ihl (List.mem_filter.1 hmem).1

/-- A node is listed below a scope iff it satisfies the pattern there. -/
theorem mem_resolve_iff (mode : Mode) (pattern : Pattern) :
    ∀ {scope id : NodeId}, id ∈ resolve outline mode pattern scope ↔
      satisfies outline mode pattern id scope = true := by
  induction pattern using Pattern.operand_induction with
  | entity entity qualifier contents =>
    intro scope id
    rw [resolve, satisfies, List.mem_filter, mem_candidates_iff h, ← Bool.and_eq_true]
  | combine operator left right ihl ihr =>
    intro scope id
    cases operator with
    | or => rw [resolve, satisfies, List.mem_append, ihl, ihr, Bool.or_eq_true]
    | parent =>
      rw [resolve, satisfies, List.mem_flatMap, List.any_eq_true]
      simp only [Bool.and_eq_true]
      constructor
      · rintro ⟨above, hl, hr⟩
        -- the left match stands above the node and below the scope, so the cut keeps it
        have hwithin := h.mem_ancestorsWithin (within_of_mem_resolve h mode right hr)
          (within_of_mem_resolve h mode left hl)
        exact ⟨above, hwithin, ihl.1 hl, ihr.1 hr⟩
      · rintro ⟨above, -, hl, hr⟩
        exact ⟨above, ihl.2 hl, ihr.2 hr⟩
    | and | child | constraint | notChild | notParent =>
      rw [resolve, satisfies, List.mem_filter, ihl, ← Bool.and_eq_true]

end

/-- In every outline that can be built, whatever its nodes are and wherever the scope stands, a
pattern lists exactly the nodes that satisfy it. -/
theorem resolve_lists_exactly_satisfying {outline : Outline} (h : outline.Reachable) (mode : Mode)
    (pattern : Pattern) (scope id : NodeId) :
    id ∈ resolve outline mode pattern scope ↔ satisfies outline mode pattern id scope = true :=
  mem_resolve_iff h.linked mode pattern

end AnyEngine

/-- A variable in a function in a function, and beside it a variable in a function that hangs on
no node. -/
def nestedFunctions : Outline :=
  let node (kind : Kind) (line : ℕ) : NodeInfo :=
    { kind, extent := ⟨⟨line, 1⟩, ⟨line, 9⟩⟩, range := ⟨0, 0⟩ }
  ((((((single (node .fileUnit 1)).add 0 (node .functionDecl 1) .member).add 1
    (node .functionDecl 2) .member).add 2 (node .varDecl 3) .member).add 9
    (node .functionDecl 4) .member).add 4 (node .varDecl 5) .member)

theorem reachable_nestedFunctions : nestedFunctions.Reachable :=
  ((((Reachable.single _).add 0 _ _).add 1 _ _).add 2 _ _ |>.add 9 _ _).add 4 _ _

/-- A variable inside a function is listed once for each of the two functions around it. -/
theorem resolve_lists_nested_twice :
    let inFunction : Pattern := .combine .parent (.entity (.func {}) .anywhere [])
      (.entity (.var {}) .anywhere [])
    resolve nestedFunctions .standard inFunction root = [3, 3] ∧
      satisfies nestedFunctions .standard inFunction 3 root = true ∧
      satisfies nestedFunctions .standard inFunction 5 root ≠ true := by
  intro inFunction
  have hlist : resolve nestedFunctions .standard inFunction root = [3, 3] := by decide
  have hiff := resolve_lists_exactly_satisfying reachable_nestedFunctions .standard inFunction root
  refine ⟨hlist, (hiff 3).1 ?_, fun hs => ?_⟩
  · rw [hlist]
    exact List.mem_cons_self
  · have hmem := (hiff 5).2 hs
    rw [hlist] at hmem
    revert hmem
    decide

end StructSearch.Matching

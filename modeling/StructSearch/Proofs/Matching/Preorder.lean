import StructSearch.Proofs.Matching.Agreement
import StructSearch.Proofs.Outline.Forest

/-!
# Matches in pre-order

The nodes that a qualifier admits are found level by level, from a scope to the scopes inside it,
and yet they come in the order in which a walk below the scope meets them: nodes that are reached
through the same chain stand equally deep. So a qualifier filters the walk, and so does every
pattern that does not list the matches of several patterns or of several scopes one after the other.

Results:
* `candidates_eq_filter`: the nodes that a qualifier admits, in pre-order.
* `resolve_filters_descendants`: the matches of a pattern, in pre-order.
-/

namespace StructSearch.Matching

open Query Outline

/-- A node lies below one child of a scope only. -/
theorem child_unique {outline : Outline} (h : outline.Linked)
    {scope child other below : NodeId} (hchild : child ∈ outline.children scope)
    (hother : other ∈ outline.children scope) (hbelow : below ∈ outline.preorder child)
    (hboth : below ∈ outline.preorder other) : other = child := by
  by_contra hne
  exact h.disjoint_preorder hother hchild hne hboth hbelow

section AnyEngine

variable [Regex.Engine]

/-- The operators of a pattern that are reached through left operands, from the outside in. -/
def leftOperators : Pattern → List Operator
  | .entity _ _ _ => []
  | .combine operator left _ => operator :: leftOperators left

/-- No operator on the way to the first entity lists the matches of several patterns or scopes one
after the other. -/
def KeepsOrder (pattern : Pattern) : Prop :=
  ∀ operator ∈ leftOperators pattern, operator ≠ .or ∧ operator ≠ .parent

instance (pattern : Pattern) : Decidable (KeepsOrder pattern) :=
  inferInstanceAs (Decidable (∀ operator ∈ leftOperators pattern, _))

/-! ## Chains, scope by scope -/

theorem descend_eq_flatMap (outline : Outline) (names : List Field) (scopes : List NodeId) :
    descend outline names scopes = scopes.flatMap fun scope => descend outline names [scope] := by
  induction names generalizing scopes with
  | nil => simp [descend]
  | cons name names ih =>
    simp only [descend, List.flatMap_singleton]
    rw [ih, List.flatMap_assoc]
    refine List.flatMap_congr fun scope _ => ?_
    rw [← ih]

/-- A chain is followed from each child that its first name accepts. -/
theorem candidates_chain_cons (outline : Outline) (name : Field) (names : List Field)
    (scope : NodeId) :
    candidates outline (.chain (name :: names)) scope =
      ((outline.children scope).filter (isNamedScope outline name)).flatMap
        (candidates outline (.chain names)) := by
  simp only [candidates, descend, List.flatMap_singleton]
  rw [descend_eq_flatMap, List.flatMap_assoc]
  rfl

section

variable {outline : Outline} (h : outline.Linked)
include h

/-- Below a child of a scope, a chain from the scope is the first name at the child and the rest of
the chain from there. -/
theorem inScope_chain_cons {scope child below : NodeId} (name : Field) (names : List Field)
    (hchild : child ∈ outline.children scope) (hbelow : child ∈ outline.ancestors below) :
    inScope outline (.chain (name :: names)) below scope =
      (isNamedScope outline name child && inScope outline (.chain names) below child) := by
  obtain ⟨parent, hparent, -⟩ := h.mem_ancestors_iff.1 hbelow
  have habove : parent ∈ outline.ancestors below :=
    h.mem_ancestors_iff.2 ⟨parent, hparent, Or.inl rfl⟩
  rw [inScope, inScope, List.reverse_cons, climb_append, hparent, Bool.eq_iff_iff, Bool.and_eq_true,
    beq_iff_eq, beq_iff_eq]
  cases hinner : climb outline names.reverse (some parent) with
  | none => simp [climb_none]
  | some inner =>
    rw [climb]
    constructor
    · intro hclimb
      split_ifs at hclimb with hname
      have hinside : inner ∈ outline.ancestors below :=
        within_of_climb h names.reverse parent hinner habove
      obtain rfl : inner = child := child_unique h hchild (h.mem_children.2 hclimb)
        (h.mem_preorder_iff.2 (Or.inr hbelow)) (h.mem_preorder_iff.2 (Or.inr hinside))
      exact ⟨hname, rfl⟩
    · rintro ⟨hname, hsame⟩
      cases hsame
      rw [if_pos hname]
      exact h.mem_children.1 hchild

/-- No name of a chain is left for a child of the scope itself. -/
theorem not_inScope_chain_cons {scope child : NodeId} (name : Field) (names : List Field)
    (hchild : child ∈ outline.children scope) :
    inScope outline (.chain (name :: names)) child scope = false := by
  rw [inScope, List.reverse_cons, climb_append, h.mem_children.1 hchild, beq_eq_false_iff_ne]
  intro hclimb
  cases hinner : climb outline names.reverse (some scope) with
  | none =>
    rw [hinner, climb_none] at hclimb
    cases hclimb
  | some inner =>
    rw [hinner, climb] at hclimb
    split_ifs at hclimb
    -- The chain goes up from the scope, so it does not come back to a child of the scope.
    have hdown : scope < inner := h.parent_lt hclimb
    have hinside : inner ∈ outline.ancestors child :=
      within_of_climb h names.reverse scope hinner ((h.mem_ancestors_child hchild).2 (Or.inl rfl))
    obtain rfl | hup := (h.mem_ancestors_child hchild).1 hinside
    · exact lt_irrefl _ hdown
    · exact lt_asymm hdown (h.lt_of_mem_ancestors hup)

/-! ## Qualifiers -/

omit [Regex.Engine] in
/-- The children of a scope are the nodes below it whose parent it is, in pre-order. -/
theorem children_eq_filter (scope : NodeId) :
    outline.children scope =
      (outline.descendants scope).filter fun id => outline.parent? id == some scope := by
  have hfirst : ∀ child ∈ outline.children scope,
      (child :: outline.descendants child).filter (fun id => outline.parent? id == some scope) =
        [child] := by
    intro child hchild
    rw [List.filter_cons_of_pos (by simp [h.mem_children.1 hchild]), List.filter_eq_nil_iff.2]
    intro below hbelow hsame
    -- The node would be a child of the scope inside another child.
    have habove := h.mem_descendants_iff.1 hbelow
    obtain rfl := child_unique h hchild (h.mem_children.2 (beq_iff_eq.1 hsame))
      (h.mem_preorder_iff.2 (Or.inr habove)) (h.self_mem_preorder below)
    exact lt_irrefl _ (h.lt_of_mem_ancestors habove)
  rw [h.descendants_eq_flatMap, List.filter_flatMap, List.flatMap_congr hfirst]
  exact (List.flatMap_singleton' _).symm

/-- A chain admits, in pre-order, the nodes below the scope from which it leads back to it. -/
theorem chain_eq_filter (names : List Field) (scope : NodeId) :
    candidates outline (.chain names) scope =
      (outline.descendants scope).filter fun id => inScope outline (.chain names) id scope := by
  induction names generalizing scope with
  | nil =>
    rw [candidates, descend, List.flatMap_singleton, children_eq_filter h]
    rfl
  | cons name names ih =>
    rw [candidates_chain_cons, h.descendants_eq_flatMap, List.filter_flatMap]
    have hbranch : ∀ child ∈ outline.children scope,
        (child :: outline.descendants child).filter
            (fun id => inScope outline (.chain (name :: names)) id scope) =
          if isNamedScope outline name child then candidates outline (.chain names) child
          else [] := by
      intro child hchild
      have hrest : ∀ below ∈ outline.descendants child,
          inScope outline (.chain (name :: names)) below scope =
            (isNamedScope outline name child && inScope outline (.chain names) below child) :=
        fun below hbelow => inScope_chain_cons h name names hchild (h.mem_descendants_iff.1 hbelow)
      rw [List.filter_cons_of_neg (by simp [not_inScope_chain_cons h name names hchild]),
        List.filter_congr hrest]
      cases isNamedScope outline name child with
      | true => simp [ih child]
      | false => simp
    rw [List.flatMap_congr hbranch]
    induction outline.children scope with
    | nil => rfl
    | cons child children ihc =>
      rw [List.filter_cons, List.flatMap_cons]
      split_ifs
      · rw [List.flatMap_cons, ihc]
      · rw [ihc, List.nil_append]

/-- A qualifier admits the nodes below the scope that pass its test, in pre-order. -/
theorem candidates_eq_filter (qualifier : Qualifier) (scope : NodeId) :
    candidates outline qualifier scope =
      (outline.descendants scope).filter fun id => inScope outline qualifier id scope := by
  cases qualifier with
  | anywhere =>
    have hall : ∀ id ∈ outline.descendants scope, inScope outline .anywhere id scope = true :=
      fun id hid => (mem_candidates_iff h).1 hid
    rw [List.filter_eq_self.2 hall]
    rfl
  | fileScope => exact children_eq_filter h scope
  | chain names => exact chain_eq_filter h names scope

/-! ## Patterns -/

theorem resolve_eq_filter (mode : Mode) (pattern : Pattern) (horder : KeepsOrder pattern)
    (scope : NodeId) :
    resolve outline mode pattern scope =
      (outline.descendants scope).filter fun id => satisfies outline mode pattern id scope := by
  induction pattern using Pattern.operand_induction with
  | entity entity qualifier contents =>
    rw [resolve, candidates_eq_filter h, List.filter_filter]
    refine List.filter_congr fun id _ => ?_
    rw [satisfies, Bool.and_comm]
  | combine operator left right ihl _ =>
    have hleft := ihl fun other hother => horder other (List.mem_cons_of_mem _ hother)
    cases operator with
    | or => exact absurd rfl (horder .or List.mem_cons_self).1
    | parent => exact absurd rfl (horder .parent List.mem_cons_self).2
    | and | child | constraint | notChild | notParent =>
      rw [resolve, hleft, List.filter_filter]
      refine List.filter_congr fun id _ => ?_
      rw [satisfies, Bool.and_comm]

end

/-- A pattern whose left operands are combined neither by `|` nor by `<` lists the nodes below a
scope that satisfy it as a walk below the scope meets them, each once; and a qualifier only leaves
out some of the nodes that its entity lists anywhere. -/
theorem resolve_filters_descendants {outline : Outline} (h : outline.Reachable) (mode : Mode)
    {pattern : Pattern} (horder : KeepsOrder pattern) (scope : NodeId) :
    resolve outline mode pattern scope =
        ((outline.descendants scope).filter fun id => satisfies outline mode pattern id scope) ∧
      (resolve outline mode pattern scope).Nodup ∧
      ∀ entity qualifier contents,
        (resolve outline mode (.entity entity qualifier contents) scope).Sublist
          (resolve outline mode (.entity entity .anywhere contents) scope) := by
  have heq := resolve_eq_filter h.linked mode pattern horder scope
  refine ⟨heq, ?_, fun entity qualifier contents => ?_⟩
  · rw [heq]
    exact (h.linked.nodup_descendants scope).filter _
  · rw [resolve, resolve, candidates_eq_filter h.linked]
    exact List.filter_sublist.filter _

end AnyEngine

/-- Two namespaces of one name; the second one gets its variable first. -/
def reopenedNamespace : Outline :=
  let node (kind : Kind) (spelling : String) : NodeInfo :=
    { kind, spelling, extent := ⟨⟨1, 1⟩, ⟨1, 9⟩⟩, range := ⟨0, 0⟩ }
  (single (node .fileUnit "")).grown [
    .add 0 (node .namespaceDecl "n") .member, .add 0 (node .namespaceDecl "n") .member,
    .add 2 (node .varDecl "later") .member, .add 1 (node .varDecl "earlier") .member]

/-- The variables of both namespaces are listed in pre-order, not in the order of their numbers. -/
theorem resolve_filters_reopenedNamespace :
    let inNamespace : Pattern := .combine .notChild (.entity (.var {}) (.chain [.any]) [])
      (.entity (.var {}) .anywhere [])
    KeepsOrder inNamespace ∧
      resolve reopenedNamespace .standard inNamespace root = [4, 3] ∧
      (reopenedNamespace.descendants root).filter
          (fun id => satisfies reopenedNamespace .standard inNamespace id root) = [4, 3] := by
  intro inNamespace
  have horder : KeepsOrder inNamespace := by decide
  have hlist : resolve reopenedNamespace .standard inNamespace root = [4, 3] := by decide
  have hreachable : reopenedNamespace.Reachable := (Reachable.single _).grown _
  refine ⟨horder, hlist, ?_⟩
  rw [← (resolve_filters_descendants hreachable .standard horder root).1, hlist]

end StructSearch.Matching

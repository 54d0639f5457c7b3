import Mathlib.Algebra.Order.BigOperators.Group.List
import Mathlib.Data.Multiset.AddSub
import StructSearch.Proofs.Source.Subtrees

/-!
# The calls inside a parse tree

The ranges of the calls of a tree, counted with repetition. Trees that stand side by side share no
call, so parts of a construct that are reached by different labels have at most the calls of the
construct between them.

Results:
* `calls_eq`: the calls of a tree are its own and those of its children.
* `sum_callsAll_labelled_le`: parts with different labels share no call.
-/

namespace StructSearch.Source.ParseTree

/-- The ranges of the calls of a tree, in the order of the source. -/
def callRanges (tree : ParseTree) : List ByteRange :=
  (tree.subtrees.filter (·.construct == .callExpression)).map (·.range)

/-- The ranges of the calls of a tree, counted. -/
def calls (tree : ParseTree) : Multiset ByteRange := tree.callRanges

/-- The ranges of the calls of several trees, counted. -/
def callsAll (trees : List ParseTree) : Multiset ByteRange := trees.flatMap callRanges

@[simp] theorem callsAll_nil : callsAll [] = 0 := rfl

@[simp] theorem callsAll_cons (tree : ParseTree) (rest : List ParseTree) :
    callsAll (tree :: rest) = tree.calls + callsAll rest := by
  unfold callsAll calls
  rw [List.flatMap_cons, Multiset.coe_add]

@[simp] theorem callsAll_append (trees others : List ParseTree) :
    callsAll (trees ++ others) = callsAll trees + callsAll others := by
  unfold callsAll
  rw [List.flatMap_append, Multiset.coe_add]

theorem callsAll_le_of_subperm {trees others : List ParseTree} (h : trees.Subperm others) :
    callsAll trees ≤ callsAll others := by
  obtain ⟨middle, hperm, hsublist⟩ := h
  refine Multiset.coe_le.2 ?_
  exact (hperm.symm.flatMap_right _).subperm.trans (hsublist.flatMap _).subperm

theorem callRanges_eq (tree : ParseTree) :
    tree.callRanges =
      (if tree.construct = .callExpression then [tree.range] else []) ++
        tree.children.flatMap callRanges := by
  unfold callRanges
  rw [subtrees_eq, List.filter_cons, List.filter_flatMap]
  by_cases hcall : tree.construct = .callExpression
  · simp [hcall, List.map_flatMap]
  · simp [hcall, List.map_flatMap]

/-- The calls of a tree are its own and those of its children. -/
theorem calls_eq (tree : ParseTree) :
    tree.calls =
      (if tree.construct = .callExpression then {tree.range} else 0) + callsAll tree.children := by
  unfold calls callsAll
  rw [callRanges_eq, ← Multiset.coe_add]
  split_ifs <;> rfl

theorem callsAll_children_le (tree : ParseTree) : callsAll tree.children ≤ tree.calls := by
  rw [calls_eq]
  exact Multiset.le_add_left _ _

theorem callsAll_namedChildren_le (tree : ParseTree) :
    callsAll tree.namedChildren ≤ tree.calls :=
  (callsAll_le_of_subperm List.filter_sublist.subperm).trans tree.callsAll_children_le

theorem calls_le_of_mem_subtrees {inner tree : ParseTree} (h : inner ∈ tree.subtrees) :
    inner.calls ≤ tree.calls :=
  Multiset.coe_le.2 (((subtrees_sublist h).filter _).map _).subperm

theorem calls_le_of_mem_children {child tree : ParseTree} (h : child ∈ tree.children) :
    child.calls ≤ tree.calls :=
  calls_le_of_mem_subtrees (mem_subtrees_of_mem_children h)

theorem calls_le_callsAll {tree : ParseTree} {trees : List ParseTree} (h : tree ∈ trees) :
    tree.calls ≤ callsAll trees := by
  have hone : callsAll [tree] ≤ callsAll trees :=
    callsAll_le_of_subperm (List.singleton_sublist.2 h).subperm
  rwa [callsAll_cons, callsAll_nil, add_zero] at hone

/-! ## Labels -/

/-- The children with a label, or without one. -/
def labelled (tree : ParseTree) (part : Option Part) : List ParseTree :=
  tree.children.filter (·.label.part == part)

/-- Sorting by different labels takes no child twice. -/
theorem flatMap_filter_subperm {labels : List (Option Part)} (h : labels.Nodup)
    (trees : List ParseTree) :
    (labels.flatMap fun part => trees.filter (·.label.part == part)).Subperm trees := by
  induction labels generalizing trees with
  | nil => exact List.nil_subperm
  | cons part rest ih =>
    obtain ⟨hpart, hrest⟩ := List.nodup_cons.1 h
    -- Taking out the children with the first label does not touch those with the other labels.
    have hother : (rest.flatMap fun other => trees.filter (·.label.part == other)) =
        rest.flatMap fun other =>
          (trees.filter (!·.label.part == part)).filter (·.label.part == other) := by
      refine List.flatMap_congr fun other hmem => ?_
      rw [List.filter_filter]
      refine List.filter_congr fun tree _ => ?_
      have hne : other ≠ part := fun heq => hpart (heq ▸ hmem)
      by_cases htree : tree.label.part = other
      · simp [htree, hne]
      · simp [htree]
    rw [List.flatMap_cons, hother]
    exact ((List.subperm_append_left _).2 (ih hrest _)).trans
      (List.filter_append_perm _ trees).subperm

/-- Parts with different labels share no call. -/
theorem sum_callsAll_labelled_le (tree : ParseTree) (labels : List (Option Part))
    (h : labels.Nodup) :
    (labels.map fun part => callsAll (tree.labelled part)).sum ≤ callsAll tree.children := by
  have hsum : ∀ labels : List (Option Part),
      (labels.map fun part => callsAll (tree.labelled part)).sum =
        callsAll (labels.flatMap tree.labelled) := by
    intro labels
    induction labels with
    | nil => rfl
    | cons part rest ih =>
      rw [List.map_cons, List.sum_cons, ih, List.flatMap_cons, callsAll_append]
  rw [hsum]
  exact callsAll_le_of_subperm (flatMap_filter_subperm h tree.children)

theorem calls_le_labelled {tree child : ParseTree} (h : child ∈ tree.children) :
    child.calls ≤ callsAll (tree.labelled child.label.part) :=
  calls_le_callsAll (List.mem_filter.2 ⟨h, beq_self_eq_true _⟩)

theorem callsAll_part?_le (tree : ParseTree) (part : Part) :
    callsAll (tree.part? part).toList ≤ callsAll (tree.labelled (some part)) := by
  cases hpart : tree.part? part with
  | none => exact Multiset.zero_le _
  | some child =>
    have hlabel : child.label.part = some part := by simpa using List.find?_some hpart
    rw [Option.toList_some, callsAll_cons, callsAll_nil, add_zero, ← hlabel]
    exact calls_le_labelled (mem_children_of_part?_eq hpart)

end StructSearch.Source.ParseTree

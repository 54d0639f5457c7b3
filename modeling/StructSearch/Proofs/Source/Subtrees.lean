import Mathlib.Data.List.Flatten
import Mathlib.Tactic
import StructSearch.Outline.Declarator

/-!
# The trees inside a parse tree

A rule of an outline reaches trees inside its construct by labels, by constructs and by taking
declarators apart. All of them are subtrees, and trees that are reached by different labels have
no node in common.

Results:
* `subtrees_sublist`: the subtrees of a subtree are among those of the tree, in the same order.
* `value_mem_subtrees`, `function_mem_subtrees`: what a declarator gives stands inside its tree.
* `unwrap_pointer`, `unwrap_array` and so on: taking a declarator apart, one wrapping at a time.
-/

namespace StructSearch.Source

namespace ParseTree

/-- A construct that covers the bytes from `start` to `stop`, in a tree without errors. -/
def plain (name : String) (start stop : ℕ) (part : Option Part) (children : List ParseTree) :
    ParseTree :=
  .node ⟨name, true, false, false, false, ⟨start, stop⟩, part⟩ children

/-- The words of a part of a tree, if it has that part. -/
def partWords (tree : ParseTree) (source : List Char) (part : Part) : String :=
  match tree.part? part with
  | some inner => inner.words source
  | none => ""

/-! ## Subtrees -/

mutual

/-- A tree and all trees inside it, in the order of the source. -/
def subtrees : ParseTree → List ParseTree
  | node label children => node label children :: subtreesAll children

/-- The subtrees of several trees. -/
def subtreesAll : List ParseTree → List ParseTree
  | [] => []
  | tree :: rest => subtrees tree ++ subtreesAll rest

end

theorem subtreesAll_eq (trees : List ParseTree) : subtreesAll trees = trees.flatMap subtrees := by
  induction trees with
  | nil => rfl
  | cons tree rest ih => rw [subtreesAll, ih, List.flatMap_cons]

theorem subtrees_eq (tree : ParseTree) :
    tree.subtrees = tree :: tree.children.flatMap subtrees := by
  obtain ⟨label, children⟩ := tree
  rw [subtrees, subtreesAll_eq]
  rfl

theorem self_mem_subtrees (tree : ParseTree) : tree ∈ tree.subtrees := by
  rw [subtrees_eq]
  exact List.mem_cons_self

/-- The subtrees of a child stand together among those of its parent. -/
theorem subtrees_sublist_of_mem_children {child tree : ParseTree} (h : child ∈ tree.children) :
    child.subtrees.Sublist tree.subtrees := by
  rw [subtrees_eq tree]
  exact List.Sublist.cons _ (List.sublist_flatten_of_mem (List.mem_map_of_mem h))

theorem subtrees_sublist {inner tree : ParseTree} (h : inner ∈ tree.subtrees) :
    inner.subtrees.Sublist tree.subtrees := by
  induction hn : tree.size using Nat.strong_induction_on generalizing tree with
  | _ n ih =>
    rw [subtrees_eq, List.mem_cons, List.mem_flatMap] at h
    obtain rfl | ⟨child, hc, h⟩ := h
    · exact List.Sublist.refl _
    · have hlt := size_lt_of_mem_children hc
      exact (ih _ (by omega) h rfl).trans (subtrees_sublist_of_mem_children hc)

theorem mem_subtrees_trans {inner middle tree : ParseTree} (hi : inner ∈ middle.subtrees)
    (hm : middle ∈ tree.subtrees) : inner ∈ tree.subtrees :=
  (subtrees_sublist hm).subset hi

theorem mem_subtrees_of_mem_children {child tree : ParseTree} (h : child ∈ tree.children) :
    child ∈ tree.subtrees :=
  (subtrees_sublist_of_mem_children h).subset (self_mem_subtrees child)

/-- A subtree is no larger than the tree. -/
theorem size_le_of_mem_subtrees {part tree : ParseTree} (h : part ∈ tree.subtrees) :
    part.size ≤ tree.size := by
  induction hn : tree.size using Nat.strong_induction_on generalizing tree with
  | _ n ih =>
    rw [subtrees_eq, List.mem_cons, List.mem_flatMap] at h
    obtain rfl | ⟨child, hchild, h⟩ := h
    · omega
    · have hlt := size_lt_of_mem_children hchild
      have hle := ih child.size (by omega) h rfl
      omega

/-- A tree stands inside another one: it is a subtree of one of its children. -/
def Encloses (tree part : ParseTree) : Prop := ∃ child ∈ tree.children, part ∈ child.subtrees

theorem encloses_of_mem_children {child tree : ParseTree} (h : child ∈ tree.children) :
    tree.Encloses child :=
  ⟨child, h, self_mem_subtrees child⟩

theorem Encloses.inside {tree part inner : ParseTree} (h : tree.Encloses part)
    (hi : inner ∈ part.subtrees) : tree.Encloses inner := by
  obtain ⟨child, hchild, hpart⟩ := h
  exact ⟨child, hchild, mem_subtrees_trans hi hpart⟩

theorem Encloses.mem_subtrees {tree part : ParseTree} (h : tree.Encloses part) :
    part ∈ tree.subtrees := by
  obtain ⟨child, hchild, hpart⟩ := h
  exact mem_subtrees_trans hpart (mem_subtrees_of_mem_children hchild)

theorem Encloses.size_lt {tree part : ParseTree} (h : tree.Encloses part) :
    part.size < tree.size := by
  obtain ⟨child, hchild, hpart⟩ := h
  exact lt_of_le_of_lt (size_le_of_mem_subtrees hpart) (size_lt_of_mem_children hchild)

theorem Encloses.child {tree part child : ParseTree} (h : tree.Encloses part)
    (hc : child ∈ part.children) : tree.Encloses child :=
  h.inside (mem_subtrees_of_mem_children hc)

/-! ## Trees reached by labels and constructs -/

theorem mem_children_of_mem_namedChildren {child tree : ParseTree}
    (h : child ∈ tree.namedChildren) : child ∈ tree.children :=
  (List.mem_filter.1 h).1

theorem mem_children_of_mem_parts {child tree : ParseTree} {part : Part}
    (h : child ∈ tree.parts part) : child ∈ tree.children :=
  (List.mem_filter.1 h).1

theorem mem_children_of_firstNamed?_eq {child tree : ParseTree} {construct : Construct}
    (h : tree.firstNamed? construct = some child) : child ∈ tree.children :=
  mem_children_of_mem_namedChildren (List.mem_of_find?_eq_some h)

end ParseTree

end StructSearch.Source

/-! ## Trees inside declarators and signatures -/

namespace StructSearch

open Source ParseTree

namespace Declarator

variable {source : List Char}

theorem value_step {d : Declarator} {tree value : ParseTree}
    (h : (step source d tree).1.value = some value) :
    d.value = some value ∨ value ∈ tree.children := by
  unfold step at h
  split at h
  · exact Or.inr (mem_children_of_part?_eq h)
  all_goals try exact Or.inl h
  all_goals
    dsimp only at h
    split_ifs at h <;> exact Or.inl h

theorem function_step {d : Declarator} {tree function : ParseTree}
    (h : (step source d tree).1.function = some function) :
    d.function = some function ∨ function = tree := by
  unfold step at h
  split at h
  all_goals try exact Or.inl h
  all_goals
    dsimp only at h
    split_ifs at h
    · exact Or.inl h
    · exact Or.inr (Option.some.inj h).symm

/-- The parts of an unwrapped declarator are those it began with or stand inside the tree. -/
theorem unwrap_mem_subtrees (d : Declarator) (tree : ParseTree) :
    (∀ value, (unwrap source d tree).value = some value →
      d.value = some value ∨ value ∈ tree.subtrees) ∧
    (∀ function, (unwrap source d tree).function = some function →
      d.function = some function ∨ function ∈ tree.subtrees) := by
  fun_induction unwrap source d tree with
  | case1 d tree e hstep =>
    have he : (step source d tree).1 = e := by rw [hstep]
    subst he
    refine ⟨fun value h => ?_, fun function h => ?_⟩
    · exact (value_step h).imp_right mem_subtrees_of_mem_children
    · exact (function_step h).imp_right (by rintro rfl; exact self_mem_subtrees _)
  | case2 d tree e next hstep ih =>
    have he : (step source d tree).1 = e := by rw [hstep]
    have hnext := mem_subtrees_of_mem_children (mem_children_of_step_eq hstep)
    subst he
    refine ⟨fun value h => ?_, fun function h => ?_⟩
    · obtain h | h := ih.1 value h
      · exact (value_step h).imp_right mem_subtrees_of_mem_children
      · exact Or.inr (mem_subtrees_trans h hnext)
    · obtain h | h := ih.2 function h
      · exact (function_step h).imp_right (by rintro rfl; exact self_mem_subtrees _)
      · exact Or.inr (mem_subtrees_trans h hnext)

/-- The initial value of a declarator stands inside its tree. -/
theorem value_mem_subtrees {tree value : ParseTree}
    (h : (ofTree source tree).value = some value) : value ∈ tree.subtrees := by
  obtain h | h := (unwrap_mem_subtrees {} tree).1 value h
  · cases h
  · exact h

/-- The signature of a declarator stands inside its tree. -/
theorem function_mem_subtrees {tree function : ParseTree}
    (h : (ofTree source tree).function = some function) : function ∈ tree.subtrees := by
  obtain h | h := (unwrap_mem_subtrees {} tree).2 function h
  · cases h
  · exact h

/-- The value of a variable, its own or that of its declaration, stands inside the declaration. -/
theorem builtValue_mem_subtrees {tree declarator value : ParseTree}
    (hpart : declarator ∈ tree.parts .declarator)
    (h : (ofTree source declarator).value.or (tree.part? .defaultValue) = some value) :
    value ∈ tree.subtrees := by
  rcases Option.or_eq_some_iff.1 h with hown | ⟨-, hdefault⟩
  · exact mem_subtrees_trans (value_mem_subtrees hown)
      (mem_subtrees_of_mem_children (mem_children_of_mem_parts hpart))
  · exact mem_subtrees_of_mem_children (mem_children_of_part?_eq hdefault)

end Declarator

/-- A parameter of a function is one of the constructs in the list of its parameters. -/
theorem DeclaredParameter.tree_mem {source : List Char} {function : ParseTree}
    {parameter : DeclaredParameter} (h : parameter ∈ ofFunction source function) :
    parameter.tree ∈ function.subtrees := by
  unfold ofFunction at h
  cases hlist : function.part? .parameters with
  | none => simp [hlist] at h
  | some list =>
    simp only [hlist] at h
    obtain ⟨tree, htree, rfl⟩ := List.mem_map.1 h
    have hchild := mem_children_of_mem_namedChildren (List.mem_filter.1 htree).1
    exact mem_subtrees_trans (mem_subtrees_of_mem_children hchild)
      (mem_subtrees_of_mem_children (mem_children_of_part?_eq hlist))

/-! ## Taking declarators apart -/

/-- Constructs that wrap a declared name. -/
def wrapsName : Construct → Bool
  | .initDeclarator | .pointerDeclarator | .abstractPointerDeclarator | .referenceDeclarator
  | .abstractReferenceDeclarator | .arrayDeclarator | .abstractArrayDeclarator
  | .parenthesizedDeclarator | .functionDeclarator | .abstractFunctionDeclarator => true
  | _ => false

namespace Declarator

variable {source : List Char} {d e : Declarator} {tree inner : ParseTree}

theorem unwrap_eq (source : List Char) (d : Declarator) (tree : ParseTree) :
    unwrap source d tree = (step source d tree).2.elim (step source d tree).1
      (unwrap source (step source d tree).1) := by
  rw [unwrap]
  split
  next h => rw [h]; rfl
  next h => rw [h]; rfl

theorem unwrap_of_step (h : step source d tree = (e, some inner)) :
    unwrap source d tree = unwrap source e inner := by
  rw [unwrap_eq, h]
  rfl

theorem unwrap_value (hconstruct : tree.construct = .initDeclarator)
    (hinner : tree.part? .declarator = some inner) :
    unwrap source d tree = unwrap source { d with value := tree.part? .value } inner :=
  unwrap_of_step (by simp only [step, hconstruct, hinner])

theorem unwrap_pointer (hconstruct : tree.construct = .pointerDeclarator)
    (hinner : tree.part? .declarator = some inner) :
    unwrap source d tree = unwrap source { d with
      outerConst := d.outerConst.or (some (hasConst source tree))
      pointers := d.pointers ++ "*" ++ if hasConst source tree then "const" else "" } inner :=
  unwrap_of_step (by simp only [step, hconstruct, hinner])

theorem unwrap_array (hconstruct : tree.construct = .arrayDeclarator)
    (hinner : tree.part? .declarator = some inner) :
    unwrap source d tree = unwrap source { d with
      arrays := "[" ++ tree.partWords source .size ++ "]" ++ d.arrays } inner := by
  refine unwrap_of_step ?_
  simp only [step, hconstruct, hinner]
  rfl

theorem unwrap_parenthesized (hconstruct : tree.construct = .parenthesizedDeclarator)
    (hinner : tree.namedChildren.head? = some inner) :
    unwrap source d tree = unwrap source d inner :=
  unwrap_of_step (by simp only [step, hconstruct, hinner])

/-- A function declarator around parentheses is taken for that of a pointer to a function. -/
theorem unwrap_functionPointer (hconstruct : tree.construct = .functionDeclarator)
    (hinner : tree.part? .declarator = some inner)
    (hparentheses : inner.construct = .parenthesizedDeclarator) :
    unwrap source d tree = unwrap source { d with
      functionPointer := some ("(*)" ++ tree.partWords source .parameters) } inner := by
  refine unwrap_of_step ?_
  simp only [step, hconstruct, hinner, Option.any_some, hparentheses, beq_self_eq_true, if_true]
  rfl

/-- Anything but a declarator is the declared name. -/
theorem unwrap_name (h : wrapsName tree.construct = false) :
    unwrap source d tree = { d with name := some tree } := by
  have hstep : step source d tree = ({ d with name := some tree }, none) := by
    unfold step
    split
    case h_11 => rfl
    all_goals simp_all [wrapsName]
  rw [unwrap_eq, hstep]
  rfl

end Declarator

end StructSearch

import Mathlib.Logic.Function.Iterate
import StructSearch.Proofs.Outline.Labels

/-!
# The order in which constructs are built

What stands inside a construct is built by a loop over the trees that are still to do. A transparent
tree is not built: the trees inside it take its place in front of the others. Written as a
recursion, the same is to build every tree in turn, where building a transparent tree is building
the trees inside it.

The loop is looked at turn by turn. A turn makes what is to do smaller, so that as many turns as
there are nodes leave nothing to do, and the draft is then the one that the recursion gives.

Results:
* `iterate_turn`: the loop ends, and ends as `drain` says.
* `children_eq_each`: the loop does what the recursion does.
* `items_sublist`: the trees that are built in the end stand in the order of the source.
* `children_build_in_source_order`: all of this for every construct.
-/

namespace StructSearch

open Source ParseTree

namespace Rules

variable {source : List Char} {build : Recursion} {parent : NodeId}

/-! ## Turns of the loop -/

/-- One turn of the loop, from the trees that are still to do and the draft. A transparent tree
gives way to the trees inside it, any other tree is built. -/
def turn (build : Recursion) (parent : NodeId) :
    List ParseTree × Draft → List ParseTree × Draft
  | ([], draft) => ([], draft)
  | (tree :: rest, draft) =>
    if tree.construct.isTransparent then (tree.namedChildren ++ rest, draft)
    else (rest, ((build .member tree parent).run draft).2)

/-- A turn takes at least one node away from what is to do. -/
theorem sizeAll_turn_lt (tree : ParseTree) (rest : List ParseTree) (draft : Draft) :
    sizeAll (turn build parent (tree :: rest, draft)).1 < sizeAll (tree :: rest) := by
  have hinside := sizeAll_namedChildren_lt tree
  have hpos : 0 < tree.size := by rw [size_eq]; omega
  rw [turn, sizeAll]
  split_ifs
  · rw [sizeAll_append]
    omega
  · dsimp only
    omega

/-- A turn leaves the outcome of the loop as it is. -/
theorem drain_turn (pending : List ParseTree) (draft : Draft) :
    let after := turn build parent (pending, draft)
    ((drain build parent after.1).run after.2).2 = ((drain build parent pending).run draft).2 := by
  cases pending with
  | nil => rfl
  | cons tree rest =>
    rw [turn]
    split_ifs with htransparent
    · rw [drain.eq_def build parent (tree :: rest)]
      dsimp only
      rw [if_pos htransparent]
    · rw [drain.eq_def build parent (tree :: rest)]
      dsimp only
      rw [if_neg htransparent]
      rfl

/-- As many turns as there are nodes to do leave nothing to do, and the draft of the loop. -/
theorem iterate_turn {turns : ℕ} {pending : List ParseTree} (draft : Draft)
    (h : sizeAll pending ≤ turns) :
    (turn build parent)^[turns] (pending, draft) =
      ([], ((drain build parent pending).run draft).2) := by
  induction turns generalizing pending draft with
  | zero =>
    cases pending with
    | nil =>
      rw [drain]
      rfl
    | cons tree rest =>
      have hpos : 0 < tree.size := by rw [size_eq]; omega
      rw [sizeAll] at h
      omega
  | succ turns ih =>
    rw [Function.iterate_succ_apply, ← drain_turn]
    refine ih _ ?_
    cases pending with
    | nil => exact Nat.zero_le _
    | cons tree rest =>
      exact Nat.le_of_lt_succ (lt_of_lt_of_le (sizeAll_turn_lt tree rest draft) h)

/-! ## The loop as a recursion -/

/-- If every tree is built as the recursion builds it, the loop does what the recursion does. A
transparent tree is one whose parts are built in its place. -/
theorem drain_eq_each (source : List Char) {pending : List ParseTree}
    (hbuilt : ∀ part ∈ pending.flatMap subtrees, part.construct.isTransparent = false →
      build .member part parent = buildTree source .member part parent)
    (htransparent : ∀ part ∈ pending.flatMap subtrees, part.construct.isTransparent = true →
      (do let _ ← buildTree source .member part parent) =
        each (buildTree source) parent part.namedChildren) :
    drain build parent pending = each (buildTree source) parent pending := by
  induction pending using drain.induct with
  | case1 =>
    rw [drain]
    rfl
  | case2 tree rest hopen ih =>
    have hinside : ∀ part ∈ (tree.namedChildren ++ rest).flatMap subtrees,
        part ∈ (tree :: rest).flatMap subtrees := by
      intro part hpart
      rw [List.flatMap_append, List.mem_append] at hpart
      rw [List.flatMap_cons, List.mem_append]
      refine hpart.imp_left fun hpart => ?_
      obtain ⟨child, hchild, hpart⟩ := List.mem_flatMap.1 hpart
      exact mem_subtrees_trans hpart
        (mem_subtrees_of_mem_children (mem_children_of_mem_namedChildren hchild))
    rw [drain, if_pos hopen, ih (fun part hpart => hbuilt part (hinside part hpart))
      (fun part hpart => htransparent part (hinside part hpart)), each_append,
      ← htransparent tree (by simp [self_mem_subtrees]) hopen, each]
    simp only [bind_assoc, pure_bind]
  | case3 tree rest hclosed ih =>
    have hrest : ∀ part ∈ rest.flatMap subtrees, part ∈ (tree :: rest).flatMap subtrees := by
      intro part hpart
      rw [List.flatMap_cons]
      exact List.mem_append_right _ hpart
    rw [drain, if_neg hclosed, ih (fun part hpart => hbuilt part (hrest part hpart))
      (fun part hpart => htransparent part (hrest part hpart)),
      hbuilt tree (by simp [self_mem_subtrees]) (by simpa using hclosed), each]

/-- Building a transparent tree is building the trees inside it, one after the other. -/
theorem buildTree_of_isTransparent (source : List Char) {tree : ParseTree}
    (h : tree.construct.isTransparent = true) (role : Role) (parent : NodeId) :
    buildTree source role tree parent =
      (do each (buildTree source) parent tree.namedChildren; return none) := by
  induction hn : tree.size using Nat.strong_induction_on generalizing tree role parent with
  | _ n ih =>
    -- The trees inside are smaller, so that their rules are the recursion itself.
    have hsmaller : ∀ part ∈ tree.namedChildren.flatMap subtrees, part.size < tree.size := by
      intro part hpart
      obtain ⟨child, hchild, hpart⟩ := List.mem_flatMap.1 hpart
      exact Encloses.size_lt ⟨child, mem_children_of_mem_namedChildren hchild, hpart⟩
    rw [buildTree_eq, rule_of_isTransparent h, children, drain_eq_each source]
    · intro part hpart _
      exact buildSmaller_of_lt (hsmaller part hpart)
    · intro part hpart hopen
      have hlt := hsmaller part hpart
      rw [ih part.size (by omega) hopen .member parent rfl]
      simp only [bind_assoc, pure_bind, bind_pure_unit]

/-- The loop over the constructs inside a tree builds its named children one after the other. What
a rule inside a larger tree may build is built alike. -/
theorem children_eq_each {tree : ParseTree}
    (hbuild : ∀ part, part.size < tree.size →
      build .member part parent = buildTree source .member part parent) :
    children build tree parent = each (buildTree source) parent tree.namedChildren := by
  refine drain_eq_each source (fun part hpart _ => hbuild part ?_) fun part _ hopen => ?_
  · obtain ⟨child, hchild, hpart⟩ := List.mem_flatMap.1 hpart
    exact Encloses.size_lt ⟨child, mem_children_of_mem_namedChildren hchild, hpart⟩
  · rw [buildTree_of_isTransparent source hopen]
    simp only [bind_assoc, pure_bind, bind_pure_unit]

end Rules

/-! ## The order of the source -/

theorem sublist_children_of_opened? {tree : ParseTree} {parts : List ParseTree}
    (h : opened? tree = some parts) : parts.Sublist tree.children := by
  unfold opened? at h
  split_ifs at h
  · cases h
    exact List.filter_sublist
  · cases h
    exact List.filter_sublist.trans (List.eraseP_sublist.trans List.eraseP_sublist)

/-- The items that a tree stands for are in the order of the source. -/
theorem items_sublist (tree : ParseTree) : (items tree).Sublist tree.subtrees := by
  induction hn : tree.size using Nat.strong_induction_on generalizing tree with
  | _ n ih =>
    rw [subtrees_eq]
    cases hopened : opened? tree with
    | none =>
      rw [items_of_not_opened hopened]
      exact List.Sublist.cons_cons _ (List.nil_sublist _)
    | some parts =>
      have hparts : (parts.flatMap items).Sublist (parts.flatMap subtrees) := by
        refine List.Sublist.flatMap_right _ fun part hpart => ?_
        have hlt := size_lt_of_mem_children (mem_children_of_opened? hopened hpart)
        exact ih part.size (by omega) part rfl
      rw [items_of_opened? hopened]
      exact .cons _ (hparts.trans ((sublist_children_of_opened? hopened).flatMap _))

theorem bodyItems_sublist (tree : ParseTree) : (bodyItems tree).Sublist tree.subtrees := by
  have hitems : (bodyItems tree).Sublist (tree.namedChildren.flatMap subtrees) :=
    List.Sublist.flatMap_right _ fun part _ => items_sublist part
  rw [subtrees_eq]
  exact .cons _ (hitems.trans (List.filter_sublist.flatMap _))

/-- The loop over the constructs inside a tree ends after at most as many turns as the tree has
nodes. The draft is then the one that building the named children in turn gives, where building a
transparent tree is building its named children in its place; so what is built in the end are the
items of the tree, in the order of the source. -/
theorem children_build_in_source_order (source : List Char) (tree : ParseTree) (parent : NodeId)
    (draft : Draft) :
    (∀ turns ≥ tree.size,
      (Rules.turn (buildTree source) parent)^[turns] (tree.namedChildren, draft) =
        ([], ((Rules.children (buildTree source) tree parent).run draft).2)) ∧
    (Rules.children (buildTree source) tree parent).run draft =
      (Rules.each (buildTree source) parent tree.namedChildren).run draft ∧
    (∀ inner : ParseTree, inner.construct.isTransparent = true → ∀ role place before,
      (buildTree source role inner place).run before =
        (none, ((Rules.each (buildTree source) place inner.namedChildren).run before).2)) ∧
    (Rules.children (buildTree source) tree parent).run draft =
      (Rules.each (buildTree source) parent (bodyItems tree)).run draft ∧
    (bodyItems tree).Sublist tree.subtrees := by
  refine ⟨fun turns hturns => ?_, ?_, fun inner hopen role place before => ?_, ?_, ?_⟩
  · exact Rules.iterate_turn draft (le_trans (sizeAll_namedChildren_lt tree).le hturns)
  · rw [Rules.children_eq_each fun _ _ => rfl]
  · rw [Rules.buildTree_of_isTransparent source hopen]
    rfl
  · rw [Rules.children_eq_each_items parent fun _ _ _ => rfl]
  · exact bodyItems_sublist tree

end StructSearch

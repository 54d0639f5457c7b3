import Mathlib.Data.List.Nodup
import Mathlib.Data.List.Perm.Subperm
import Mathlib.Tactic
import StructSearch.Outline.Walk

/-!
# Parents, children and the nodes below a node

An outline grows by adding nodes and changes by rewriting their records. Whatever the order of
these steps and whatever numbers they are given, parents and children stay two views of one
forest in which a parent is older than its children.

Results:
* `Reachable.linked`: the links of every outline that can be built agree with each other.
* `Linked.descendants_eq`: the walk below a node is the recursive pre-order of its children, so
  the bound on the number of visits is never reached.
* `Linked.mem_descendants_iff`: a node lies below another one going down iff it does going up.
-/

namespace StructSearch.Outline

/-! ## Outlines that can be built -/

/-- Outlines that are built from a single node by adding nodes, below any number and in any role,
and by changing records. -/
inductive Reachable : Outline → Prop
  | single (info : NodeInfo) : Reachable (single info)
  | add {outline : Outline} (parent : NodeId) (info : NodeInfo) (role : Role) :
      Reachable outline → Reachable (outline.add parent info role)
  | modifyInfo {outline : Outline} (id : NodeId) (f : NodeInfo → NodeInfo) :
      Reachable outline → Reachable (outline.modifyInfo id f)

/-- The links of an outline agree: a parent is older than its children, and the children of a node,
from old to new, are the nodes whose parent it is. -/
structure Linked (outline : Outline) : Prop where
  parent_lt : ∀ {id parent : NodeId}, outline.parent? id = some parent → parent < id
  mem_children : ∀ {id child : NodeId},
    child ∈ outline.children id ↔ outline.parent? child = some id
  children_sorted : ∀ id : NodeId, (outline.children id).Pairwise (· < ·)

/-! ## What a step does to the links -/

@[simp] theorem adopt_parent (slot : Slot) (role : Role) (child : NodeId) :
    (slot.adopt role child).parent = slot.parent := by
  cases role <;> rfl

@[simp] theorem adopt_children (slot : Slot) (role : Role) (child : NodeId) :
    (slot.adopt role child).children = slot.children ++ [child] := by
  cases role <;> rfl

theorem slot?_add (outline : Outline) (parent : NodeId) (info : NodeInfo) (role : Role)
    (id : NodeId) :
    (outline.add parent info role).slot? id =
      if id = outline.size then
        some { info, parent := if parent < outline.size then some parent else none }
      else if parent = id then (outline.slot? id).map (·.adopt role outline.size)
      else outline.slot? id := by
  simp only [slot?, add, Array.getElem?_push, Array.getElem?_modify, Array.size_modify, size]
  rfl

theorem slot?_eq_none {outline : Outline} {id : NodeId} (h : outline.size ≤ id) :
    outline.slot? id = none :=
  Array.getElem?_eq_none h

theorem parent?_add (outline : Outline) (parent : NodeId) (info : NodeInfo) (role : Role)
    (id : NodeId) :
    (outline.add parent info role).parent? id =
      if id = outline.size then if parent < outline.size then some parent else none
      else outline.parent? id := by
  unfold parent?
  rw [slot?_add]
  split_ifs with h1 h2 h3 <;> try rfl
  cases outline.slot? id <;> simp

theorem children_add (outline : Outline) (parent : NodeId) (info : NodeInfo) (role : Role)
    (id : NodeId) :
    (outline.add parent info role).children id =
      if id = parent ∧ parent < outline.size then outline.children id ++ [outline.size]
      else outline.children id := by
  unfold children
  rw [slot?_add]
  by_cases h1 : id = outline.size
  · have h2 : ¬(id = parent ∧ parent < outline.size) := by lia
    rw [if_pos h1, if_neg h2, slot?_eq_none (by lia)]
    rfl
  · rw [if_neg h1]
    by_cases h2 : parent = id
    · subst h2
      rw [if_pos rfl]
      by_cases h3 : parent < outline.size
      · rw [if_pos ⟨rfl, h3⟩]
        obtain ⟨slot, hs⟩ : ∃ slot, outline.slot? parent = some slot :=
          ⟨_, Array.getElem?_eq_getElem h3⟩
        simp [hs]
      · rw [if_neg (by lia), slot?_eq_none (by lia)]
        rfl
    · rw [if_neg h2, if_neg (by lia)]

theorem slot?_modifyInfo (outline : Outline) (id : NodeId) (f : NodeInfo → NodeInfo)
    (other : NodeId) :
    (outline.modifyInfo id f).slot? other =
      if id = other then (outline.slot? other).map fun slot => { slot with info := f slot.info }
      else outline.slot? other := by
  simp only [slot?, modifyInfo, Array.getElem?_modify]

@[simp] theorem parent?_modifyInfo (outline : Outline) (id : NodeId) (f : NodeInfo → NodeInfo)
    (other : NodeId) : (outline.modifyInfo id f).parent? other = outline.parent? other := by
  unfold parent?
  rw [slot?_modifyInfo]
  split_ifs
  · cases outline.slot? other <;> rfl
  · rfl

@[simp] theorem children_modifyInfo (outline : Outline) (id : NodeId) (f : NodeInfo → NodeInfo)
    (other : NodeId) : (outline.modifyInfo id f).children other = outline.children other := by
  unfold children
  rw [slot?_modifyInfo]
  split_ifs
  · cases outline.slot? other <;> rfl
  · rfl

/-! ## The invariant -/

theorem parent?_eq_none {outline : Outline} {id : NodeId} (h : outline.size ≤ id) :
    outline.parent? id = none := by
  rw [parent?, slot?_eq_none h]
  rfl

theorem lt_size_of_parent?_eq {outline : Outline} {id parent : NodeId}
    (h : outline.parent? id = some parent) : id < outline.size := by
  by_contra hge
  rw [parent?_eq_none (by lia)] at h
  cases h

theorem linked_single (info : NodeInfo) : (single info).Linked := by
  have hparent : ∀ id, (single info).parent? id = none := by
    intro id
    cases id with
    | zero => rfl
    | succ id => exact parent?_eq_none (by simp)
  have hchildren : ∀ id, (single info).children id = [] := by
    intro id
    cases id with
    | zero => rfl
    | succ id => rw [children, slot?_eq_none (by simp)]; rfl
  constructor
  · intro id parent h
    rw [hparent] at h
    cases h
  · intro id child
    simp [hparent, hchildren]
  · intro id
    simp [hchildren]

theorem Linked.add {outline : Outline} (h : outline.Linked) (parent : NodeId) (info : NodeInfo)
    (role : Role) : (outline.add parent info role).Linked := by
  constructor
  · intro id above ha
    rw [parent?_add] at ha
    split_ifs at ha with h1 h2
    · cases ha
      lia
    · exact h.parent_lt ha
  · intro id child
    rw [children_add, parent?_add]
    -- the new node is nobody's child before the step
    have hnew : outline.size ∉ outline.children id := by
      rw [h.mem_children, parent?_eq_none le_rfl]
      simp
    by_cases h1 : child = outline.size
    · subst h1
      rw [if_pos rfl]
      by_cases h2 : id = parent ∧ parent < outline.size
      · rw [if_pos h2, if_pos h2.2]
        simp [h2.1]
      · rw [if_neg h2]
        refine iff_of_false hnew ?_
        split_ifs with h3
        · rintro ⟨⟩
          exact h2 ⟨rfl, h3⟩
        · simp
    · rw [if_neg h1, ← h.mem_children]
      split_ifs
      · simp [h1]
      · rfl
  · intro id
    rw [children_add]
    split_ifs
    · refine List.pairwise_append.2 ⟨h.children_sorted id, List.pairwise_singleton _ _, ?_⟩
      intro child hchild last hlast
      rw [List.mem_singleton.1 hlast]
      exact lt_size_of_parent?_eq (h.mem_children.1 hchild)
    · exact h.children_sorted id

theorem Linked.modifyInfo {outline : Outline} (h : outline.Linked) (id : NodeId)
    (f : NodeInfo → NodeInfo) : (outline.modifyInfo id f).Linked := by
  constructor
  · intro other parent hp
    rw [parent?_modifyInfo] at hp
    exact h.parent_lt hp
  · intro other child
    rw [children_modifyInfo, parent?_modifyInfo]
    exact h.mem_children
  · intro other
    rw [children_modifyInfo]
    exact h.children_sorted other

/-- The links of every outline that can be built agree. -/
theorem Reachable.linked {outline : Outline} (h : outline.Reachable) : outline.Linked := by
  induction h with
  | single info => exact linked_single info
  | add parent info role _ ih => exact ih.add parent info role
  | modifyInfo id f _ ih => exact ih.modifyInfo id f

/-! ## Going up -/

section Ancestors

variable {outline : Outline} (h : outline.Linked)
include h

theorem Linked.ancestors_eq (id : NodeId) :
    outline.ancestors id =
      match outline.parent? id with
      | none => []
      | some parent => parent :: outline.ancestors parent := by
  rw [ancestors]
  cases hp : outline.parent? id with
  | none => rfl
  | some parent => simp [h.parent_lt hp]

theorem Linked.mem_ancestors_iff {id above : NodeId} :
    above ∈ outline.ancestors id ↔
      ∃ parent, outline.parent? id = some parent ∧
        (above = parent ∨ above ∈ outline.ancestors parent) := by
  rw [h.ancestors_eq id]
  cases outline.parent? id <;> simp

/-- Above the parent of a child stands what stands above the child, less the parent. -/
theorem Linked.mem_ancestors_child {id child above : NodeId}
    (hc : child ∈ outline.children id) :
    above ∈ outline.ancestors child ↔ above = id ∨ above ∈ outline.ancestors id := by
  rw [h.mem_ancestors_iff, h.mem_children.1 hc]
  simp

/-- The numbers fall on the way up. -/
theorem Linked.lt_of_mem_ancestors {id above : NodeId} (ha : above ∈ outline.ancestors id) :
    above < id := by
  induction id using Nat.strong_induction_on with
  | _ id ih =>
    obtain ⟨parent, hp, rfl | ha⟩ := h.mem_ancestors_iff.1 ha
    · exact h.parent_lt hp
    · exact lt_trans (ih parent (h.parent_lt hp) ha) (h.parent_lt hp)

theorem Linked.ancestors_sorted (id : NodeId) : (outline.ancestors id).Pairwise (· > ·) := by
  induction id using Nat.strong_induction_on with
  | _ id ih =>
    rw [h.ancestors_eq]
    cases hp : outline.parent? id with
    | none => exact List.Pairwise.nil
    | some parent =>
      exact List.pairwise_cons.2
        ⟨fun above ha => h.lt_of_mem_ancestors ha, ih parent (h.parent_lt hp)⟩

theorem Linked.mem_ancestors_trans {id middle above : NodeId}
    (hm : middle ∈ outline.ancestors id) (ha : above ∈ outline.ancestors middle) :
    above ∈ outline.ancestors id := by
  induction id using Nat.strong_induction_on with
  | _ id ih =>
    obtain ⟨parent, hp, rfl | hm⟩ := h.mem_ancestors_iff.1 hm
    · exact h.mem_ancestors_iff.2 ⟨middle, hp, Or.inr ha⟩
    · exact h.mem_ancestors_iff.2 ⟨parent, hp, Or.inr (ih parent (h.parent_lt hp) hm)⟩

/-- The nodes between a node and a scope are among those met before the scope on the way up. -/
theorem Linked.mem_ancestorsWithin {id middle scope : NodeId}
    (hm : middle ∈ outline.ancestors id) (hs : scope ∈ outline.ancestors middle) :
    middle ∈ outline.ancestorsWithin id scope := by
  have hlt := h.lt_of_mem_ancestors hs
  have hsorted := h.ancestors_sorted id
  unfold ancestorsWithin
  generalize outline.ancestors id = above at hm hsorted ⊢
  induction above with
  | nil => cases hm
  | cons first rest ih =>
    obtain ⟨hfirst, hrest⟩ := List.pairwise_cons.1 hsorted
    -- every node met up to `middle` is younger than the scope
    have hne : first ≠ scope := by
      rcases List.mem_cons.1 hm with rfl | hm
      · lia
      · have := hfirst middle hm
        lia
    rw [List.takeWhile_cons_of_pos (by simpa using hne)]
    rcases List.mem_cons.1 hm with rfl | hm
    · exact List.mem_cons_self
    · exact List.mem_cons_of_mem _ (ih hm hrest)

end Ancestors

/-! ## Going down -/

/-- A node and the nodes below it in pre-order: the node, then its children in turn, each with the
nodes below it. The guard holds of every child of an outline that can be built. -/
def preorder (outline : Outline) (id : NodeId) : List NodeId :=
  id :: (outline.children id).flatMap fun child =>
    if _h : id < child ∧ child < outline.size then outline.preorder child else []
termination_by outline.size - id
decreasing_by lia

section Descendants

variable {outline : Outline} (h : outline.Linked)
include h

theorem Linked.preorder_eq (id : NodeId) :
    outline.preorder id = id :: (outline.children id).flatMap outline.preorder := by
  rw [Outline.preorder]
  congr 1
  refine List.flatMap_congr fun child hc => ?_
  have hp := h.mem_children.1 hc
  rw [dif_pos ⟨h.parent_lt hp, lt_size_of_parent?_eq hp⟩]

theorem Linked.self_mem_preorder (id : NodeId) : id ∈ outline.preorder id := by
  rw [h.preorder_eq]
  exact List.mem_cons_self

/-- What holds of a node as soon as it holds of its children holds of every node: children have
larger numbers, and the numbers end at the size of the outline. -/
theorem Linked.down_induction {motive : NodeId → Prop}
    (step : ∀ id, (∀ child ∈ outline.children id, motive child) → motive id) (id : NodeId) :
    motive id := by
  induction hn : outline.size - id using Nat.strong_induction_on generalizing id with
  | _ n ih =>
    refine step id fun child hc => ?_
    have hp := h.mem_children.1 hc
    have h1 := h.parent_lt hp
    have h2 := lt_size_of_parent?_eq hp
    exact ih _ (by lia) child rfl

/-- The pre-order of a node holds the children of the nodes that it holds. -/
theorem Linked.mem_preorder_of_parent {id parent child : NodeId}
    (hp : outline.parent? child = some parent) :
    parent ∈ outline.preorder id → child ∈ outline.preorder id := by
  induction id using h.down_induction with
  | step id ih =>
    intro hmem
    rw [h.preorder_eq, List.mem_cons, List.mem_flatMap] at hmem ⊢
    obtain rfl | ⟨other, hc, hmem⟩ := hmem
    · exact Or.inr ⟨child, h.mem_children.2 hp, h.self_mem_preorder child⟩
    · exact Or.inr ⟨other, hc, ih other hc hmem⟩

theorem Linked.mem_preorder_iff {id below : NodeId} :
    below ∈ outline.preorder id ↔ below = id ∨ id ∈ outline.ancestors below := by
  constructor
  · induction id using h.down_induction with
    | step id ih =>
      intro hmem
      rw [h.preorder_eq, List.mem_cons, List.mem_flatMap] at hmem
      obtain rfl | ⟨child, hc, hmem⟩ := hmem
      · exact Or.inl rfl
      · have hchild : id ∈ outline.ancestors child := (h.mem_ancestors_child hc).2 (Or.inl rfl)
        obtain rfl | ha := ih child hc hmem
        · exact Or.inr hchild
        · exact Or.inr (h.mem_ancestors_trans ha hchild)
  · rintro (rfl | ha)
    · exact h.self_mem_preorder below
    · induction below using Nat.strong_induction_on with
      | _ below ih =>
        obtain ⟨parent, hp, rfl | ha⟩ := h.mem_ancestors_iff.1 ha
        · exact h.mem_preorder_of_parent hp (h.self_mem_preorder id)
        · exact h.mem_preorder_of_parent hp (ih parent (h.parent_lt hp) ha)

theorem Linked.lt_size_of_mem_preorder {id below : NodeId} (hid : id < outline.size)
    (hb : below ∈ outline.preorder id) : below < outline.size := by
  obtain rfl | ha := h.mem_preorder_iff.1 hb
  · exact hid
  · obtain ⟨parent, hp, -⟩ := h.mem_ancestors_iff.1 ha
    exact lt_size_of_parent?_eq hp

/-- Two children of a node have nothing in common below them. -/
theorem Linked.disjoint_preorder {id first second : NodeId}
    (h1 : first ∈ outline.children id) (h2 : second ∈ outline.children id) (hne : first ≠ second) :
    List.Disjoint (outline.preorder first) (outline.preorder second) := by
  -- of two children on one way up the older one would stand above their parent
  have apart : ∀ {child other : NodeId}, child ∈ outline.children id →
      other ∈ outline.children id → other ∉ outline.ancestors child := by
    intro child other hc ho ha
    have hlt := h.parent_lt (h.mem_children.1 ho)
    obtain rfl | ha := (h.mem_ancestors_child hc).1 ha
    · exact lt_irrefl _ hlt
    · exact lt_asymm hlt (h.lt_of_mem_ancestors ha)
  intro below hb1 hb2
  rw [h.mem_preorder_iff] at hb1 hb2
  induction below using Nat.strong_induction_on with
  | _ below ih =>
    obtain rfl | ha1 := hb1
    · obtain rfl | ha2 := hb2
      · exact hne rfl
      · exact apart h1 h2 ha2
    · obtain rfl | ha2 := hb2
      · exact apart h2 h1 ha1
      · obtain ⟨parent, hp, hup1⟩ := h.mem_ancestors_iff.1 ha1
        obtain ⟨_, hp', hup2⟩ := h.mem_ancestors_iff.1 ha2
        obtain rfl : parent = _ := Option.some.inj (hp.symm.trans hp')
        exact ih parent (h.parent_lt hp) (hup1.imp_left Eq.symm) (hup2.imp_left Eq.symm)

theorem Linked.nodup_preorder (id : NodeId) : (outline.preorder id).Nodup := by
  induction id using h.down_induction with
  | step id ih =>
    rw [h.preorder_eq, List.nodup_cons, List.nodup_flatMap]
    refine ⟨?_, ih, ?_⟩
    · intro hmem
      obtain ⟨child, hc, hmem⟩ := List.mem_flatMap.1 hmem
      have hlt := h.parent_lt (h.mem_children.1 hc)
      obtain rfl | ha := h.mem_preorder_iff.1 hmem
      · exact lt_irrefl _ hlt
      · exact lt_asymm hlt (h.lt_of_mem_ancestors ha)
    · refine (h.children_sorted id).imp_of_mem ?_
      intro first second h1 h2 hlt
      exact h.disjoint_preorder h1 h2 (ne_of_lt hlt)

theorem Linked.length_preorder_le (id : NodeId) (hid : id < outline.size) :
    (outline.preorder id).length ≤ outline.size := by
  have hsub : outline.preorder id ⊆ List.range outline.size := by
    intro below hb
    exact List.mem_range.2 (h.lt_size_of_mem_preorder hid hb)
  simpa using ((h.nodup_preorder id).subperm hsub).length_le

/-- A walk with enough visits lists the pre-orders of the nodes on its stack. -/
theorem Linked.walk_eq (visits : ℕ) :
    ∀ stack : List NodeId, (stack.flatMap outline.preorder).length ≤ visits →
      outline.walk visits stack = stack.flatMap outline.preorder := by
  induction visits with
  | zero =>
    intro stack hlen
    rw [List.length_eq_zero_iff.1 (Nat.le_zero.1 hlen)]
    rfl
  | succ visits ih =>
    intro stack hlen
    cases stack with
    | nil => rfl
    | cons id stack =>
      have hsplit : (id :: stack).flatMap outline.preorder =
          id :: (outline.children id ++ stack).flatMap outline.preorder := by
        rw [List.flatMap_cons, h.preorder_eq, List.flatMap_append, List.cons_append]
      rw [hsplit] at hlen ⊢
      rw [walk, ih _ (Nat.le_of_succ_le_succ hlen)]

/-- The walk below a node ends before its bound: it lists the pre-orders of the children. -/
theorem Linked.descendants_eq (id : NodeId) :
    outline.descendants id = (outline.children id).flatMap outline.preorder := by
  refine h.walk_eq _ _ ?_
  by_cases hid : id < outline.size
  · have hlen := h.length_preorder_le id hid
    rw [h.preorder_eq, List.length_cons] at hlen
    exact Nat.le_of_succ_le hlen
  · rw [children, slot?_eq_none (Nat.le_of_not_lt hid)]
    exact Nat.zero_le _

/-- A node is met on the way down from another one iff that one is met on the way up from it. -/
theorem Linked.mem_descendants_iff {id below : NodeId} :
    below ∈ outline.descendants id ↔ id ∈ outline.ancestors below := by
  have hcons : below ∈ outline.preorder id ↔ below = id ∨ below ∈ outline.descendants id := by
    rw [h.preorder_eq, h.descendants_eq, List.mem_cons]
  have hself : id ∉ outline.descendants id := by
    rw [h.descendants_eq]
    have hnodup := h.nodup_preorder id
    rw [h.preorder_eq] at hnodup
    exact (List.nodup_cons.1 hnodup).1
  rw [h.mem_preorder_iff] at hcons
  constructor
  · intro hb
    obtain rfl | ha := hcons.2 (Or.inr hb)
    · exact absurd hb hself
    · exact ha
  · intro ha
    obtain rfl | hb := hcons.1 (Or.inr ha)
    · exact absurd (h.lt_of_mem_ancestors ha) (lt_irrefl _)
    · exact hb

end Descendants

end StructSearch.Outline

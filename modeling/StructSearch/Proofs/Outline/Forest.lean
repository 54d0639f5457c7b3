import StructSearch.Proofs.Outline.Records

/-!
# Outlines are forests

An outline stores its structure more than once: each node knows its parent, and each parent has
three lists of nodes. Whatever changes are made to an outline that begins with a single node, and
whatever numbers they name as parents, these views agree, and both walks over the nodes end.

The walk below a node is bounded by the size of the outline, and the walk up checks that numbers
fall. `Walks` is the walk below a node without a bound; that it relates a stack to a list says that
the walk ends.

Results:
* `Listed`: arguments and template parameters are told apart, in the order of the children.
* `Linked.walks`: the walk below a node ends and lists what the bounded walk lists.
* `grown_forest`: numbers are given in order, and every outline that is grown is a forest.
-/

namespace StructSearch.Outline

/-! ## Growing an outline -/

/-- A change of an outline. -/
inductive Change where
  /-- A node is added below any number, in use or not. -/
  | add (parent : NodeId) (info : NodeInfo) (role : Role)
  /-- The record of a node is changed; a number that is not in use is ignored. -/
  | rewrite (id : NodeId) (f : NodeInfo → NodeInfo)

/-- The outline after a change. -/
def change (outline : Outline) : Change → Outline
  | .add parent info role => outline.add parent info role
  | .rewrite id f => outline.modifyInfo id f

/-- The outline after changes, made one after the other. -/
def grown (outline : Outline) (changes : List Change) : Outline := changes.foldl change outline

/-- The numbers of the nodes that changes add, in the order in which they are added. -/
def newNumbers (outline : Outline) : List Change → List NodeId
  | [] => []
  | .add parent info role :: rest => outline.size :: newNumbers (outline.add parent info role) rest
  | .rewrite id f :: rest => newNumbers (outline.modifyInfo id f) rest

theorem Reachable.grown {outline : Outline} (h : outline.Reachable) (changes : List Change) :
    (outline.grown changes).Reachable := by
  induction changes generalizing outline with
  | nil => exact h
  | cons first rest ih =>
    cases first with
    | add parent info role => exact ih (h.add parent info role)
    | rewrite id f => exact ih (h.modifyInfo id f)

/-- Numbers are given in order, without a gap. -/
theorem range_grown (outline : Outline) (changes : List Change) :
    List.range (outline.grown changes).size =
      List.range outline.size ++ outline.newNumbers changes := by
  induction changes generalizing outline with
  | nil => exact (List.append_nil _).symm
  | cons first rest ih =>
    cases first with
    | add parent info role =>
      have hrest := ih (outline.add parent info role)
      rw [size_add, List.range_succ, List.append_assoc] at hrest
      exact hrest
    | rewrite id f =>
      have hrest := ih (outline.modifyInfo id f)
      rw [size_modifyInfo] at hrest
      exact hrest

/-- No change moves a node to another parent. -/
theorem parent?_grown {outline : Outline} {id : NodeId} (hid : id < outline.size)
    (changes : List Change) : (outline.grown changes).parent? id = outline.parent? id := by
  induction changes generalizing outline with
  | nil => rfl
  | cons first rest ih =>
    cases first with
    | add parent info role =>
      have hlater : id < (outline.add parent info role).size := by rw [size_add]; lia
      have hrest := ih hlater
      rw [parent?_add, if_neg (Nat.ne_of_lt hid)] at hrest
      exact hrest
    | rewrite other f =>
      have hlater : id < (outline.modifyInfo other f).size := by rwa [size_modifyInfo]
      have hrest := ih hlater
      rw [parent?_modifyInfo] at hrest
      exact hrest

/-- A node stands below the number that it was added below, if that was in use by then. -/
theorem parent?_grown_add (outline : Outline) (before : List Change) (parent : NodeId)
    (info : NodeInfo) (role : Role) (after : List Change) :
    (outline.grown (before ++ .add parent info role :: after)).parent?
        (outline.grown before).size =
      if parent < (outline.grown before).size then some parent else none := by
  have hsplit : outline.grown (before ++ .add parent info role :: after) =
      ((outline.grown before).add parent info role).grown after := by
    rw [grown, List.foldl_append]
    rfl
  rw [hsplit, parent?_grown (by rw [size_add]; lia), parent?_add, if_pos rfl]

/-! ## Arguments and template parameters -/

/-- The arguments and the template parameters of a node are some of its children, in their order,
and no child is both. -/
structure Listed (outline : Outline) : Prop where
  arguments_sublist : ∀ id, (outline.arguments id).Sublist (outline.children id)
  templates_sublist : ∀ id, (outline.templateParameters id).Sublist (outline.children id)
  disjoint : ∀ id, (outline.arguments id).Disjoint (outline.templateParameters id)

theorem listed_single (info : NodeInfo) : (single info).Listed := by
  have harguments : ∀ id, (single info).arguments id = [] := by
    intro id
    cases id with
    | zero => rfl
    | succ id => exact arguments_eq_nil (by simp)
  have htemplates : ∀ id, (single info).templateParameters id = [] := by
    intro id
    cases id with
    | zero => rfl
    | succ id => exact templateParameters_eq_nil (by simp)
  constructor
  · intro id
    rw [harguments]
    exact List.nil_sublist _
  · intro id
    rw [htemplates]
    exact List.nil_sublist _
  · intro id
    rw [harguments]
    exact List.disjoint_nil_left _

/-- Of two lists of children, the one that takes the new node stays in the order of the children. -/
theorem sublist_children_add {outline : Outline} {id parent : NodeId} {info : NodeInfo}
    {role : Role} {list : List NodeId} (h : list.Sublist (outline.children id)) (grows : Prop)
    [Decidable grows] :
    (if id = parent ∧ parent < outline.size ∧ grows then list ++ [outline.size] else list).Sublist
      ((outline.add parent info role).children id) := by
  rw [children_add]
  by_cases hparent : id = parent ∧ parent < outline.size
  · rw [if_pos hparent]
    split_ifs
    · exact h.append (List.Sublist.refl _)
    · exact h.trans (List.sublist_append_left _ _)
  · rw [if_neg hparent, if_neg fun hgrows => hparent ⟨hgrows.1, hgrows.2.1⟩]
    exact h

theorem Listed.add {outline : Outline} (h : outline.Listed) (hl : outline.Linked)
    (parent : NodeId) (info : NodeInfo) (role : Role) :
    (outline.add parent info role).Listed := by
  -- The new node is in no list before it is added.
  have hfresh : ∀ id, outline.size ∉ outline.children id := by
    intro id hmem
    exact absurd (lt_size_of_parent?_eq (hl.mem_children.1 hmem)) (lt_irrefl _)
  constructor
  · intro id
    rw [arguments_add]
    exact sublist_children_add (h.arguments_sublist id) _
  · intro id
    rw [templateParameters_add]
    exact sublist_children_add (h.templates_sublist id) _
  · intro id
    have harguments : outline.size ∉ outline.arguments id :=
      fun hmem => hfresh id ((h.arguments_sublist id).subset hmem)
    have htemplates : outline.size ∉ outline.templateParameters id :=
      fun hmem => hfresh id ((h.templates_sublist id).subset hmem)
    rw [arguments_add, templateParameters_add]
    cases role with
    | member => simpa using h.disjoint id
    | argument =>
      simp only [reduceCtorEq, and_false, if_false]
      split_ifs
      · exact List.disjoint_append_left.2 ⟨h.disjoint id, by simpa using htemplates⟩
      · exact h.disjoint id
    | template =>
      simp only [reduceCtorEq, and_false, if_false]
      split_ifs
      · exact List.disjoint_append_right.2 ⟨h.disjoint id, by simpa using harguments⟩
      · exact h.disjoint id

theorem Listed.rewrites {f : NodeId → NodeInfo → NodeInfo} {before after : Outline}
    (h : before.Listed) (hf : Rewrites f before after) : after.Listed := by
  constructor
  · intro id
    rw [hf.arguments, hf.children]
    exact h.arguments_sublist id
  · intro id
    rw [hf.templateParameters, hf.children]
    exact h.templates_sublist id
  · intro id
    rw [hf.arguments, hf.templateParameters]
    exact h.disjoint id

theorem Reachable.listed {outline : Outline} (h : outline.Reachable) : outline.Listed := by
  induction h with
  | single info => exact listed_single info
  | add parent info role hr ih => exact ih.add hr.linked parent info role
  | modifyInfo id f _ ih => exact ih.rewrites (rewrites_modifyInfo _ id f)

/-! ## Walks -/

/-- The walk from a stack of nodes ends after it has visited these nodes. A visited node gives way
to its children. -/
inductive Walks (outline : Outline) : List NodeId → List NodeId → Prop
  | done : Walks outline [] []
  | visit {id : NodeId} {stack visited : List NodeId}
      (h : Walks outline (outline.children id ++ stack) visited) :
      Walks outline (id :: stack) (id :: visited)

section Walks

variable {outline : Outline} (h : outline.Linked)
include h

/-- A walk visits the nodes below the first node of its stack before it goes on with the rest. -/
theorem Linked.walks_preorder (id : NodeId) :
    ∀ {stack visited : List NodeId}, Walks outline stack visited →
      Walks outline (id :: stack) (outline.preorder id ++ visited) := by
  induction id using h.down_induction with
  | step id ih =>
    intro stack visited hrest
    -- The children are walked from the last one to the first.
    have hchildren : ∀ children ⊆ outline.children id,
        Walks outline (children ++ stack) (children.flatMap outline.preorder ++ visited) := by
      intro children hsub
      induction children with
      | nil => exact hrest
      | cons child children ihc =>
        rw [List.flatMap_cons, List.append_assoc]
        exact ih child (hsub List.mem_cons_self)
          (ihc fun other hother => hsub (List.mem_cons_of_mem _ hother))
    rw [h.preorder_eq]
    exact .visit (hchildren _ (List.Subset.refl _))

theorem Linked.walks (id : NodeId) :
    Walks outline (outline.children id) (outline.descendants id) := by
  have hall : ∀ stack : List NodeId, Walks outline stack (stack.flatMap outline.preorder) := by
    intro stack
    induction stack with
    | nil => exact .done
    | cons first rest ih =>
      rw [List.flatMap_cons]
      exact h.walks_preorder first ih
  rw [h.descendants_eq]
  exact hall _

/-- The nodes below a node are its children in turn, each with the nodes below it. -/
theorem Linked.descendants_eq_flatMap (id : NodeId) :
    outline.descendants id =
      (outline.children id).flatMap fun child => child :: outline.descendants child := by
  rw [h.descendants_eq]
  refine List.flatMap_congr fun child _ => ?_
  rw [h.preorder_eq, h.descendants_eq]

theorem Linked.nodup_descendants (id : NodeId) : (outline.descendants id).Nodup := by
  have hnodup := h.nodup_preorder id
  rw [h.preorder_eq, ← h.descendants_eq] at hnodup
  exact (List.nodup_cons.1 hnodup).2

end Walks

/-! ## Forests -/

/-- The views of an outline agree and its walks end. -/
structure Forest (outline : Outline) : Prop where
  /-- The numbers in use are those below the size. -/
  dense : ∀ id, (outline.info? id).isSome = true ↔ id < outline.size
  parent_lt : ∀ id parent, outline.parent? id = some parent → parent < id
  /-- A node is listed once by its parent and by no other node. -/
  count_children : ∀ id child,
    (outline.children id).count child = if outline.parent? child = some id then 1 else 0
  listed : outline.Listed
  /-- The walk up ends at a node without a parent and nowhere else. -/
  ancestors_eq : ∀ id, outline.ancestors id =
    match outline.parent? id with
    | none => []
    | some parent => parent :: outline.ancestors parent
  walks : ∀ id, Walks outline (outline.children id) (outline.descendants id)
  descendants_eq : ∀ id, outline.descendants id =
    (outline.children id).flatMap fun child => child :: outline.descendants child
  /-- A node is visited once below each node above it and never below another one. -/
  count_descendants : ∀ id below,
    (outline.descendants id).count below = if id ∈ outline.ancestors below then 1 else 0

theorem Reachable.forest {outline : Outline} (h : outline.Reachable) : outline.Forest where
  dense id := by
    constructor
    · intro hsome
      obtain ⟨info, hinfo⟩ := Option.isSome_iff_exists.1 hsome
      exact lt_size_of_info?_eq hinfo
    · intro hlt
      obtain ⟨info, hinfo⟩ := exists_info? hlt
      rw [hinfo]
      rfl
  parent_lt _ _ := h.linked.parent_lt
  count_children id child := by
    have hnodup : (outline.children id).Nodup :=
      (h.linked.children_sorted id).imp fun hlt => Nat.ne_of_lt hlt
    rw [List.Nodup.count hnodup]
    simp only [h.linked.mem_children]
  listed := h.listed
  ancestors_eq := h.linked.ancestors_eq
  walks := h.linked.walks
  descendants_eq := h.linked.descendants_eq_flatMap
  count_descendants id below := by
    rw [List.Nodup.count (h.linked.nodup_descendants id)]
    simp only [h.linked.mem_descendants_iff]

/-- Whatever changes are made to an outline of a single node, nodes are numbered in the order in
which they are added, each stands below the number that it was added below if that was in use, and
the outline is a forest. -/
theorem grown_forest (info : NodeInfo) (changes : List Change) :
    List.range ((single info).grown changes).size =
        root :: (single info).newNumbers changes ∧
      (∀ before parent added role after, changes = before ++ .add parent added role :: after →
        ((single info).grown changes).parent? ((single info).grown before).size =
          if parent < ((single info).grown before).size then some parent else none) ∧
      ((single info).grown changes).Forest := by
  refine ⟨range_grown _ _, ?_, ((Reachable.single info).grown changes).forest⟩
  rintro before parent added role after rfl
  exact parent?_grown_add _ before parent added role after

end StructSearch.Outline

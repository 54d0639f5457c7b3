import StructSearch.Proofs.Outline.RuleGrowth

/-!
# Labels in the body of a class

A label such as `public:` stands in the body of a class between its members, possibly inside a
branch of conditional compilation. Looking through branches and transparent constructs, the body is
a list of items, and building it is building the items one after the other. An item is a label, or
a construct with a rule of its own. The rule of such a construct may build further trees at the same
place, outside of any class or function; only a label among those could change the access of the
members that follow.

Results:
* `children_eq_each_items`: building a body is building its items.
* `encloses_of_mem_alongside`: what a rule builds at the same place stands inside its tree.
* `holdsLabel_eq_false_iff`: a tree without a label at its place has none in the trees built there.
* `lastAccess_concat`: the last label counts.
-/

namespace StructSearch

open Source ParseTree Outline

/-! ## Items -/

/-- Branches of conditional compilation. -/
def isBranch : Construct → Bool
  | .preprocIf | .preprocIfdef | .preprocElif | .preprocElifdef => true
  | _ => false

/-- What stands in the place of a tree that is looked through: a transparent construct or a branch
of conditional compilation. -/
def opened? (tree : ParseTree) : Option (List ParseTree) :=
  if tree.construct.isTransparent then some tree.namedChildren
  else if isBranch tree.construct then
    some ((ParseTree.without .name (ParseTree.without .condition tree.children)).filter
      (·.label.isNamed))
  else none

theorem mem_children_of_opened? {tree part : ParseTree} {parts : List ParseTree}
    (h : opened? tree = some parts) (hpart : part ∈ parts) : part ∈ tree.children := by
  unfold opened? at h
  split_ifs at h
  · cases h
    exact mem_children_of_mem_namedChildren hpart
  · cases h
    exact List.mem_of_mem_eraseP (List.mem_of_mem_eraseP (List.mem_filter.1 hpart).1)

/-- The items that a tree stands for in a sequence. -/
def items (tree : ParseTree) : List ParseTree :=
  match _h : opened? tree with
  | some parts => parts.attach.flatMap fun part => items part.1
  | none => [tree]
termination_by tree.size
decreasing_by exact size_lt_of_mem_children (mem_children_of_opened? _h part.2)

theorem items_of_opened? {tree : ParseTree} {parts : List ParseTree}
    (h : opened? tree = some parts) : items tree = parts.flatMap items := by
  rw [items]
  split
  next parts' h' =>
    rw [h] at h'
    cases h'
    rw [List.flatMap_subtype (g := items) (fun _ _ => rfl), List.unattach_attach]
  next h' =>
    rw [h] at h'
    cases h'

theorem items_of_not_opened {tree : ParseTree} (h : opened? tree = none) : items tree = [tree] := by
  rw [items]
  split
  next h' =>
    rw [h] at h'
    cases h'
  next => rfl

theorem mem_subtrees_of_items {tree item : ParseTree} (h : item ∈ items tree) :
    item ∈ tree.subtrees := by
  induction hn : tree.size using Nat.strong_induction_on generalizing tree with
  | _ n ih =>
    cases hopened : opened? tree with
    | none =>
      rw [items_of_not_opened hopened, List.mem_singleton] at h
      rw [h]
      exact self_mem_subtrees tree
    | some parts =>
      rw [items_of_opened? hopened, List.mem_flatMap] at h
      obtain ⟨part, hpart, hitem⟩ := h
      have hchild := mem_children_of_opened? hopened hpart
      have hlt := size_lt_of_mem_children hchild
      exact mem_subtrees_trans (ih part.size (by omega) hitem rfl)
        (mem_subtrees_of_mem_children hchild)

/-- The items of a body, in the order of the source. -/
def bodyItems (body : ParseTree) : List ParseTree := body.namedChildren.flatMap items

/-! ## Building items -/

namespace Rules

variable {source : List Char} {build : Recursion} {role : Role} {tree : ParseTree} {parent : NodeId}

theorem each_append (build : Recursion) (parent : NodeId) (front back : List ParseTree) :
    each build parent (front ++ back) =
      (do each build parent front; each build parent back) := by
  induction front with
  | nil => rfl
  | cons tree rest ih => simp only [List.cons_append, each, ih, bind_assoc]

theorem rule_of_isTransparent (h : tree.construct.isTransparent = true) :
    rule source build role tree parent = (do children build tree parent; return none) := by
  unfold rule
  split
  case h_22 => rw [if_pos h]
  all_goals simp_all [Construct.isTransparent, Construct.isOutlined]

theorem rule_of_isBranch (h : isBranch tree.construct = true) :
    rule source build role tree parent = (do branch build tree parent; return none) := by
  unfold rule
  split
  case h_18 | h_19 | h_20 | h_21 => rfl
  case h_22 => simp_all [isBranch]
  all_goals simp_all [isBranch]

section Items

variable {bound : ℕ}
  (hbuild : ∀ part, part.size < bound → ∀ parent,
    (do let _ ← build .member part parent) = each (buildTree source) parent (items part))
include hbuild

/-- Building the trees of a sequence is building their items. -/
theorem each_eq_each_items {parts : List ParseTree} (hparts : ∀ part ∈ parts, part.size < bound) :
    each build parent parts = each (buildTree source) parent (parts.flatMap items) := by
  induction parts with
  | nil => rfl
  | cons part rest ih =>
    have hrest := ih fun other hother => hparts other (List.mem_cons_of_mem _ hother)
    rw [List.flatMap_cons, each_append, ← hbuild part (hparts part List.mem_cons_self), each, hrest]
    simp only [bind_assoc, pure_bind]

theorem drain_eq_each_items {pending : List ParseTree}
    (hpending : ∀ part ∈ pending, part.size < bound) :
    drain build parent pending = each (buildTree source) parent (pending.flatMap items) := by
  induction pending using drain.induct with
  | case1 =>
    rw [drain]
    rfl
  | case2 tree rest htransparent ih =>
    have hopened : opened? tree = some tree.namedChildren := if_pos htransparent
    rw [drain, if_pos htransparent, ih, List.flatMap_append, List.flatMap_cons,
      items_of_opened? hopened]
    intro part hpart
    rcases List.mem_append.1 hpart with hpart | hpart
    · have hsize := size_lt_of_mem_children (mem_children_of_mem_namedChildren hpart)
      exact lt_trans hsize (hpending tree List.mem_cons_self)
    · exact hpending part (List.mem_cons_of_mem _ hpart)
  | case3 tree rest htransparent ih =>
    have hrest := ih fun part hpart => hpending part (List.mem_cons_of_mem _ hpart)
    rw [drain, if_neg htransparent, hrest, List.flatMap_cons, each_append,
      ← hbuild tree (hpending tree List.mem_cons_self)]
    simp only [bind_assoc, pure_bind]

end Items

theorem buildTree_eq_each_items (source : List Char) (tree : ParseTree) (parent : NodeId) :
    (do let _ ← buildTree source .member tree parent) =
      each (buildTree source) parent (items tree) := by
  induction hn : tree.size using Nat.strong_induction_on generalizing tree parent with
  | _ n ih =>
    have hbuild : ∀ part, part.size < tree.size → ∀ parent,
        (do let _ ← buildSmaller source tree .member part parent) =
          each (buildTree source) parent (items part) := by
      intro part hlt parent
      rw [buildSmaller_of_lt hlt]
      exact ih part.size (by omega) part parent rfl
    have hsmaller : ∀ {parts}, opened? tree = some parts → ∀ part ∈ parts, part.size < tree.size :=
      fun hopened _ hpart => size_lt_of_mem_children (mem_children_of_opened? hopened hpart)
    by_cases htransparent : tree.construct.isTransparent = true
    · have hopened : opened? tree = some tree.namedChildren := if_pos htransparent
      rw [items_of_opened? hopened, ← drain_eq_each_items hbuild (hsmaller hopened), buildTree_eq,
        rule_of_isTransparent htransparent, children]
      simp only [bind_assoc, pure_bind, bind_pure_unit]
    · by_cases hbranch : isBranch tree.construct = true
      · have hopened : opened? tree = some ((ParseTree.without .name
            (ParseTree.without .condition tree.children)).filter (·.label.isNamed)) := by
          rw [opened?, if_neg htransparent, if_pos hbranch]
        rw [items_of_opened? hopened, ← each_eq_each_items hbuild (hsmaller hopened), buildTree_eq,
          rule_of_isBranch hbranch, branch]
        simp only [bind_assoc, pure_bind, bind_pure_unit]
      · have hclosed : opened? tree = none := by
          rw [opened?, if_neg htransparent, if_neg hbranch]
        rw [items_of_not_opened hclosed]
        rfl

/-- Building a body is building its items. -/
theorem children_eq_each_items {body : ParseTree} (parent : NodeId)
    (hbuild : ∀ part, part.size < body.size →
      ∀ parent, build .member part parent = buildTree source .member part parent) :
    children build body parent = each (buildTree source) parent (bodyItems body) := by
  refine drain_eq_each_items (fun part hlt parent => ?_) fun part hpart =>
    size_lt_of_mem_children (mem_children_of_mem_namedChildren hpart)
  rw [hbuild part hlt]
  exact buildTree_eq_each_items source part parent

end Rules

/-! ## Trees built at the same place -/

/-- What a declarator builds at its place: the value of its variable or the default values of the
parameters of its function. -/
def declaratorParts (source : List Char) (declaratorTree : ParseTree) : List ParseTree :=
  let declarator := Declarator.ofTree source declaratorTree
  declarator.value.toList ++ declarator.function.toList.flatMap fun signature =>
    (DeclaredParameter.ofFunction source signature).filterMap (·.tree.part? .defaultValue)

/-- What an argument of a call builds. -/
def argumentParts (argument : ParseTree) : List ParseTree :=
  if argument.construct = .comment then []
  else if Rules.isExpression argument.construct then [argument]
  else argument.namedChildren

/-- The trees that the rule of a tree builds at its place: outside of the body of a class and of
what is inside a function. -/
def alongside (source : List Char) (tree : ParseTree) : List ParseTree :=
  match tree.construct with
  | .namespaceDefinition => (tree.part? .body).toList.flatMap (·.namedChildren)
  | .enumSpecifier => (tree.part? .body).toList.flatMap fun body =>
    body.namedChildren.filterMap (·.part? .value)
  | .templateDeclaration => (Rules.templated? tree).toList
  | .functionDefinition => (tree.part? .declarator).toList.flatMap (declaratorParts source)
  | .declaration | .fieldDeclaration =>
    (tree.part? .type).toList ++ (tree.parts .declarator).flatMap (declaratorParts source) ++
      (tree.part? .defaultValue).toList
  | .typeDefinition => (tree.part? .type).toList
  | .callExpression =>
    ((tree.part? .function).bind Rules.calleeInside?).toList ++
      (tree.part? .arguments).toList.flatMap fun list => list.namedChildren.flatMap argumentParts
  | .fieldExpression => (tree.part? .argument).toList
  | .compoundStatement => tree.namedChildren
  | _ => (opened? tree).getD []

variable {source : List Char} {tree part : ParseTree}

theorem mem_declaratorParts {declarator : ParseTree}
    (h : part ∈ declaratorParts source declarator) : part ∈ declarator.subtrees := by
  rw [declaratorParts, List.mem_append, List.mem_flatMap, Option.mem_toList] at h
  obtain hvalue | ⟨signature, hsignature, hpart⟩ := h
  · exact Declarator.value_mem_subtrees hvalue
  · obtain ⟨parameter, hparameter, hdefault⟩ := List.mem_filterMap.1 hpart
    refine mem_subtrees_trans ?_ (Declarator.function_mem_subtrees (Option.mem_toList.1 hsignature))
    exact mem_subtrees_trans (mem_subtrees_of_mem_children (mem_children_of_part?_eq hdefault))
      (DeclaredParameter.tree_mem hparameter)

theorem mem_argumentParts {argument : ParseTree} (h : part ∈ argumentParts argument) :
    part ∈ argument.subtrees := by
  unfold argumentParts at h
  split_ifs at h
  · cases h
  · rw [List.mem_singleton.1 h]
    exact self_mem_subtrees argument
  · exact mem_subtrees_of_mem_children (mem_children_of_mem_namedChildren h)

theorem encloses_of_part? {kind : Part} (h : part ∈ (tree.part? kind).toList) :
    tree.Encloses part :=
  encloses_of_mem_children (mem_children_of_part?_eq (Option.mem_toList.1 h))

/-- What is built at the place of a tree stands inside it. -/
theorem encloses_of_mem_alongside (h : part ∈ alongside source tree) : tree.Encloses part := by
  unfold alongside at h
  split at h
  case h_1 =>
    obtain ⟨body, hbody, hpart⟩ := List.mem_flatMap.1 h
    exact (encloses_of_part? hbody).child (mem_children_of_mem_namedChildren hpart)
  case h_2 =>
    obtain ⟨body, hbody, hpart⟩ := List.mem_flatMap.1 h
    obtain ⟨constant, hconstant, hvalue⟩ := List.mem_filterMap.1 hpart
    exact ((encloses_of_part? hbody).child (mem_children_of_mem_namedChildren hconstant)).child
      (mem_children_of_part?_eq hvalue)
  case h_3 =>
    exact encloses_of_mem_children (Rules.templated?_mem_children (Option.mem_toList.1 h))
  case h_4 =>
    obtain ⟨declarator, hdeclarator, hpart⟩ := List.mem_flatMap.1 h
    exact (encloses_of_part? hdeclarator).inside (mem_declaratorParts hpart)
  case h_5 | h_6 =>
    rw [List.mem_append, List.mem_append, List.mem_flatMap] at h
    obtain (htype | ⟨declarator, hdeclarator, hpart⟩) | hdefault := h
    · exact encloses_of_part? htype
    · exact (encloses_of_mem_children (mem_children_of_mem_parts hdeclarator)).inside
        (mem_declaratorParts hpart)
    · exact encloses_of_part? hdefault
  case h_7 => exact encloses_of_part? h
  case h_8 =>
    rw [List.mem_append, Option.mem_toList, Option.bind_eq_some_iff, List.mem_flatMap] at h
    obtain ⟨callee, hcallee, hinside⟩ | ⟨list, hlist, hpart⟩ := h
    · exact (encloses_of_mem_children (mem_children_of_part?_eq hcallee)).inside
        (Rules.calleeInside?_mem_subtrees hinside)
    · obtain ⟨argument, hargument, hpart⟩ := List.mem_flatMap.1 hpart
      exact ((encloses_of_part? hlist).child (mem_children_of_mem_namedChildren hargument)).inside
        (mem_argumentParts hpart)
  case h_9 => exact encloses_of_part? h
  case h_10 => exact encloses_of_mem_children (mem_children_of_mem_namedChildren h)
  case h_11 =>
    cases hopened : opened? tree with
    | none =>
      rw [hopened] at h
      cases h
    | some parts =>
      rw [hopened] at h
      exact encloses_of_mem_children (mem_children_of_opened? hopened h)

theorem alongside_of_isTransparent (h : tree.construct.isTransparent = true) :
    alongside source tree = tree.namedChildren := by
  unfold alongside
  split
  case h_11 => rw [opened?, if_pos h, Option.getD_some]
  all_goals simp_all [Construct.isTransparent, Construct.isOutlined]

theorem alongside_of_isBranch (h : isBranch tree.construct = true) :
    alongside source tree = (ParseTree.without .name
      (ParseTree.without .condition tree.children)).filter (·.label.isNamed) := by
  have hclosed : tree.construct.isTransparent = false := by
    cases hconstruct : tree.construct <;> rw [hconstruct] at h <;> first | rfl | cases h
  unfold alongside
  split
  case h_11 => rw [opened?, if_neg (by rw [hclosed]; decide), if_pos h, Option.getD_some]
  all_goals simp_all [isBranch]

/-- Whether a label is built at the place of a tree. -/
def holdsLabel (source : List Char) (tree : ParseTree) : Bool :=
  tree.construct == .accessSpecifier ||
    (alongside source tree).attach.any fun part => holdsLabel source part.1
termination_by tree.size
decreasing_by exact (encloses_of_mem_alongside part.2).size_lt

theorem holdsLabel_eq_false_iff :
    holdsLabel source tree = false ↔ tree.construct ≠ .accessSpecifier ∧
      ∀ part ∈ alongside source tree, holdsLabel source part = false := by
  rw [holdsLabel]
  simp

/-! ## Labels -/

/-- The access that a tree gives to the members after it, if it is a label. -/
def labelAccess? (source : List Char) (tree : ParseTree) : Option Access :=
  if tree.construct = .accessSpecifier then
    Access.ofKeyword? (String.ofList (Text.trim (tree.text source)))
  else none

/-- The access after some items of a body that began with an access: that of the last label. -/
def lastAccess (source : List Char) (initial : Access) (front : List ParseTree) : Access :=
  (front.filterMap (labelAccess? source)).getLast?.getD initial

theorem lastAccess_concat (initial : Access) (front : List ParseTree) (item : ParseTree) :
    lastAccess source initial (front ++ [item]) =
      (labelAccess? source item).getD (lastAccess source initial front) := by
  unfold lastAccess
  rw [List.filterMap_append]
  cases h : labelAccess? source item with
  | none => simp [h]
  | some access => simp [h]

/-- Every item of a body is a label or has none at its place. So labels are met in bodies only, and
there only through branches of conditional compilation and transparent constructs. -/
def LabelsInBodies (source : List Char) (tree : ParseTree) : Prop :=
  ∀ part ∈ tree.subtrees, ∀ body ∈ part.part? .body, ∀ item ∈ bodyItems body,
    item.construct = .accessSpecifier ∨ holdsLabel source item = false

instance (source : List Char) (tree : ParseTree) : Decidable (LabelsInBodies source tree) :=
  inferInstanceAs (Decidable (∀ part ∈ tree.subtrees, ∀ body ∈ part.part? .body,
    ∀ item ∈ bodyItems body, _))

end StructSearch

import StructSearch.Proofs.Outline.Growth
import StructSearch.Proofs.Source.Subtrees

/-!
# The rules of constructs make steps

Every rule, run below a node whose range its tree fits into, makes steps only, and so does the
recursion that ties the rules together. `fits` is left open: the trivial relation gives what holds
of every parse tree, containment gives what holds of trees in which ranges nest.

Results:
* `buildTree_builds`: building a tree makes steps, and its main node stands below the parent.
* `finish_steps`, `finish_steps_any`: so does building a whole file.
-/

namespace StructSearch

open Source ParseTree Outline

/-! ## Ranges inside a tree -/

/-- The range of the variable that a declarator of a declaration declares. -/
def variableRange (tree declarator : ParseTree) : ByteRange :=
  ⟨tree.range.start, declarator.range.stop⟩

/-- A declarator that leaves its value to the declaration: that of a variable without a value. -/
def takesDefault (source : List Char) (declarator : ParseTree) : Bool :=
  (Declarator.ofTree source declarator).function.isNone &&
    (Declarator.ofTree source declarator).value.isNone

/-- The ranges at a node fit together: children fit into their parent, a declarator fits into the
range of its variable and so does a default value that the variable takes. -/
structure Fitted (fits : ByteRange → ByteRange → Prop) (source : List Char) (tree : ParseTree) :
    Prop where
  child : ∀ child ∈ tree.children, fits child.range tree.range
  variable_fits : ∀ declarator ∈ tree.parts .declarator,
    fits (variableRange tree declarator) tree.range
  declarator_fits : ∀ declarator ∈ tree.parts .declarator,
    fits declarator.range (variableRange tree declarator)
  default_fits : (tree.construct = .declaration ∨ tree.construct = .fieldDeclaration) →
    ∀ declarator ∈ tree.parts .declarator, takesDefault source declarator = true →
      ∀ value ∈ tree.part? .defaultValue, fits value.range (variableRange tree declarator)

variable {fits : ByteRange → ByteRange → Prop} {source : List Char} {build : Recursion}
  {tree : ParseTree} {parent : NodeId} {draft after : Draft} {above info : NodeInfo} {role : Role}
  {range : ByteRange}

/-! ## Main nodes and recursions -/

/-- A node that a run below `parent` made for a tree: new, and within the range of the tree. -/
structure IsMainNode (fits : ByteRange → ByteRange → Prop) (base : ℕ) (parent : NodeId)
    (range : ByteRange) (id : NodeId) (draft : Draft) : Prop where
  base_le : base ≤ id
  parent_eq : draft.outline.parent? id = some parent
  exists_info : ∃ info, draft.outline.info? id = some info ∧ fits info.range range

/-- The main node of a tree, if there is one. -/
def IsMain (fits : ByteRange → ByteRange → Prop) (base : ℕ) (parent : NodeId) (range : ByteRange)
    (main : Option NodeId) (draft : Draft) : Prop :=
  ∀ id, main = some id → IsMainNode fits base parent range id draft

/-- A recursion makes steps when it builds a tree below a node into which the tree fits. In the
role of an argument it is asked for expressions below calls only. -/
def Builds (fits : ByteRange → ByteRange → Prop) (build : Recursion) (tree : ParseTree) : Prop :=
  ∀ (role : Role) (parent : NodeId) (draft : Draft) (above : NodeInfo),
    draft.outline.info? parent = some above → fits tree.range above.range →
    (role = .member ∨
      role = .argument ∧ above.kind = .callExpr ∧ Rules.isExpression tree.construct = true) →
    Grows fits draft.outline.size parent draft (build role tree parent)
      (IsMain fits draft.outline.size parent tree.range)

/-- Whatever stands inside a tree can be built. -/
structure Ready (fits : ByteRange → ByteRange → Prop) (source : List Char) (build : Recursion)
    (tree : ParseTree) : Prop where
  refl : ∀ range, fits range range
  trans : ∀ {inner middle outer}, fits inner middle → fits middle outer → fits inner outer
  fitted : ∀ part ∈ tree.subtrees, Fitted fits source part
  builds : ∀ part ∈ tree.subtrees, Builds fits build part

/-- A tree inside `tree` that fits into the node with the record `above`. -/
structure Belongs (fits : ByteRange → ByteRange → Prop) (tree : ParseTree) (above : NodeInfo)
    (part : ParseTree) : Prop where
  mem : part ∈ tree.subtrees
  fits : fits part.range above.range

section Ready

variable (h : Ready fits source build tree)
include h

theorem Ready.child {part child : ParseTree} (hp : Belongs fits tree above part)
    (hc : child ∈ part.children) : Belongs fits tree above child where
  mem := mem_subtrees_trans (mem_subtrees_of_mem_children hc) hp.mem
  fits := h.trans ((h.fitted part hp.mem).child child hc) hp.fits

/-- What stands inside a tree that fits into a node fits there, too. -/
theorem Ready.inside {part inner : ParseTree} (hp : Belongs fits tree above part)
    (hi : inner ∈ part.subtrees) : Belongs fits tree above inner := by
  induction hn : part.size using Nat.strong_induction_on generalizing part with
  | _ n ih =>
    rw [subtrees_eq, List.mem_cons, List.mem_flatMap] at hi
    obtain rfl | ⟨child, hc, hi⟩ := hi
    · exact hp
    · have hlt := size_lt_of_mem_children hc
      exact ih _ (by omega) (h.child hp hc) hi rfl

theorem Ready.part {part : ParseTree} (hp : part ∈ tree.subtrees) :
    Ready fits source build part where
  refl := h.refl
  trans := h.trans
  fitted inner hi := h.fitted inner (mem_subtrees_trans hi hp)
  builds inner hi := h.builds inner (mem_subtrees_trans hi hp)

theorem Ready.build_grows {part : ParseTree} (habove : draft.outline.info? parent = some above)
    (hp : Belongs fits tree above part) :
    Grows fits draft.outline.size parent draft (build .member part parent)
      (IsMain fits draft.outline.size parent part.range) :=
  h.builds part hp.mem .member parent draft above habove hp.fits (Or.inl rfl)

end Ready

theorem Steps.keeps {base : ℕ} {before : Draft} {id : NodeId}
    (h : Steps fits base parent before after) (hbase : base ≤ before.outline.size)
    (hid : id < base) (hinfo : before.outline.info? id = some info) :
    after.outline.info? id = some info := by
  rw [h.info?_eq hbase hid, hinfo]

/-! ## Main nodes -/

theorem isMain_some {base : ℕ} {id : NodeId} (h : IsMainNode fits base parent range id draft) :
    IsMain fits base parent range (some id) draft := by
  rintro _ ⟨⟩
  exact h

theorem isMain_none {base : ℕ} : IsMain fits base parent range none draft := by
  rintro _ ⟨⟩

/-- Later runs leave a main node alone. -/
theorem IsMain.keeps {base : ℕ} {other : NodeId} {main : Option NodeId}
    (h : IsMain fits base parent range main draft)
    (hsteps : Steps fits draft.outline.size other draft after) :
    IsMain fits base parent range main after := by
  intro id hid
  obtain ⟨hbase, hparent, info, hinfo, hfits⟩ := h id hid
  have hlt := lt_size_of_info?_eq hinfo
  exact ⟨hbase, by rw [hsteps.parent?_eq hlt, hparent], info, hsteps.keeps le_rfl hlt hinfo, hfits⟩

theorem IsMain.trans {base : ℕ} {main : Option NodeId} {outer : ByteRange}
    (h : IsMain fits base parent range main draft) (hready : Ready fits source build tree)
    (hfits : fits range outer) : IsMain fits base parent outer main draft := by
  intro id hid
  obtain ⟨hbase, hparent, info, hinfo, hrange⟩ := h id hid
  exact ⟨hbase, hparent, info, hinfo, hready.trans hrange hfits⟩

/-- Of several nodes of a declaration the first one is the main node. -/
theorem isMain_or {base start : ℕ} {first : Option NodeId} {id : NodeId}
    (hfirst : IsMain fits start parent range first draft) (hstart : start ≤ base)
    (h : IsMainNode fits base parent range id draft) :
    IsMain fits start parent range (first.or (some id)) draft := by
  cases first with
  | some main => exact hfirst
  | none => exact isMain_some ⟨le_trans hstart h.base_le, h.parent_eq, h.exists_info⟩

/-! ## Adding the node of a tree -/

/-- A draft right after a node was added below `parent` to `draft`. -/
structure IsNew (draft : Draft) (parent : NodeId) (info : NodeInfo) (start : Draft) : Prop where
  size_eq : start.outline.size = draft.outline.size + 1
  info_eq : start.outline.info? draft.outline.size = some info
  parent_eq : start.outline.parent? draft.outline.size = some parent
  keeps : ∀ {id : NodeId} {other : NodeInfo}, draft.outline.info? id = some other →
    start.outline.info? id = some other ∧ start.outline.parent? id = draft.outline.parent? id

theorem isNew_of_add {start : Draft} (habove : draft.outline.info? parent = some above)
    (hstart : start.outline = draft.outline.add parent info role) :
    IsNew draft parent info start where
  size_eq := by rw [hstart, size_add]
  info_eq := by rw [hstart, info?_add_size]
  parent_eq := by rw [hstart, parent?_add, if_pos rfl, if_pos (lt_size_of_info?_eq habove)]
  keeps := by
    intro id other hid
    have hlt := lt_size_of_info?_eq hid
    rw [hstart, info?_add_of_lt _ _ _ _ _ hlt, hid, parent?_add, if_neg (Nat.ne_of_lt hlt)]
    exact ⟨rfl, rfl⟩

theorem IsNew.congr {start visible : Draft} (h : IsNew draft parent info start)
    (hsame : visible.outline = start.outline) : IsNew draft parent info visible := by
  constructor
  · rw [hsame, h.size_eq]
  · rw [hsame, h.info_eq]
  · rw [hsame, h.parent_eq]
  · intro id other hid
    rw [hsame]
    exact h.keeps hid

theorem IsNew.isMain {base : ℕ} {owner : NodeId} {main : Option NodeId} {start : Draft}
    (hnew : IsNew draft parent info start) (h : IsMain fits base owner range main draft) :
    IsMain fits base owner range main start := by
  intro id hid
  obtain ⟨hbase, hparent, other, hother, hfits⟩ := h id hid
  obtain ⟨hinfo, hsame⟩ := hnew.keeps hother
  exact ⟨hbase, by rw [hsame, hparent], other, hinfo, hfits⟩

/-- A program that runs below a node that was just added: that node is the main one. -/
theorem Grows.of_new {β : Type} {program : Build β} {post : β → Draft → Prop} {start : Draft}
    (hnew : IsNew draft parent info start) (hfits : fits info.range range)
    (h : Grows fits start.outline.size draft.outline.size start program post) :
    Grows fits draft.outline.size parent start program fun value after =>
      post value after ∧ IsMainNode fits draft.outline.size parent range draft.outline.size
        after := by
  have hsize := hnew.size_eq
  obtain ⟨hsteps, hpost⟩ := h
  refine ⟨hsteps.widen (by lia) (Or.inr le_rfl), hpost, le_rfl, ?_, info, ?_, hfits⟩
  · rw [hsteps.parent?_eq (by lia), hnew.parent_eq]
  · exact hsteps.keeps le_rfl (by lia) hnew.info_eq

theorem Grows.of_new_node {program : Build NodeId} {start : Draft}
    (hnew : IsNew draft parent info start) (hfits : fits info.range range)
    (h : Grows fits start.outline.size draft.outline.size start program
      fun id _ => id = draft.outline.size) :
    Grows fits draft.outline.size parent start program
      (IsMainNode fits draft.outline.size parent range) := by
  refine (Grows.of_new hnew hfits h).imp ?_
  rintro _ _ - ⟨rfl, hmain⟩
  exact hmain

/-- A tree fits into its own node. -/
theorem Ready.own {start : Draft} (h : Ready fits source build tree)
    (_ : IsNew draft parent info start) (hrange : info.range = tree.range) :
    Belongs fits tree info tree where
  mem := self_mem_subtrees tree
  fits := by
    rw [hrange]
    exact h.refl _

section Push

variable (h : Ready fits source build tree) (habove : draft.outline.info? parent = some above)
  (htree : Belongs fits tree above tree) (hrange : info.range = tree.range)
include h habove htree hrange

/-- A rule that adds the node of its tree and then builds below it. -/
theorem Ready.push_node {next : NodeId → Build NodeId} (hjoins : Joins draft above role info)
    (hnext : ∀ start : Draft, IsNew draft parent info start → Belongs fits tree info tree →
      Grows fits start.outline.size draft.outline.size start (next draft.outline.size)
        fun id _ => id = draft.outline.size) :
    Grows fits draft.outline.size parent draft (Build.push parent role info >>= next)
      (IsMainNode fits draft.outline.size parent tree.range) := by
  have hfits : fits info.range tree.range := by rw [hrange]; exact h.refl _
  refine .push (Or.inl rfl) habove (h.trans hfits htree.fits) hjoins fun start hstart => ?_
  have hnew := isNew_of_add habove hstart
  exact .of_new_node hnew hfits (hnext start hnew (h.own hnew hrange))

theorem Ready.push_main {next : NodeId → Build (Option NodeId)}
    (hjoins : Joins draft above role info)
    (hnext : ∀ start : Draft, IsNew draft parent info start → Belongs fits tree info tree →
      Grows fits start.outline.size draft.outline.size start (next draft.outline.size)
        fun main _ => main = some draft.outline.size) :
    Grows fits draft.outline.size parent draft (Build.push parent role info >>= next)
      (IsMain fits draft.outline.size parent tree.range) := by
  have hfits : fits info.range tree.range := by rw [hrange]; exact h.refl _
  refine .push (Or.inl rfl) habove (h.trans hfits htree.fits) hjoins fun start hstart => ?_
  have hnew := isNew_of_add habove hstart
  refine (Grows.of_new hnew hfits (hnext start hnew (h.own hnew hrange))).imp ?_
  rintro _ _ - ⟨rfl, hmain⟩ _ ⟨⟩
  exact hmain

end Push

namespace Rules

/-! ## Sequences -/

section Sequences

variable (h : Ready fits source build tree) (habove : draft.outline.info? parent = some above)
include h habove

theorem drain_grows {pending : List ParseTree}
    (hpending : ∀ part ∈ pending, Belongs fits tree above part) :
    Grows fits draft.outline.size parent draft (drain build parent pending) fun _ _ => True := by
  induction pending using drain.induct generalizing draft with
  | case1 =>
    rw [drain]
    exact .pure trivial
  | case2 first rest htransparent ih =>
    -- What is inside a transparent tree takes its place, at the same parent.
    rw [drain, if_pos htransparent]
    refine ih habove fun part hpart => ?_
    rcases List.mem_append.1 hpart with hpart | hpart
    · exact h.child (hpending first List.mem_cons_self) (mem_children_of_mem_namedChildren hpart)
    · exact hpending part (List.mem_cons_of_mem _ hpart)
  | case3 first rest htransparent ih =>
    rw [drain, if_neg htransparent]
    refine (h.build_grows habove (hpending first List.mem_cons_self)).bind ?_
    intro main after hsteps _
    have habove' := hsteps.keeps le_rfl (lt_size_of_info?_eq habove) habove
    exact (ih habove' fun part hpart => hpending part (List.mem_cons_of_mem _ hpart)).widen
      hsteps.size_le (Or.inl rfl)

theorem children_grows {inner : ParseTree} (hinner : Belongs fits tree above inner) :
    Grows fits draft.outline.size parent draft (children build inner parent) fun _ _ => True :=
  drain_grows h habove fun _ hpart => h.child hinner (mem_children_of_mem_namedChildren hpart)

theorem each_grows {parts : List ParseTree}
    (hparts : ∀ part ∈ parts, Belongs fits tree above part) :
    Grows fits draft.outline.size parent draft (each build parent parts) fun _ _ => True := by
  induction parts generalizing draft with
  | nil => exact .pure trivial
  | cons first rest ih =>
    refine (h.build_grows habove (hparts first List.mem_cons_self)).bind ?_
    intro main after hsteps _
    have habove' := hsteps.keeps le_rfl (lt_size_of_info?_eq habove) habove
    exact (ih habove' fun part hpart => hparts part (List.mem_cons_of_mem _ hpart)).widen
      hsteps.size_le (Or.inl rfl)

theorem optional_grows {part? : Option ParseTree}
    (hpart : ∀ part, part? = some part → Belongs fits tree above part) :
    Grows fits draft.outline.size parent draft (optional build parent part?) fun _ _ => True := by
  cases part? with
  | none => exact .pure trivial
  | some part => exact (h.build_grows habove (hpart part rfl)).bind fun _ _ _ _ => .pure trivial

theorem branch_grows (htree : Belongs fits tree above tree) :
    Grows fits draft.outline.size parent draft (branch build tree parent) fun _ _ => True := by
  refine each_grows h habove fun part hpart => h.child htree ?_
  exact List.mem_of_mem_eraseP (List.mem_of_mem_eraseP (List.mem_filter.1 hpart).1)

end Sequences

theorem accessLabel_grows :
    Grows fits draft.outline.size parent draft (accessLabel source tree) fun _ _ => True := by
  unfold accessLabel
  cases Access.ofKeyword? (String.ofList (Text.trim (tree.text source))) with
  | none => exact .pure trivial
  | some access => exact ⟨.single (.withAccess draft access), trivial⟩

/-- An entry of a list, such as a constant or a parameter: it is added and made visible, and its
value is built below it. -/
theorem entry_grows {β : Type} {post : β → Draft → Prop} {next : Build β} {entry : ParseTree}
    {value? : Option ParseTree} {name type : String} (h : Ready fits source build tree)
    (habove : draft.outline.info? parent = some above) (hentry : Belongs fits tree above entry)
    (hrange : info.range = entry.range) (hjoins : Joins draft above role info)
    (hvalue : ∀ value, value? = some value → value ∈ entry.children)
    (hnext : ∀ after : Draft, after.outline.info? parent = some above →
      Grows fits after.outline.size parent after next post) :
    Grows fits draft.outline.size parent draft (do
      let id ← Build.push parent role info
      Build.declare name type
      optional build id value?
      next) post := by
  have hadded : fits info.range above.range := by rw [hrange]; exact hentry.fits
  have hown : Belongs fits tree info entry := ⟨hentry.mem, by rw [hrange]; exact h.refl _⟩
  refine .push (Or.inl rfl) habove hadded hjoins fun start hstart => .declare ?_
  intro visible hvisible
  have hnew := (isNew_of_add habove hstart).congr hvisible
  have hsize := hnew.size_eq
  have hparent := lt_size_of_info?_eq habove
  refine (optional_grows h hnew.info_eq fun value hv => h.child hown (hvalue value hv)).bind_below
    (Or.inr le_rfl) (by lia) fun _ after hsteps _ => ?_
  have hbelow : after.outline.info? parent = some above :=
    hsteps.keeps le_rfl (by lia) (hnew.keeps habove).1
  exact (hnext after hbelow).widen (le_trans (by lia) hsteps.size_le) (Or.inl rfl)

/-! ## Namespaces and types -/

theorem isPlainDeclaration_recordKind (construct : Construct) :
    (recordKind construct).isPlainDeclaration = true := by
  unfold recordKind
  split <;> rfl

section Types

variable (h : Ready fits source build tree) (habove : draft.outline.info? parent = some above)
  (htree : Belongs fits tree above tree)
include h habove htree

theorem namespaces_grows (names : List String) :
    Grows fits draft.outline.size parent draft (namespaces source tree parent names)
      fun result after => IsMain fits draft.outline.size parent tree.range result.1 after ∧
        (result.2 = parent ∨ draft.outline.size ≤ result.2) ∧
        ∃ info, after.outline.info? result.2 = some info ∧ Belongs fits tree info tree := by
  induction names generalizing draft parent above with
  | nil => exact .pure ⟨isMain_none, Or.inl rfl, above, habove, htree⟩
  | cons name names ih =>
    refine .push (Or.inl rfl) habove htree.fits (.declaration rfl) fun start hstart => ?_
    have hnew := isNew_of_add habove hstart
    refine (Grows.of_new hnew (h.refl _) (ih hnew.info_eq ⟨htree.mem, h.refl _⟩)).bind ?_
    rintro ⟨_, innermost⟩ after - ⟨⟨-, hinner, hinfo⟩, hmain⟩
    have hsize := hnew.size_eq
    exact .pure ⟨isMain_some hmain, Or.inr (by lia), hinfo⟩

theorem namespaceRule_grows :
    Grows fits draft.outline.size parent draft (namespaceRule source build tree parent)
      (IsMain fits draft.outline.size parent tree.range) := by
  refine (namespaces_grows h habove htree _).bind ?_
  rintro ⟨first, innermost⟩ after hsteps ⟨hmain, hinner, info, hinfo, hbelongs⟩
  cases hbody : tree.part? .body with
  | none => exact .pure hmain
  | some body =>
    have hchild := h.child hbelongs (mem_children_of_part?_eq hbody)
    refine (children_grows h hinfo hchild).inBlock.bind_below hinner hsteps.size_le ?_
    exact fun _ later hlater _ => .pure (IsMain.keeps hmain hlater)

theorem recordRule_grows (fallback : Option String) :
    Grows fits draft.outline.size parent draft (recordRule source build fallback tree parent)
      (IsMain fits draft.outline.size parent tree.range) := by
  refine .get (h.push_main habove htree rfl (.declaration (isPlainDeclaration_recordKind _)) ?_)
  intro start hnew hown
  cases hbody : tree.part? .body with
  | none => exact .pure rfl
  | some body =>
    have hchild := h.child hown (mem_children_of_part?_eq hbody)
    refine .defineClass fun defined hdefined => ?_
    refine .bind (.inside fun inner hinner => .inBlock ?_) fun _ _ _ _ => .pure rfl
    have hsame : inner.outline = start.outline := hinner.trans hdefined
    rw [← hsame]
    exact children_grows h (by rw [hsame]; exact hnew.info_eq) hchild

omit htree in
theorem enumerators_grows {constants : List ParseTree}
    (hconstants : ∀ part ∈ constants, Belongs fits tree above part) (type : String) :
    Grows fits draft.outline.size parent draft (enumerators source build type parent constants)
      fun _ _ => True := by
  induction constants generalizing draft with
  | nil => exact .pure trivial
  | cons constant rest ih =>
    have hconstant := hconstants constant List.mem_cons_self
    have hrest : ∀ part ∈ rest, Belongs fits tree above part :=
      fun part hpart => hconstants part (List.mem_cons_of_mem _ hpart)
    rw [enumerators]
    by_cases hconstruct : constant.construct = .enumerator
    · rw [if_pos hconstruct]
      cases hname : constant.part? .name with
      | none => exact ih habove hrest
      | some name =>
        refine entry_grows h habove hconstant rfl (.declaration rfl) ?_ fun _ hafter =>
          ih hafter hrest
        exact fun _ => mem_children_of_part?_eq
    · rw [if_neg hconstruct]
      exact ih habove hrest

theorem enumRule_grows (fallback : Option String) :
    Grows fits draft.outline.size parent draft (enumRule source build fallback tree parent)
      (IsMain fits draft.outline.size parent tree.range) := by
  refine .get (h.push_main habove htree rfl (.declaration rfl) ?_)
  intro start hnew hown
  cases hbody : tree.part? .body with
  | none => exact .pure rfl
  | some body =>
    have hchild := h.child hown (mem_children_of_part?_eq hbody)
    refine (enumerators_grows h hnew.info_eq (fun part hpart => ?_) _).bind
      fun _ _ _ _ => .pure rfl
    exact h.child hchild (mem_children_of_mem_namedChildren hpart)

theorem aliasRule_grows :
    Grows fits draft.outline.size parent draft (aliasRule source tree parent)
      (IsMain fits draft.outline.size parent tree.range) :=
  .get (h.push_main habove htree rfl (.declaration rfl) fun _ _ _ => .pure rfl)

end Types

/-! ## Functions and variables -/

theorem isFunctionDeclaration_functionNameKind (source : List Char) (draft : Draft)
    (name : Option ParseTree) :
    (functionNameKind source draft name).2.isFunctionDeclaration = true := by
  unfold functionNameKind
  split
  · rfl
  · split
    · rfl
    · unfold qualifiedFunction
      dsimp only
      split_ifs <;> rfl
    · unfold memberFunctionKind
      dsimp only
      split
      · split_ifs <;> rfl
      · rfl

theorem part?_eq_of_inlineType? {type : ParseTree} (h : inlineType? tree = some type) :
    tree.part? .type = some type :=
  (Option.filter_eq_some_iff.1 h).1

/-- The type that a declaration builds is one of its parts. -/
theorem part?_eq_of_builtType {type : ParseTree}
    (h : (inlineType? tree).or (bareType? tree) = some type) : tree.part? .type = some type := by
  rcases Option.or_eq_some_iff.1 h with h | ⟨-, h⟩
  · exact part?_eq_of_inlineType? h
  · exact (Option.filter_eq_some_iff.1 h).1

/-- A declaration with some of its declarators: the type, if it is built, and then a function or a
variable for each of them. -/
def declarationOf (source : List Char) (build : Recursion) (tree : ParseTree) (parent : NodeId)
    (declaratorTrees : List ParseTree) : Build (Option NodeId) := do
  let first ← match (inlineType? tree).or (bareType? tree) with
    | some type => build .member type parent
    | none => pure none
  declarators source build tree (BaseType.ofTree source tree) parent first declaratorTrees

/-- The record of the variable that a declarator of a declaration declares. -/
def variableInfo (source : List Char) (draft : Draft) (tree declaratorTree : ParseTree)
    (declarator : Declarator) (base : BaseType) : NodeInfo :=
  let isStatic := hasStorage source tree "static"
  let kind : Kind := if draft.memberClass?.isSome && !isStatic then .fieldDecl else .varDecl
  { kind, isStatic
    spelling := match declarator.name with
      | some name => ParseNames.declared source name
      | none => ""
    type := declarator.typeSpelling base.spelling
    range := variableRange tree declaratorTree
    extent := extentOf source (variableRange tree declaratorTree)
    isConst := declarator.outerConst.getD base.isConst
    isDefinition := kind == .varDecl && !hasStorage source tree "extern"
    access := draft.memberAccess }

/-- The run of a variable: its node is added and made visible, then its value is built. -/
theorem variableRule_run (source : List Char) (build : Recursion) (tree declaratorTree : ParseTree)
    (declarator : Declarator) (base : BaseType) (parent : NodeId) (draft : Draft) :
    let info := variableInfo source draft tree declaratorTree declarator base
    (variableRule source build tree declaratorTree declarator base parent).run draft =
      (draft.outline.size, ((optional build draft.outline.size
        (declarator.value.or (tree.part? .defaultValue))).run
          ((draft.withNode parent .member info).withBinding info.spelling info.type)).2) :=
  rfl

section Declarations

variable (h : Ready fits source build tree) (habove : draft.outline.info? parent = some above)
include h habove

theorem parameters_grows {declared : List DeclaredParameter}
    (hdeclared : ∀ parameter ∈ declared, Belongs fits tree above parameter.tree)
    (hkind : above.kind.isFunctionDeclaration = true) :
    Grows fits draft.outline.size parent draft (parameters source build parent declared)
      fun _ _ => True := by
  induction declared generalizing draft with
  | nil => exact .pure trivial
  | cons parameter rest ih =>
    refine entry_grows h habove (hdeclared parameter List.mem_cons_self) rfl
      (.parameter hkind rfl) (fun _ => mem_children_of_part?_eq) fun _ hafter => ?_
    exact ih hafter fun other hother => hdeclared other (List.mem_cons_of_mem _ hother)

theorem functionBody_grows {body : ParseTree} (htree : Belongs fits tree above tree)
    (hbody : Belongs fits tree above body) :
    Grows fits draft.outline.size parent draft (functionBody build tree body parent)
      fun _ _ => True := by
  unfold functionBody
  cases hlist : tree.firstNamed? .fieldInitializerList with
  | none => exact (h.build_grows habove hbody).bind fun _ _ _ _ => .pure trivial
  | some list =>
    have hchild := h.child htree (mem_children_of_firstNamed?_eq hlist)
    refine (children_grows h habove hchild).bind fun _ after hsteps _ => ?_
    have hafter := hsteps.keeps le_rfl (lt_size_of_info?_eq habove) habove
    exact ((h.build_grows hafter hbody).bind fun _ _ _ _ => .pure trivial).widen hsteps.size_le
      (Or.inl rfl)

/-- The parameters of a function and its body, below its node. -/
theorem signature_grows {signature : ParseTree} {body? : Option ParseTree}
    (htree : Belongs fits tree above tree) (hkind : above.kind.isFunctionDeclaration = true)
    (hsignature : signature ∈ tree.subtrees)
    (hbody : ∀ body, body? = some body → body ∈ tree.children) :
    Grows fits draft.outline.size parent draft (do
      parameters source build parent (DeclaredParameter.ofFunction source signature)
      match body? with
      | some body => Build.inside .ofFunction (functionBody build tree body parent)
      | none => pure ()) fun _ _ => True := by
  have hdeclared : ∀ parameter ∈ DeclaredParameter.ofFunction source signature,
      Belongs fits tree above parameter.tree := fun parameter hp =>
    h.inside htree (mem_subtrees_trans (DeclaredParameter.tree_mem hp) hsignature)
  refine (parameters_grows h habove hdeclared hkind).bind fun _ after hsteps _ => ?_
  have hafter := hsteps.keeps le_rfl (lt_size_of_info?_eq habove) habove
  cases hb : body? with
  | none => exact .pure trivial
  | some body =>
    refine .inside fun inner hinner => ?_
    rw [← hinner] at hafter
    refine (functionBody_grows h hafter htree (h.child htree (hbody body hb))).widen ?_ (Or.inl rfl)
    rw [hinner]
    exact hsteps.size_le

theorem function_grows {declarator : Declarator} {signature : ParseTree} {base : BaseType}
    {body? : Option ParseTree} (htree : Belongs fits tree above tree)
    (hsignature : signature ∈ tree.subtrees)
    (hbody : ∀ body, body? = some body → body ∈ tree.children) :
    Grows fits draft.outline.size parent draft
      (function source build tree declarator signature base parent body?)
      (IsMainNode fits draft.outline.size parent tree.range) := by
  have hkind := isFunctionDeclaration_functionNameKind source draft declarator.name
  refine .get ?_
  generalize functionNameKind source draft declarator.name = named at hkind ⊢
  obtain ⟨name, kind⟩ := named
  refine .pushFunction (Or.inl rfl) habove htree.fits hkind fun start hstart => ?_
  have hnew := isNew_of_add habove hstart
  refine .of_new_node hnew (h.refl _) (.bind (.inBlock ?_) fun _ _ _ _ => .pure rfl)
  exact signature_grows h hnew.info_eq (h.own hnew rfl) hkind hsignature hbody

theorem functionDefinitionRule_grows (htree : Belongs fits tree above tree) :
    Grows fits draft.outline.size parent draft (functionDefinitionRule source build tree parent)
      (IsMain fits draft.outline.size parent tree.range) := by
  unfold functionDefinitionRule
  cases hdeclarator : tree.part? .declarator with
  | none => exact .pure isMain_none
  | some declarator =>
    dsimp only
    cases hsignature : (Declarator.ofTree source declarator).function with
    | none => exact .pure isMain_none
    | some signature =>
      have hmem : signature ∈ tree.subtrees :=
        mem_subtrees_trans (Declarator.function_mem_subtrees hsignature)
          (mem_subtrees_of_mem_children (mem_children_of_part?_eq hdeclarator))
      refine (function_grows h habove htree hmem fun _ => mem_children_of_part?_eq).bind ?_
      exact fun _ _ _ hmain => .pure (isMain_some hmain)

/-- The node of a variable is added first, and everything else is built below it. -/
theorem variableRule_below (declaratorTree : ParseTree) (declarator : Declarator) (base : BaseType)
    (hvalue : ∀ value, declarator.value.or (tree.part? .defaultValue) = some value →
      Belongs fits tree (variableInfo source draft tree declaratorTree declarator base) value) :
    let info := variableInfo source draft tree declaratorTree declarator base
    let run := (variableRule source build tree declaratorTree declarator base parent).run draft
    ∃ start : Draft, start.outline = draft.outline.add parent info .member ∧
      run.1 = draft.outline.size ∧
      Steps fits start.outline.size draft.outline.size start run.2 := by
  intro info run
  have hrun : run = _ :=
    variableRule_run source build tree declaratorTree declarator base parent draft
  have hstart : ((draft.withNode parent .member info).withBinding info.spelling
      info.type).outline = draft.outline.add parent info .member :=
    Draft.withBinding_outline _ _ _
  have hnew := isNew_of_add habove hstart
  refine ⟨_, hstart, by rw [hrun], ?_⟩
  rw [hrun]
  exact (optional_grows h hnew.info_eq hvalue).1

theorem variableRule_grows {declaratorTree : ParseTree} {base : BaseType}
    (htree : Belongs fits tree above tree)
    (hconstruct : tree.construct = .declaration ∨ tree.construct = .fieldDeclaration)
    (hpart : declaratorTree ∈ tree.parts .declarator)
    (hvariable : (Declarator.ofTree source declaratorTree).function = none) :
    Grows fits draft.outline.size parent draft
      (variableRule source build tree declaratorTree (Declarator.ofTree source declaratorTree) base
        parent)
      (IsMainNode fits draft.outline.size parent tree.range) := by
  have hfitted := h.fitted tree htree.mem
  have hrange := hfitted.variable_fits declaratorTree hpart
  refine .get (.push (Or.inl rfl) habove (h.trans hrange htree.fits) (.declaration ?_) ?_)
  · dsimp only
    split_ifs <;> rfl
  · intro start hstart
    refine .of_new_node (isNew_of_add habove hstart) hrange (.declare fun visible hvisible => ?_)
    have hnew := (isNew_of_add habove hstart).congr hvisible
    rw [← hvisible]
    refine (optional_grows h hnew.info_eq fun value hvalue => ?_).bind fun _ _ _ _ => .pure rfl
    have hchild := mem_children_of_mem_parts hpart
    -- A value of its own stands inside the declarator, a default value does not.
    cases hown : (Declarator.ofTree source declaratorTree).value with
    | some own =>
      rw [hown, Option.some_or] at hvalue
      cases hvalue
      refine h.inside ⟨mem_subtrees_of_mem_children hchild, ?_⟩ (Declarator.value_mem_subtrees hown)
      exact hfitted.declarator_fits declaratorTree hpart
    | none =>
      rw [hown, Option.none_or] at hvalue
      have htakes : takesDefault source declaratorTree = true := by
        rw [takesDefault, hvariable, hown]
        rfl
      refine ⟨mem_subtrees_of_mem_children (mem_children_of_part?_eq hvalue), ?_⟩
      exact hfitted.default_fits hconstruct declaratorTree hpart htakes value hvalue

theorem declarators_grows {base : BaseType} {first : Option NodeId} {start : ℕ}
    (htree : Belongs fits tree above tree)
    (hconstruct : tree.construct = .declaration ∨ tree.construct = .fieldDeclaration)
    (hstart : start ≤ draft.outline.size) (hfirst : IsMain fits start parent tree.range first draft)
    {declaratorTrees : List ParseTree}
    (hparts : ∀ declaratorTree ∈ declaratorTrees, declaratorTree ∈ tree.parts .declarator) :
    Grows fits draft.outline.size parent draft
      (declarators source build tree base parent first declaratorTrees)
      (IsMain fits start parent tree.range) := by
  induction declaratorTrees generalizing draft first with
  | nil => exact .pure hfirst
  | cons declaratorTree rest ih =>
    have hpart := hparts declaratorTree List.mem_cons_self
    have hnext : ∀ id after, Steps fits draft.outline.size parent draft after →
        IsMainNode fits draft.outline.size parent tree.range id after →
        Grows fits draft.outline.size parent after
          (declarators source build tree base parent (first.or (some id)) rest)
          (IsMain fits start parent tree.range) := by
      intro id after hsteps hmain
      have hafter := hsteps.keeps le_rfl (lt_size_of_info?_eq habove) habove
      have hfirst' := isMain_or (IsMain.keeps hfirst hsteps) hstart hmain
      exact (ih hafter (le_trans hstart hsteps.size_le) hfirst' fun other hother =>
        hparts other (List.mem_cons_of_mem _ hother)).widen hsteps.size_le (Or.inl rfl)
    rw [declarators]
    cases hsignature : (Declarator.ofTree source declaratorTree).function with
    | none => exact (variableRule_grows h habove htree hconstruct hpart hsignature).bind hnext
    | some signature =>
      have hmem : signature ∈ tree.subtrees :=
        mem_subtrees_trans (Declarator.function_mem_subtrees hsignature)
          (mem_subtrees_of_mem_children (mem_children_of_mem_parts hpart))
      refine (function_grows h habove htree hmem ?_).bind hnext
      rintro _ ⟨⟩

theorem declarationOf_grows (htree : Belongs fits tree above tree)
    (hconstruct : tree.construct = .declaration ∨ tree.construct = .fieldDeclaration)
    {declaratorTrees : List ParseTree}
    (hparts : ∀ declaratorTree ∈ declaratorTrees, declaratorTree ∈ tree.parts .declarator) :
    Grows fits draft.outline.size parent draft
      (declarationOf source build tree parent declaratorTrees)
      (IsMain fits draft.outline.size parent tree.range) := by
  have hnext : ∀ main after, Steps fits draft.outline.size parent draft after →
      IsMain fits draft.outline.size parent tree.range main after →
      Grows fits draft.outline.size parent after
        (declarators source build tree (BaseType.ofTree source tree) parent main declaratorTrees)
        (IsMain fits draft.outline.size parent tree.range) := by
    intro main after hsteps hmain
    have hafter := hsteps.keeps le_rfl (lt_size_of_info?_eq habove) habove
    exact (declarators_grows h hafter htree hconstruct hsteps.size_le hmain hparts).widen
      hsteps.size_le (Or.inl rfl)
  unfold declarationOf
  cases htype : (inlineType? tree).or (bareType? tree) with
  | none => exact hnext none draft .refl isMain_none
  | some type =>
    have hchild := mem_children_of_part?_eq (part?_eq_of_builtType htype)
    refine (h.build_grows habove (h.child htree hchild)).bind fun main after hsteps hmain => ?_
    exact hnext main after hsteps (.trans hmain h ((h.fitted tree htree.mem).child type hchild))

theorem declarationRule_grows (htree : Belongs fits tree above tree)
    (hconstruct : tree.construct = .declaration ∨ tree.construct = .fieldDeclaration) :
    Grows fits draft.outline.size parent draft (declarationRule source build tree parent)
      (IsMain fits draft.outline.size parent tree.range) :=
  declarationOf_grows h habove htree hconstruct fun _ => id

theorem typedefNames_grows {base : BaseType} {firstName : Option String} {first : Option NodeId}
    {start : ℕ} (htree : Belongs fits tree above tree) (hstart : start ≤ draft.outline.size)
    (hfirst : IsMain fits start parent tree.range first draft) (declaratorTrees : List ParseTree) :
    Grows fits draft.outline.size parent draft
      (typedefNames source tree base firstName parent first declaratorTrees)
      (IsMain fits start parent tree.range) := by
  induction declaratorTrees generalizing draft first with
  | nil => exact .pure hfirst
  | cons declaratorTree rest ih =>
    refine .get (.push (Or.inl rfl) habove htree.fits (.declaration rfl) fun added hadded => ?_)
    have hnew := isNew_of_add habove hadded
    have hmain : IsMainNode fits draft.outline.size parent tree.range draft.outline.size added :=
      ⟨le_rfl, hnew.parent_eq, _, hnew.info_eq, h.refl _⟩
    have hsize := hnew.size_eq
    exact (ih (hnew.keeps habove).1 (by lia) (isMain_or (hnew.isMain hfirst) hstart hmain)).widen
      (by lia) (Or.inl rfl)

theorem typedefRule_grows (htree : Belongs fits tree above tree) :
    Grows fits draft.outline.size parent draft (typedefRule source build tree parent)
      (IsMain fits draft.outline.size parent tree.range) := by
  have hnext : ∀ firstName main after, Steps fits draft.outline.size parent draft after →
      IsMain fits draft.outline.size parent tree.range main after →
      Grows fits draft.outline.size parent after
        (typedefNames source tree (BaseType.ofTree source tree) firstName parent main
          (tree.parts .declarator))
        (IsMain fits draft.outline.size parent tree.range) := by
    intro firstName main after hsteps hmain
    have hafter := hsteps.keeps le_rfl (lt_size_of_info?_eq habove) habove
    exact (typedefNames_grows h hafter htree hsteps.size_le hmain _).widen hsteps.size_le
      (Or.inl rfl)
  unfold typedefRule
  cases htype : inlineType? tree with
  | none => exact hnext _ none draft .refl isMain_none
  | some type =>
    have hchild := mem_children_of_part?_eq (part?_eq_of_inlineType? htype)
    have hready := h.part (mem_subtrees_of_mem_children hchild)
    have hfits := (h.fitted tree htree.mem).child type hchild
    have hbelongs : Belongs fits type above type :=
      ⟨self_mem_subtrees type, h.trans hfits htree.fits⟩
    dsimp only
    split_ifs
    · refine (enumRule_grows hready habove hbelongs _).bind fun main after hsteps hmain => ?_
      exact hnext _ main after hsteps (.trans hmain h hfits)
    · refine (recordRule_grows hready habove hbelongs _).bind fun main after hsteps hmain => ?_
      exact hnext _ main after hsteps (.trans hmain h hfits)

end Declarations

/-! ## Expressions -/

/-- The part of a call's function that is built stands inside the call. -/
theorem calleeInside?_mem_subtrees {callee inner : ParseTree}
    (h : calleeInside? callee = some inner) : inner ∈ callee.subtrees := by
  unfold calleeInside? at h
  split at h
  · exact mem_subtrees_of_mem_children (mem_children_of_part?_eq h)
  · cases h
  · cases h
  · cases h
  · cases h
    exact self_mem_subtrees _

section Expressions

variable (h : Ready fits source build tree) (habove : draft.outline.info? parent = some above)
  (htree : Belongs fits tree above tree) (hrole : role = .member ∨
    role = .argument ∧ above.kind = .callExpr)
include h habove htree hrole

theorem referenceRule_grows :
    Grows fits draft.outline.size parent draft (referenceRule source role tree parent)
      (IsMainNode fits draft.outline.size parent tree.range) := by
  refine .get ?_
  rw [← bind_pure (Build.push _ _ _)]
  exact h.push_node habove htree rfl
    (.expression rfl rfl hrole (by rintro ⟨⟩) (by rintro ⟨⟩)) fun _ _ _ => .pure rfl

theorem memberRule_grows :
    Grows fits draft.outline.size parent draft (memberRule source build role tree parent)
      (IsMainNode fits draft.outline.size parent tree.range) := by
  refine h.push_node habove htree rfl
    (.expression rfl rfl hrole (by rintro ⟨⟩) fun _ => rfl) ?_
  intro start hnew hown
  refine (optional_grows h hnew.info_eq fun value hvalue => ?_).bind fun _ _ _ _ => .pure rfl
  exact h.child hown (mem_children_of_part?_eq hvalue)

omit htree hrole in
theorem argument_grows {argument : ParseTree} (hargument : Belongs fits tree above argument)
    (hkind : above.kind = .callExpr) :
    Grows fits draft.outline.size parent draft (Rules.argument source build parent argument)
      fun _ _ => True := by
  unfold Rules.argument
  by_cases hexpression : isExpression argument.construct = true
  · rw [if_pos hexpression]
    refine (h.builds argument hargument.mem .argument parent draft above habove hargument.fits
      (Or.inr ⟨rfl, hkind, hexpression⟩)).bind fun _ _ _ _ => .pure trivial
  · rw [if_neg hexpression]
    refine .push (Or.inl rfl) habove hargument.fits
      (.expression rfl rfl (Or.inr ⟨rfl, hkind⟩) (by rintro ⟨⟩) (by rintro ⟨⟩))
      fun start hstart => ?_
    have hnew := isNew_of_add habove hstart
    have hsize := hnew.size_eq
    exact (children_grows h hnew.info_eq ⟨hargument.mem, h.refl _⟩).widen (by lia) (Or.inr le_rfl)

omit htree hrole in
theorem arguments_grows {parts : List ParseTree}
    (hparts : ∀ part ∈ parts, Belongs fits tree above part) (hkind : above.kind = .callExpr) :
    Grows fits draft.outline.size parent draft (Rules.arguments source build parent parts)
      fun _ _ => True := by
  induction parts generalizing draft with
  | nil => exact .pure trivial
  | cons part rest ih =>
    have hrest : ∀ other ∈ rest, Belongs fits tree above other :=
      fun other hother => hparts other (List.mem_cons_of_mem _ hother)
    rw [Rules.arguments]
    split_ifs
    · refine (argument_grows h habove (hparts part List.mem_cons_self) hkind).bind ?_
      intro _ after hsteps _
      have hafter := hsteps.keeps le_rfl (lt_size_of_info?_eq habove) habove
      exact (ih hafter hrest).widen hsteps.size_le (Or.inl rfl)
    · exact ih habove hrest

theorem callRule_grows :
    Grows fits draft.outline.size parent draft (callRule source build role tree parent)
      (IsMainNode fits draft.outline.size parent tree.range) := by
  refine .get (h.push_node habove htree rfl
    (.expression rfl rfl hrole (fun _ => ⟨rfl, rfl⟩) (by rintro ⟨⟩)) ?_)
  intro start hnew hown
  refine (optional_grows h hnew.info_eq fun inner hinner => ?_).bind fun _ after hsteps _ => ?_
  · obtain ⟨callee, hcallee, hinside⟩ := Option.bind_eq_some_iff.1 hinner
    exact h.inside (h.child hown (mem_children_of_part?_eq hcallee))
      (calleeInside?_mem_subtrees hinside)
  cases hlist : tree.part? .arguments with
  | none => exact .pure rfl
  | some list =>
    have hsize := hnew.size_eq
    have hafter := hsteps.keeps le_rfl (by lia) hnew.info_eq
    have hchild := h.child hown (mem_children_of_part?_eq hlist)
    refine ((arguments_grows h hafter (fun part hpart => ?_) rfl).widen hsteps.size_le
      (Or.inl rfl)).bind fun _ _ _ _ => .pure rfl
    exact h.child hchild (mem_children_of_mem_namedChildren hpart)

end Expressions

/-! ## Templates -/

theorem templateKind_templateKind (kind : Kind) :
    templateKind (templateKind kind) = templateKind kind := by
  cases kind <;> rfl

theorem isTemplateParameter_of_templateParameter? {kind : Kind} {name type : String}
    (h : templateParameter? source tree = some (kind, name, type)) :
    kind.isTemplateParameter = true := by
  unfold templateParameter? at h
  split at h <;> cases h <;> rfl

theorem templateParameters_grows {parts : List ParseTree}
    (habove : draft.outline.info? parent = some above)
    (hparts : ∀ part ∈ parts, Belongs fits tree above part)
    (hkind : parts ≠ [] → templateKind above.kind = above.kind) :
    Grows fits draft.outline.size parent draft (templateParameters source parent parts)
      fun _ _ => True := by
  induction parts generalizing draft with
  | nil => exact .pure trivial
  | cons part rest ih =>
    have hrest : ∀ other ∈ rest, Belongs fits tree above other :=
      fun other hother => hparts other (List.mem_cons_of_mem _ hother)
    have hgeneral := hkind (List.cons_ne_nil _ _)
    rw [templateParameters]
    cases hparameter : templateParameter? source part with
    | none => exact ih habove hrest fun _ => hgeneral
    | some parameter =>
      obtain ⟨kind, name, type⟩ := parameter
      refine .push (Or.inl rfl) habove (hparts part List.mem_cons_self).fits
        (.templateParameter hgeneral (isTemplateParameter_of_templateParameter? hparameter)) ?_
      intro start hstart
      have hnew := isNew_of_add habove hstart
      have hsize := hnew.size_eq
      exact (ih (hnew.keeps habove).1 hrest fun _ => hgeneral).widen (by lia) (Or.inl rfl)

/-- A node becomes a template, and its parameters are added. -/
theorem generalize_grows {base : ℕ} {id : NodeId} (h : Ready fits source build tree)
    (habove : draft.outline.info? parent = some above) (htree : Belongs fits tree above tree)
    (hmain : IsMainNode fits base parent tree.range id draft) :
    Grows fits base parent draft (do
      let list := tree.part? .parameters
      let isGeneral := list.any (!·.namedChildren.isEmpty)
      modify fun draft => { draft with
        outline := draft.outline.modifyInfo id
          (NodeInfo.generalized isGeneral (tree.extent source) tree.range) }
      match list with
      | some list => templateParameters source id list.namedChildren
      | none => pure ()
      return some id)
      (IsMain fits base parent tree.range) := by
  obtain ⟨hbase, hparent, info, hinfo, hfits⟩ := hmain
  have hlt := lt_size_of_info?_eq hinfo
  refine .generalize hbase hinfo hparent habove hfits htree.fits fun start hstart => ?_
  have hnew : start.outline.info? id = some (info.generalized
      ((tree.part? .parameters).any (!·.namedChildren.isEmpty)) (tree.extent source)
      tree.range) := by
    rw [hstart, info?_modifyInfo, if_pos rfl, hinfo]
    rfl
  have hmain : IsMain fits base parent tree.range (some id) start :=
    isMain_some ⟨hbase, by rw [hstart, parent?_modifyInfo, hparent], _, hnew, h.refl _⟩
  have hsize : start.outline.size = draft.outline.size := by rw [hstart, size_modifyInfo]
  -- The parameters are below the node, so the node stays the main one while they are added.
  cases hlist : tree.part? .parameters with
  | none => exact .pure hmain
  | some list =>
    rw [hlist] at hnew
    have hown : ∀ part ∈ list.namedChildren, Belongs fits tree
        (info.generalized ((some list).any (!·.namedChildren.isEmpty)) (tree.extent source)
          tree.range) part := by
      intro part hpart
      have hchild := mem_children_of_part?_eq hlist
      exact h.child (h.child ⟨htree.mem, h.refl _⟩ hchild) (mem_children_of_mem_namedChildren hpart)
    refine .bind_below (Or.inr hbase) (by lia) (templateParameters_grows hnew hown ?_)
      fun _ _ hlater _ => .pure (IsMain.keeps hmain hlater)
    intro hne
    have hgeneral : (some list).any (!·.namedChildren.isEmpty) = true := by simpa using hne
    simp only [NodeInfo.generalized, hgeneral, if_true, templateKind_templateKind]

theorem templated?_mem_children {inner : ParseTree} (h : templated? tree = some inner) :
    inner ∈ tree.children :=
  List.mem_of_mem_eraseP (List.mem_filter.1 (List.mem_of_find?_eq_some h)).1

theorem templateRule_grows (h : Ready fits source build tree)
    (habove : draft.outline.info? parent = some above) (htree : Belongs fits tree above tree) :
    Grows fits draft.outline.size parent draft (templateRule source build tree parent)
      (IsMain fits draft.outline.size parent tree.range) := by
  unfold templateRule
  cases hinner : templated? tree with
  | none => exact .pure isMain_none
  | some inner =>
    have hchild := templated?_mem_children hinner
    refine (h.build_grows habove (h.child htree hchild)).bind fun main after hsteps hmain => ?_
    cases main with
    | none => exact .pure isMain_none
    | some id =>
      have hafter := hsteps.keeps le_rfl (lt_size_of_info?_eq habove) habove
      exact generalize_grows h hafter htree
        (IsMain.trans hmain h ((h.fitted tree htree.mem).child inner hchild) id rfl)

/-! ## All rules -/

/-- A sequence that is built in place of a tree; it has no main node. -/
theorem sequence_grows {program : Build Unit} {base : ℕ}
    (h : Grows fits base parent draft program fun _ _ => True) :
    Grows fits base parent draft (do program; return none) (IsMain fits base parent tree.range) :=
  h.bind fun _ _ _ _ => .pure isMain_none

/-- The node of an expression is the main node of its tree. -/
theorem expression_grows {program : Build NodeId} {base : ℕ}
    (h : Grows fits base parent draft program (IsMainNode fits base parent tree.range)) :
    Grows fits base parent draft (do return some (← program))
      (IsMain fits base parent tree.range) :=
  h.bind fun _ _ _ hmain => .pure (isMain_some hmain)

theorem rule_builds (h : Ready fits source build tree) : Builds fits (rule source build) tree := by
  intro role parent draft above habove hfits hasked
  have htree : Belongs fits tree above tree := ⟨self_mem_subtrees tree, hfits⟩
  have hrole : role = .member ∨ role = .argument ∧ above.kind = .callExpr :=
    hasked.imp_right fun hargument => ⟨hargument.1, hargument.2.1⟩
  unfold rule
  split
  case h_1 => exact namespaceRule_grows h habove htree
  case h_2 | h_3 | h_4 => exact recordRule_grows h habove htree none
  case h_5 => exact enumRule_grows h habove htree none
  case h_6 => exact templateRule_grows h habove htree
  case h_7 => exact functionDefinitionRule_grows h habove htree
  case h_8 hc => exact declarationRule_grows h habove htree (Or.inl hc)
  case h_9 hc => exact declarationRule_grows h habove htree (Or.inr hc)
  case h_10 => exact typedefRule_grows h habove htree
  case h_11 => exact aliasRule_grows h habove htree
  case h_12 => exact sequence_grows accessLabel_grows
  case h_13 => exact expression_grows (callRule_grows h habove htree hrole)
  case h_14 | h_15 => exact expression_grows (referenceRule_grows h habove htree hrole)
  case h_16 => exact expression_grows (memberRule_grows h habove htree hrole)
  case h_17 => exact sequence_grows (.inBlock (children_grows h habove htree))
  case h_18 | h_19 | h_20 | h_21 => exact sequence_grows (branch_grows h habove htree)
  case h_22 =>
    split_ifs
    · exact sequence_grows (children_grows h habove htree)
    · exact .pure isMain_none

end Rules

/-! ## The recursion -/

/-- How the rule of a tree builds what is inside it. -/
def buildSmaller (source : List Char) (tree : ParseTree) : Recursion := fun role inner parent =>
  if inner.size < tree.size then buildTree source role inner parent else return none

theorem buildTree_eq (source : List Char) (role : Role) (tree : ParseTree) (parent : NodeId) :
    buildTree source role tree parent =
      Rules.rule source (buildSmaller source tree) role tree parent := by
  rw [buildTree]
  rfl

theorem buildSmaller_of_lt {inner : ParseTree} (h : inner.size < tree.size) :
    buildSmaller source tree role inner parent = buildTree source role inner parent :=
  if_pos h

section Recursion

variable (hrefl : ∀ range, fits range range)
  (htrans : ∀ {inner middle outer}, fits inner middle → fits middle outer → fits inner outer)
  (hfitted : ∀ part ∈ tree.subtrees, Fitted fits source part)
include hrefl htrans hfitted

theorem ready_of_builds_smaller
    (h : ∀ part ∈ tree.subtrees, part.size < tree.size → Builds fits (buildTree source) part) :
    Ready fits source (buildSmaller source tree) tree := by
  refine ⟨hrefl, htrans, hfitted, fun part hpart => ?_⟩
  intro role parent draft above habove hfits hasked
  unfold buildSmaller
  -- A tree that is not smaller is left out, so nothing has to be said about it.
  split_ifs with hlt
  · exact h part hpart hlt role parent draft above habove hfits hasked
  · exact .pure isMain_none

theorem buildTree_builds : Builds fits (buildTree source) tree := by
  induction hn : tree.size using Nat.strong_induction_on generalizing tree with
  | _ n ih =>
    have hready : Ready fits source (buildSmaller source tree) tree := by
      refine ready_of_builds_smaller hrefl htrans hfitted fun part hpart hlt => ?_
      have hinside : ∀ inner ∈ part.subtrees, Fitted fits source inner :=
        fun inner hinner => hfitted inner (mem_subtrees_trans hinner hpart)
      exact ih _ (by lia) hinside rfl
    intro role parent draft above habove hfits hasked
    rw [buildTree_eq]
    exact Rules.rule_builds hready role parent draft above habove hfits hasked

theorem buildTree_ready : Ready fits source (buildTree source) tree := by
  refine ⟨hrefl, htrans, hfitted, fun part hpart => buildTree_builds hrefl htrans ?_⟩
  exact fun inner hinner => hfitted inner (mem_subtrees_trans hinner hpart)

theorem buildSmaller_ready : Ready fits source (buildSmaller source tree) tree :=
  ready_of_builds_smaller hrefl htrans hfitted fun part hpart _ =>
    (buildTree_ready hrefl htrans hfitted).builds part hpart

/-- Building a whole file makes steps below the root. -/
theorem finish_steps (name : String) :
    Steps fits 1 root (Draft.start source name tree) (Draft.finish source name tree) := by
  have hready := buildTree_ready hrefl htrans hfitted
  have habove : (Draft.start source name tree).outline.info? root = some
      { NodeInfo.ofTree source .fileUnit name tree with isDefinition := true } := rfl
  exact (Rules.children_grows hready habove ⟨self_mem_subtrees tree, hrefl _⟩).1

end Recursion

theorem fitted_any (source : List Char) (tree : ParseTree) :
    Fitted (fun _ _ => True) source tree :=
  ⟨fun _ _ => trivial, fun _ _ => trivial, fun _ _ => trivial, fun _ _ _ _ _ _ => trivial⟩

/-- Whatever the ranges of a parse tree are, the trees inside it can be built. -/
theorem buildSmaller_ready_any (source : List Char) (tree : ParseTree) :
    Ready (fun _ _ => True) source (buildSmaller source tree) tree :=
  buildSmaller_ready (fun _ => trivial) (fun _ _ => trivial) fun part _ => fitted_any source part

/-- Whatever the ranges of a parse tree are, building its file makes steps below the root. -/
theorem finish_steps_any (source : List Char) (name : String) (tree : ParseTree) :
    Steps (fun _ _ => True) 1 root (Draft.start source name tree)
      (Draft.finish source name tree) :=
  finish_steps (fun _ => trivial) (fun _ _ => trivial) (fun part _ => fitted_any source part) name

end StructSearch

import StructSearch.Proofs.Outline.CallBudget
import StructSearch.Proofs.Outline.RuleGrowth
import StructSearch.Proofs.Source.Calls

/-!
# The rules of constructs stay within their calls

Rules reach the trees inside their construct on many ways: by labels, in the order of children, by
taking declarators apart. No two of these ways meet, so every rule stays within the calls of its
construct. There is one exception: a declaration is taken apart once for each of its declarators,
and each variable without a value takes the first default value of the declaration.

Results:
* `rule_spares`: a rule builds each call of its construct at most once if no default value is
  shared.
* `buildTree_spares`, `finish_calls_le`: so does the recursion, and a whole file.
-/

namespace StructSearch

open Source ParseTree Outline

/-- What the grammar says about the trees that rules tell apart: neither the declaration of a
template nor the type of a declaration is a call, and the list in which a constructor sets members
is not labelled as one of the other parts of its function. -/
structure Conforms (tree : ParseTree) : Prop where
  template : tree.construct = .templateDeclaration →
    ∀ inner ∈ Rules.templated? tree, inner.construct ≠ .callExpression
  type : tree.construct = .declaration ∨ tree.construct = .fieldDeclaration →
    ∀ type ∈ tree.part? .type, type.construct ≠ .callExpression
  initializers : tree.construct = .functionDefinition →
    ∀ list ∈ tree.firstNamed? .fieldInitializerList, list.label.part = none

instance (tree : ParseTree) : Decidable (Conforms tree) :=
  decidable_of_iff
    ((tree.construct = .templateDeclaration →
        ∀ inner ∈ Rules.templated? tree, inner.construct ≠ .callExpression) ∧
      (tree.construct = .declaration ∨ tree.construct = .fieldDeclaration →
        ∀ type ∈ tree.part? .type, type.construct ≠ .callExpression) ∧
      (tree.construct = .functionDefinition →
        ∀ list ∈ tree.firstNamed? .fieldInitializerList, list.label.part = none))
    ⟨fun ⟨h1, h2, h3⟩ => ⟨h1, h2, h3⟩, fun ⟨h1, h2, h3⟩ => ⟨h1, h2, h3⟩⟩

/-- At most one declarator of a declaration takes its default value. -/
def SharesNoDefault (source : List Char) (tree : ParseTree) : Prop :=
  tree.construct = .declaration ∨ tree.construct = .fieldDeclaration →
    (tree.part? .defaultValue).isSome = true →
      ((tree.parts .declarator).filter (takesDefault source)).length ≤ 1

instance (source : List Char) (tree : ParseTree) : Decidable (SharesNoDefault source tree) :=
  inferInstanceAs (Decidable (_ → _ → _ ≤ 1))

/-- The default value of a declaration, once for each declarator that takes it. -/
def takenDefaults (source : List Char) (tree : ParseTree) (declarators : List ParseTree) :
    List ParseTree :=
  (declarators.filter (takesDefault source)).flatMap fun _ => (tree.part? .defaultValue).toList

/-- If there is a main node, it is no call. -/
def IsDeclared (main : Option NodeId) (outline : Outline) : Prop :=
  ∀ id, main = some id → outline.IsNoCall id

/-- A recursion builds each call of a tree at most once, and a call is the main node of calls
only. -/
def Spares (build : Recursion) (tree : ParseTree) : Prop :=
  ∀ (role : Role) (parent : NodeId) (draft : Draft),
    Spends tree.calls draft (build role tree parent) fun main outline =>
      tree.construct ≠ .callExpression → IsDeclared main outline

variable {source : List Char} {build : Recursion} {tree : ParseTree} {parent : NodeId}
  {draft : Draft}

/-! ## The calls of parts -/

theorem takenDefaults_cons (declarator : ParseTree) (rest : List ParseTree) :
    takenDefaults source tree (declarator :: rest) =
      (if takesDefault source declarator = true then (tree.part? .defaultValue).toList else []) ++
        takenDefaults source tree rest := by
  unfold takenDefaults
  rw [List.filter_cons]
  split_ifs <;> rfl

theorem SharesNoDefault.callsAll_takenDefaults_le (h : SharesNoDefault source tree)
    (hconstruct : tree.construct = .declaration ∨ tree.construct = .fieldDeclaration) :
    callsAll (takenDefaults source tree (tree.parts .declarator)) ≤
      callsAll (tree.part? .defaultValue).toList := by
  unfold takenDefaults
  cases hdefault : tree.part? .defaultValue with
  | none =>
    rw [Option.toList_none, List.flatMap_eq_nil_iff.2 fun _ _ => rfl]
  | some value =>
    have hlength := h hconstruct (by rw [hdefault]; rfl)
    cases htakes : (tree.parts .declarator).filter (takesDefault source) with
    | nil => exact Multiset.zero_le _
    | cons declarator rest =>
      rw [htakes, List.length_cons] at hlength
      obtain rfl : rest = [] := List.length_eq_zero_iff.1 (by omega)
      exact le_rfl

/-- The signature of a function, its list of members and its body are different parts. -/
theorem Conforms.callsAll_function_le {declarator : ParseTree} {signature : Multiset ByteRange}
    (h : Conforms tree) (hconstruct : tree.construct = .functionDefinition)
    (hdeclarator : tree.part? .declarator = some declarator)
    (hsignature : signature ≤ declarator.calls) :
    signature + (callsAll (tree.firstNamed? .fieldInitializerList).toList +
      callsAll (tree.part? .body).toList) ≤ tree.calls := by
  have hlist : callsAll (tree.firstNamed? .fieldInitializerList).toList ≤
      callsAll (tree.labelled none) := by
    cases hlist : tree.firstNamed? .fieldInitializerList with
    | none => exact Multiset.zero_le _
    | some list =>
      rw [Option.toList_some, callsAll_cons, callsAll_nil, add_zero,
        ← h.initializers hconstruct list hlist]
      exact calls_le_labelled (mem_children_of_firstNamed?_eq hlist)
  have hfirst := tree.callsAll_part?_le .declarator
  rw [hdeclarator, Option.toList_some, callsAll_cons, callsAll_nil, add_zero] at hfirst
  calc
    _ ≤ callsAll (tree.labelled (some .declarator)) + (callsAll (tree.labelled none) +
          callsAll (tree.labelled (some .body))) :=
      add_le_add (hsignature.trans hfirst) (add_le_add hlist (tree.callsAll_part?_le .body))
    _ ≤ callsAll tree.children := by
      simpa using tree.sum_callsAll_labelled_le [some .declarator, none, some .body] (by decide)
    _ ≤ tree.calls := tree.callsAll_children_le

/-- The type of a declaration, its declarators and its default value are different parts. -/
theorem callsAll_declaration_le (tree : ParseTree) :
    callsAll (tree.part? .type).toList + (callsAll (tree.parts .declarator) +
      callsAll (tree.part? .defaultValue).toList) ≤ tree.calls := by
  calc
    _ ≤ callsAll (tree.labelled (some .type)) + (callsAll (tree.labelled (some .declarator)) +
          callsAll (tree.labelled (some .defaultValue))) :=
      add_le_add (tree.callsAll_part?_le .type)
        (add_le_add le_rfl (tree.callsAll_part?_le .defaultValue))
    _ ≤ callsAll tree.children := by
      simpa using tree.sum_callsAll_labelled_le
        [some .type, some .declarator, some .defaultValue] (by decide)
    _ ≤ tree.calls := tree.callsAll_children_le

/-! ## Main nodes -/

theorem isDeclared_none {outline : Outline} : IsDeclared none outline := by
  rintro _ ⟨⟩

theorem isDeclared_some {id : NodeId} {outline : Outline} (h : outline.IsNoCall id) :
    IsDeclared (some id) outline := by
  rintro _ ⟨⟩
  exact h

theorem IsDeclared.keeps {main : Option NodeId} {budget : Multiset ByteRange}
    {before after : Outline} (h : IsDeclared main before)
    (hspending : Spending budget before after) : IsDeclared main after :=
  fun id hid => (h id hid).keeps hspending

theorem isDeclared_or {first : Option NodeId} {id : NodeId} {outline : Outline}
    (hfirst : IsDeclared first outline) (h : outline.IsNoCall id) :
    IsDeclared (first.or (some id)) outline := by
  cases first with
  | some main => exact hfirst
  | none => exact isDeclared_some h

namespace Rules

section Sequences

variable (h : ∀ part ∈ tree.subtrees, Spares build part)
include h

/-! ## Sequences -/

theorem drain_spends {pending : List ParseTree}
    (hpending : ∀ part ∈ pending, part ∈ tree.subtrees) :
    Spends (callsAll pending) draft (drain build parent pending) fun _ _ => True := by
  induction pending using drain.induct generalizing draft with
  | case1 =>
    rw [drain]
    exact .pure trivial
  | case2 first rest htransparent ih =>
    rw [drain, if_pos htransparent]
    refine (ih fun part hpart => ?_).mono ?_
    · rcases List.mem_append.1 hpart with hpart | hpart
      · have hchild := mem_subtrees_of_mem_children (mem_children_of_mem_namedChildren hpart)
        exact mem_subtrees_trans hchild (hpending first List.mem_cons_self)
      · exact hpending part (List.mem_cons_of_mem _ hpart)
    · rw [callsAll_append, callsAll_cons]
      exact add_le_add_left (callsAll_namedChildren_le first) _
  | case3 first rest htransparent ih =>
    rw [drain, if_neg htransparent, callsAll_cons]
    refine (h first (hpending first List.mem_cons_self) .member parent draft).bind ?_
    exact fun _ _ _ _ => ih fun part hpart => hpending part (List.mem_cons_of_mem _ hpart)

theorem children_spends {inner : ParseTree} (hinner : inner ∈ tree.subtrees) :
    Spends inner.calls draft (children build inner parent) fun _ _ => True := by
  refine (drain_spends h fun part hpart => ?_).mono (callsAll_namedChildren_le inner)
  exact mem_subtrees_trans
    (mem_subtrees_of_mem_children (mem_children_of_mem_namedChildren hpart)) hinner

theorem each_spends {parts : List ParseTree} (hparts : ∀ part ∈ parts, part ∈ tree.subtrees) :
    Spends (callsAll parts) draft (each build parent parts) fun _ _ => True := by
  induction parts generalizing draft with
  | nil => exact .pure trivial
  | cons first rest ih =>
    rw [callsAll_cons]
    refine (h first (hparts first List.mem_cons_self) .member parent draft).bind ?_
    exact fun _ _ _ _ => ih fun part hpart => hparts part (List.mem_cons_of_mem _ hpart)

theorem optional_spends {part? : Option ParseTree}
    (hpart : ∀ part, part? = some part → part ∈ tree.subtrees) :
    Spends (callsAll part?.toList) draft (optional build parent part?) fun _ _ => True := by
  cases part? with
  | none => exact .pure trivial
  | some part =>
    rw [Option.toList_some, callsAll_cons]
    exact (h part (hpart part rfl) .member parent draft).bind fun _ _ _ _ => .pure trivial

theorem branch_spends :
    Spends tree.calls draft (branch build tree parent) fun _ _ => True := by
  have hsublist : ((without .name (without .condition tree.children)).filter
      (·.label.isNamed)).Sublist tree.children :=
    List.filter_sublist.trans (List.eraseP_sublist.trans List.eraseP_sublist)
  refine (each_spends h fun part hpart => ?_).mono
    ((callsAll_le_of_subperm hsublist.subperm).trans tree.callsAll_children_le)
  exact mem_subtrees_of_mem_children (hsublist.subset hpart)

end Sequences

theorem accessLabel_spends :
    Spends 0 draft (accessLabel source tree) fun _ _ => True := by
  unfold accessLabel
  cases Access.ofKeyword? (String.ofList (Text.trim (tree.text source))) with
  | none => exact .pure trivial
  | some access =>
    refine ⟨?_, trivial⟩
    show Spending 0 draft.outline (draft.withAccess access).outline
    rw [Draft.withAccess_outline]
    exact .refl _

/-- An entry of a list is added and made visible, and its value is built below it. -/
theorem entry_spends {β : Type} {post : β → Outline → Prop} {next : Build β} {entry : ParseTree}
    {value? : Option ParseTree} {role : Role} {info : NodeInfo} {name type : String}
    {more : Multiset ByteRange} (h : ∀ part ∈ tree.subtrees, Spares build part)
    (hentry : entry ∈ tree.subtrees) (hkind : info.kind ≠ .callExpr)
    (hvalue : ∀ value, value? = some value → value ∈ entry.children)
    (hnext : ∀ after : Draft, Spends more after next post) :
    Spends (entry.calls + more) draft (do
      let id ← Build.push parent role info
      Build.declare name type
      optional build id value?
      next) post := by
  have hcalls : callsAll value?.toList ≤ entry.calls := by
    cases value? with
    | none => exact Multiset.zero_le _
    | some value =>
      rw [Option.toList_some, callsAll_cons, callsAll_nil, add_zero]
      exact calls_le_of_mem_children (hvalue value rfl)
  refine .push hkind fun start _ _ => .silent (start.withBinding_outline name type) ?_
  intro _ visible _
  refine ((optional_spends h fun value hv => ?_).mono hcalls).bind fun _ after _ _ => hnext after
  exact mem_subtrees_trans (mem_subtrees_of_mem_children (hvalue value hv)) hentry

/-! ## Namespaces and types -/

theorem namespaces_spends (names : List String) :
    Spends 0 draft (namespaces source tree parent names) fun result => IsDeclared result.1 := by
  induction names generalizing draft parent with
  | nil => exact .pure isDeclared_none
  | cons name names ih =>
    refine .push (by rintro ⟨⟩) fun start _ hstart => ih.last ?_
    rintro ⟨_, innermost⟩ after hspending -
    exact .pure (isDeclared_some (hstart.keeps hspending))

section Types

variable (h : ∀ part ∈ tree.subtrees, Spares build part)
include h

theorem namespaceRule_spends :
    Spends tree.calls draft (namespaceRule source build tree parent) IsDeclared := by
  refine (namespaces_spends _).free ?_
  rintro ⟨first, innermost⟩ after - hfirst
  cases hbody : tree.part? .body with
  | none => exact (Spends.pure hfirst).mono (Multiset.zero_le _)
  | some body =>
    have hchild := mem_children_of_part?_eq hbody
    have hmem := mem_subtrees_of_mem_children hchild
    exact ((children_spends h hmem).inBlock.mono (calls_le_of_mem_children hchild)).last
      fun _ _ hspending _ => .pure (hfirst.keeps hspending)

theorem recordRule_spends (fallback : Option String) :
    Spends tree.calls draft (recordRule source build fallback tree parent) IsDeclared := by
  have hkind : recordKind tree.construct ≠ .callExpr := by
    intro hcall
    have hplain := isPlainDeclaration_recordKind tree.construct
    rw [hcall] at hplain
    cases hplain
  refine .get (.push hkind fun start _ hstart => ?_)
  cases hbody : tree.part? .body with
  | none => exact (Spends.pure (isDeclared_some hstart)).mono (Multiset.zero_le _)
  | some body =>
    have hchild := mem_children_of_part?_eq hbody
    refine .silent (start.withClass_outline _) fun _ defined hdefined => ?_
    rw [← hdefined] at hstart
    refine Spends.last (.inside fun inner => .inBlock ?_) fun _ after hspending _ =>
      .pure (isDeclared_some (hstart.keeps hspending))
    exact (children_spends h (mem_subtrees_of_mem_children hchild)).mono
      (calls_le_of_mem_children hchild)

theorem enumerators_spends {constants : List ParseTree}
    (hconstants : ∀ part ∈ constants, part ∈ tree.subtrees) (type : String) :
    Spends (callsAll constants) draft (enumerators source build type parent constants)
      fun _ _ => True := by
  induction constants generalizing draft with
  | nil => exact .pure trivial
  | cons constant rest ih =>
    have hrest : ∀ after : Draft, Spends (callsAll rest) after
        (enumerators source build type parent rest) fun _ _ => True :=
      fun after => ih fun part hpart => hconstants part (List.mem_cons_of_mem _ hpart)
    have hskip := (hrest draft).mono (Multiset.le_add_left _ constant.calls)
    rw [enumerators, callsAll_cons]
    by_cases hconstruct : constant.construct = .enumerator
    · rw [if_pos hconstruct]
      cases hname : constant.part? .name with
      | none => exact hskip
      | some name =>
        exact entry_spends h (hconstants constant List.mem_cons_self) (by rintro ⟨⟩)
          (fun _ => mem_children_of_part?_eq) hrest
    · rw [if_neg hconstruct]
      exact hskip

theorem enumRule_spends (fallback : Option String) :
    Spends tree.calls draft (enumRule source build fallback tree parent) IsDeclared := by
  refine .get (.push (by rintro ⟨⟩) fun start _ hstart => ?_)
  cases hbody : tree.part? .body with
  | none => exact (Spends.pure (isDeclared_some hstart)).mono (Multiset.zero_le _)
  | some body =>
    have hchild := mem_children_of_part?_eq hbody
    have hconstants : ∀ part ∈ body.namedChildren, part ∈ tree.subtrees := fun part hpart =>
      mem_subtrees_trans
        (mem_subtrees_of_mem_children (mem_children_of_mem_namedChildren hpart))
        (mem_subtrees_of_mem_children hchild)
    exact ((enumerators_spends h hconstants _).mono
      ((callsAll_namedChildren_le body).trans (calls_le_of_mem_children hchild))).last
      fun _ _ hspending _ => .pure (isDeclared_some (hstart.keeps hspending))

end Types

theorem aliasRule_spends :
    Spends 0 draft (aliasRule source tree parent) IsDeclared :=
  .get (.push (by rintro ⟨⟩) fun _ _ hstart => .pure (isDeclared_some hstart))

/-! ## Functions and variables -/

section Declarations

variable (h : ∀ part ∈ tree.subtrees, Spares build part)
include h

theorem parameters_spends {declared : List DeclaredParameter}
    (hdeclared : ∀ parameter ∈ declared, parameter.tree ∈ tree.subtrees) :
    Spends (callsAll (declared.map (·.tree))) draft (parameters source build parent declared)
      fun _ _ => True := by
  induction declared generalizing draft with
  | nil => exact .pure trivial
  | cons parameter rest ih =>
    rw [List.map_cons, callsAll_cons]
    refine entry_spends h (hdeclared parameter List.mem_cons_self) (by rintro ⟨⟩)
      (fun _ => mem_children_of_part?_eq) fun after => ?_
    exact ih fun other hother => hdeclared other (List.mem_cons_of_mem _ hother)

omit h in
/-- The parameters of a function are among the constructs of one of its parts. -/
theorem callsAll_ofFunction_le (signature : ParseTree) :
    callsAll ((DeclaredParameter.ofFunction source signature).map (·.tree)) ≤ signature.calls := by
  unfold DeclaredParameter.ofFunction
  cases hlist : signature.part? .parameters with
  | none => exact Multiset.zero_le _
  | some list =>
    have htrees : ∀ trees : List ParseTree,
        (trees.map (DeclaredParameter.ofTree source)).map (·.tree) = trees := by
      intro trees
      rw [List.map_map]
      exact List.map_id' trees
    dsimp only
    rw [htrees]
    exact (callsAll_le_of_subperm List.filter_sublist.subperm).trans
      ((callsAll_namedChildren_le list).trans
        (calls_le_of_mem_children (mem_children_of_part?_eq hlist)))

theorem functionBody_spends {body : ParseTree} (hbody : body ∈ tree.children) :
    Spends (callsAll (tree.firstNamed? .fieldInitializerList).toList + body.calls) draft
      (functionBody build tree body parent) fun _ _ => True := by
  have hlast : ∀ after : Draft, Spends body.calls after (do let _ ← build .member body parent)
      fun _ _ => True :=
    fun after => (h body (mem_subtrees_of_mem_children hbody) .member parent after).last
      fun _ _ _ _ => .pure trivial
  unfold functionBody
  cases hlist : tree.firstNamed? .fieldInitializerList with
  | none =>
    rw [Option.toList_none, callsAll_nil, zero_add]
    exact hlast draft
  | some list =>
    rw [Option.toList_some, callsAll_cons, callsAll_nil, add_zero]
    have hmem := mem_subtrees_of_mem_children (mem_children_of_firstNamed?_eq hlist)
    exact (children_spends h hmem).bind fun _ after _ _ => hlast after

/-- A function spends the calls of its signature and those of its body. -/
theorem function_spends {declarator : Declarator} {signature : ParseTree} {base : BaseType}
    {body? : Option ParseTree} {inner : Multiset ByteRange} (hsignature : signature ∈ tree.subtrees)
    (hbody : ∀ body, body? = some body → ∀ (id : NodeId) (start : Draft),
      Spends inner start (functionBody build tree body id) fun _ _ => True) :
    Spends (signature.calls + inner) draft
      (function source build tree declarator signature base parent body?)
      fun id outline => outline.IsNoCall id := by
  have hkind := isFunctionDeclaration_functionNameKind source draft declarator.name
  refine .get ?_
  generalize functionNameKind source draft declarator.name = named at hkind ⊢
  obtain ⟨name, kind⟩ := named
  have hcall : kind ≠ .callExpr := by
    rintro rfl
    cases hkind
  refine .push hcall fun start _ hstart => ?_
  refine .silent (start.withBinding_outline _ _) fun _ visible hvisible => ?_
  refine .silent (visible.withResult_outline _ _) fun _ known hknown => ?_
  rw [← hvisible, ← hknown] at hstart
  refine .last (.inBlock ?_) fun _ after hspending _ => .pure (hstart.keeps hspending)
  have hparameters : ∀ parameter ∈ DeclaredParameter.ofFunction source signature,
      parameter.tree ∈ tree.subtrees :=
    fun parameter hp => mem_subtrees_trans (DeclaredParameter.tree_mem hp) hsignature
  refine ((parameters_spends h hparameters).mono (callsAll_ofFunction_le signature)).bind ?_
  intro _ after _ _
  cases hb : body? with
  | none => exact (Spends.pure trivial).mono (Multiset.zero_le _)
  | some body => exact .inside fun start => hbody body hb _ start

theorem functionDefinitionRule_spends (hconforms : Conforms tree)
    (hconstruct : tree.construct = .functionDefinition) :
    Spends tree.calls draft (functionDefinitionRule source build tree parent) IsDeclared := by
  unfold functionDefinitionRule
  cases hdeclarator : tree.part? .declarator with
  | none => exact (Spends.pure isDeclared_none).mono (Multiset.zero_le _)
  | some declarator =>
    dsimp only
    cases hsignature : (Declarator.ofTree source declarator).function with
    | none => exact (Spends.pure isDeclared_none).mono (Multiset.zero_le _)
    | some signature =>
      have hchild := mem_children_of_part?_eq hdeclarator
      have hinside := Declarator.function_mem_subtrees hsignature
      refine Spends.mono (Spends.last (function_spends h
        (mem_subtrees_trans hinside (mem_subtrees_of_mem_children hchild)) ?_)
        fun id _ _ hid => .pure (isDeclared_some hid))
        (hconforms.callsAll_function_le hconstruct hdeclarator (calls_le_of_mem_subtrees hinside))
      intro body hbody id start
      rw [hbody, Option.toList_some, callsAll_cons, callsAll_nil, add_zero]
      exact functionBody_spends h (mem_children_of_part?_eq hbody)

theorem variableRule_spends {declaratorTree : ParseTree} {base : BaseType}
    (hpart : declaratorTree ∈ tree.parts .declarator) :
    Spends (callsAll ((Declarator.ofTree source declaratorTree).value.or
        (tree.part? .defaultValue)).toList) draft
      (variableRule source build tree declaratorTree (Declarator.ofTree source declaratorTree) base
        parent) fun id outline => outline.IsNoCall id := by
  refine .get (.push ?_ fun start _ hstart => ?_)
  · dsimp only
    split_ifs <;> rintro ⟨⟩
  · refine .silent (start.withBinding_outline _ _) fun _ visible hvisible => ?_
    rw [← hvisible] at hstart
    refine (optional_spends h fun value hvalue => ?_).last fun _ after hspending _ =>
      .pure (hstart.keeps hspending)
    exact Declarator.builtValue_mem_subtrees hpart hvalue

theorem declarators_spends {base : BaseType} {first : Option NodeId}
    (hfirst : IsDeclared first draft.outline) {declaratorTrees : List ParseTree}
    (hparts : ∀ declaratorTree ∈ declaratorTrees, declaratorTree ∈ tree.parts .declarator) :
    Spends (callsAll declaratorTrees + callsAll (takenDefaults source tree declaratorTrees)) draft
      (declarators source build tree base parent first declaratorTrees) IsDeclared := by
  induction declaratorTrees generalizing draft first with
  | nil => exact .pure hfirst
  | cons declaratorTree rest ih =>
    have hpart := hparts declaratorTree List.mem_cons_self
    have hmem := mem_subtrees_of_mem_children (mem_children_of_mem_parts hpart)
    have hnext : ∀ budget id after, Spending budget draft.outline after.outline →
        after.outline.IsNoCall id →
        Spends (callsAll rest + callsAll (takenDefaults source tree rest)) after
          (declarators source build tree base parent (first.or (some id)) rest) IsDeclared := by
      intro budget id after hspending hid
      exact ih (isDeclared_or (hfirst.keeps hspending) hid) fun other hother =>
        hparts other (List.mem_cons_of_mem _ hother)
    rw [declarators, callsAll_cons, takenDefaults_cons, callsAll_append, add_add_add_comm]
    -- A declarator spends its own calls and, if it takes the default value, those of that value.
    cases hsignature : (Declarator.ofTree source declaratorTree).function with
    | some signature =>
      have hinside := Declarator.function_mem_subtrees hsignature
      have hspends : Spends (signature.calls + 0) draft (function source build tree
          (Declarator.ofTree source declaratorTree) signature base parent none) _ :=
        function_spends h (mem_subtrees_trans hinside hmem) (by rintro _ ⟨⟩)
      rw [add_zero] at hspends
      refine (hspends.mono ?_).bind (hnext _)
      exact (calls_le_of_mem_subtrees hinside).trans (Multiset.le_add_right _ _)
    | none =>
      refine ((variableRule_spends h hpart).mono ?_).bind (hnext _)
      cases hown : (Declarator.ofTree source declaratorTree).value with
      | some value =>
        rw [Option.some_or, Option.toList_some, callsAll_cons, callsAll_nil, add_zero]
        exact (calls_le_of_mem_subtrees (Declarator.value_mem_subtrees hown)).trans
          (Multiset.le_add_right _ _)
      | none =>
        have htakes : takesDefault source declaratorTree = true := by
          rw [takesDefault, hsignature, hown]
          rfl
        rw [Option.none_or, if_pos htakes]
        exact Multiset.le_add_left _ _

theorem declarationRule_spends (hconforms : Conforms tree) (hshares : SharesNoDefault source tree)
    (hconstruct : tree.construct = .declaration ∨ tree.construct = .fieldDeclaration) :
    Spends tree.calls draft (declarationRule source build tree parent) IsDeclared := by
  have hnext : ∀ main after, IsDeclared main (Draft.outline after) →
      Spends (callsAll (tree.parts .declarator) + callsAll (tree.part? .defaultValue).toList) after
        (declarators source build tree (BaseType.ofTree source tree) parent main
          (tree.parts .declarator)) IsDeclared := by
    intro main after hmain
    refine (declarators_spends h hmain fun _ => id).mono (add_le_add_right ?_ _)
    exact hshares.callsAll_takenDefaults_le hconstruct
  refine Spends.mono ?_ (callsAll_declaration_le tree)
  unfold declarationRule
  cases htype : (inlineType? tree).or (bareType? tree) with
  | none =>
    exact (hnext none draft isDeclared_none).mono (Multiset.le_add_left _ _)
  | some type =>
    have hpart := part?_eq_of_builtType htype
    have hmem := mem_subtrees_of_mem_children (mem_children_of_part?_eq hpart)
    rw [hpart, Option.toList_some, callsAll_cons, callsAll_nil, add_zero]
    refine (h type hmem .member parent draft).bind fun main after _ hmain => ?_
    exact hnext main after (hmain (hconforms.type hconstruct type hpart))

omit h in
theorem typedefNames_spends {base : BaseType} {firstName : Option String} {first : Option NodeId}
    (hfirst : IsDeclared first draft.outline) (declaratorTrees : List ParseTree) :
    Spends 0 draft (typedefNames source tree base firstName parent first declaratorTrees)
      IsDeclared := by
  induction declaratorTrees generalizing draft first with
  | nil => exact .pure hfirst
  | cons declaratorTree rest ih =>
    refine .get (.push (by rintro ⟨⟩) fun start hspending hstart => ?_)
    exact ih (isDeclared_or (hfirst.keeps hspending) hstart)

theorem typedefRule_spends :
    Spends tree.calls draft (typedefRule source build tree parent) IsDeclared := by
  unfold typedefRule
  cases htype : inlineType? tree with
  | none => exact (typedefNames_spends isDeclared_none _).mono (Multiset.zero_le _)
  | some type =>
    have hchild := mem_children_of_part?_eq (part?_eq_of_inlineType? htype)
    have hinside : ∀ part ∈ type.subtrees, Spares build part := fun part hpart =>
      h part (mem_subtrees_trans hpart (mem_subtrees_of_mem_children hchild))
    refine Spends.mono ?_ (calls_le_of_mem_children hchild)
    dsimp only
    split_ifs
    · exact (enumRule_spends hinside _).last fun _ _ _ hmain => typedefNames_spends hmain _
    · exact (recordRule_spends hinside _).last fun _ _ _ hmain => typedefNames_spends hmain _

end Declarations

/-! ## Expressions -/

theorem referenceRule_spends {role : Role} :
    Spends 0 draft (referenceRule source role tree parent)
      fun id outline => outline.IsNoCall id := by
  refine .get ?_
  rw [← bind_pure (Build.push _ _ _)]
  exact .push (by rintro ⟨⟩) fun _ _ hstart => .pure hstart

section Expressions

variable {role : Role} (h : ∀ part ∈ tree.subtrees, Spares build part)
include h

theorem memberRule_spends :
    Spends tree.calls draft (memberRule source build role tree parent)
      fun id outline => outline.IsNoCall id := by
  have hcalls : callsAll (tree.part? .argument).toList ≤ tree.calls :=
    (tree.callsAll_part?_le .argument).trans
      ((callsAll_le_of_subperm List.filter_sublist.subperm).trans tree.callsAll_children_le)
  refine .push (by rintro ⟨⟩) fun start _ hstart => ?_
  refine ((optional_spends h fun value hvalue => ?_).mono hcalls).last
    fun _ _ hspending _ => .pure (hstart.keeps hspending)
  exact mem_subtrees_of_mem_children (mem_children_of_part?_eq hvalue)

theorem argument_spends {argument : ParseTree} (hargument : argument ∈ tree.subtrees) :
    Spends argument.calls draft (Rules.argument source build parent argument) fun _ _ => True := by
  unfold Rules.argument
  split_ifs
  · exact (h argument hargument .argument parent draft).last fun _ _ _ _ => .pure trivial
  · exact .push (by rintro ⟨⟩) fun _ _ _ => children_spends h hargument

theorem arguments_spends {parts : List ParseTree}
    (hparts : ∀ part ∈ parts, part ∈ tree.subtrees) :
    Spends (callsAll parts) draft (Rules.arguments source build parent parts) fun _ _ => True := by
  induction parts generalizing draft with
  | nil => exact .pure trivial
  | cons part rest ih =>
    have hrest : ∀ other ∈ rest, other ∈ tree.subtrees :=
      fun other hother => hparts other (List.mem_cons_of_mem _ hother)
    rw [Rules.arguments, callsAll_cons]
    split_ifs
    · exact (argument_spends h (hparts part List.mem_cons_self)).bind fun _ _ _ _ => ih hrest
    · exact (ih hrest).mono (Multiset.le_add_left _ _)

/-- A call spends its own range, the calls of its function and those of its arguments. -/
theorem callRule_spends (hconstruct : tree.construct = .callExpression) :
    Spends tree.calls draft (callRule source build role tree parent) fun _ _ => True := by
  have hcallee : callsAll ((tree.part? .function).bind calleeInside?).toList ≤
      callsAll (tree.labelled (some .function)) := by
    refine le_trans ?_ (tree.callsAll_part?_le .function)
    cases hfunction : tree.part? .function with
    | none => exact le_rfl
    | some callee =>
      cases hinside : calleeInside? callee with
      | none =>
        rw [Option.bind_some, hinside]
        exact Multiset.zero_le _
      | some inner =>
        rw [Option.bind_some, hinside]
        simpa using calls_le_of_mem_subtrees (calleeInside?_mem_subtrees hinside)
  have hparts : callsAll (tree.labelled (some .function)) +
      callsAll (tree.labelled (some .arguments)) ≤ callsAll tree.children := by
    simpa using tree.sum_callsAll_labelled_le [some .function, some .arguments] (by decide)
  have hbudget : {tree.range} + (callsAll ((tree.part? .function).bind calleeInside?).toList +
      callsAll (tree.labelled (some .arguments))) ≤ tree.calls := by
    rw [calls_eq tree, if_pos hconstruct]
    exact add_le_add_right ((add_le_add_left hcallee _).trans hparts) _
  refine Spends.mono (.get (.pushCall fun start => ?_)) hbudget
  refine (optional_spends h fun inner hinner => ?_).bind fun _ after _ _ => ?_
  · obtain ⟨callee, hfunction, hinside⟩ := Option.bind_eq_some_iff.1 hinner
    exact mem_subtrees_trans (calleeInside?_mem_subtrees hinside)
      (mem_subtrees_of_mem_children (mem_children_of_part?_eq hfunction))
  cases hlist : tree.part? .arguments with
  | none => exact (Spends.pure trivial).mono (Multiset.zero_le _)
  | some list =>
    have hmem := mem_subtrees_of_mem_children (mem_children_of_part?_eq hlist)
    have hlisted := tree.callsAll_part?_le .arguments
    rw [hlist, Option.toList_some, callsAll_cons, callsAll_nil, add_zero] at hlisted
    have harguments : ∀ part ∈ list.namedChildren, part ∈ tree.subtrees := fun part hpart =>
      mem_subtrees_trans (mem_subtrees_of_mem_children (mem_children_of_mem_namedChildren hpart))
        hmem
    exact ((arguments_spends h harguments).mono
      ((callsAll_namedChildren_le list).trans hlisted)).last fun _ _ _ _ => .pure trivial

end Expressions

/-! ## Templates -/

theorem templateParameters_spends (parts : List ParseTree) :
    Spends 0 draft (templateParameters source parent parts) fun _ _ => True := by
  induction parts generalizing draft with
  | nil => exact .pure trivial
  | cons part rest ih =>
    rw [templateParameters]
    cases hparameter : templateParameter? source part with
    | none => exact ih
    | some parameter =>
      obtain ⟨kind, name, type⟩ := parameter
      have hkind := isTemplateParameter_of_templateParameter? hparameter
      refine .push ?_ fun _ _ _ => ih
      rintro hcall
      rw [show kind = .callExpr from hcall] at hkind
      cases hkind

/-- A node that is no call becomes a template, and its parameters are added. -/
theorem generalize_spends {id : NodeId} (h : draft.outline.IsNoCall id) :
    Spends 0 draft (do
      let list := tree.part? .parameters
      let isGeneral := list.any (!·.namedChildren.isEmpty)
      modify fun draft => { draft with
        outline := draft.outline.modifyInfo id
          (NodeInfo.generalized isGeneral (tree.extent source) tree.range) }
      match list with
      | some list => templateParameters source id list.namedChildren
      | none => pure ()
      return some id) IsDeclared := by
  have hgeneral := spending_generalized h
    ((tree.part? .parameters).any (!·.namedChildren.isEmpty)) (tree.extent source) tree.range
  have hchanged : Spends 0 draft (modify fun draft : Draft => { draft with
      outline := draft.outline.modifyInfo id (NodeInfo.generalized
        ((tree.part? .parameters).any (!·.namedChildren.isEmpty)) (tree.extent source)
        tree.range) } : Build PUnit) fun _ outline => outline.IsNoCall id :=
    ⟨hgeneral, h.keeps hgeneral⟩
  refine hchanged.free fun _ after _ hafter => ?_
  cases tree.part? .parameters with
  | none => exact .pure (isDeclared_some hafter)
  | some list =>
    exact (templateParameters_spends _).last fun _ _ hspending _ =>
      .pure (isDeclared_some (hafter.keeps hspending))

theorem templateRule_spends (h : ∀ part ∈ tree.subtrees, Spares build part)
    (hconforms : Conforms tree) (hconstruct : tree.construct = .templateDeclaration) :
    Spends tree.calls draft (templateRule source build tree parent) IsDeclared := by
  unfold templateRule
  cases hinner : templated? tree with
  | none => exact (Spends.pure isDeclared_none).mono (Multiset.zero_le _)
  | some inner =>
    have hchild := templated?_mem_children hinner
    have hbuilt := h inner (mem_subtrees_of_mem_children hchild) .member parent draft
    refine Spends.mono (hbuilt.last fun main after _ hmain => ?_) (calls_le_of_mem_children hchild)
    have hdeclared := hmain (hconforms.template hconstruct inner hinner)
    cases main with
    | none => exact .pure isDeclared_none
    | some id => exact generalize_spends (hdeclared id rfl)

/-! ## All rules -/

section All

variable {budget : Multiset ByteRange}

/-- A sequence that is built in place of a tree; it has no main node. -/
theorem sequence_spends {program : Build Unit}
    (h : Spends budget draft program fun _ _ => True) :
    Spends budget draft (do program; return none) IsDeclared :=
  h.last fun _ _ _ _ => .pure isDeclared_none

theorem expression_spends {program : Build NodeId}
    (h : Spends budget draft program fun id outline => outline.IsNoCall id) :
    Spends budget draft (do return some (← program)) IsDeclared :=
  h.last fun _ _ _ hid => .pure (isDeclared_some hid)

end All

theorem rule_spares (h : ∀ part ∈ tree.subtrees, Spares build part) (hconforms : Conforms tree)
    (hshares : SharesNoDefault source tree) : Spares (rule source build) tree := by
  intro role parent draft
  -- Only a call makes a call its main node; of the other rules the main node is a declaration.
  by_cases hcall : tree.construct = .callExpression
  · unfold rule
    rw [hcall]
    exact (callRule_spends h hcall).last fun _ _ _ _ => .pure fun hne => absurd rfl hne
  · suffices hrule : ∃ budget ≤ tree.calls,
        Spends budget draft (rule source build role tree parent) IsDeclared by
      obtain ⟨budget, hle, hspends⟩ := hrule
      exact ⟨hspends.1.mono hle, fun _ => hspends.2⟩
    unfold rule
    split
    case h_1 => exact ⟨_, le_rfl, namespaceRule_spends h⟩
    case h_2 | h_3 | h_4 => exact ⟨_, le_rfl, recordRule_spends h none⟩
    case h_5 => exact ⟨_, le_rfl, enumRule_spends h none⟩
    case h_6 hc => exact ⟨_, le_rfl, templateRule_spends h hconforms hc⟩
    case h_7 hc => exact ⟨_, le_rfl, functionDefinitionRule_spends h hconforms hc⟩
    case h_8 hc => exact ⟨_, le_rfl, declarationRule_spends h hconforms hshares (Or.inl hc)⟩
    case h_9 hc => exact ⟨_, le_rfl, declarationRule_spends h hconforms hshares (Or.inr hc)⟩
    case h_10 => exact ⟨_, le_rfl, typedefRule_spends h⟩
    case h_11 => exact ⟨_, Multiset.zero_le _, aliasRule_spends⟩
    case h_12 => exact ⟨_, Multiset.zero_le _, sequence_spends accessLabel_spends⟩
    case h_13 hc => exact absurd hc hcall
    case h_14 | h_15 => exact ⟨_, Multiset.zero_le _, expression_spends referenceRule_spends⟩
    case h_16 => exact ⟨_, le_rfl, expression_spends (memberRule_spends h)⟩
    case h_17 =>
      exact ⟨_, le_rfl, sequence_spends (children_spends h (self_mem_subtrees tree)).inBlock⟩
    case h_18 | h_19 | h_20 | h_21 => exact ⟨_, le_rfl, sequence_spends (branch_spends h)⟩
    case h_22 =>
      split_ifs
      · exact ⟨_, le_rfl, sequence_spends (children_spends h (self_mem_subtrees tree))⟩
      · exact ⟨_, Multiset.zero_le _, .pure isDeclared_none⟩

end Rules

/-! ## The recursion -/

section Recursion

variable (hconforms : ∀ part ∈ tree.subtrees, Conforms part)
  (hshares : ∀ part ∈ tree.subtrees, SharesNoDefault source part)
include hconforms hshares

theorem buildTree_spares : Spares (buildTree source) tree := by
  induction hn : tree.size using Nat.strong_induction_on generalizing tree with
  | _ n ih =>
    have hinside : ∀ part ∈ tree.subtrees, Spares
        (fun role inner parent =>
          if inner.size < tree.size then buildTree source role inner parent else return none)
        part := by
      intro part hpart role parent draft
      dsimp only
      split_ifs with hlt
      · exact ih _ (by omega) (fun inner hi => hconforms inner (mem_subtrees_trans hi hpart))
          (fun inner hi => hshares inner (mem_subtrees_trans hi hpart)) rfl role parent draft
      · exact (Spends.pure fun _ => isDeclared_none).mono (Multiset.zero_le _)
    intro role parent draft
    rw [buildTree]
    exact Rules.rule_spares hinside (hconforms tree (self_mem_subtrees tree))
      (hshares tree (self_mem_subtrees tree)) role parent draft

end Recursion

/-- The calls of a draft are among those of its parse tree. -/
theorem finish_calls_le (hspares : ∀ part ∈ tree.subtrees, Spares (buildTree source) part)
    (name : String) : (Draft.finish source name tree).outline.calls ≤ tree.calls := by
  have hspends : Spends tree.calls (Draft.start source name tree)
      (Rules.children (buildTree source) tree root) fun _ _ => True :=
    Rules.children_spends hspares (self_mem_subtrees tree)
  have hstart : (Draft.start source name tree).outline.calls = 0 := rfl
  have hle := hspends.1.calls_le
  rwa [hstart, zero_add] at hle

end StructSearch

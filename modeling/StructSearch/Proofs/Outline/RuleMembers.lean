import StructSearch.Proofs.Outline.Members

/-!
# The rules of constructs are orderly

Every rule is an orderly run, and a calm one if no label is built at the place of its tree. Of the
trees that a rule builds, those at its own place are listed by `alongside`; the others are in the
body of a class or inside a function and do not have to be calm.

Results:
* `Rules.rule_keeps`: one rule, given that what is inside its tree is built in an orderly way.
* `buildTree_lowers`: every tree is built in an orderly way.
* `finish_orderly`: so is a whole file.
-/

namespace StructSearch

open Source ParseTree Outline

variable {source : List Char} {root tree part : ParseTree} {build : Recursion} {calm : Prop}
  {base : ℕ} {parent id : NodeId} {draft : Draft} {role : Role}

/-- What is inside a tree is built in an orderly way. -/
structure Prepared (source : List Char) (root : ParseTree) (build : Recursion) (tree : ParseTree) :
    Prop where
  mem : tree ∈ root.subtrees
  agrees : ∀ part : ParseTree, part.size < tree.size → ∀ role parent,
    build role part parent = buildTree source role part parent
  lowers : ∀ part, tree.Encloses part → Lowers source root part

/-- A tree inside another one that is calm if the run around it is. -/
structure Reached (source : List Char) (calm : Prop) (tree part : ParseTree) : Prop where
  encloses : tree.Encloses part
  silent : calm → holdsLabel source part = false

section Prepared

variable (h : Prepared source root build tree)
include h

theorem Prepared.inside (hpart : tree.Encloses part) : Prepared source root build part where
  mem := mem_subtrees_trans hpart.mem_subtrees h.mem
  agrees inner hlt := h.agrees inner (lt_trans hlt hpart.size_lt)
  lowers inner hinner := by
    obtain ⟨child, hchild, hmem⟩ := hinner
    exact h.lowers inner ((hpart.child hchild).inside hmem)

theorem Prepared.build_keeps (hpart : Reached source calm tree part)
    (hparent : parent < draft.outline.size) :
    Keeps source root calm draft.outline.size parent draft (build role part parent) := by
  rw [h.agrees part hpart.encloses.size_lt]
  exact (h.lowers part hpart.encloses role parent draft hparent).imp_calm hpart.silent

end Prepared

theorem reached_of_alongside (hcalm : calm → holdsLabel source tree = false)
    (hpart : part ∈ alongside source tree) : Reached source calm tree part where
  encloses := encloses_of_mem_alongside hpart
  silent hc := (holdsLabel_eq_false_iff.1 (hcalm hc)).2 part hpart

/-- Nothing is asked of what is built inside a function. -/
theorem reached_of_encloses (h : tree.Encloses part) : Reached source False tree part where
  encloses := h
  silent := False.elim

/-- What is inside a reached tree that is looked through is reached, too. -/
theorem Reached.of_isTransparent (h : Reached source calm tree part)
    (htransparent : part.construct.isTransparent = true) {child : ParseTree}
    (hchild : child ∈ part.namedChildren) : Reached source calm tree child where
  encloses := h.encloses.child (mem_children_of_mem_namedChildren hchild)
  silent hcalm := by
    refine (holdsLabel_eq_false_iff.1 (h.silent hcalm)).2 child ?_
    rwa [alongside_of_isTransparent htransparent]

/-- The node that was just added, if it is no class with a body. -/
theorem isClassDefinition_of_add {start : Draft} {info : NodeInfo}
    (hstart : start.outline = draft.outline.add parent info role)
    (hclass : (info.kind.isRecord && info.isDefinition) = false) :
    start.outline.isClassDefinition draft.outline.size = false := by
  rw [hstart, isClassDefinition_add_size, hclass]

/-- A rule that adds the node of its tree and then builds below it. -/
theorem Keeps.push_below {β : Type} {info : NodeInfo} {next : NodeId → Build β}
    (hparent : parent < draft.outline.size)
    (haccess : info.kind.isMember = true → info.access = draft.memberAccess)
    (hclass : (info.kind.isRecord && info.isDefinition) = false)
    (hplaced : info.extent = extentOf source info.range)
    (h : ∀ start : Draft, draft.outline.size < start.outline.size →
      Keeps source root calm start.outline.size draft.outline.size start
        (next draft.outline.size)) :
    Keeps source root calm draft.outline.size parent draft
      (Build.push parent role info >>= next) := by
  refine .push hparent (fun hmember => ⟨rfl, haccess hmember⟩) hclass hplaced fun start hstart => ?_
  have hsize : start.outline.size = draft.outline.size + 1 := by rw [hstart, size_add]
  exact (h start (by lia)).below hparent (by lia) le_rfl
    (Or.inr ⟨le_rfl, isClassDefinition_of_add hstart hclass⟩)

namespace Rules

/-! ## Sequences -/

section Sequences

variable (h : Prepared source root build tree)
include h

theorem drain_keeps (hparent : parent < draft.outline.size) {pending : List ParseTree}
    (hpending : ∀ part ∈ pending, Reached source calm tree part) :
    Keeps source root calm draft.outline.size parent draft (drain build parent pending) := by
  induction pending using drain.induct generalizing draft with
  | case1 =>
    rw [drain]
    exact .pure _
  | case2 first rest htransparent ih =>
    rw [drain, if_pos htransparent]
    refine ih hparent fun part hpart => ?_
    rcases List.mem_append.1 hpart with hpart | hpart
    · exact (hpending first List.mem_cons_self).of_isTransparent htransparent hpart
    · exact hpending part (List.mem_cons_of_mem _ hpart)
  | case3 first rest htransparent ih =>
    rw [drain, if_neg htransparent]
    refine (h.build_keeps (hpending first List.mem_cons_self) hparent).andThen hparent ?_
    intro _ after hafter
    exact ih hafter fun part hpart => hpending part (List.mem_cons_of_mem _ hpart)

theorem each_keeps (hparent : parent < draft.outline.size) {parts : List ParseTree}
    (hparts : ∀ part ∈ parts, Reached source calm tree part) :
    Keeps source root calm draft.outline.size parent draft (each build parent parts) := by
  induction parts generalizing draft with
  | nil => exact .pure _
  | cons first rest ih =>
    refine (h.build_keeps (hparts first List.mem_cons_self) hparent).andThen hparent ?_
    intro _ after hafter
    exact ih hafter fun part hpart => hparts part (List.mem_cons_of_mem _ hpart)

theorem optional_keeps (hparent : parent < draft.outline.size) {part? : Option ParseTree}
    (hpart : ∀ part, part? = some part → Reached source calm tree part) :
    Keeps source root calm draft.outline.size parent draft (optional build parent part?) := by
  cases part? with
  | none => exact .pure _
  | some part => exact (h.build_keeps (hpart part rfl) hparent).last

/-- An entry of a list, such as a constant or a parameter: it is added and made visible, and its
value is built below it. -/
theorem entry_keeps {β : Type} {info : NodeInfo} {value? : Option ParseTree} {name type : String}
    {next : Build β} (hparent : parent < draft.outline.size) (hmember : info.kind.isMember = false)
    (hrecord : info.kind.isRecord = false) (hplaced : info.extent = extentOf source info.range)
    (hvalue : ∀ value, value? = some value → Reached source calm tree value)
    (hnext : ∀ after : Draft, parent < after.outline.size →
      Keeps source root calm after.outline.size parent after next) :
    Keeps source root calm draft.outline.size parent draft (do
      let id ← Build.push parent role info
      Build.declare name type
      optional build id value?
      next) := by
  have hclass : (info.kind.isRecord && info.isDefinition) = false := by rw [hrecord]; rfl
  refine .push hparent (fun hkind => ?_) hclass hplaced fun start hstart => ?_
  · rw [hmember] at hkind
    cases hkind
  have hsize : start.outline.size = draft.outline.size + 1 := by rw [hstart, size_add]
  refine (Keeps.declare name type).bind fun _ visible hvisible => ?_
  have hgrown := hvisible.grown.size_le
  have hplain : visible.outline.isClassDefinition draft.outline.size = false := by
    rw [hvisible.grown.isClassDefinition_eq (by lia)]
    exact isClassDefinition_of_add hstart hclass
  have hbelow := (optional_keeps h (by lia) hvalue).below hparent (by lia) le_rfl
    (Or.inr ⟨le_rfl, hplain⟩)
  refine Keeps.bind hbelow fun _ after hafter => ?_
  have hlater := hafter.grown.size_le
  exact (hnext after (by lia)).below hparent (by lia) le_rfl (Or.inl rfl)

end Sequences

/-! ## Namespaces and types -/

/-- Namespaces are opened below each other; the innermost one is no class. -/
theorem namespaces_orderly (source : List Char) (tree : ParseTree) (names : List String)
    (hparent : parent < draft.outline.size) :
    let run := (namespaces source tree parent names).run draft
    Orderly source root calm draft.outline.size parent draft run.2 ∧
      (run.1.2 = parent ∨ draft.outline.size ≤ run.1.2 ∧ run.1.2 < run.2.outline.size ∧
        run.2.outline.isClassDefinition run.1.2 = false) := by
  induction names generalizing draft parent with
  | nil => exact ⟨.unchanged rfl rfl, Or.inl rfl⟩
  | cons name names ih =>
    let start := draft.withNode parent .member
      { NodeInfo.ofTree source .namespaceDecl name tree with isDefinition := true }
    have hsize : start.outline.size = draft.outline.size + 1 := size_add _ _ _ _
    have hadded : Orderly source root calm draft.outline.size parent draft start :=
      .addNode hparent nofun rfl rfl
    have hplain : start.outline.isClassDefinition draft.outline.size = false :=
      isClassDefinition_of_add rfl rfl
    have hlt : draft.outline.size < start.outline.size := by lia
    have hrun : (namespaces source tree parent (name :: names)).run draft =
        ((some draft.outline.size,
            ((namespaces source tree draft.outline.size names).run start).1.2),
          ((namespaces source tree draft.outline.size names).run start).2) := rfl
    obtain ⟨hinner, hplace⟩ := ih hlt
    rw [hrun]
    generalize (namespaces source tree draft.outline.size names).run start = inner
      at hinner hplace ⊢
    obtain ⟨⟨first, innermost⟩, after⟩ := inner
    refine ⟨hadded.trans (hinner.below hparent (by lia) le_rfl (Or.inr ⟨le_rfl, hplain⟩)),
      Or.inr ?_⟩
    rcases hplace with rfl | ⟨hge, hnew⟩
    · have hgrown := hinner.grown.size_le
      exact ⟨le_rfl, by lia, (hinner.grown.isClassDefinition_eq hlt).trans hplain⟩
    · exact ⟨by lia, hnew⟩

section Types

variable (h : Prepared source root build tree) (hcalm : calm → holdsLabel source tree = false)
  (hparent : parent < draft.outline.size)
include h hcalm hparent

theorem namespaceRule_keeps (hconstruct : tree.construct = .namespaceDefinition) :
    Keeps source root calm draft.outline.size parent draft
      (namespaceRule source build tree parent) := by
  obtain ⟨hopened, hplace⟩ := namespaces_orderly source tree
    (ParseNames.ofNamespace source tree) hparent
  refine Keeps.bind_run hopened ?_
  generalize (namespaces source tree parent (ParseNames.ofNamespace source tree)).run draft = run
    at hopened hplace
  obtain ⟨⟨first, innermost⟩, after⟩ := run
  have hgrown := hopened.grown.size_le
  cases hbody : tree.part? .body with
  | none => exact .pure _
  | some body =>
    have hreached : ∀ part ∈ body.namedChildren, Reached source calm tree part := by
      intro part hpart
      refine reached_of_alongside hcalm ?_
      simp only [alongside, hconstruct, hbody]
      simpa using hpart
    have hinside : Keeps source root calm after.outline.size innermost after
        (Build.inBlock (children build body innermost)) :=
      (drain_keeps h (by lia) hreached).inBlock
    refine Keeps.last (hinside.below hparent hgrown le_rfl ?_)
    exact hplace.imp_right fun hnew => ⟨hnew.1, hnew.2.2⟩

omit hcalm in
theorem recordRule_keeps (fallback : Option String) :
    Keeps source root calm draft.outline.size parent draft
      (recordRule source build fallback tree parent) := by
  unfold recordRule
  cases hbody : tree.part? .body with
  | none =>
    refine .get (.push_below hparent (fun _ => rfl) (Bool.and_false _) rfl fun _ _ => .pure _)
  | some body =>
    have hchild := encloses_of_mem_children (mem_children_of_part?_eq hbody)
    have hagree : ∀ part : ParseTree, part.size < body.size → ∀ parent,
        build .member part parent = buildTree source .member part parent :=
      fun part hlt => h.agrees part (lt_trans hlt hchild.size_lt) .member
    have hlowers : ∀ item ∈ bodyItems body, Lowers source root item := by
      intro item hitem
      obtain ⟨part, hpart, hitem⟩ := List.mem_flatMap.1 hitem
      exact h.lowers item ((hchild.child (mem_children_of_mem_namedChildren hpart)).inside
        (mem_subtrees_of_items hitem))
    let name := specifierName source fallback tree
    let info : NodeInfo :=
      { NodeInfo.ofTree source (recordKind tree.construct) name tree with
        type := recordType (recordKind tree.construct) name
        isDefinition := true, access := draft.memberAccess }
    let start := (draft.withNode parent .member info).withClass name
    let entered : Draft :=
      { start with
        frames := .ofClass name (initialAccess (recordKind tree.construct)) :: start.frames }
    have hentered : entered.outline = draft.outline.add parent info .member :=
      Draft.withClass_outline _ _
    have hframes : entered.frames = .ofClass name (startAccess tree) :: draft.frames := by
      unfold entered start
      rw [← initialAccess_recordKind, Draft.withClass_frames]
      rfl
    simp only [children_eq_each_items _ hagree]
    exact Orderly.trans
      (.inClass hentered hframes hlowers hparent le_rfl h.mem hbody rfl rfl rfl rfl)
      (.unchanged rfl rfl)

omit hcalm in
theorem enumerators_keeps (type : String) {constants : List ParseTree}
    (hvalues : ∀ constant ∈ constants, ∀ value, constant.part? .value = some value →
      Reached source calm tree value) :
    Keeps source root calm draft.outline.size parent draft
      (enumerators source build type parent constants) := by
  induction constants generalizing draft with
  | nil => exact .pure _
  | cons constant rest ih =>
    have hrest : ∀ other ∈ rest, ∀ value, other.part? .value = some value →
        Reached source calm tree value :=
      fun other hother => hvalues other (List.mem_cons_of_mem _ hother)
    rw [enumerators]
    by_cases hconstruct : constant.construct = .enumerator
    · rw [if_pos hconstruct]
      cases constant.part? .name with
      | none => exact ih hparent hrest
      | some name =>
        exact entry_keeps h hparent rfl rfl rfl (hvalues constant List.mem_cons_self)
          fun _ hafter => ih hafter hrest
    · rw [if_neg hconstruct]
      exact ih hparent hrest

theorem enumRule_keeps (hconstruct : tree.construct = .enumSpecifier) (fallback : Option String) :
    Keeps source root calm draft.outline.size parent draft
      (enumRule source build fallback tree parent) := by
  refine .get (.push_below hparent (fun _ => rfl) rfl rfl fun start hstart => ?_)
  cases hbody : tree.part? .body with
  | none => exact .pure _
  | some body =>
    refine (enumerators_keeps h hstart _ fun constant hconstant value hvalue => ?_).last
    refine reached_of_alongside hcalm ?_
    simp only [alongside, hconstruct, hbody, Option.toList_some, List.flatMap_singleton]
    exact List.mem_filterMap.2 ⟨constant, hconstant, hvalue⟩

omit h hcalm in
theorem aliasRule_keeps :
    Keeps source root calm draft.outline.size parent draft (aliasRule source tree parent) :=
  .get (.push_below hparent (fun _ => rfl) rfl rfl fun _ _ => .pure _)

end Types

/-! ## Functions and variables -/

theorem isRecord_functionNameKind (source : List Char) (draft : Draft) (name : Option ParseTree) :
    (functionNameKind source draft name).2.isRecord = false := by
  have hkind := isFunctionDeclaration_functionNameKind source draft name
  generalize (functionNameKind source draft name).2 = kind at hkind ⊢
  cases kind <;> first | rfl | cases hkind

section Declarations

variable (h : Prepared source root build tree) (hparent : parent < draft.outline.size)
include h hparent

theorem parameters_keeps {declared : List DeclaredParameter}
    (hdefaults : ∀ parameter ∈ declared, ∀ value, parameter.tree.part? .defaultValue = some value →
      Reached source calm tree value) :
    Keeps source root calm draft.outline.size parent draft
      (parameters source build parent declared) := by
  induction declared generalizing draft with
  | nil => exact .pure _
  | cons parameter rest ih =>
    refine entry_keeps h hparent rfl rfl rfl (hdefaults parameter List.mem_cons_self) ?_
    exact fun _ hafter =>
      ih hafter fun other hother => hdefaults other (List.mem_cons_of_mem _ hother)

theorem functionBody_keeps {body : ParseTree} (hbody : tree.part? .body = some body) :
    Keeps source root False draft.outline.size parent draft
      (functionBody build tree body parent) := by
  have hinside : Reached source False tree body :=
    reached_of_encloses (encloses_of_mem_children (mem_children_of_part?_eq hbody))
  unfold functionBody
  cases hlist : tree.firstNamed? .fieldInitializerList with
  | none => exact (h.build_keeps hinside hparent).last
  | some list =>
    have hreached : ∀ part ∈ list.namedChildren, Reached source False tree part := fun part hpart =>
      reached_of_encloses ((encloses_of_mem_children (mem_children_of_firstNamed?_eq hlist)).child
        (mem_children_of_mem_namedChildren hpart))
    refine (drain_keeps h hparent hreached).andThen hparent fun _ after hafter => ?_
    exact (h.build_keeps hinside hafter).last

/-- A function: its node is a member, its parameters are built at its place and everything else
inside the function. -/
theorem function_keeps {declarator : Declarator} {signature : ParseTree} {type : BaseType}
    {body? : Option ParseTree}
    (hdefaults : ∀ parameter ∈ DeclaredParameter.ofFunction source signature, ∀ value,
      parameter.tree.part? .defaultValue = some value → Reached source calm tree value)
    (hbody : ∀ body, body? = some body → tree.part? .body = some body) :
    Keeps source root calm draft.outline.size parent draft
      (function source build tree declarator signature type parent body?) := by
  have hrecord := isRecord_functionNameKind source draft declarator.name
  refine .get ?_
  generalize functionNameKind source draft declarator.name = named at hrecord ⊢
  obtain ⟨name, kind⟩ := named
  have hclass : (kind.isRecord && body?.isSome) = false := by rw [hrecord]; rfl
  refine .push hparent (fun _ => ⟨rfl, rfl⟩) hclass rfl fun start hstart => ?_
  have hsize : start.outline.size = draft.outline.size + 1 := by rw [hstart, size_add]
  refine (Keeps.declare _ _).bind fun _ visible hvisible => ?_
  refine (Keeps.remember _ _).bind fun _ noted hnoted => ?_
  have hgrown := (hvisible.trans hnoted).grown
  have hlater := hgrown.size_le
  have hplain : noted.outline.isClassDefinition draft.outline.size = false := by
    rw [hgrown.isClassDefinition_eq (by lia)]
    exact isClassDefinition_of_add hstart hclass
  refine Keeps.last (.inBlock ?_)
  have hparameters := (parameters_keeps h (by lia) hdefaults).below hparent (by lia) le_rfl
    (Or.inr ⟨le_rfl, hplain⟩)
  refine Keeps.bind hparameters fun _ after hafter => ?_
  have hsize' := hafter.grown.size_le
  cases hb : body? with
  | none => exact .pure _
  | some body =>
    refine .inFunction (fun inner hinner => ?_) hparent le_rfl (by lia) ?_
    · exact functionBody_keeps h (by rw [hinner]; lia) (hbody body hb)
    · rw [hafter.grown.isClassDefinition_eq (by lia)]
      exact hplain

/-- What a declarator builds at the place of a declaration. -/
def DeclaratorReached (source : List Char) (calm : Prop) (tree declaratorTree : ParseTree) : Prop :=
  ∀ part ∈ declaratorParts source declaratorTree, Reached source calm tree part

omit h hparent in
theorem DeclaratorReached.defaults {declaratorTree signature : ParseTree}
    (hreached : DeclaratorReached source calm tree declaratorTree)
    (hsignature : (Declarator.ofTree source declaratorTree).function = some signature) :
    ∀ parameter ∈ DeclaredParameter.ofFunction source signature, ∀ value,
      parameter.tree.part? .defaultValue = some value → Reached source calm tree value := by
  intro parameter hparameter value hvalue
  refine hreached value (List.mem_append_right _ (List.mem_flatMap.2 ⟨signature, ?_, ?_⟩))
  · exact Option.mem_toList.2 hsignature
  · exact List.mem_filterMap.2 ⟨parameter, hparameter, hvalue⟩

theorem functionDefinitionRule_keeps
    (hreached : ∀ declaratorTree, tree.part? .declarator = some declaratorTree →
      DeclaratorReached source calm tree declaratorTree) :
    Keeps source root calm draft.outline.size parent draft
      (functionDefinitionRule source build tree parent) := by
  unfold functionDefinitionRule
  cases hdeclarator : tree.part? .declarator with
  | none => exact .pure _
  | some declaratorTree =>
    dsimp only
    cases hsignature : (Declarator.ofTree source declaratorTree).function with
    | none => exact .pure _
    | some signature =>
      exact (function_keeps h hparent ((hreached _ hdeclarator).defaults hsignature)
        fun _ => id).last

theorem variableRule_keeps {declaratorTree : ParseTree} {type : BaseType}
    (hreached : DeclaratorReached source calm tree declaratorTree)
    (hdefault : ∀ value, tree.part? .defaultValue = some value → Reached source calm tree value) :
    Keeps source root calm draft.outline.size parent draft
      (variableRule source build tree declaratorTree (Declarator.ofTree source declaratorTree) type
        parent) := by
  refine .get (.push_below hparent (fun _ => rfl) ?_ rfl fun start hstart => ?_)
  · dsimp only
    split_ifs <;> rfl
  · refine (Keeps.declare _ _).bind fun _ visible hvisible => ?_
    have hgrown := hvisible.grown.size_le
    refine Keeps.last (Orderly.below (optional_keeps h (by lia) fun value hvalue => ?_) (by lia)
      hgrown le_rfl (Or.inl rfl))
    rcases Option.or_eq_some_iff.1 hvalue with hown | ⟨-, hother⟩
    · exact hreached value (List.mem_append_left _ (Option.mem_toList.2 hown))
    · exact hdefault value hother

theorem declarators_keeps {type : BaseType} {first : Option NodeId}
    {declaratorTrees : List ParseTree}
    (hreached : ∀ declaratorTree ∈ declaratorTrees,
      DeclaratorReached source calm tree declaratorTree)
    (hdefault : ∀ value, tree.part? .defaultValue = some value → Reached source calm tree value) :
    Keeps source root calm draft.outline.size parent draft
      (declarators source build tree type parent first declaratorTrees) := by
  induction declaratorTrees generalizing draft first with
  | nil => exact .pure _
  | cons declaratorTree rest ih =>
    have hfirst := hreached declaratorTree List.mem_cons_self
    have hnext : ∀ (main : NodeId) (after : Draft), parent < after.outline.size →
        Keeps source root calm after.outline.size parent after
          (declarators source build tree type parent (first.or (some main)) rest) :=
      fun _ _ hafter => ih hafter fun other hother => hreached other (List.mem_cons_of_mem _ hother)
    rw [declarators]
    cases hsignature : (Declarator.ofTree source declaratorTree).function with
    | none => exact (variableRule_keeps h hparent hfirst hdefault).andThen hparent hnext
    | some signature =>
      refine (function_keeps h hparent (hfirst.defaults hsignature) ?_).andThen hparent hnext
      rintro _ ⟨⟩

theorem declarationRule_keeps (hcalm : calm → holdsLabel source tree = false)
    (hconstruct : tree.construct = .declaration ∨ tree.construct = .fieldDeclaration) :
    Keeps source root calm draft.outline.size parent draft
      (declarationRule source build tree parent) := by
  have hside : alongside source tree = (tree.part? .type).toList ++
      (tree.parts .declarator).flatMap (declaratorParts source) ++
      (tree.part? .defaultValue).toList := by
    unfold alongside
    rcases hconstruct with hc | hc <;> rw [hc]
  have hnext : ∀ (main : Option NodeId) (after : Draft), parent < after.outline.size →
      Keeps source root calm after.outline.size parent after
        (declarators source build tree (BaseType.ofTree source tree) parent main
          (tree.parts .declarator)) := by
    intro main after hafter
    refine declarators_keeps h hafter (fun declaratorTree hdeclarator part hpart => ?_) ?_
    · refine reached_of_alongside hcalm ?_
      rw [hside, List.mem_append, List.mem_append]
      exact Or.inl (Or.inr (List.mem_flatMap.2 ⟨declaratorTree, hdeclarator, hpart⟩))
    · intro value hvalue
      refine reached_of_alongside hcalm ?_
      rw [hside, List.mem_append]
      exact Or.inr (Option.mem_toList.2 hvalue)
  unfold declarationRule
  cases htype : (inlineType? tree).or (bareType? tree) with
  | none => exact hnext none draft hparent
  | some type =>
    refine (h.build_keeps (reached_of_alongside hcalm ?_) hparent).andThen hparent hnext
    rw [hside, List.mem_append, List.mem_append]
    exact Or.inl (Or.inl (Option.mem_toList.2 (part?_eq_of_builtType htype)))

omit h in
theorem typedefNames_keeps {type : BaseType} {firstName : Option String} {first : Option NodeId}
    (declaratorTrees : List ParseTree) :
    Keeps source root calm draft.outline.size parent draft
      (typedefNames source tree type firstName parent first declaratorTrees) := by
  induction declaratorTrees generalizing draft first with
  | nil => exact .pure _
  | cons declaratorTree rest ih =>
    refine .get (.push hparent (fun _ => ⟨rfl, rfl⟩) rfl rfl fun start hstart => ?_)
    have hsize : start.outline.size = draft.outline.size + 1 := by rw [hstart, size_add]
    have hrest : parent < start.outline.size := by lia
    exact (ih hrest).below hparent (by lia) le_rfl (Or.inl rfl)

theorem typedefRule_keeps (hcalm : calm → holdsLabel source tree = false)
    (hconstruct : tree.construct = .typeDefinition) :
    Keeps source root calm draft.outline.size parent draft
      (typedefRule source build tree parent) := by
  unfold typedefRule
  cases htype : inlineType? tree with
  | none => exact typedefNames_keeps hparent _
  | some type =>
    have hpart := part?_eq_of_inlineType? htype
    have hinside := h.inside (encloses_of_mem_children (mem_children_of_part?_eq hpart))
    dsimp only
    by_cases henum : type.construct = .enumSpecifier
    · rw [if_pos henum]
      refine (enumRule_keeps hinside (fun hc => ?_) hparent henum _).andThen hparent
        fun _ _ hafter => typedefNames_keeps hafter _
      refine (holdsLabel_eq_false_iff.1 (hcalm hc)).2 type ?_
      simp only [alongside, hconstruct]
      exact Option.mem_toList.2 hpart
    · rw [if_neg henum]
      exact (recordRule_keeps hinside hparent _).andThen hparent
        fun _ _ hafter => typedefNames_keeps hafter _

end Declarations

/-! ## Expressions -/

section Expressions

variable (hparent : parent < draft.outline.size)
include hparent

theorem referenceRule_keeps :
    Keeps source root calm draft.outline.size parent draft
      (referenceRule source role tree parent) := by
  refine .get ?_
  rw [← bind_pure (Build.push _ _ _)]
  exact .push_below hparent nofun rfl rfl fun _ _ => .pure _

variable (h : Prepared source root build tree)
include h

theorem memberRule_keeps
    (hreached : ∀ value, tree.part? .argument = some value → Reached source calm tree value) :
    Keeps source root calm draft.outline.size parent draft
      (memberRule source build role tree parent) :=
  .push_below hparent nofun rfl rfl fun _ hstart => (optional_keeps h hstart hreached).last

theorem argument_keeps {argument : ParseTree}
    (hreached : (isExpression argument.construct = true → Reached source calm tree argument) ∧
      (isExpression argument.construct = false →
        ∀ part ∈ argument.namedChildren, Reached source calm tree part)) :
    Keeps source root calm draft.outline.size parent draft
      (Rules.argument source build parent argument) := by
  unfold Rules.argument
  by_cases hexpression : isExpression argument.construct = true
  · rw [if_pos hexpression]
    exact (h.build_keeps (hreached.1 hexpression) hparent).last
  · rw [if_neg hexpression]
    refine .push_below hparent nofun rfl rfl fun start hstart => ?_
    exact drain_keeps h hstart (hreached.2 (Bool.not_eq_true _ ▸ hexpression))

theorem arguments_keeps {parts : List ParseTree}
    (hreached : ∀ argument ∈ parts, ∀ part ∈ argumentParts argument,
      Reached source calm tree part) :
    Keeps source root calm draft.outline.size parent draft
      (Rules.arguments source build parent parts) := by
  induction parts generalizing draft with
  | nil => exact .pure _
  | cons argument rest ih =>
    have hrest : ∀ other ∈ rest, ∀ part ∈ argumentParts other, Reached source calm tree part :=
      fun other hother => hreached other (List.mem_cons_of_mem _ hother)
    rw [Rules.arguments]
    by_cases hcomment : argument.construct = .comment
    · rw [if_neg (by simp [hcomment])]
      exact ih hparent hrest
    · rw [if_pos (by simpa using hcomment)]
      have hparts := hreached argument List.mem_cons_self
      rw [argumentParts, if_neg hcomment] at hparts
      refine (argument_keeps hparent h ⟨fun hexpression => ?_, fun hexpression => ?_⟩).andThen
        hparent fun _ _ hafter => ih hafter hrest
      · rw [if_pos hexpression] at hparts
        exact hparts argument List.mem_cons_self
      · rw [if_neg (by simp [hexpression])] at hparts
        exact hparts

theorem callRule_keeps (hcalm : calm → holdsLabel source tree = false)
    (hconstruct : tree.construct = .callExpression) :
    Keeps source root calm draft.outline.size parent draft
      (callRule source build role tree parent) := by
  have hside : alongside source tree =
      ((tree.part? .function).bind calleeInside?).toList ++
        (tree.part? .arguments).toList.flatMap fun list =>
          list.namedChildren.flatMap argumentParts := by
    simp only [alongside, hconstruct]
  refine .get (.push_below hparent nofun rfl rfl fun start hstart => ?_)
  refine (optional_keeps h hstart fun inner hinner => ?_).andThen hstart fun _ after hafter => ?_
  · refine reached_of_alongside hcalm ?_
    rw [hside, List.mem_append]
    exact Or.inl (Option.mem_toList.2 hinner)
  cases hlist : tree.part? .arguments with
  | none => exact .pure _
  | some list =>
    refine (arguments_keeps hafter h fun argument hargument part hpart => ?_).last
    refine reached_of_alongside hcalm ?_
    rw [hside, List.mem_append, hlist, Option.toList_some, List.flatMap_singleton]
    exact Or.inr (List.mem_flatMap.2 ⟨argument, hargument, hpart⟩)

end Expressions

/-! ## Templates -/

theorem isMember_templateParameter? {kind : Kind} {name type : String}
    (h : templateParameter? source tree = some (kind, name, type)) :
    kind.isMember = false ∧ kind.isRecord = false := by
  unfold templateParameter? at h
  split at h <;> cases h <;> exact ⟨rfl, rfl⟩

theorem templateParameters_keeps {owner : NodeId} (hparent : parent < base)
    (parts : List ParseTree) :
    Keeps source root calm base parent draft (templateParameters source owner parts) := by
  induction parts generalizing draft with
  | nil => exact .pure _
  | cons part rest ih =>
    rw [templateParameters]
    cases hparameter : templateParameter? source part with
    | none => exact ih
    | some parameter =>
      obtain ⟨kind, name, type⟩ := parameter
      obtain ⟨hmember, hrecord⟩ := isMember_templateParameter? hparameter
      have hclass : (kind.isRecord && true) = false := by rw [hrecord]; rfl
      refine .push hparent (fun hkind => ?_) hclass rfl fun _ _ => ih
      exact absurd (hmember.symm.trans hkind) (by decide)

theorem templateRule_keeps (h : Prepared source root build tree)
    (hcalm : calm → holdsLabel source tree = false) (hparent : parent < draft.outline.size)
    (hconstruct : tree.construct = .templateDeclaration) :
    Keeps source root calm draft.outline.size parent draft
      (templateRule source build tree parent) := by
  unfold templateRule
  cases hinner : templated? tree with
  | none => exact .pure _
  | some inner =>
    have hreached : Reached source calm tree inner := by
      refine reached_of_alongside hcalm ?_
      simp only [alongside, hconstruct, hinner, Option.toList_some, List.mem_singleton]
    refine (h.build_keeps hreached hparent).bind fun main after _ => ?_
    cases main with
    | none => exact .pure _
    | some id =>
      refine Keeps.bind (Orderly.generalize id _ tree) fun _ _ _ => ?_
      cases tree.part? .parameters with
      | none => exact .pure _
      | some list => exact (templateParameters_keeps hparent _).last

/-! ## All rules -/

theorem accessLabel_keeps (hcalm : ¬calm) :
    Keeps source root calm base parent draft (accessLabel source tree) := by
  unfold accessLabel
  cases Access.ofKeyword? (String.ofList (Text.trim (tree.text source))) with
  | none => exact .pure _
  | some access => exact Orderly.label access hcalm

theorem rule_keeps (h : Prepared source root build tree)
    (hcalm : calm → holdsLabel source tree = false) (hparent : parent < draft.outline.size) :
    Keeps source root calm draft.outline.size parent draft
      (rule source build role tree parent) := by
  have hreached : ∀ {parts : List ParseTree}, alongside source tree = parts →
      ∀ part ∈ parts, Reached source calm tree part := by
    rintro _ rfl part hpart
    exact reached_of_alongside hcalm hpart
  unfold rule
  split
  case h_1 hc => exact namespaceRule_keeps h hcalm hparent hc
  case h_2 | h_3 | h_4 => exact recordRule_keeps h hparent none
  case h_5 hc => exact enumRule_keeps h hcalm hparent hc none
  case h_6 hc => exact templateRule_keeps h hcalm hparent hc
  case h_7 hc =>
    refine functionDefinitionRule_keeps h hparent fun declaratorTree hdeclarator part hpart => ?_
    refine reached_of_alongside hcalm ?_
    simp only [alongside, hc, hdeclarator, Option.toList_some, List.flatMap_singleton]
    exact hpart
  case h_8 hc => exact declarationRule_keeps h hparent hcalm (Or.inl hc)
  case h_9 hc => exact declarationRule_keeps h hparent hcalm (Or.inr hc)
  case h_10 hc => exact typedefRule_keeps h hparent hcalm hc
  case h_11 => exact aliasRule_keeps hparent
  case h_12 hc =>
    refine (accessLabel_keeps fun hc' => ?_).last
    exact (holdsLabel_eq_false_iff.1 (hcalm hc')).1 hc
  case h_13 hc => exact (callRule_keeps hparent h hcalm hc).last
  case h_14 | h_15 => exact (referenceRule_keeps hparent).last
  case h_16 hc =>
    refine (memberRule_keeps hparent h fun value hvalue => reached_of_alongside hcalm ?_).last
    simp only [alongside, hc]
    exact Option.mem_toList.2 hvalue
  case h_17 hc =>
    exact (drain_keeps h hparent (hreached (by simp only [alongside, hc]))).inBlock.last
  case h_18 hc | h_19 hc | h_20 hc | h_21 hc =>
    exact (each_keeps h hparent (hreached (alongside_of_isBranch (by rw [hc]; rfl)))).last
  case h_22 =>
    split_ifs with htransparent
    · exact (drain_keeps h hparent (hreached (alongside_of_isTransparent htransparent))).last
    · exact .pure _

end Rules

/-! ## The recursion -/

theorem buildTree_lowers (hmem : tree ∈ root.subtrees) : Lowers source root tree := by
  induction hn : tree.size using Nat.strong_induction_on generalizing tree with
  | _ n ih =>
    have hprepared : Prepared source root (buildSmaller source tree) tree := by
      refine ⟨hmem, fun part hlt role parent => buildSmaller_of_lt hlt, fun part hpart => ?_⟩
      have hlt := hpart.size_lt
      exact ih part.size (by lia) (mem_subtrees_trans hpart.mem_subtrees hmem) rfl
    intro role parent draft hparent
    rw [buildTree_eq]
    exact Rules.rule_keeps hprepared id hparent

/-- A whole file is built in an orderly way below the root. -/
theorem finish_orderly (source : List Char) (name : String) (tree : ParseTree) :
    Orderly source tree False 1 Outline.root (Draft.start source name tree)
      (Draft.finish source name tree) := by
  have hprepared : Prepared source tree (buildTree source) tree :=
    ⟨self_mem_subtrees tree, fun _ _ _ _ => rfl, fun _ hpart => buildTree_lowers hpart.mem_subtrees⟩
  have hreached : ∀ part ∈ tree.namedChildren, Reached source False tree part := fun part hpart =>
    reached_of_encloses (encloses_of_mem_children (mem_children_of_mem_namedChildren hpart))
  have hroot : Outline.root < (Draft.start source name tree).outline.size := Nat.one_pos
  exact Rules.drain_keeps hprepared hroot hreached

end StructSearch

import StructSearch.Proofs.Outline.Mentions
import StructSearch.Proofs.Outline.RuleGrowth

/-!
# The rules of constructs tell mentions

While an outline is built, a draft holds the visible names, and each reference takes the type of
the latest of them. So a program that builds part of an outline tells some mentions: the names it
makes visible and the references it adds are those of the mentions. Every rule tells the mentions of
its construct, except that statements other than blocks do not end the scope of their names.

Results:
* `Tells`: what a program tells, with the rules by which programs are composed.
* `Rules.rule_tells`: a rule tells the mentions of its construct.
* `buildTree_tells`, `finish_told`: so does the recursion, and a whole file.
-/

namespace StructSearch

open Source ParseTree Outline Mention

/-! ## References of an outline -/

/-- The name and type of a node that is a reference. -/
def NodeInfo.reference? (info : NodeInfo) : Option (String × String) :=
  if info.kind = .declRef then some (info.spelling, info.type) else none

/-- The references of an outline with their types, from old to new. -/
def Outline.references (outline : Outline) : List (String × String) :=
  outline.gather NodeInfo.reference?

/-- A reference as a node records it: without a declaration its type is empty. -/
def recorded (reference : String × Option String) : String × String :=
  (reference.1, reference.2.getD "")

/-- The class that a frame is the body of. -/
def Frame.className? : Frame → Option String
  | .ofClass name _ => some name
  | .ofFunction => none

/-- The classes and functions around the current place, without the access of members. -/
def Draft.classNames (draft : Draft) : List (Option String) := draft.frames.map Frame.className?

theorem Draft.memberClass?_eq (draft : Draft) :
    draft.memberClass? = draft.classNames.head?.join := by
  unfold Draft.memberClass? Draft.classNames
  match draft.frames with
  | [] => rfl
  | .ofClass _ _ :: _ => rfl
  | .ofFunction :: _ => rfl

/-! ## Programs that tell mentions -/

/-- Between two drafts, mentions were told: names became visible and references were added. -/
structure Told (mentions : List Mention) (before after : Draft) : Prop where
  bindings_eq : after.bindings = visibleAfterAll before.bindings (dissolvedAll mentions)
  references_eq : after.outline.references = before.outline.references ++
    (typesAll before.bindings (dissolvedAll mentions)).map recorded
  classNames_eq : after.classNames = before.classNames

/-- Among the members of a class, or outside of classes, a program tells mentions. -/
def Tells {α : Type} (memberClass : Option String) (program : Build α)
    (mentions : List Mention) : Prop :=
  ∀ draft : Draft, draft.memberClass? = memberClass → Told mentions draft (program.run draft).2

theorem Told.memberClass?_eq {mentions : List Mention} {before after : Draft}
    (h : Told mentions before after) : after.memberClass? = before.memberClass? := by
  rw [Draft.memberClass?_eq, Draft.memberClass?_eq, h.classNames_eq]

theorem Told.trans {mentions more : List Mention} {before middle after : Draft}
    (h : Told mentions before middle) (h' : Told more middle after) :
    Told (mentions ++ more) before after where
  bindings_eq := by
    rw [dissolvedAll_append, visibleAfterAll_append, ← h.bindings_eq, h'.bindings_eq]
  references_eq := by
    rw [dissolvedAll_append, typesAll_append, List.map_append, ← List.append_assoc,
      ← h.references_eq, ← h.bindings_eq, h'.references_eq]
  classNames_eq := h'.classNames_eq.trans h.classNames_eq

/-- Nothing is told if neither the visible names nor the references change. -/
theorem told_nil {before after : Draft} (hbindings : after.bindings = before.bindings)
    (hreferences : after.outline.references = before.outline.references)
    (hclassNames : after.classNames = before.classNames) : Told [] before after :=
  ⟨hbindings, hreferences.trans (List.append_nil _).symm, hclassNames⟩

namespace Tells

variable {α β : Type} {memberClass : Option String} {program : Build α} {next : α → Build β}
  {mentions more : List Mention}

theorem pure (value : α) : Tells memberClass (Pure.pure value) [] :=
  fun _ _ => told_nil rfl rfl rfl

theorem bind (h : Tells memberClass program mentions)
    (hnext : ∀ value, Tells memberClass (next value) more) :
    Tells memberClass (program >>= next) (mentions ++ more) := by
  intro draft hclass
  have htold := h draft hclass
  exact htold.trans (hnext _ _ (htold.memberClass?_eq.trans hclass))

/-- A program that tells nothing comes first. -/
theorem silent (h : Tells memberClass program [])
    (hnext : ∀ value, Tells memberClass (next value) mentions) :
    Tells memberClass (program >>= next) mentions :=
  h.bind hnext

/-- A program that tells nothing comes last. -/
theorem last (h : Tells memberClass program mentions)
    (hnext : ∀ value, Tells memberClass (next value) []) :
    Tells memberClass (program >>= next) mentions := by
  have hall := h.bind hnext
  rwa [List.append_nil] at hall

theorem get {next : Draft → Build β}
    (h : ∀ draft : Draft, draft.memberClass? = memberClass →
      Tells memberClass (next draft) mentions) :
    Tells memberClass (MonadState.get >>= next) mentions :=
  fun draft hclass => h draft hclass draft hclass

/-- The scope of a statement other than a block makes no difference. -/
theorem of_dissolvedAll_eq (h : Tells memberClass program mentions)
    (heq : dissolvedAll mentions = dissolvedAll more) : Tells memberClass program more := by
  intro draft hclass
  have htold := h draft hclass
  refine ⟨?_, ?_, htold.classNames_eq⟩
  · rw [htold.bindings_eq, heq]
  · rw [htold.references_eq, heq]

theorem change {f : Draft → Draft} (hbindings : ∀ draft, (f draft).bindings = draft.bindings)
    (hreferences : ∀ draft, (f draft).outline.references = draft.outline.references)
    (hclassNames : ∀ draft, (f draft).classNames = draft.classNames) :
    Tells memberClass (modify f : Build PUnit) [] :=
  fun draft _ => told_nil (hbindings draft) (hreferences draft) (hclassNames draft)

/-- Noting a class or the result of a function tells nothing. -/
theorem note {f : Draft → Draft}
    (hf : ∀ draft, ∃ classes results, f draft = { draft with classes, results }) :
    Tells memberClass (modify f : Build PUnit) [] := by
  intro draft _
  obtain ⟨classes, results, hdraft⟩ := hf draft
  have hrun : ((modify f : Build PUnit).run draft).2 = { draft with classes, results } := hdraft
  rw [hrun]
  exact told_nil rfl rfl rfl

theorem push {parent : NodeId} {role : Role} {info : NodeInfo} (hkind : info.kind ≠ .declRef) :
    Tells memberClass (Build.push parent role info) [] := by
  intro draft _
  refine told_nil rfl ?_ rfl
  refine (draft.outline.gather_add parent info role _).trans ?_
  rw [NodeInfo.reference?, if_neg hkind]
  exact List.append_nil _

theorem declare (name type : String) :
    Tells memberClass (Build.declare name type) [.declares name type] := by
  intro draft _
  have hrun : ((Build.declare name type).run draft).2 = draft.withBinding name type := rfl
  rw [hrun]
  refine ⟨?_, ?_, ?_⟩
  · rw [dissolvedAll_singleton, Draft.withBinding]
    split_ifs with hname
    · simp [dissolved, visibleAfterAll, visibleAfter, hname]
    · simp [dissolved, visibleAfterAll, visibleAfter, hname]
  · rw [Draft.withBinding_outline]
    exact (List.append_nil _).symm
  · rw [Draft.withBinding]
    split_ifs <;> rfl

theorem inBlock (h : Tells memberClass program mentions) :
    Tells memberClass (Build.inBlock program) [.block mentions] := by
  intro draft hclass
  have htold := h draft hclass
  refine ⟨rfl, ?_, htold.classNames_eq⟩
  refine htold.references_eq.trans ?_
  rw [dissolvedAll_singleton, dissolved, typesAll, typesAll, types, List.append_nil]

theorem inside {frame : Frame} (h : Tells frame.className? program mentions) :
    Tells memberClass (Build.inside frame program) mentions := by
  intro draft hclass
  have htold := h { draft with frames := frame :: draft.frames } (by cases frame <;> rfl)
  refine ⟨htold.bindings_eq, htold.references_eq, ?_⟩
  refine List.map_tail.trans ?_
  exact congrArg List.tail htold.classNames_eq

end Tells

/-! ## Sequences -/

theorem dissolvedAll_withScope (tree : ParseTree) (mentions : List Mention) :
    dissolvedAll (withScope tree mentions) = dissolvedAll mentions := by
  unfold withScope
  split_ifs
  · rw [dissolvedAll_singleton, dissolved]
  · rfl

/-- A recursion tells the mentions of every tree. Those of a construct without a rule, smaller than
`bound`, are the mentions inside it. -/
structure Recounts (build : Recursion) (inside : Option String → ParseTree → List Mention)
    (bound : ℕ) : Prop where
  tells : ∀ memberClass role tree parent,
    Tells memberClass (build role tree parent) (inside memberClass tree)
  transparent : ∀ memberClass tree, tree.size < bound → tree.construct.isTransparent = true →
    inside memberClass tree = withScope tree (Mentions.children inside memberClass tree)

namespace Rules

variable {source : List Char} {build : Recursion} {tree : ParseTree} {parent : NodeId}
  {inside : Option String → ParseTree → List Mention} {bound : ℕ} {memberClass : Option String}

section Sequences

variable (h : Recounts build inside bound)
include h

theorem drain_tells {pending : List ParseTree} (hpending : ∀ tree ∈ pending, tree.size < bound) :
    Tells memberClass (drain build parent pending) (pending.flatMap (inside memberClass)) := by
  induction pending using drain.induct with
  | case1 =>
    rw [drain]
    exact .pure _
  | case2 first rest htransparent ih =>
    -- The constructs inside a transparent tree are built in its place, without its scope.
    have hfirst := hpending first List.mem_cons_self
    have hinside : ∀ tree ∈ first.namedChildren ++ rest, tree.size < bound := by
      intro tree htree
      rcases List.mem_append.1 htree with htree | htree
      · exact (size_lt_of_mem_children (mem_children_of_mem_namedChildren htree)).trans hfirst
      · exact hpending tree (List.mem_cons_of_mem _ htree)
    rw [drain, if_pos htransparent]
    refine (ih hinside).of_dissolvedAll_eq ?_
    rw [List.flatMap_append, List.flatMap_cons, dissolvedAll_append, dissolvedAll_append,
      h.transparent memberClass first hfirst htransparent, dissolvedAll_withScope]
    rfl
  | case3 first rest htransparent ih =>
    rw [drain, if_neg htransparent, List.flatMap_cons]
    refine (h.tells memberClass .member first parent).bind fun _ => ?_
    exact ih fun tree htree => hpending tree (List.mem_cons_of_mem _ htree)

theorem children_tells (hsize : tree.size ≤ bound) :
    Tells memberClass (children build tree parent)
      (Mentions.children inside memberClass tree) := by
  refine drain_tells h fun child hchild => ?_
  exact (size_lt_of_mem_children (mem_children_of_mem_namedChildren hchild)).trans_le hsize

theorem each_tells (trees : List ParseTree) :
    Tells memberClass (each build parent trees) (trees.flatMap (inside memberClass)) := by
  induction trees with
  | nil => exact .pure _
  | cons first rest ih => exact (h.tells memberClass .member first parent).bind fun _ => ih

theorem optional_tells (tree? : Option ParseTree) :
    Tells memberClass (optional build parent tree?)
      (Mentions.optional inside memberClass tree?) := by
  cases tree? with
  | none => exact .pure _
  | some tree => exact (h.tells memberClass .member tree parent).bind fun _ => .pure _

end Sequences

theorem accessLabel_tells : Tells memberClass (accessLabel source tree) [] := by
  unfold accessLabel
  split
  · refine .change (fun draft => ?_) (fun draft => ?_) (fun draft => ?_)
    · unfold Draft.withAccess
      split <;> rfl
    · rw [Draft.withAccess_outline]
    · unfold Draft.withAccess
      split
      · next hframes => simp [Draft.classNames, hframes, Frame.className?]
      · rfl
  · exact .pure _

/-! ## Namespaces and types -/

theorem namespaces_tells (names : List String) :
    Tells memberClass (namespaces source tree parent names) [] := by
  induction names generalizing parent with
  | nil => exact .pure _
  | cons name names ih =>
    exact (Tells.push (by rintro ⟨⟩)).silent fun _ => ih.silent fun _ => .pure _

section Types

variable (h : Recounts build inside bound) (hsize : tree.size ≤ bound)
include h

include hsize in
theorem namespaceRule_tells :
    Tells memberClass (namespaceRule source build tree parent)
      ((tree.part? .body).toList.map fun body =>
        .block (Mentions.children inside memberClass body)) := by
  refine (namespaces_tells _).silent fun ⟨first, innermost⟩ => ?_
  cases hbody : tree.part? .body with
  | none => exact .pure _
  | some body =>
    have hbound := (size_lt_of_part?_eq hbody).le.trans hsize
    exact (children_tells h hbound).inBlock.last fun _ => .pure _

include hsize in
theorem recordRule_tells (fallback : Option String) :
    Tells memberClass (recordRule source build fallback tree parent)
      (Mentions.ofRecord source inside fallback tree) := by
  refine .get fun draft _ => (Tells.push ?_).silent fun id => ?_
  · cases tree.construct <;> rintro ⟨⟩
  unfold Mentions.ofRecord
  cases hbody : tree.part? .body with
  | none => exact .pure _
  | some body =>
    have hbound := (size_lt_of_part?_eq hbody).le.trans hsize
    refine (Tells.note fun draft => ?_).silent fun _ =>
      (children_tells h hbound).inBlock.inside.last fun _ => .pure _
    unfold Draft.withClass
    split_ifs
    · exact ⟨_, _, rfl⟩
    · exact ⟨_, _, rfl⟩

theorem enumerators_tells (type : String) (trees : List ParseTree) :
    Tells memberClass (enumerators source build type parent trees)
      (trees.flatMap (Mentions.ofEnumerator source inside memberClass type)) := by
  induction trees with
  | nil => exact .pure _
  | cons first rest ih =>
    rw [enumerators, List.flatMap_cons]
    unfold Mentions.ofEnumerator
    split_ifs
    · cases hname : first.part? .name with
      | none => exact ih
      | some name =>
        refine (Tells.push (by rintro ⟨⟩)).silent fun id => (Tells.declare _ _).bind fun _ => ?_
        exact (optional_tells h _).bind fun _ => ih
    · exact ih

theorem enumRule_tells (fallback : Option String) :
    Tells memberClass (enumRule source build fallback tree parent)
      (Mentions.ofEnum source inside memberClass fallback tree) := by
  refine .get fun draft _ => (Tells.push (by rintro ⟨⟩)).silent fun id => ?_
  unfold Mentions.ofEnum
  cases tree.part? .body with
  | none => exact .pure _
  | some body => exact (enumerators_tells h _ _).last fun _ => .pure _

end Types

theorem aliasRule_tells : Tells memberClass (aliasRule source tree parent) [] :=
  .get fun _ _ => (Tells.push (by rintro ⟨⟩)).silent fun _ => .pure _

/-! ## Declarations -/

/-- Constructors and destructors, which have no result. -/
def hasNoResult : Kind → Bool
  | .ctor | .dtor => true
  | _ => false

theorem hasNoResult_memberFunctionKind (memberClass : Option String) (name : String) :
    hasNoResult (memberFunctionKind memberClass name) = (memberClass == some name) := by
  cases memberClass with
  | none => rfl
  | some className =>
    by_cases hname : className = name
    · simp [memberFunctionKind, hname, hasNoResult]
    · simp [memberFunctionKind, hname, hasNoResult]

theorem hasNoResult_ite {p : Prop} [Decidable p] (isConstructor isMember : Bool) :
    hasNoResult (if p then .dtor else if isConstructor = true then .ctor
      else if isMember = true then .method else .functionDecl) = (decide p || isConstructor) := by
  by_cases hp : p
  · simp [hp, hasNoResult]
  · cases isConstructor <;> cases isMember <;> simp [hp, hasNoResult]

theorem functionNameKind_eq (source : List Char) {draft : Draft}
    (hclass : draft.memberClass? = memberClass) (name? : Option ParseTree) :
    Mentions.functionName source memberClass name? =
      ((functionNameKind source draft name?).1,
        hasNoResult (functionNameKind source draft name?).2) := by
  subst hclass
  cases name? with
  | none => rfl
  | some tree =>
    rw [functionNameKind, Mentions.functionName]
    cases tree.construct with
    | destructorName => rfl
    | qualifiedIdentifier =>
      simp only [qualifiedFunction]
      rw [hasNoResult_ite]
      cases (ParseNames.unqualify none tree).1 <;> rfl
    | _ => exact Prod.ext rfl (hasNoResult_memberFunctionKind _ _).symm

section Declarations

variable (h : Recounts build inside bound)
include h

theorem parameters_tells (parameters : List DeclaredParameter) :
    Tells memberClass (Rules.parameters source build parent parameters)
      (parameters.flatMap (Mentions.ofParameter inside memberClass)) := by
  induction parameters with
  | nil => exact .pure _
  | cons parameter rest ih =>
    refine (Tells.push (by rintro ⟨⟩)).silent fun id => (Tells.declare _ _).bind fun _ => ?_
    exact (optional_tells h _).bind fun _ => ih

theorem functionBody_tells {body : ParseTree} (hsize : tree.size ≤ bound) :
    Tells none (functionBody build tree body parent) (Mentions.ofBody inside tree body) := by
  unfold functionBody Mentions.ofBody
  cases hlist : tree.firstNamed? .fieldInitializerList with
  | none => exact (h.tells none .member body parent).last fun _ => .pure _
  | some list =>
    have hbound := (size_lt_of_mem_children (mem_children_of_firstNamed?_eq hlist)).le.trans hsize
    rw [Option.toList_some, List.flatMap_singleton]
    refine (children_tells h hbound).bind fun _ => ?_
    exact (h.tells none .member body parent).last fun _ => .pure _

/-- What follows the declaration of a function: its parameters and its body have a scope. -/
theorem functionScope_tells {signature : ParseTree} {body : Option ParseTree}
    (hsize : tree.size ≤ bound) (name result : String) (id : NodeId) :
    Tells memberClass (do
      modify (·.withResult name result)
      Build.inBlock do
        Rules.parameters source build id (DeclaredParameter.ofFunction source signature)
        match body with
        | some body => Build.inside .ofFunction (functionBody build tree body id)
        | none => pure ()
      return id)
      [.block ((DeclaredParameter.ofFunction source signature).flatMap
          (Mentions.ofParameter inside memberClass) ++
        body.toList.flatMap (Mentions.ofBody inside tree))] := by
  refine (Tells.note fun draft => ?_).silent fun _ =>
    (Tells.inBlock ((parameters_tells h _).bind fun _ => ?_)).last fun _ => .pure _
  · unfold Draft.withResult
    split_ifs
    · exact ⟨_, _, rfl⟩
    · exact ⟨_, _, rfl⟩
  · cases body with
    | none => exact .pure _
    | some body =>
      rw [Option.toList_some, List.flatMap_singleton]
      refine Tells.inside ?_
      exact functionBody_tells h hsize

theorem function_tells {declarator : Declarator} {signature : ParseTree} {base : BaseType}
    {body : Option ParseTree} (hsize : tree.size ≤ bound) :
    Tells memberClass (function source build tree declarator signature base parent body)
      (Mentions.ofFunction source inside memberClass tree declarator signature base body) := by
  refine .get fun draft hclass => ?_
  have hkind := isFunctionDeclaration_functionNameKind source draft declarator.name
  have hname := functionNameKind_eq source hclass declarator.name
  generalize functionNameKind source draft declarator.name = named at hkind hname ⊢
  obtain ⟨name, kind⟩ := named
  rw [Mentions.ofFunction, Mentions.functionType, hname]
  cases kind with
  | ctor | dtor | functionDecl | functionTemplate | method =>
    exact (Tells.push (by rintro ⟨⟩)).silent fun id =>
      (Tells.declare _ _).bind fun _ => functionScope_tells h hsize name _ id
  | _ => cases hkind

theorem functionDefinitionRule_tells (hsize : tree.size ≤ bound) :
    Tells memberClass (functionDefinitionRule source build tree parent)
      (Mentions.ofFunctionDefinition source inside memberClass tree) := by
  unfold functionDefinitionRule Mentions.ofFunctionDefinition
  cases tree.part? .declarator with
  | none => exact .pure _
  | some declaratorTree =>
    dsimp only
    cases (Declarator.ofTree source declaratorTree).function with
    | none => exact .pure _
    | some signature => exact (function_tells h hsize).last fun _ => .pure _

theorem variableRule_tells {declaratorTree : ParseTree} {declarator : Declarator}
    {base : BaseType} :
    Tells memberClass (variableRule source build tree declaratorTree declarator base parent)
      (.declares (declarator.name.elim "" (ParseNames.declared source))
          (declarator.typeSpelling base.spelling) ::
        Mentions.optional inside memberClass (declarator.value.or (tree.part? .defaultValue))) := by
  refine .get fun draft _ => (Tells.push ?_).silent fun id => ?_
  · dsimp only
    split_ifs <;> rintro ⟨⟩
  · cases declarator.name with
    | none =>
      exact (Tells.declare _ _).bind fun _ => (optional_tells h _).last fun _ => .pure _
    | some name =>
      exact (Tells.declare _ _).bind fun _ => (optional_tells h _).last fun _ => .pure _

theorem declarators_tells {first : Option NodeId} (hsize : tree.size ≤ bound)
    (declaratorTrees : List ParseTree) :
    Tells memberClass
      (declarators source build tree (BaseType.ofTree source tree) parent first declaratorTrees)
      (declaratorTrees.flatMap (Mentions.ofDeclarator source inside memberClass tree)) := by
  induction declaratorTrees generalizing first with
  | nil => exact .pure _
  | cons declaratorTree rest ih =>
    rw [declarators, List.flatMap_cons, Mentions.ofDeclarator]
    dsimp only
    cases (Declarator.ofTree source declaratorTree).function with
    | some signature => exact (function_tells h hsize).bind fun _ => ih
    | none => exact (variableRule_tells h).bind fun _ => ih

theorem declarationRule_tells (hsize : tree.size ≤ bound) :
    Tells memberClass (declarationRule source build tree parent)
      (Mentions.ofDeclaration source inside memberClass tree) := by
  unfold declarationRule Mentions.ofDeclaration Mentions.optional
  cases (inlineType? tree).or (bareType? tree) with
  | none => exact declarators_tells h hsize _
  | some type =>
    rw [Option.toList_some, List.flatMap_singleton]
    exact (h.tells memberClass .member type parent).bind fun _ => declarators_tells h hsize _

omit h in
theorem typedefNames_tells {base : BaseType} {firstName : Option String} {first : Option NodeId}
    (declaratorTrees : List ParseTree) :
    Tells memberClass
      (typedefNames source tree base firstName parent first declaratorTrees) [] := by
  induction declaratorTrees generalizing first with
  | nil => exact .pure _
  | cons declaratorTree rest ih =>
    exact .get fun _ _ => (Tells.push (by rintro ⟨⟩)).silent fun _ => ih

theorem typedefRule_tells (hsize : tree.size ≤ bound) :
    Tells memberClass (typedefRule source build tree parent)
      (Mentions.ofTypedef source inside memberClass tree) := by
  unfold typedefRule Mentions.ofTypedef
  cases htype : inlineType? tree with
  | none => exact typedefNames_tells _
  | some type =>
    have hbound := (size_lt_of_part?_eq (part?_eq_of_inlineType? htype)).le.trans hsize
    dsimp only
    split_ifs
    · exact (enumRule_tells h _).last fun _ => typedefNames_tells _
    · exact (recordRule_tells h hbound _).last fun _ => typedefNames_tells _

end Declarations

/-! ## Expressions -/

/-- A reference takes the type of the latest visible declaration of its name. -/
theorem referenceRule_tells {role : Role} :
    Tells memberClass (referenceRule source role tree parent)
      [.refers (ParseNames.declared source tree)] := by
  intro draft _
  refine ⟨rfl, ?_, rfl⟩
  exact draft.outline.gather_add parent _ role NodeInfo.reference?

section Expressions

variable (h : Recounts build inside bound)
include h

theorem memberRule_tells {role : Role} :
    Tells memberClass (memberRule source build role tree parent)
      (Mentions.optional inside memberClass (tree.part? .argument)) :=
  (Tells.push (by rintro ⟨⟩)).silent fun _ => (optional_tells h _).last fun _ => .pure _

theorem argument_tells (hsize : tree.size ≤ bound) :
    Tells memberClass (argument source build parent tree)
      (Mentions.ofArgument inside memberClass tree) := by
  unfold argument Mentions.ofArgument
  split_ifs
  · exact (h.tells memberClass .argument tree parent).last fun _ => .pure _
  · refine (Tells.push (by rintro ⟨⟩)).silent fun id => ?_
    exact (children_tells h hsize).of_dissolvedAll_eq (dissolvedAll_withScope _ _).symm

theorem arguments_tells {trees : List ParseTree} (htrees : ∀ tree ∈ trees, tree.size ≤ bound) :
    Tells memberClass (arguments source build parent trees)
      ((trees.filter (·.construct != .comment)).flatMap
        (Mentions.ofArgument inside memberClass)) := by
  induction trees with
  | nil => exact .pure _
  | cons first rest ih =>
    have hrest := ih fun tree htree => htrees tree (List.mem_cons_of_mem _ htree)
    rw [arguments, List.filter_cons]
    split_ifs
    · exact (argument_tells h (htrees first List.mem_cons_self)).bind fun _ => hrest
    · exact hrest

theorem callRule_tells {role : Role} (hsize : tree.size ≤ bound) :
    Tells memberClass (callRule source build role tree parent)
      (Mentions.ofCall inside memberClass tree) := by
  refine .get fun draft _ => (Tells.push (by rintro ⟨⟩)).silent fun id => ?_
  refine (optional_tells h _).bind fun _ => ?_
  cases hlist : tree.part? .arguments with
  | none => exact .pure _
  | some list =>
    have hbound := (size_lt_of_part?_eq hlist).le.trans hsize
    rw [Option.toList_some, List.flatMap_singleton]
    refine (arguments_tells h fun argument hargument => ?_).last fun _ => .pure _
    exact (size_lt_of_mem_children (mem_children_of_mem_namedChildren hargument)).le.trans hbound

end Expressions

/-! ## Templates -/

theorem templateParameters_tells (parts : List ParseTree) :
    Tells memberClass (templateParameters source parent parts) [] := by
  induction parts with
  | nil => exact .pure _
  | cons part rest ih =>
    rw [templateParameters]
    cases hparameter : templateParameter? source part with
    | none => exact ih
    | some parameter =>
      obtain ⟨kind, name, type⟩ := parameter
      have hkind := isTemplateParameter_of_templateParameter? hparameter
      refine (Tells.push ?_).silent fun _ => ih
      rintro hreference
      rw [show kind = .declRef from hreference] at hkind
      cases hkind

/-- A reference stays one with its name and type when a node becomes a template. -/
theorem references_generalized (outline : Outline) (id : NodeId) (isGeneral : Bool)
    (extent : Extent) (range : ByteRange) :
    (outline.modifyInfo id (.generalized isGeneral extent range)).references =
      outline.references := by
  refine (rewrites_modifyInfo outline id _).gather fun other info _ => ?_
  have hkind : templateKind info.kind = .declRef ↔ info.kind = .declRef := by
    cases info.kind <;> simp [templateKind]
  unfold NodeInfo.reference? NodeInfo.generalized
  split_ifs <;> simp_all

theorem generalize_tells (id : NodeId) (isGeneral : Bool) (extent : Extent) (range : ByteRange) :
    Tells memberClass (modify fun draft => { draft with
      outline := draft.outline.modifyInfo id (.generalized isGeneral extent range) } :
        Build PUnit) [] :=
  .change (fun _ => rfl) (fun _ => references_generalized _ _ _ _ _) fun _ => rfl

theorem templateRule_tells (h : Recounts build inside bound) :
    Tells memberClass (templateRule source build tree parent)
      (Mentions.optional inside memberClass (templated? tree)) := by
  unfold templateRule Mentions.optional
  cases templated? tree with
  | none => exact .pure _
  | some inner =>
    rw [Option.toList_some, List.flatMap_singleton]
    refine (h.tells memberClass .member inner parent).last fun main => ?_
    cases main with
    | none => exact .pure _
    | some id =>
      refine (generalize_tells id _ _ _).silent fun _ => ?_
      cases tree.part? .parameters with
      | none => exact .pure _
      | some list => exact (templateParameters_tells _).silent fun _ => .pure _

/-! ## All rules -/

/-- A construct without a rule is looked through or ignored. -/
theorem noRule_tells (h : Recounts build inside tree.size) (isTransparent : Bool) :
    Tells memberClass (do
      if isTransparent = true then children build tree parent
      return (none : Option NodeId))
      (if isTransparent = true then withScope tree (Mentions.children inside memberClass tree)
        else []) := by
  cases isTransparent with
  | false => exact .pure _
  | true =>
    refine ((children_tells h le_rfl).of_dissolvedAll_eq ?_).last fun _ => .pure _
    exact (dissolvedAll_withScope _ _).symm

/-- A rule tells the mentions of its construct. -/
theorem rule_tells (h : Recounts build inside tree.size) (role : Role) :
    Tells memberClass (rule source build role tree parent)
      (Mentions.ofTree source inside memberClass tree) := by
  unfold rule Mentions.ofTree
  cases tree.construct with
  | namespaceDefinition => exact namespaceRule_tells h le_rfl
  | classSpecifier | structSpecifier | unionSpecifier => exact recordRule_tells h le_rfl none
  | enumSpecifier => exact enumRule_tells h none
  | templateDeclaration => exact templateRule_tells h
  | functionDefinition => exact functionDefinitionRule_tells h le_rfl
  | declaration | fieldDeclaration => exact declarationRule_tells h le_rfl
  | typeDefinition => exact typedefRule_tells h le_rfl
  | aliasDeclaration => exact aliasRule_tells
  | accessSpecifier => exact accessLabel_tells.silent fun _ => .pure _
  | callExpression => exact (callRule_tells h le_rfl).last fun _ => .pure _
  | identifier | qualifiedIdentifier => exact referenceRule_tells.last fun _ => .pure _
  | fieldExpression => exact (memberRule_tells h).last fun _ => .pure _
  | compoundStatement => exact (children_tells h le_rfl).inBlock.last fun _ => .pure _
  | preprocIf | preprocIfdef | preprocElif | preprocElifdef =>
    exact (each_tells h _).last fun _ => .pure _
  | _ => exact noRule_tells h _

end Rules

/-! ## The recursion -/

theorem buildTree_tells (source : List Char) (memberClass : Option String) (role : Role)
    (tree : ParseTree) (parent : NodeId) :
    Tells memberClass (buildTree source role tree parent)
      (mentions source memberClass tree) := by
  induction hn : tree.size using Nat.strong_induction_on
    generalizing memberClass role tree parent with
  | _ n ih =>
    rw [buildTree, mentions]
    refine Rules.rule_tells ⟨fun memberClass role inner parent => ?_, ?_⟩ role
    · split_ifs with hlt
      · exact ih _ (by omega) memberClass role inner parent rfl
      · exact .pure _
    · intro memberClass inner hlt htransparent
      rw [dif_pos hlt, mentions_of_isTransparent htransparent]
      congr 1
      refine List.flatMap_congr fun child hchild => ?_
      have hsmall := size_lt_of_mem_children (mem_children_of_mem_namedChildren hchild)
      simp only [hsmall.trans hlt, dite_true]

/-- The draft of a file, when it is finished, tells the mentions of the file. -/
theorem finish_told (source : List Char) (name : String) (tree : ParseTree) :
    Told (mentionsOfFile source tree) (Draft.start source name tree)
      (Draft.finish source name tree) := by
  have hrecounts : Recounts (buildTree source) (mentions source) tree.size :=
    ⟨buildTree_tells source, fun memberClass _ _ h => mentions_of_isTransparent h memberClass⟩
  exact Rules.children_tells hrecounts le_rfl (Draft.start source name tree) rfl

end StructSearch

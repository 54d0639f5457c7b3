import StructSearch.Proofs.Outline.RuleGrowth

/-!
# Definitions of functions

The declarator of a function wraps its name in pointers, references, arrays, parentheses and at
least one function declarator. A function declarator around parentheses is taken for that of a
pointer to a function, `(*name)(int)`, and does not declare a function. The definition of a function
is built if some function declarator on the way to the name declares one: one node is added below
the parent, and the body is built beneath it.

The name of a function may stand in parentheses without being a pointer, as in `int (name)(int)`.
Then no declarator declares a function, and the definition is lost with its whole body.

Results:
* `Declarator.ofTree_function`: the signature is the innermost declarator that declares a function.
* `function_run`, `IsNew.definesFunction`: what a function adds.
* `buildTree_functionDefinition`: which definitions are built, and how.
* `parenthesizedFunction_lost`: a definition that is lost.
-/

namespace StructSearch

open Source ParseTree Outline

/-! ## Declarators on the way to a name -/

/-- The tree in which a declarator goes on: its declarator, what is in its parentheses, or what a
reference refers to. Anything else is a name, at which it ends. -/
def declaratorInside? (tree : ParseTree) : Option ParseTree :=
  match tree.construct with
  | .initDeclarator | .pointerDeclarator | .abstractPointerDeclarator | .arrayDeclarator
  | .abstractArrayDeclarator | .functionDeclarator | .abstractFunctionDeclarator =>
    tree.part? .declarator
  | .referenceDeclarator | .abstractReferenceDeclarator => tree.namedChildren.getLast?
  | .parenthesizedDeclarator => tree.namedChildren.head?
  | _ => none

theorem declaratorInside?_mem_children {tree inner : ParseTree}
    (h : declaratorInside? tree = some inner) : inner ∈ tree.children := by
  unfold declaratorInside? at h
  split at h
  all_goals first
    | exact mem_children_of_part?_eq h
    | exact mem_children_of_mem_namedChildren (List.mem_of_getLast? h)
    | exact mem_children_of_mem_namedChildren (List.mem_of_head? h)
    | cases h

/-- The declarators from a tree to the name inside it, the outermost first. -/
def declaratorChain (tree : ParseTree) : List ParseTree :=
  tree :: match _h : declaratorInside? tree with
    | some inner => declaratorChain inner
    | none => []
termination_by tree.size
decreasing_by exact size_lt_of_mem_children (declaratorInside?_mem_children _h)

theorem declaratorChain_eq (tree : ParseTree) :
    declaratorChain tree = tree :: (declaratorInside? tree).elim [] declaratorChain := by
  rw [declaratorChain]
  cases declaratorInside? tree <;> rfl

/-- Whether a tree is a function declarator. -/
def isFunctionDeclarator (tree : ParseTree) : Bool :=
  tree.construct == .functionDeclarator || tree.construct == .abstractFunctionDeclarator

/-- Whether a tree is a function declarator around anything but parentheses. -/
def declaresFunction (tree : ParseTree) : Bool :=
  isFunctionDeclarator tree &&
    !(tree.part? .declarator).any (·.construct == .parenthesizedDeclarator)

namespace Declarator

variable (source : List Char)

theorem step_inside (d : Declarator) (tree : ParseTree) :
    (step source d tree).2 = declaratorInside? tree := by
  unfold step declaratorInside?
  split
  case h_9 hc | h_10 hc =>
    simp only [hc]
    split_ifs <;> rfl
  all_goals simp_all

theorem step_function (d : Declarator) (tree : ParseTree) :
    (step source d tree).1.function = if declaresFunction tree then some tree else d.function := by
  unfold step declaresFunction isFunctionDeclarator
  split
  case h_9 hc | h_10 hc =>
    simp only [hc]
    split_ifs <;> simp_all
  all_goals simp_all

/-- The innermost declarator that declares a function is the signature. -/
theorem unwrap_function (d : Declarator) (tree : ParseTree) :
    (unwrap source d tree).function =
      ((declaratorChain tree).filter declaresFunction).getLast?.or d.function := by
  fun_induction unwrap source d tree with
  | case1 d tree e hstep =>
    have hfunction := step_function source d tree
    have hinside := step_inside source d tree
    rw [hstep] at hfunction hinside
    rw [hfunction, declaratorChain_eq, ← hinside]
    cases hdeclares : declaresFunction tree <;> simp [hdeclares]
  | case2 d tree e next hstep ih =>
    have hfunction := step_function source d tree
    have hinside := step_inside source d tree
    rw [hstep] at hfunction hinside
    rw [ih, declaratorChain_eq tree, ← hinside, hfunction]
    cases hdeclares : declaresFunction tree with
    | false => simp [hdeclares]
    | true =>
      simp only [hdeclares, List.filter_cons_of_pos, List.getLast?_cons, if_true, Option.elim_some]
      cases ((declaratorChain next).filter declaresFunction).getLast? <;> rfl

theorem ofTree_function (tree : ParseTree) :
    (ofTree source tree).function =
      ((declaratorChain tree).filter declaresFunction).getLast? := by
  rw [ofTree, unwrap_function]
  exact Option.or_none

end Declarator

/-! ## Functions with a body -/

variable {source : List Char} {build : Recursion} {tree signature : ParseTree} {parent id : NodeId}
  {draft : Draft} {above : NodeInfo}

/-- What is built below the node of a function before its body: the parameters and, inside the
function, the initial values of members. -/
def functionPreamble (source : List Char) (build : Recursion) (tree signature : ParseTree)
    (id : NodeId) : Build Unit := do
  Rules.parameters source build id (DeclaredParameter.ofFunction source signature)
  modify fun draft => { draft with frames := .ofFunction :: draft.frames }
  match tree.firstNamed? .fieldInitializerList with
  | some initializers => Rules.children build initializers id
  | none => pure ()

/-- The parameters of a function and its body, if it has one. -/
def functionInside (source : List Char) (build : Recursion) (tree signature : ParseTree)
    (id : NodeId) (body? : Option ParseTree) : Build Unit := do
  Rules.parameters source build id (DeclaredParameter.ofFunction source signature)
  match body? with
  | some body => Build.inside .ofFunction (Rules.functionBody build tree body id)
  | none => pure ()

/-- The body is the last thing that is built inside a function. -/
theorem functionInside_run_body (source : List Char) (build : Recursion)
    (tree signature body : ParseTree) (id : NodeId) (draft : Draft) :
    ((functionInside source build tree signature id (some body)).run draft).2.outline =
      ((build .member body id).run
        ((functionPreamble source build tree signature id).run draft).2).2.outline := by
  unfold functionInside functionPreamble Rules.functionBody
  cases tree.firstNamed? .fieldInitializerList <;> rfl

theorem functionPreamble_grows {fits : ByteRange → ByteRange → Prop}
    (h : Ready fits source build tree) (habove : draft.outline.info? id = some above)
    (htree : Belongs fits tree above tree) (hkind : above.kind.isFunctionDeclaration = true)
    (hsignature : signature ∈ tree.subtrees) :
    Grows fits draft.outline.size id draft (functionPreamble source build tree signature id)
      fun _ _ => True := by
  have hdeclared : ∀ parameter ∈ DeclaredParameter.ofFunction source signature,
      Belongs fits tree above parameter.tree := fun parameter hp =>
    h.inside htree (mem_subtrees_trans (DeclaredParameter.tree_mem hp) hsignature)
  refine (Rules.parameters_grows h habove hdeclared hkind).bind fun _ after hsteps _ => ?_
  have hafter := hsteps.keeps le_rfl (lt_size_of_info?_eq habove) habove
  -- Entering the function changes no node.
  have hentered : Grows fits draft.outline.size id after
      (modify fun draft => { draft with frames := .ofFunction :: draft.frames })
      fun _ inner => inner.outline = after.outline := ⟨.single (.context _ _ _), rfl⟩
  refine hentered.bind fun _ inner _ hinner => ?_
  rw [← hinner] at hafter
  cases hlist : tree.firstNamed? .fieldInitializerList with
  | none => exact .pure trivial
  | some list =>
    have hchild := h.child htree (mem_children_of_firstNamed?_eq hlist)
    refine (Rules.children_grows h hafter hchild).widen ?_ (Or.inl rfl)
    rw [hinner]
    exact hsteps.size_le

/-- The record of a function. -/
def functionInfo (source : List Char) (draft : Draft) (tree : ParseTree) (declarator : Declarator)
    (signature : ParseTree) (base : BaseType) (body? : Option ParseTree) : NodeInfo :=
  let (name, kind) := Rules.functionNameKind source draft declarator.name
  let result := match kind with
    | .ctor | .dtor => "void"
    | _ => declarator.typeSpelling base.spelling
  let declared := DeclaredParameter.ofFunction source signature
  { NodeInfo.ofTree source kind name tree with
    type := result ++ " (" ++ String.intercalate ", " (declared.map (·.type)) ++ ")"
    result
    isDefinition := body?.isSome
    isVirtual := tree.hasChild .virtualKeyword || tree.hasChild .virtualFunctionSpecifier
    isStatic := hasStorage source tree "static"
    isConst := hasConst source signature
    access := draft.memberAccess }

/-- The draft after a function is added, made visible and remembered with its result. -/
def Draft.withFunction (draft : Draft) (parent : NodeId) (info : NodeInfo) : Draft :=
  ((draft.withNode parent .member info).withBinding info.spelling info.type).withResult
    info.spelling info.result

@[simp] theorem Draft.withFunction_outline (draft : Draft) (parent : NodeId) (info : NodeInfo) :
    (draft.withFunction parent info).outline = draft.outline.add parent info .member := by
  rw [withFunction, withResult_outline, withBinding_outline, withNode_outline]

/-- The run of a function: its node is added, and then everything inside is built. -/
theorem function_run (source : List Char) (build : Recursion) (tree : ParseTree)
    (declarator : Declarator) (signature : ParseTree) (base : BaseType) (parent : NodeId)
    (body? : Option ParseTree) (draft : Draft) :
    let start := draft.withFunction parent
      (functionInfo source draft tree declarator signature base body?)
    (Rules.function source build tree declarator signature base parent body?).run draft =
      (draft.outline.size,
        { ((functionInside source build tree signature draft.outline.size body?).run start).2 with
          bindings := start.bindings }) :=
  rfl

/-! ## Definitions -/

/-- The definition of a function, built below `parent`, has made one node for the function there,
and everything else that it made stands below that node. Its body is built last, beneath the
node. -/
structure DefinesFunction (source : List Char) (tree : ParseTree) (parent : NodeId) (draft : Draft)
    (run : Option NodeId × Draft) : Prop where
  main_eq : run.1 = some draft.outline.size
  exists_info : ∃ info, run.2.outline.info? draft.outline.size = some info ∧
    info.kind.isFunctionDeclaration = true ∧ info.range = tree.range ∧
    info.isDefinition = (tree.part? .body).isSome
  parent_iff : ∀ id, draft.outline.size ≤ id → id < run.2.outline.size →
    (run.2.outline.parent? id = some parent ↔ id = draft.outline.size)
  body_built : ∀ body ∈ tree.part? .body, ∃ before : Draft,
    before.outline.parent? draft.outline.size = some parent ∧
    run.2.outline = ((buildTree source .member body draft.outline.size).run before).2.outline

/-- Right after the node of a function was added, building what is inside completes its
definition. -/
theorem IsNew.definesFunction {info : NodeInfo} {start : Draft}
    (hnew : IsNew draft parent info start) (hparent : parent < draft.outline.size)
    (hkind : info.kind.isFunctionDeclaration = true) (hrange : info.range = tree.range)
    (hdefinition : info.isDefinition = (tree.part? .body).isSome)
    (hsignature : signature ∈ tree.subtrees) (bindings : List Binding) :
    DefinesFunction source tree parent draft (some draft.outline.size,
      { ((functionInside source (buildSmaller source tree) tree signature draft.outline.size
          (tree.part? .body)).run start).2 with bindings }) := by
  have hready := buildSmaller_ready_any source tree
  have hown : Belongs (fun _ _ => True) tree info tree := ⟨self_mem_subtrees tree, trivial⟩
  have hsteps : Steps (fun _ _ => True) start.outline.size draft.outline.size start
      ((functionInside source (buildSmaller source tree) tree signature draft.outline.size
        (tree.part? .body)).run start).2 :=
    (Rules.signature_grows hready hnew.info_eq hown hkind hsignature
      fun _ => mem_children_of_part?_eq).1
  have hsize := hnew.size_eq
  refine ⟨rfl, ⟨info, ?_, hkind, hrange, hdefinition⟩, fun id hid hlt => ?_, fun body hbody => ?_⟩
  · exact hsteps.keeps le_rfl (by lia) hnew.info_eq
  · -- What is built inside the function stands below its node, not below `parent`.
    by_cases hmain : id = draft.outline.size
    · subst hmain
      exact iff_of_true ((hsteps.parent?_eq (by lia)).trans hnew.parent_eq) rfl
    · obtain ⟨owner, howner, hplace⟩ := hsteps.exists_parent (by lia) hlt
      refine iff_of_false (fun habove => ?_) hmain
      obtain rfl : owner = parent := Option.some.inj (howner.symm.trans habove)
      lia
  · have hsmaller := size_lt_of_part?_eq hbody
    have hpreamble := (functionPreamble_grows hready hnew.info_eq hown hkind hsignature).1
    refine ⟨_, (hpreamble.parent?_eq (by lia)).trans hnew.parent_eq, ?_⟩
    rw [← buildSmaller_of_lt hsmaller, ← functionInside_run_body, ← hbody]

/-- Whether some declarator on the way to the name of a definition declares a function. -/
def isDeclaredFunction (tree : ParseTree) : Bool :=
  (tree.part? .declarator).any fun declarator => (declaratorChain declarator).any declaresFunction

/-- The definition of a function is built if some declarator on the way to its name declares a
function, and otherwise it leaves no trace. -/
theorem buildTree_functionDefinition (source : List Char) (role : Role) (tree : ParseTree)
    (parent : NodeId) (draft : Draft) (hconstruct : tree.construct = .functionDefinition)
    (hparent : parent < draft.outline.size) :
    let run := (buildTree source role tree parent).run draft
    (isDeclaredFunction tree = true → DefinesFunction source tree parent draft run) ∧
      (isDeclaredFunction tree = false → run = (none, draft)) := by
  intro run
  obtain ⟨above, habove⟩ := exists_info? hparent
  have hrule : run = (Rules.functionDefinitionRule source (buildSmaller source tree) tree
      parent).run draft := by
    unfold run
    rw [buildTree_eq, Rules.rule]
    simp only [hconstruct]
  rw [hrule]
  unfold isDeclaredFunction Rules.functionDefinitionRule
  cases hdeclarator : tree.part? .declarator with
  | none => exact ⟨nofun, fun _ => rfl⟩
  | some declarator =>
    have hfunction := Declarator.ofTree_function source declarator
    simp only [Option.any_some]
    cases hsignature : (Declarator.ofTree source declarator).function with
    | none =>
      rw [hsignature] at hfunction
      have hnone : (declaratorChain declarator).any declaresFunction = false := by
        simpa using hfunction.symm
      rw [hnone]
      exact ⟨nofun, fun _ => rfl⟩
    | some signature =>
      rw [hsignature] at hfunction
      have hdeclares := List.mem_filter.1 (List.mem_of_getLast? hfunction.symm)
      have hany : (declaratorChain declarator).any declaresFunction = true :=
        List.any_eq_true.2 ⟨signature, hdeclares⟩
      have hmem : signature ∈ tree.subtrees :=
        mem_subtrees_trans (Declarator.function_mem_subtrees hsignature)
          (mem_subtrees_of_mem_children (mem_children_of_part?_eq hdeclarator))
      rw [hany]
      have hnew := isNew_of_add habove (draft.withFunction_outline parent (functionInfo source draft
        tree (Declarator.ofTree source declarator) signature (BaseType.ofTree source tree)
        (tree.part? .body)))
      have hkind := Rules.isFunctionDeclaration_functionNameKind source draft
        (Declarator.ofTree source declarator).name
      refine ⟨fun _ => ?_, nofun⟩
      rw [StateT.run_bind, function_run]
      exact hnew.definesFunction hparent hkind rfl rfl hmem _

/-- The definition `int (*f(int x))(char) { return x; }`: a function that gives a pointer to a
function. -/
def pointerGivingFunction : ParseTree :=
  .plain "function_definition" 0 35 none [
    .plain "primitive_type" 0 3 (some .type) [],
    .plain "function_declarator" 4 21 (some .declarator) [
      .plain "parenthesized_declarator" 4 15 (some .declarator) [
        .plain "pointer_declarator" 5 14 none [
          .plain "function_declarator" 6 14 (some .declarator) [
            .plain "identifier" 6 7 (some .declarator) [],
            .plain "parameter_list" 7 14 (some .parameters) [
              .plain "parameter_declaration" 8 13 none [
                .plain "primitive_type" 8 11 (some .type) [],
                .plain "identifier" 12 13 (some .declarator) []]]]]],
      .plain "parameter_list" 15 21 (some .parameters) [
        .plain "parameter_declaration" 16 20 none [
          .plain "primitive_type" 16 20 (some .type) []]]],
    .plain "compound_statement" 22 35 (some .body) [
      .plain "return_statement" 24 33 none [
        .plain "identifier" 31 32 none []]]]

/-- The inner one of its function declarators declares the function, and the definition is built. -/
theorem pointerGivingFunction_defines :
    let source := "int (*f(int x))(char) { return x; }".toList
    let start := Draft.start source "a.c" pointerGivingFunction
    let run := (buildTree source .member pointerGivingFunction root).run start
    DefinesFunction source pointerGivingFunction root start run ∧ run.2.outline.size = 4 := by
  intro source start run
  have hconstruct : pointerGivingFunction.construct = .functionDefinition := by decide +kernel
  have hdeclared : isDeclaredFunction pointerGivingFunction = true := by decide +kernel
  have hbuilt := buildTree_functionDefinition source .member pointerGivingFunction root start
    hconstruct (by decide)
  exact ⟨hbuilt.1 hdeclared, by decide +kernel⟩

/-- The definition `int (f)(int x) { return x; }`: a function with its name in parentheses. -/
def parenthesizedFunction : ParseTree :=
  .plain "function_definition" 0 28 none [
    .plain "primitive_type" 0 3 (some .type) [],
    .plain "function_declarator" 4 14 (some .declarator) [
      .plain "parenthesized_declarator" 4 7 (some .declarator) [
        .plain "identifier" 5 6 none []],
      .plain "parameter_list" 7 14 (some .parameters) [
        .plain "parameter_declaration" 8 13 none [
          .plain "primitive_type" 8 11 (some .type) [],
          .plain "identifier" 12 13 (some .declarator) []]]],
    .plain "compound_statement" 15 28 (some .body) [
      .plain "return_statement" 17 26 none [
        .plain "identifier" 24 25 none []]]]

/-- There is a function declarator on the way to its name, but nothing is built. -/
theorem parenthesizedFunction_lost :
    let source := "int (f)(int x) { return x; }".toList
    let start := Draft.start source "a.c" parenthesizedFunction
    parenthesizedFunction.construct = .functionDefinition ∧
      ((parenthesizedFunction.part? .declarator).any fun declarator =>
        (declaratorChain declarator).any isFunctionDeclarator) = true ∧
      (parenthesizedFunction.part? .body).isSome = true ∧ start.outline.size = 1 ∧
      ((buildTree source .member parenthesizedFunction root).run start).2.outline.size = 1 := by
  refine ⟨?_, ?_, rfl, rfl, ?_⟩
  · decide +kernel
  · decide +kernel
  · decide +kernel

end StructSearch

import StructSearch.Proofs.Outline.RuleGrowth

/-!
# Templates and their declarations

A template makes no node of its own. What it adds is what its declaration alone would add, in the
same order: only the main node takes the kind and the place of the template, and it adopts the
parameters at the end. Visible names, classes and results are those of the declaration.

The declaration of a template is its last construct that is neither its parameters nor a comment.
The rule takes the first one instead. A clause that constrains the parameters stands between them
and the declaration, and then the template hides its declaration.

Results:
* `adopts_foldl`: what a row of new children does to an outline.
* `templateParameters_run`: the parameters are such a row.
* `buildTree_template`: a template adds what its declaration adds, if that is its only construct.
* `constrainedTemplate_hides_function`: a constrained template adds nothing at all.
-/

namespace StructSearch

open Source ParseTree Outline

/-! ## The constructs of a template -/

/-- The constructs of a template that are neither its parameters nor comments. -/
def templateConstructs (tree : ParseTree) : List ParseTree :=
  ((ParseTree.without .parameters tree.children).filter (·.label.isNamed)).filter
    (·.construct != .comment)

/-- The declaration that a template makes general. -/
def templateDeclaration? (tree : ParseTree) : Option ParseTree := (templateConstructs tree).getLast?

/-- The rule takes the first construct. -/
theorem templated?_eq_head? (tree : ParseTree) :
    Rules.templated? tree = (templateConstructs tree).head? :=
  (List.head?_filter).symm

/-- The record of a template parameter. -/
def templateParameterInfo? (source : List Char) (tree : ParseTree) : Option NodeInfo :=
  (Rules.templateParameter? source tree).map fun (kind, name, type) =>
    { NodeInfo.ofTree source kind name tree with type, isDefinition := true }

/-- The records of the parameters of a template, in order. -/
def templateParameterInfos (source : List Char) (tree : ParseTree) : List NodeInfo :=
  match tree.part? .parameters with
  | some list => list.namedChildren.filterMap (templateParameterInfo? source)
  | none => []

/-! ## Adopting children -/

/-- The second outline is the first one with template parameters added below a node. -/
structure Adopts (owner : NodeId) (infos : List NodeInfo) (before after : Outline) : Prop where
  size_eq : after.size = before.size + infos.length
  others : ∀ other < before.size, other ≠ owner → after.slot? other = before.slot? other
  owner_eq : after.slot? owner = (before.slot? owner).map fun slot => { slot with
    children := slot.children ++ List.range' before.size infos.length
    templateParameters := slot.templateParameters ++ List.range' before.size infos.length }
  added : ∀ k, after.slot? (before.size + k) =
    infos[k]?.map fun info => { info, parent := some owner }

theorem adopts_foldl {owner : NodeId} (infos : List NodeInfo) {outline : Outline}
    (howner : owner < outline.size) :
    Adopts owner infos outline
      (infos.foldl (fun grown info => grown.add owner info .template) outline) := by
  induction infos generalizing outline with
  | nil =>
    refine ⟨rfl, fun _ _ _ => rfl, ?_, fun k => ?_⟩
    · simp
    · rw [List.foldl_nil, slot?_eq_none (Nat.le_add_right _ _)]
      rfl
  | cons info rest ih =>
    have hsize : (outline.add owner info .template).size = outline.size + 1 := size_add _ _ _ _
    have howner' : owner < (outline.add owner info .template).size := by lia
    obtain ⟨hlength, hothers, howned, hadded⟩ := ih howner'
    have hslot := slot?_add outline owner info .template
    constructor
    · rw [List.foldl_cons, hlength, hsize, List.length_cons]
      omega
    · intro other hlt hne
      rw [List.foldl_cons, hothers other (by lia) hne, hslot, if_neg (by lia),
        if_neg hne.symm]
    · rw [List.foldl_cons, howned, hslot, if_neg (by lia), if_pos rfl, Option.map_map, hsize,
        List.length_cons, List.range'_succ]
      refine Option.map_congr fun slot _ => ?_
      simp [Slot.adopt]
    · intro k
      cases k with
      | zero =>
        rw [List.foldl_cons, Nat.add_zero, hothers outline.size (by lia) (by lia), hslot,
          if_pos rfl, if_pos howner]
        rfl
      | succ k =>
        have hk := hadded k
        rw [hsize, show outline.size + 1 + k = outline.size + (k + 1) by lia] at hk
        rw [List.foldl_cons, hk, List.getElem?_cons_succ]

/-- Building the parameters of a template adds them below its node and does nothing else. -/
theorem templateParameters_run (source : List Char) (owner : NodeId) (parts : List ParseTree)
    (draft : Draft) :
    (Rules.templateParameters source owner parts).run draft = ((), { draft with
      outline := (parts.filterMap (templateParameterInfo? source)).foldl
        (fun grown info => grown.add owner info .template) draft.outline }) := by
  induction parts generalizing draft with
  | nil => rfl
  | cons part rest ih =>
    rw [Rules.templateParameters, List.filterMap_cons, templateParameterInfo?]
    cases Rules.templateParameter? source part with
    | none => exact ih draft
    | some parameter => exact ih (draft.withNode owner .template _)

/-! ## Templates -/

/-- Whether a template has parameters; without any it is a specialization. -/
def isGeneral (tree : ParseTree) : Bool :=
  (tree.part? .parameters).any (!·.namedChildren.isEmpty)

/-- The outline `after` is `alone` made general by a template: one node takes the kind and the
place of the template and adopts its parameters, and all other nodes stay as they are. -/
structure Generalizes (source : List Char) (tree : ParseTree) (main : NodeId)
    (alone after : Outline) : Prop where
  size_eq : after.size = alone.size + (templateParameterInfos source tree).length
  others : ∀ other < alone.size, other ≠ main → after.slot? other = alone.slot? other
  main_eq : after.slot? main = (alone.slot? main).map fun slot => { slot with
    info := { slot.info with
      kind := if isGeneral tree then Rules.templateKind slot.info.kind else slot.info.kind
      extent := tree.extent source
      range := tree.range }
    children := slot.children ++
      List.range' alone.size (templateParameterInfos source tree).length
    templateParameters := slot.templateParameters ++
      List.range' alone.size (templateParameterInfos source tree).length }
  parameters : ∀ k, after.slot? (alone.size + k) =
    (templateParameterInfos source tree)[k]?.map fun info => { info, parent := some main }

theorem generalizes_of_adopts {source : List Char} {tree : ParseTree} {main : NodeId}
    {alone after : Outline}
    (h : Adopts main (templateParameterInfos source tree)
      (alone.modifyInfo main (.generalized (isGeneral tree) (tree.extent source) tree.range))
      after) :
    Generalizes source tree main alone after := by
  obtain ⟨hsize, hothers, howner, hadded⟩ := h
  rw [size_modifyInfo] at hsize hothers howner hadded
  constructor
  · exact hsize
  · intro other hlt hne
    rw [hothers other hlt hne, slot?_modifyInfo, if_neg hne.symm]
  · rw [howner, slot?_modifyInfo, if_pos rfl, Option.map_map]
    rfl
  · exact hadded

/-- What a template does with the main node of its declaration. -/
def makeGeneral (source : List Char) (tree : ParseTree) (main : NodeId) :
    Build (Option NodeId) := do
  modify fun draft => { draft with
    outline := draft.outline.modifyInfo main
      (.generalized (isGeneral tree) (tree.extent source) tree.range) }
  match tree.part? .parameters with
  | some list => Rules.templateParameters source main list.namedChildren
  | none => pure ()
  return some main

theorem makeGeneral_run (source : List Char) (tree : ParseTree) {main : NodeId} {alone : Draft}
    (hmain : main < alone.outline.size) :
    ∃ after : Outline, Generalizes source tree main alone.outline after ∧
      (makeGeneral source tree main).run alone = (some main, { alone with outline := after }) := by
  have hsize : main < (alone.outline.modifyInfo main
      (.generalized (isGeneral tree) (tree.extent source) tree.range)).size := by
    rwa [size_modifyInfo]
  refine ⟨_, generalizes_of_adopts (adopts_foldl (templateParameterInfos source tree) hsize), ?_⟩
  unfold makeGeneral templateParameterInfos
  cases tree.part? .parameters with
  | none => rfl
  | some list =>
    simp only [StateT.run_bind, templateParameters_run]
    rfl

/-- Building a template is building its declaration and then making the main node general. -/
theorem buildTree_template_run {source : List Char} {tree inner : ParseTree} (role : Role)
    (parent : NodeId) (draft : Draft) (hconstruct : tree.construct = .templateDeclaration)
    (honly : templateConstructs tree = [inner]) :
    (buildTree source role tree parent).run draft =
      match (buildTree source .member inner parent).run draft with
      | (none, alone) => (none, alone)
      | (some main, alone) => (makeGeneral source tree main).run alone := by
  have hinner : Rules.templated? tree = some inner := by rw [templated?_eq_head?, honly]; rfl
  have hsmaller : inner.size < tree.size :=
    size_lt_of_mem_children (Rules.templated?_mem_children hinner)
  rw [buildTree_eq]
  unfold Rules.rule Rules.templateRule
  simp only [hconstruct, hinner, buildSmaller_of_lt hsmaller, StateT.run_bind]
  generalize (buildTree source .member inner parent).run draft = alone
  obtain ⟨main, alone⟩ := alone
  cases main <;> rfl

/-- A template whose only construct is its declaration adds what the declaration alone would add, in
the same order. The main node of the declaration, if it has one, takes the kind and the place of the
template, and the parameters follow below it. -/
theorem buildTree_template (source : List Char) (role : Role) (tree inner : ParseTree)
    (parent : NodeId) (draft : Draft) (hconstruct : tree.construct = .templateDeclaration)
    (honly : templateConstructs tree = [inner]) (hparent : parent < draft.outline.size) :
    let alone := (buildTree source .member inner parent).run draft
    let run := (buildTree source role tree parent).run draft
    run.1 = alone.1 ∧ run.2 = { alone.2 with outline := run.2.outline } ∧
      (alone.1 = none → run.2.outline = alone.2.outline) ∧
      (∀ main, alone.1 = some main →
        Generalizes source tree main alone.2.outline run.2.outline) ∧
      (draft.outline.size < alone.2.outline.size → draft.outline.size < run.2.outline.size) := by
  intro alone run
  obtain ⟨above, habove⟩ := exists_info? hparent
  have hbuilds : Builds (fun _ _ => True) (buildTree source) inner :=
    buildTree_builds (fun _ => trivial) (fun _ _ => trivial) fun part _ => fitted_any source part
  have hmain : IsMain _ _ _ _ alone.1 alone.2 :=
    (hbuilds .member parent draft above habove trivial (Or.inl rfl)).2
  have hrun : run = _ := buildTree_template_run role parent draft hconstruct honly
  rw [show (buildTree source .member inner parent).run draft = alone from rfl] at hrun
  clear_value alone run
  obtain ⟨main?, built⟩ := alone
  cases main? with
  | none =>
    rw [hrun]
    exact ⟨rfl, rfl, fun _ => rfl, nofun, id⟩
  | some main =>
    obtain ⟨-, -, info, hinfo, -⟩ := hmain main rfl
    obtain ⟨after, hafter, hmade⟩ :=
      makeGeneral_run source tree (lt_size_of_info?_eq hinfo)
    have hrun : run = (some main, { built with outline := after }) := hrun.trans hmade
    rw [hrun]
    refine ⟨rfl, rfl, nofun, ?_, fun hlt => ?_⟩
    · rintro _ ⟨⟩
      exact hafter
    · exact hlt.trans_le (hafter.size_eq ▸ Nat.le_add_right _ _)

/-- The structure of the source `template <class T> /* c */ struct A { T x; };`. -/
def commentedStruct : ParseTree :=
  .plain "struct_specifier" 27 44 none [
    .plain "type_identifier" 34 35 (some .name) [],
    .plain "field_declaration_list" 36 44 (some .body) [
      .plain "field_declaration" 38 42 none [
        .plain "type_identifier" 38 39 (some .type) [],
        .plain "field_identifier" 40 41 (some .declarator) []]]]

/-- The template of the same source, with a comment before its structure. -/
def commentedTemplate : ParseTree :=
  .plain "template_declaration" 0 45 none [
    .plain "template_parameter_list" 9 18 (some .parameters) [
      .plain "type_parameter_declaration" 10 17 none [
        .plain "type_identifier" 16 17 none []]],
    .plain "comment" 19 26 none [],
    commentedStruct]

/-- The node of the structure becomes a class template with a parameter after the data member. -/
theorem commentedTemplate_generalizes :
    let source := "template <class T> /* c */ struct A { T x; };".toList
    let start := Draft.start source "a.cpp" commentedTemplate
    let alone := (buildTree source .member commentedStruct root).run start
    let run := (buildTree source .member commentedTemplate root).run start
    templateConstructs commentedTemplate = [commentedStruct] ∧ alone.1 = some 1 ∧
      Generalizes source commentedTemplate 1 alone.2.outline run.2.outline ∧
      (templateParameterInfos source commentedTemplate).length = 1 ∧
      (run.2.outline.info? 1).map (·.kind) = some .classTemplate := by
  intro source start alone run
  have hconstruct : commentedTemplate.construct = .templateDeclaration := by decide +kernel
  have honly : templateConstructs commentedTemplate = [commentedStruct] := rfl
  have hmain : alone.1 = some 1 := by decide +kernel
  obtain ⟨-, -, -, hgeneral, -⟩ := buildTree_template source .member commentedTemplate
    commentedStruct root start hconstruct honly (by decide)
  exact ⟨honly, hmain, hgeneral 1 hmain, by decide +kernel, by decide +kernel⟩

/-- The function of the source `template <typename T> requires Big<T> void req(T t);`. -/
def constrainedFunction : ParseTree :=
  .plain "declaration" 38 52 none [
    .plain "primitive_type" 38 42 (some .type) [],
    .plain "function_declarator" 43 51 (some .declarator) [
      .plain "identifier" 43 46 (some .declarator) [],
      .plain "parameter_list" 46 51 (some .parameters) [
        .plain "parameter_declaration" 47 50 none [
          .plain "type_identifier" 47 48 (some .type) [],
          .plain "identifier" 49 50 (some .declarator) []]]]]

/-- The template of the same source, with a clause that constrains its parameter. -/
def constrainedTemplate : ParseTree :=
  .plain "template_declaration" 0 52 none [
    .plain "template_parameter_list" 9 21 (some .parameters) [
      .plain "type_parameter_declaration" 10 20 none [
        .plain "type_identifier" 19 20 none []]],
    .plain "requires_clause" 22 37 none [
      .plain "template_type" 31 37 none [
        .plain "type_identifier" 31 34 (some .name) [],
        .plain "template_argument_list" 34 37 (some .arguments) [
          .plain "type_descriptor" 35 36 none [
            .plain "type_identifier" 35 36 (some .type) []]]]],
    constrainedFunction]

/-- The declaration of the template alone adds a function and its parameter. The template adds
nothing, because its first construct is the clause. -/
theorem constrainedTemplate_hides_function :
    let source := "template <typename T> requires Big<T> void req(T t);".toList
    let start := Draft.start source "a.cpp" constrainedTemplate
    templateDeclaration? constrainedTemplate = some constrainedFunction ∧
      start.outline.size = 1 ∧
      ((buildTree source .member constrainedFunction root).run start).2.outline.size = 3 ∧
      ((buildTree source .member constrainedTemplate root).run start).2.outline.size = 1 := by
  refine ⟨rfl, rfl, ?_, ?_⟩
  · decide +kernel
  · decide +kernel

end StructSearch

import StructSearch.Proofs.Outline.Constness
import StructSearch.Proofs.Outline.Labels

/-!
# Constants of enumerations

The constants of an enumeration are the enumerators of its body that have a name. Those that stand
in a branch of conditional compilation are left out: unlike the body of a class, the body of an
enumeration is not looked through.

Results:
* `Rules.enumerators_children`: the nodes that are added for the constants of a body.
* `map_directConstants_eq_iff`: when no constant is left out.
* `buildTree_enumConstants`: the constants of every enumeration, as a type of its own, in a typedef
  or in a declaration.
* `conditionalConstant_lost`: an enumeration without one of its constants.
-/

namespace StructSearch

open Source ParseTree Outline

/-! ## Constants in a body -/

/-- A constant of an enumeration with a name. -/
def isNamedConstant (tree : ParseTree) : Bool :=
  tree.construct == .enumerator && (tree.part? .name).isSome

/-- A branch of conditional compilation, with its alternatives. -/
def isConditional (tree : ParseTree) : Bool :=
  isBranch tree.construct || tree.label.name == "preproc_else"

/-- The constants that a tree in a body stands for: itself, or those in the branches of conditional
compilation, to any depth. -/
def constantsIn (tree : ParseTree) : List ParseTree :=
  if isNamedConstant tree then [tree]
  else if isConditional tree then tree.namedChildren.attach.flatMap fun part => constantsIn part.1
  else []
termination_by tree.size
decreasing_by exact size_lt_of_mem_children (mem_children_of_mem_namedChildren part.2)

/-- All constants of a body, in the order of the source. -/
def allConstants (body : ParseTree) : List ParseTree := body.namedChildren.flatMap constantsIn

/-- The constants of a body that stand in no branch of conditional compilation. -/
def directConstants (body : ParseTree) : List ParseTree := body.namedChildren.filter isNamedConstant

theorem constantsIn_of_isNamedConstant {tree : ParseTree} (h : isNamedConstant tree = true) :
    constantsIn tree = [tree] := by
  rw [constantsIn, if_pos h]

theorem constantsIn_eq_nil {tree : ParseTree} (h : isNamedConstant tree = false)
    (hconditional : isConditional tree = false) : constantsIn tree = [] := by
  rw [constantsIn, if_neg (by simp [h]), if_neg (by simp [hconditional])]

theorem isConditional_of_isNamedConstant {tree : ParseTree} (h : isNamedConstant tree = true) :
    isConditional tree = false := by
  have hconstruct : tree.construct = .enumerator :=
    eq_of_beq (Bool.and_eq_true_iff.1 h).1
  have hname : tree.label.name ≠ "preproc_else" := by
    intro hname
    rw [construct, hname] at hconstruct
    exact absurd hconstruct (by decide +kernel)
  rw [isConditional, hconstruct]
  simpa [isBranch] using hname

theorem length_filter_le_length_constants (trees : List ParseTree) :
    (trees.filter isNamedConstant).length ≤ (trees.flatMap constantsIn).length := by
  induction trees with
  | nil => exact le_rfl
  | cons tree rest ih =>
    rw [List.flatMap_cons, List.length_append]
    cases hconstant : isNamedConstant tree with
    | true =>
      rw [List.filter_cons_of_pos hconstant, constantsIn_of_isNamedConstant hconstant,
        List.length_cons, List.length_singleton]
      lia
    | false =>
      rw [List.filter_cons_of_neg (by simp [hconstant])]
      lia

theorem constantsIn_eq_nil_of_length_eq {trees : List ParseTree}
    (h : (trees.filter isNamedConstant).length = (trees.flatMap constantsIn).length) :
    ∀ tree ∈ trees, isConditional tree = true → constantsIn tree = [] := by
  induction trees with
  | nil => exact nofun
  | cons tree rest ih =>
    have hle := length_filter_le_length_constants rest
    rw [List.flatMap_cons, List.length_append] at h
    rw [List.forall_mem_cons]
    cases hconstant : isNamedConstant tree with
    | true =>
      rw [List.filter_cons_of_pos hconstant, constantsIn_of_isNamedConstant hconstant,
        List.length_cons, List.length_singleton] at h
      refine ⟨fun hconditional => ?_, ih (by lia)⟩
      rw [isConditional_of_isNamedConstant hconstant] at hconditional
      cases hconditional
    | false =>
      rw [List.filter_cons_of_neg (by simp [hconstant])] at h
      exact ⟨fun _ => List.length_eq_zero_iff.1 (by lia), ih (by lia)⟩

theorem filter_eq_constants {trees : List ParseTree}
    (h : ∀ tree ∈ trees, isConditional tree = true → constantsIn tree = []) :
    trees.filter isNamedConstant = trees.flatMap constantsIn := by
  induction trees with
  | nil => rfl
  | cons tree rest ih =>
    rw [List.forall_mem_cons] at h
    rw [List.flatMap_cons]
    cases hconstant : isNamedConstant tree with
    | true =>
      rw [List.filter_cons_of_pos hconstant, constantsIn_of_isNamedConstant hconstant, ih h.2]
      rfl
    | false =>
      have hnil : constantsIn tree = [] := by
        cases hconditional : isConditional tree with
        | true => exact h.1 hconditional
        | false => exact constantsIn_eq_nil hconstant hconditional
      rw [List.filter_cons_of_neg (by simp [hconstant]), hnil, ih h.2]
      rfl

/-- Whatever is recorded of the constants, none is left out iff there is none in a branch of
conditional compilation. -/
theorem map_directConstants_eq_iff {α : Type} (f : ParseTree → α) (body : ParseTree) :
    (directConstants body).map f = (allConstants body).map f ↔
      ∀ tree ∈ body.namedChildren, isConditional tree = true → constantsIn tree = [] := by
  refine ⟨fun h => constantsIn_eq_nil_of_length_eq ?_, fun h => ?_⟩
  · have hlength := congrArg List.length h
    rwa [List.length_map, List.length_map] at hlength
  · exact congrArg (List.map f) (filter_eq_constants h)

/-! ## Building the constants -/

/-- The record of a constant of an enumeration. -/
def constantInfo (source : List Char) (type : String) (tree : ParseTree) : NodeInfo :=
  { NodeInfo.ofTree source .enumConstant (tree.partWords source .name) tree with
    type, isDefinition := true }

namespace Rules

variable {source : List Char} {build : Recursion} {tree : ParseTree} {parent : NodeId}
  {draft : Draft} {above : NodeInfo}

/-- The draft after a constant is added and made visible, and its value is built below it. -/
def withConstant (source : List Char) (build : Recursion) (type : String) (parent : NodeId)
    (constant : ParseTree) (draft : Draft) : Draft :=
  ((optional build draft.outline.size (constant.part? .value)).run
    ((draft.withNode parent .member (constantInfo source type constant)).withBinding
      (constant.partWords source .name) type)).2

theorem enumerators_cons_of_isNamedConstant {constant : ParseTree}
    (h : isNamedConstant constant = true) (type : String) (rest : List ParseTree) :
    (enumerators source build type parent (constant :: rest)).run draft =
      (enumerators source build type parent rest).run
        (withConstant source build type parent constant draft) := by
  obtain ⟨hconstruct, hname⟩ := Bool.and_eq_true_iff.1 h
  obtain ⟨name, hname⟩ := Option.isSome_iff_exists.1 hname
  have hwords : constant.partWords source .name = name.words source := by rw [partWords, hname]
  rw [enumerators, if_pos (eq_of_beq hconstruct), withConstant, constantInfo, hwords, hname]
  rfl

theorem enumerators_cons_of_not_isNamedConstant {constant : ParseTree}
    (h : isNamedConstant constant = false) (type : String) (rest : List ParseTree) :
    enumerators source build type parent (constant :: rest) =
      enumerators source build type parent rest := by
  rw [enumerators]
  split_ifs with hconstruct
  · rw [isNamedConstant, hconstruct] at h
    have hname : constant.part? .name = none := by simpa using h
    rw [hname]
  · rfl

/-- A constant is the last child of its enumeration, and its value stays below it. -/
theorem withConstant_spec {fits : ByteRange → ByteRange → Prop} {constant : ParseTree}
    (h : Ready fits source build tree) (habove : draft.outline.info? parent = some above)
    (hconstant : constant ∈ tree.subtrees) (type : String) :
    let after := withConstant source build type parent constant draft
    after.outline.children parent = draft.outline.children parent ++ [draft.outline.size] ∧
      after.outline.info? draft.outline.size = some (constantInfo source type constant) ∧
      after.outline.info? parent = some above := by
  intro after
  let start := (draft.withNode parent .member (constantInfo source type constant)).withBinding
    (constant.partWords source .name) type
  have hstart : start.outline = draft.outline.add parent (constantInfo source type constant)
      .member := Draft.withBinding_outline _ _ _
  have hnew := isNew_of_add habove hstart
  have hsize := hnew.size_eq
  have hparent := lt_size_of_info?_eq habove
  have hbelongs : Belongs fits tree (constantInfo source type constant) constant :=
    ⟨hconstant, h.refl _⟩
  have hsteps : Steps fits start.outline.size draft.outline.size start after :=
    (optional_grows h hnew.info_eq fun value hv =>
      h.child hbelongs (mem_children_of_part?_eq hv)).1
  refine ⟨?_, ?_, ?_⟩
  · rw [hsteps.children_eq (by lia) (Nat.ne_of_lt hparent), hstart, children_add,
      if_pos ⟨rfl, hparent⟩]
  · exact hsteps.keeps le_rfl (by lia) hnew.info_eq
  · exact hsteps.keeps le_rfl (by lia) (hnew.keeps habove).1

/-- The nodes that are added for the constants of a body. -/
theorem enumerators_children {fits : ByteRange → ByteRange → Prop}
    (h : Ready fits source build tree) (habove : draft.outline.info? parent = some above)
    {trees : List ParseTree} (htrees : ∀ part ∈ trees, Belongs fits tree above part)
    (type : String) :
    let run := (enumerators source build type parent trees).run draft
    ∃ added, run.2.outline.children parent = draft.outline.children parent ++ added ∧
      added.map run.2.outline.info? =
        (trees.filter isNamedConstant).map fun constant =>
          some (constantInfo source type constant) := by
  induction trees generalizing draft with
  | nil => exact ⟨[], (List.append_nil _).symm, rfl⟩
  | cons constant rest ih =>
    rw [List.forall_mem_cons] at htrees
    cases hconstant : isNamedConstant constant with
    | false =>
      rw [List.filter_cons_of_neg (by simp [hconstant]),
        enumerators_cons_of_not_isNamedConstant hconstant]
      exact ih habove htrees.2
    | true =>
      rw [List.filter_cons_of_pos hconstant, enumerators_cons_of_isNamedConstant hconstant]
      obtain ⟨hchildren, hinfo, hafter⟩ := withConstant_spec h habove htrees.1.mem type
      obtain ⟨added, hadded, hinfos⟩ := ih hafter htrees.2
      refine ⟨draft.outline.size :: added, ?_, ?_⟩
      · rw [hadded, hchildren, List.append_assoc]
        rfl
      · -- The other constants leave the record of this one alone.
        have hrest := (enumerators_grows h hafter htrees.2 type).1
        have hkept := hrest.keeps le_rfl (lt_size_of_info?_eq hinfo) hinfo
        rw [List.map_cons, List.map_cons, hkept, hinfos]

end Rules

/-! ## Enumerations -/

/-- The node `id` of an outline, with the record `info`, is that of an enumeration below `parent`,
and its children are the constants of the body that stand in no branch of conditional
compilation. -/
structure IsEnumNode (source : List Char) (enumeration body : ParseTree) (parent : NodeId)
    (outline : Outline) (id : NodeId) (info : NodeInfo) : Prop where
  info_eq : outline.info? id = some info
  parent_eq : outline.parent? id = some parent
  kind_eq : info.kind = .enumDecl
  range_eq : info.range = enumeration.range
  children_eq : (outline.children id).map outline.info? =
    (directConstants body).map fun constant => some (constantInfo source info.spelling constant)

section Enum

variable {fits : ByteRange → ByteRange → Prop} {source : List Char} {build : Recursion}
  {enumeration body : ParseTree} {parent : NodeId} {draft : Draft} {above : NodeInfo}

/-- What is built elsewhere afterwards leaves an enumeration and its constants alone. -/
theorem IsEnumNode.keeps {middle after : Draft} {id : NodeId} {info : NodeInfo}
    (h : IsEnumNode source enumeration body parent middle.outline id info)
    (hlinked : middle.outline.Linked)
    (hsteps : Steps fits middle.outline.size parent middle after) :
    IsEnumNode source enumeration body parent after.outline id info := by
  have hid := lt_size_of_info?_eq h.info_eq
  have hne : id ≠ parent := (Nat.ne_of_lt (hlinked.parent_lt h.parent_eq)).symm
  refine ⟨?_, ?_, h.kind_eq, h.range_eq, ?_⟩
  · exact hsteps.keeps le_rfl hid h.info_eq
  · rw [hsteps.parent?_eq hid, h.parent_eq]
  · rw [hsteps.children_eq hid hne, ← h.children_eq]
    refine List.map_congr_left fun child hchild => ?_
    exact hsteps.info?_eq le_rfl (lt_size_of_parent?_eq (hlinked.mem_children.1 hchild))

/-- An enumeration is built with the constants of its body. -/
theorem Rules.enumRule_isEnumNode (h : Ready fits source build enumeration)
    (habove : draft.outline.info? parent = some above)
    (hbelongs : Belongs fits enumeration above enumeration)
    (hbody : enumeration.part? .body = some body) (fallback : Option String) :
    ∃ info, IsEnumNode source enumeration body parent
      ((enumRule source build fallback enumeration parent).run draft).2.outline
      draft.outline.size info := by
  let name := specifierName source fallback enumeration
  let info : NodeInfo := { NodeInfo.ofTree source .enumDecl name enumeration with
    isDefinition := true, access := draft.memberAccess }
  let start := draft.withNode parent .member info
  have hnew : IsNew draft parent info start := isNew_of_add habove rfl
  have hsize := hnew.size_eq
  have hown : Belongs fits enumeration info enumeration := ⟨hbelongs.mem, h.refl _⟩
  have hinside := h.child hown (mem_children_of_part?_eq hbody)
  have hparts : ∀ part ∈ body.namedChildren, Belongs fits enumeration info part :=
    fun part hpart => h.child hinside (mem_children_of_mem_namedChildren hpart)
  have hrun : ((enumRule source build fallback enumeration parent).run draft).2 =
      ((enumerators source build name draft.outline.size body.namedChildren).run start).2 := by
    unfold enumRule
    rw [hbody]
    rfl
  obtain ⟨added, hadded, hinfos⟩ := enumerators_children h hnew.info_eq hparts name
  have hsteps := (enumerators_grows h hnew.info_eq hparts name).1
  have hnone : start.outline.children draft.outline.size = [] := by
    rw [Draft.withNode_outline, children_add, if_neg (by lia), children_eq_nil le_rfl]
  rw [hrun]
  refine ⟨info, ?_, ?_, rfl, rfl, ?_⟩
  · exact hsteps.keeps le_rfl (by lia) hnew.info_eq
  · rw [hsteps.parent?_eq (by lia), hnew.parent_eq]
  · rw [hadded, hnone, List.nil_append]
    exact hinfos

end Enum

/-- The enumeration that a construct defines: itself, or the type of a typedef or a declaration. -/
def definedEnum? (tree : ParseTree) : Option ParseTree :=
  match tree.construct with
  | .enumSpecifier => some tree
  | .typeDefinition | .declaration | .fieldDeclaration =>
    (Rules.inlineType? tree).filter (·.construct == .enumSpecifier)
  | _ => none

section Definitions

variable {source : List Char} {role : Role} {tree enumeration body : ParseTree} {parent : NodeId}
  {draft : Draft} (hparent : parent < draft.outline.size)
  (hbody : enumeration.part? .body = some body)
  (henumeration : enumeration.construct = .enumSpecifier)
include hparent hbody henumeration

theorem buildTree_enumSpecifier :
    ∃ info, IsEnumNode source enumeration body parent
      ((buildTree source role enumeration parent).run draft).2.outline draft.outline.size info := by
  obtain ⟨above, habove⟩ := exists_info? hparent
  have hready := buildSmaller_ready_any source enumeration
  have hrule : buildTree source role enumeration parent =
      Rules.enumRule source (buildSmaller source enumeration) none enumeration parent := by
    rw [buildTree_eq, Rules.rule]
    simp only [henumeration]
  rw [hrule]
  exact Rules.enumRule_isEnumNode hready habove ⟨self_mem_subtrees enumeration, trivial⟩ hbody none

variable (hlinked : draft.outline.Linked)
include hlinked

theorem buildTree_typedef_enum (hconstruct : tree.construct = .typeDefinition)
    (htype : Rules.inlineType? tree = some enumeration) :
    ∃ info, IsEnumNode source enumeration body parent
      ((buildTree source role tree parent).run draft).2.outline draft.outline.size info := by
  obtain ⟨above, habove⟩ := exists_info? hparent
  have hready := buildSmaller_ready_any source tree
  have htree : Belongs (fun _ _ => True) tree above tree := ⟨self_mem_subtrees tree, trivial⟩
  have hchild := mem_children_of_part?_eq (Rules.part?_eq_of_inlineType? htype)
  have hinside := hready.part (mem_subtrees_of_mem_children hchild)
  have hbelongs : Belongs (fun _ _ => True) enumeration above enumeration :=
    ⟨self_mem_subtrees enumeration, trivial⟩
  have hrule : buildTree source role tree parent =
      Rules.typedefRule source (buildSmaller source tree) tree parent := by
    rw [buildTree_eq, Rules.rule]
    simp only [hconstruct]
  rw [hrule, Rules.typedefRule]
  simp only [htype, henumeration, if_true]
  -- The typedefs are added after the enumeration.
  generalize (tree.parts .declarator).head?.bind _ = firstName
  obtain ⟨info, hnode⟩ := Rules.enumRule_isEnumNode hinside habove hbelongs hbody firstName
  obtain ⟨hsteps, hmain⟩ := Rules.enumRule_grows hinside habove hbelongs firstName
  have habove' := hsteps.keeps le_rfl (lt_size_of_info?_eq habove) habove
  obtain ⟨hnames, -⟩ : Grows (fun _ _ => True) _ parent _ (Rules.typedefNames source tree
      (BaseType.ofTree source tree) firstName parent _ (tree.parts .declarator)) _ :=
    Rules.typedefNames_grows hready habove' htree hsteps.size_le
      (IsMain.trans hmain hready trivial) _
  exact ⟨info, hnode.keeps (hsteps.linked hlinked) hnames⟩

theorem buildTree_declaration_enum
    (hconstruct : tree.construct = .declaration ∨ tree.construct = .fieldDeclaration)
    (htype : Rules.inlineType? tree = some enumeration) :
    ∃ info, IsEnumNode source enumeration body parent
      ((buildTree source role tree parent).run draft).2.outline draft.outline.size info := by
  obtain ⟨above, habove⟩ := exists_info? hparent
  have hready := buildSmaller_ready_any source tree
  have htree : Belongs (fun _ _ => True) tree above tree := ⟨self_mem_subtrees tree, trivial⟩
  have hchild := mem_children_of_part?_eq (Rules.part?_eq_of_inlineType? htype)
  have hbuild : buildSmaller source tree .member enumeration parent =
      buildTree source .member enumeration parent :=
    buildSmaller_of_lt (size_lt_of_mem_children hchild)
  obtain ⟨info, hnode⟩ : ∃ info, IsEnumNode source enumeration body parent
      ((buildTree source .member enumeration parent).run draft).2.outline _ info :=
    buildTree_enumSpecifier hparent hbody henumeration
  obtain ⟨hsteps, hmain⟩ := hready.build_grows habove (hready.child htree hchild)
  have habove' := hsteps.keeps le_rfl (lt_size_of_info?_eq habove) habove
  -- The variables are added after the enumeration.
  obtain ⟨hvariables, -⟩ : Grows (fun _ _ => True) _ parent _ (Rules.declarators source
      (buildSmaller source tree) tree (BaseType.ofTree source tree) parent _
      (tree.parts .declarator)) _ :=
    Rules.declarators_grows hready habove' htree hconstruct hsteps.size_le
      (IsMain.trans hmain hready trivial) fun _ => id
  rw [← hbuild] at hnode
  rw [buildTree_declaration role parent hconstruct, Rules.declarationOf, htype]
  exact ⟨info, hnode.keeps (hsteps.linked hlinked) hvariables⟩

end Definitions

/-- The children of an enumeration are the constants of its body that stand in no branch of
conditional compilation. They are all constants of the body iff no such branch holds one. -/
theorem buildTree_enumConstants (source : List Char) (role : Role)
    (tree enumeration body : ParseTree) (parent : NodeId) (draft : Draft)
    (henum : definedEnum? tree = some enumeration) (hbody : enumeration.part? .body = some body)
    (hlinked : draft.outline.Linked) (hparent : parent < draft.outline.size) :
    let outline := ((buildTree source role tree parent).run draft).2.outline
    ∃ info, IsEnumNode source enumeration body parent outline draft.outline.size info ∧
      ((outline.children draft.outline.size).map outline.info? =
          (allConstants body).map (fun constant =>
            some (constantInfo source info.spelling constant)) ↔
        ∀ part ∈ body.namedChildren, isConditional part = true → constantsIn part = []) := by
  intro outline
  have hnode : ∃ info,
      IsEnumNode source enumeration body parent outline draft.outline.size info := by
    unfold definedEnum? at henum
    split at henum
    next hconstruct =>
      obtain rfl := Option.some.inj henum
      exact buildTree_enumSpecifier hparent hbody hconstruct
    next hconstruct =>
      obtain ⟨htype, henumeration⟩ := Option.filter_eq_some_iff.1 henum
      exact buildTree_typedef_enum hparent hbody (eq_of_beq henumeration) hlinked hconstruct htype
    next hconstruct =>
      obtain ⟨htype, henumeration⟩ := Option.filter_eq_some_iff.1 henum
      exact buildTree_declaration_enum hparent hbody (eq_of_beq henumeration) hlinked
        (Or.inl hconstruct) htype
    next hconstruct =>
      obtain ⟨htype, henumeration⟩ := Option.filter_eq_some_iff.1 henum
      exact buildTree_declaration_enum hparent hbody (eq_of_beq henumeration) hlinked
        (Or.inr hconstruct) htype
    next => cases henum
  obtain ⟨info, hnode⟩ := hnode
  refine ⟨info, hnode, ?_⟩
  rw [hnode.children_eq, map_directConstants_eq_iff]

/-- The body of the enumeration in the source `typedef enum { A, B = 2 } E;`. -/
def plainConstants : ParseTree :=
  .plain "enumerator_list" 13 25 (some .body) [
    .plain "enumerator" 15 16 none [.plain "identifier" 15 16 (some .name) []],
    .plain "enumerator" 18 23 none [
      .plain "identifier" 18 19 (some .name) [],
      .plain "number_literal" 22 23 (some .value) []]]

/-- The typedef of the same source. -/
def plainEnum : ParseTree :=
  .plain "type_definition" 0 28 none [
    .plain "enum_specifier" 8 25 (some .type) [plainConstants],
    .plain "type_identifier" 26 27 (some .declarator) []]

/-- The enumeration of the typedef has both its constants. -/
theorem plainEnum_constants :
    let source := "typedef enum { A, B = 2 } E;".toList
    let start := Draft.start source "a.c" plainEnum
    let outline := ((buildTree source .member plainEnum root).run start).2.outline
    ∃ info, outline.info? 1 = some info ∧ info.kind = .enumDecl ∧
      (outline.children 1).map outline.info? = (allConstants plainConstants).map (fun constant =>
        some (constantInfo source info.spelling constant)) ∧
      (allConstants plainConstants).map (·.partWords source .name) = ["A", "B"] := by
  intro source start outline
  have henum : definedEnum? plainEnum =
      some (.plain "enum_specifier" 8 25 (some .type) [plainConstants]) := by
    have hconstruct : plainEnum.construct = .typeDefinition := by decide +kernel
    simp only [definedEnum?, hconstruct]
    exact Option.filter_eq_some_iff.2 ⟨rfl, by decide +kernel⟩
  obtain ⟨info, hnode, hall⟩ := buildTree_enumConstants source .member plainEnum _ plainConstants
    root start henum rfl (linked_single _) (by decide)
  exact ⟨info, hnode.info_eq, hnode.kind_eq, hall.2 (by decide +kernel), by decide +kernel⟩

/-- The body of the enumeration in the source `enum E { A, #if X B, #endif C };`, with the
directives on lines of their own. -/
def conditionalConstants : ParseTree :=
  .plain "enumerator_list" 7 33 (some .body) [
    .plain "enumerator" 9 10 none [.plain "identifier" 9 10 (some .name) []],
    .plain "preproc_if" 12 28 none [
      .plain "identifier" 16 17 (some .condition) [],
      .plain "enumerator" 19 20 none [.plain "identifier" 19 20 (some .name) []]],
    .plain "enumerator" 30 31 none [.plain "identifier" 30 31 (some .name) []]]

/-- The constant `B` is left out. -/
theorem conditionalConstant_lost :
    let source := "enum E \x7b A,\n#if X\n B,\n#endif\n C \x7d;"
    let outline := Outline.ofParseTree source "a.c" (.plain "translation_unit" 0 34 none [
      .plain "enum_specifier" 0 33 none [
        .plain "type_identifier" 5 6 (some .name) [],
        conditionalConstants]])
    (allConstants conditionalConstants).map (·.partWords source.toList .name) = ["A", "B", "C"] ∧
      (outline.info? 1).map (·.kind) = some .enumDecl ∧
      (outline.children 1).map (fun id => (outline.info? id).map (·.spelling)) =
        [some "A", some "C"] := by
  refine ⟨?_, ?_, ?_⟩
  · decide +kernel
  · decide +kernel
  · decide +kernel

end StructSearch

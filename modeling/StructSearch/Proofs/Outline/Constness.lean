import StructSearch.Proofs.Outline.RuleGrowth

/-!
# Constant variables

A variable is constant if its type is. The type of a pointer is constant if the pointer is, whatever
it points to: `int **const p` is constant and `int *const *p` is not, so the pointer nearest the
name counts. A declarator is taken apart from the outside in, and the first pointer decides, which
is the one farthest from the name. With at most one pointer that makes no difference.

Results:
* `unwrap_pointsAround`: what a declarator of pointers is taken apart into.
* `declarators_append`: the declarators of a declaration are built one after the other.
* `buildTree_variable_isConst`: which variables are marked as constant, and when that is right.
* `pointerToConstant_marked`: a variable that is marked and is not constant.
-/

namespace StructSearch

open Source ParseTree Outline

/-! ## Declarators of pointers -/

/-- A declarator wraps a name in pointers, given from the outside in, and in nothing else but an
initial value. -/
inductive PointsAround : ParseTree → List ParseTree → ParseTree → Prop
  | name {tree : ParseTree} (hname : wrapsName tree.construct = false) :
      PointsAround tree [] tree
  | value {tree inner name : ParseTree} {pointers : List ParseTree}
      (hconstruct : tree.construct = .initDeclarator) (hinner : tree.part? .declarator = some inner)
      (h : PointsAround inner pointers name) : PointsAround tree pointers name
  | pointer {tree inner name : ParseTree} {pointers : List ParseTree}
      (hconstruct : tree.construct = .pointerDeclarator)
      (hinner : tree.part? .declarator = some inner) (h : PointsAround inner pointers name) :
      PointsAround tree (tree :: pointers) name

namespace Declarator

variable {source : List Char} {tree name : ParseTree} {pointers : List ParseTree}

theorem unwrap_pointsAround (h : PointsAround tree pointers name) (d : Declarator) :
    (unwrap source d tree).name = some name ∧ (unwrap source d tree).function = d.function ∧
      (unwrap source d tree).outerConst =
        d.outerConst.or (pointers.head?.map (hasConst source)) := by
  induction h generalizing d with
  | name hname =>
    rw [unwrap_name hname]
    exact ⟨rfl, rfl, Option.or_none.symm⟩
  | value hconstruct hinner _ ih =>
    rw [unwrap_value hconstruct hinner]
    exact ih _
  | pointer hconstruct hinner _ ih =>
    rw [unwrap_pointer hconstruct hinner]
    obtain ⟨hname, hfunction, hconst⟩ := ih _
    refine ⟨hname, hfunction, ?_⟩
    -- Whatever the inner pointers say, the outer one has been taken.
    rw [hconst, List.head?_cons, Option.map_some, Option.or_assoc, Option.some_or]

/-- A declarator of pointers declares its name and no function, and its outermost pointer is taken
for the one that decides whether the variable is constant. -/
theorem ofTree_pointsAround (h : PointsAround tree pointers name) :
    (ofTree source tree).name = some name ∧ (ofTree source tree).function = none ∧
      (ofTree source tree).outerConst = pointers.head?.map (hasConst source) := by
  obtain ⟨hname, hfunction, hconst⟩ := unwrap_pointsAround h {}
  exact ⟨hname, hfunction, hconst.trans (Option.none_or ..)⟩

end Declarator

/-! ## Constant types -/

/-- Whether a declaration has the qualifier `const` beside its type. -/
def declaresConst (source : List Char) (tree : ParseTree) : Bool :=
  tree.namedChildren.any fun child =>
    child.construct == .typeQualifier && child.words source == "const"

theorem BaseType.ofTree_isConst (source : List Char) (tree : ParseTree) :
    (BaseType.ofTree source tree).isConst = declaresConst source tree := by
  rw [BaseType.ofTree, declaresConst, ← List.any_beq', List.any_map, List.any_filter]
  rfl

/-- Whether the type of a variable is constant: that of the pointer nearest its name or, without
pointers, the type of the declaration. -/
def isConstVariable (source : List Char) (tree : ParseTree) (pointers : List ParseTree) : Bool :=
  (pointers.getLast?.map (hasConst source)).getD (declaresConst source tree)

/-! ## The variables of a declaration -/

namespace Rules

variable {source : List Char} {build : Recursion} {tree : ParseTree} {parent : NodeId}

theorem declarators_append (base : BaseType) (first : Option NodeId) (front back : List ParseTree) :
    declarators source build tree base parent first (front ++ back) = (do
      let main ← declarators source build tree base parent first front
      declarators source build tree base parent main back) := by
  induction front generalizing first with
  | nil => rfl
  | cons declaratorTree rest ih =>
    rw [List.cons_append, declarators, declarators]
    cases (Declarator.ofTree source declaratorTree).function with
    | none => simp only [ih, bind_assoc]
    | some signature => simp only [ih, bind_assoc]

theorem declarationOf_append (front back : List ParseTree) :
    declarationOf source build tree parent (front ++ back) = (do
      let main ← declarationOf source build tree parent front
      declarators source build tree (BaseType.ofTree source tree) parent main back) := by
  unfold declarationOf
  cases (inlineType? tree).or (bareType? tree) with
  | none => simp only [declarators_append, bind_assoc]
  | some type => simp only [declarators_append, bind_assoc]

variable {fits : ByteRange → ByteRange → Prop} {draft : Draft} {above : NodeInfo}

/-- The declarators after that of a variable leave its node alone. -/
theorem declarators_variable_steps {declaratorTree : ParseTree} {back : List ParseTree} {start : ℕ}
    {first : Option NodeId} (base : BaseType) (h : Ready fits source build tree)
    (habove : draft.outline.info? parent = some above) (htree : Belongs fits tree above tree)
    (hconstruct : tree.construct = .declaration ∨ tree.construct = .fieldDeclaration)
    (hparts : ∀ part ∈ declaratorTree :: back, part ∈ tree.parts .declarator)
    (hvariable : (Declarator.ofTree source declaratorTree).function = none)
    (hstart : start ≤ draft.outline.size)
    (hfirst : IsMain fits start parent tree.range first draft) :
    let made := (variableRule source build tree declaratorTree
      (Declarator.ofTree source declaratorTree) base parent).run draft
    Steps fits made.2.outline.size parent made.2
      ((declarators source build tree base parent first (declaratorTree :: back)).run draft).2 := by
  intro made
  obtain ⟨hsteps, hnode⟩ : Grows fits _ parent draft _ _ :=
    variableRule_grows h habove htree hconstruct (hparts _ List.mem_cons_self) hvariable
  have hafter : made.2.outline.info? parent = some above :=
    hsteps.keeps le_rfl (lt_size_of_info?_eq habove) habove
  have hmain : IsMain fits start parent tree.range (first.or (some made.1)) made.2 :=
    isMain_or (IsMain.keeps hfirst hsteps) hstart hnode
  have hrest : Grows fits made.2.outline.size parent made.2
      (declarators source build tree base parent (first.or (some made.1)) back) _ :=
    declarators_grows h hafter htree hconstruct (le_trans hstart hsteps.size_le) hmain
      fun part hpart => hparts part (List.mem_cons_of_mem _ hpart)
  rw [declarators, hvariable]
  exact hrest.1

end Rules

theorem buildTree_declaration {source : List Char} {tree : ParseTree} (role : Role)
    (parent : NodeId)
    (hconstruct : tree.construct = .declaration ∨ tree.construct = .fieldDeclaration) :
    buildTree source role tree parent = Rules.declarationOf source (buildSmaller source tree) tree
      parent (tree.parts .declarator) := by
  rw [buildTree_eq, Rules.rule]
  rcases hconstruct with hconstruct | hconstruct
  · simp only [hconstruct]
    rfl
  · simp only [hconstruct]
    rfl

/-- The node of a variable is the next one after what stands before its declarator in the
declaration, and whatever follows leaves it alone. -/
theorem buildTree_variable {source : List Char} {tree declarator : ParseTree} (role : Role)
    {front back : List ParseTree} {parent : NodeId} {draft : Draft}
    (hconstruct : tree.construct = .declaration ∨ tree.construct = .fieldDeclaration)
    (hparts : tree.parts .declarator = front ++ declarator :: back)
    (hvariable : (Declarator.ofTree source declarator).function = none)
    (hparent : parent < draft.outline.size) :
    let before := ((Rules.declarationOf source (buildSmaller source tree) tree parent front).run
      draft).2
    let run := (buildTree source role tree parent).run draft
    draft.outline.size ≤ before.outline.size ∧
      run.2.outline.parent? before.outline.size = some parent ∧
      run.2.outline.info? before.outline.size = some (Rules.variableInfo source before tree
        declarator (Declarator.ofTree source declarator) (BaseType.ofTree source tree)) := by
  intro before run
  obtain ⟨above, habove⟩ := exists_info? hparent
  have hready := buildSmaller_ready_any source tree
  have htree : Belongs (fun _ _ => True) tree above tree := ⟨self_mem_subtrees tree, trivial⟩
  have hmem : ∀ part ∈ front ++ declarator :: back, part ∈ tree.parts .declarator := by
    rw [hparts]
    exact fun _ => id
  have hpart : declarator ∈ tree.parts .declarator := hmem declarator (by simp)
  obtain ⟨hfront, hmain⟩ := Rules.declarationOf_grows hready habove htree hconstruct
    fun part hp => hmem part (List.mem_append_left _ hp)
  have habove' : before.outline.info? parent = some above := hfront.keeps le_rfl hparent habove
  -- The node is added, its value is built below it, and then come the other declarators.
  obtain ⟨start, hstart, -, hbelow⟩ := Rules.variableRule_below hready habove' declarator
    (Declarator.ofTree source declarator) (BaseType.ofTree source tree) fun value hv =>
      ⟨Declarator.builtValue_mem_subtrees hpart hv, trivial⟩
  have hafter := Rules.declarators_variable_steps (BaseType.ofTree source tree) hready habove' htree
    hconstruct (fun part hp => hmem part (List.mem_append_right _ hp)) hvariable hfront.size_le
    hmain
  have hrun : run.2 = ((Rules.declarators source (buildSmaller source tree) tree
      (BaseType.ofTree source tree) parent
      ((Rules.declarationOf source (buildSmaller source tree) tree parent front).run draft).1
      (declarator :: back)).run before).2 := by
    unfold run
    rw [buildTree_declaration role parent hconstruct, hparts, Rules.declarationOf_append]
    rfl
  have hnew := isNew_of_add habove' hstart
  have hsize := hnew.size_eq
  have hle := hbelow.size_le
  rw [hrun]
  refine ⟨hfront.size_le, ?_, ?_⟩
  · rw [hafter.parent?_eq (by lia), hbelow.parent?_eq (by lia), hnew.parent_eq]
  · exact hafter.keeps le_rfl (by lia) (hbelow.keeps le_rfl (by lia) hnew.info_eq)

/-! ## Constant variables -/

/-- The node `id` of an outline has the record of the variable that a declarator of a declaration
declares. -/
structure IsVariableNode (source : List Char) (tree declarator name : ParseTree) (parent : NodeId)
    (outline : Outline) (id : NodeId) (info : NodeInfo) : Prop where
  info_eq : outline.info? id = some info
  parent_eq : outline.parent? id = some parent
  kind_eq : info.kind.isVariableDeclaration = true
  spelling_eq : info.spelling = ParseNames.declared source name
  range_eq : info.range = variableRange tree declarator

/-- A variable with pointers is marked as constant if the outermost pointer is, and a variable
without pointers if its declaration says so. That is right if the outermost pointer is constant just
as the one nearest the name is, so it is right with at most one pointer. -/
theorem buildTree_variable_isConst (source : List Char) (role : Role)
    (tree declarator name : ParseTree) (front back pointers : List ParseTree) (parent : NodeId)
    (draft : Draft)
    (hconstruct : tree.construct = .declaration ∨ tree.construct = .fieldDeclaration)
    (hparts : tree.parts .declarator = front ++ declarator :: back)
    (hpointers : PointsAround declarator pointers name) (hparent : parent < draft.outline.size) :
    let before := ((Rules.declarationOf source (buildSmaller source tree) tree parent front).run
      draft).2
    let run := (buildTree source role tree parent).run draft
    draft.outline.size ≤ before.outline.size ∧
      ∃ info, IsVariableNode source tree declarator name parent run.2.outline before.outline.size
          info ∧
        info.isConst =
          (pointers.head?.map (hasConst source)).getD (declaresConst source tree) ∧
        (info.isConst = isConstVariable source tree pointers ↔
          pointers.head?.map (hasConst source) = pointers.getLast?.map (hasConst source)) ∧
        (pointers.length ≤ 1 → info.isConst = isConstVariable source tree pointers) := by
  intro before run
  obtain ⟨hname, hfunction, hconst⟩ := Declarator.ofTree_pointsAround hpointers
  obtain ⟨hle, hbelow, hinfo⟩ := buildTree_variable role hconstruct hparts hfunction hparent
  have hmarked : (Rules.variableInfo source before tree declarator
      (Declarator.ofTree source declarator) (BaseType.ofTree source tree)).isConst =
        (pointers.head?.map (hasConst source)).getD (declaresConst source tree) := by
    rw [← hconst, ← BaseType.ofTree_isConst]
    rfl
  have hright : (pointers.head?.map (hasConst source)).getD (declaresConst source tree) =
      isConstVariable source tree pointers ↔
        pointers.head?.map (hasConst source) = pointers.getLast?.map (hasConst source) := by
    cases pointers with
    | nil => exact iff_of_true rfl rfl
    | cons outermost rest =>
      rw [isConstVariable, List.head?_cons, List.getLast?_cons, Option.map_some, Option.map_some,
        Option.getD_some, Option.getD_some, Option.some.injEq]
  refine ⟨hle, _, ⟨hinfo, hbelow, ?_, ?_, rfl⟩, hmarked, ?_, fun hlength => ?_⟩
  · show Kind.isVariableDeclaration (if _ then _ else _) = true
    split_ifs <;> rfl
  · rw [Rules.variableInfo, hname]
  · rw [hmarked]
    exact hright
  · rw [hmarked]
    refine hright.2 ?_
    match pointers, hlength with
    | [], _ => rfl
    | [_], _ => rfl

/-- The third declarator of the source `const int limit = 4, *p, *const q = 0;`. -/
def constantPointer : ParseTree :=
  .plain "init_declarator" 25 37 (some .declarator) [
    .plain "pointer_declarator" 25 33 (some .declarator) [
      .plain "type_qualifier" 26 31 none [],
      .plain "identifier" 32 33 (some .declarator) []],
    .plain "number_literal" 36 37 (some .value) []]

/-- The declaration of the same source. -/
def constantsAndPointers : ParseTree :=
  .plain "declaration" 0 38 none [
    .plain "type_qualifier" 0 5 none [],
    .plain "primitive_type" 6 9 (some .type) [],
    .plain "init_declarator" 10 19 (some .declarator) [
      .plain "identifier" 10 15 (some .declarator) [],
      .plain "number_literal" 18 19 (some .value) []],
    .plain "pointer_declarator" 21 23 (some .declarator) [
      .plain "identifier" 22 23 (some .declarator) []],
    constantPointer]

/-- The pointer `q` is the third variable, and it is constant. -/
theorem constantPointer_isConst :
    let source := "const int limit = 4, *p, *const q = 0;".toList
    let start := Draft.start source "a.c" constantsAndPointers
    let run := (buildTree source .member constantsAndPointers root).run start
    ∃ pointers name info, PointsAround constantPointer pointers name ∧ pointers.length = 1 ∧
      IsVariableNode source constantsAndPointers constantPointer name root run.2.outline 3 info ∧
      info.isConst = isConstVariable source constantsAndPointers pointers ∧
      info.isConst = true := by
  intro source start run
  have hpointers : PointsAround constantPointer _ _ :=
    .value (by decide +kernel) rfl (.pointer (by decide +kernel) rfl (.name (by decide +kernel)))
  obtain ⟨-, info, hnode, hmarked, -, hright⟩ := buildTree_variable_isConst source .member
    constantsAndPointers constantPointer _ ((constantsAndPointers.parts .declarator).take 2) [] _
    root start (Or.inl (by decide +kernel)) rfl hpointers (by decide)
  have hid : ((Rules.declarationOf source (buildSmaller source constantsAndPointers)
      constantsAndPointers root ((constantsAndPointers.parts .declarator).take 2)).run
        start).2.outline.size = 3 := by decide +kernel
  rw [hid] at hnode
  exact ⟨_, _, info, hpointers, rfl, hnode, hright le_rfl, hmarked.trans (by decide +kernel)⟩

/-- The declarator of the source `int *const *cp;`. -/
def pointerToConstant : ParseTree :=
  .plain "pointer_declarator" 4 14 (some .declarator) [
    .plain "type_qualifier" 5 10 none [],
    .plain "pointer_declarator" 11 14 (some .declarator) [
      .plain "identifier" 12 14 (some .declarator) []]]

/-- The declaration of the same source. -/
def pointerToConstantDeclaration : ParseTree :=
  .plain "declaration" 0 15 none [
    .plain "primitive_type" 0 3 (some .type) [],
    pointerToConstant]

/-- The variable `cp` points to a constant pointer. It is not constant, but it is marked. -/
theorem pointerToConstant_marked :
    let source := "int *const *cp;"
    let outline := Outline.ofParseTree source "vars.cpp"
      (.plain "translation_unit" 0 15 none [pointerToConstantDeclaration])
    ∃ pointers name, PointsAround pointerToConstant pointers name ∧ pointers.length = 2 ∧
      pointerToConstantDeclaration.parts .declarator = [pointerToConstant] ∧
      isConstVariable source.toList pointerToConstantDeclaration pointers = false ∧
      (outline.info? 1).map (·.spelling) = some "cp" ∧
      (outline.info? 1).map (·.isConst) = some true := by
  intro source outline
  have hpointers : PointsAround pointerToConstant _ _ :=
    .pointer (by decide +kernel) rfl (.pointer (by decide +kernel) rfl (.name (by decide +kernel)))
  refine ⟨_, _, hpointers, rfl, rfl, ?_, ?_, ?_⟩
  · decide +kernel
  · decide +kernel
  · decide +kernel

end StructSearch

import StructSearch.Proofs.Outline.RuleMentions

/-!
# What references mean

A reference of an outline has the type of the latest visible declaration of its name, and a name
that is declared in a block is not visible after the block. This fails for the statements `for`,
`while`, `if` and `switch`: a name that is declared in their header, or in a body without braces,
stays visible after them and can hide a declaration before them.

Results:
* `ofParseTree_references`: the types of references if only blocks have scopes.
* `ofParseTree_reference_types`: the types of references are those that scopes give, if no other
  statement declares a name.
* `loopVariable_outlives_loop`: a loop variable that hides another variable after the loop.
-/

namespace StructSearch

open Source ParseTree Outline Mention

/-! ## Types by name -/

/-- A reference without a type takes that of the first declaration of its name. -/
def inferredReference (values functions : List (String × String))
    (reference : String × String) : String × String :=
  if reference.2.isEmpty then
    (reference.1, ((values.lookup reference.1).or (functions.lookup reference.1)).getD "")
  else reference

theorem reference?_inferInfo (values functions results : List (String × String))
    (info : NodeInfo) :
    (inferInfo values functions results info).reference? =
      info.reference?.map (inferredReference values functions) := by
  by_cases hkind : info.kind = .declRef
  · rw [NodeInfo.reference?, inferInfo_kind, inferInfo_spelling, if_pos hkind, NodeInfo.reference?,
      if_pos hkind, Option.map_some, Option.some_inj]
    unfold inferInfo inferredReference
    rw [hkind]
    by_cases htype : info.type.isEmpty = true
    · have hempty : info.type = "" := by simpa using htype
      rw [htype]
      cases (values.lookup info.spelling).or (functions.lookup info.spelling) with
      | none => simp [hempty]
      | some type => simp
    · simp [htype]
  · rw [NodeInfo.reference?, inferInfo_kind, if_neg hkind, NodeInfo.reference?, if_neg hkind]
    rfl

/-- The reference has the name that is seen, and the type that is seen unless that is empty. -/
def IsSeenAs (reference : String × String) (seen : String × Option String) : Prop :=
  reference.1 = seen.1 ∧ ∀ type, seen.2 = some type → type ≠ "" → reference.2 = type

theorem isSeenAs_inferredReference (values functions : List (String × String))
    (seen : String × Option String) :
    IsSeenAs (inferredReference values functions (recorded seen)) seen := by
  obtain ⟨name, type?⟩ := seen
  unfold inferredReference recorded
  constructor
  · dsimp only
    split_ifs <;> rfl
  · rintro type rfl hne
    have hne' : type.isEmpty = false := by simpa using hne
    dsimp only
    rw [Option.getD_some, hne']
    rfl

/-! ## Outlines of parse trees -/

/-- The references of an outline are typed as if no statement but a block ended the scope of a
name. -/
theorem ofParseTree_references (source name : String) (tree : ParseTree) :
    List.Forall₂ IsSeenAs (Outline.ofParseTree source name tree).references
      (typesAll [] (dissolvedAll (mentionsOfFile source.toList tree))) := by
  have hreferences := (finish_told source.toList name tree).references_eq
  have hstart : (Draft.start source.toList name tree).outline.references = [] := rfl
  have hbindings : (Draft.start source.toList name tree).bindings = [] := rfl
  rw [hstart, hbindings, List.nil_append] at hreferences
  have hinferred := (rewrites_inferTypes (Draft.finish source.toList name tree).outline
    (Draft.finish source.toList name tree).results).gather
      fun _ info _ => reference?_inferInfo _ _ _ info
  rw [gather_map, ← Outline.references, ← Outline.references, hreferences, List.map_map]
    at hinferred
  rw [Outline.ofParseTree, hinferred, List.forall₂_map_left_iff, List.forall₂_same]
  exact fun seen _ => isSeenAs_inferredReference _ _ seen

/-- The references of an outline, in the order of the source, have the type of the latest visible
declaration of their name, where a name declared in a block is not visible after the block. If the
statements `for`, `while`, `if` and `switch` declare no names outside the blocks inside them, then
these are the types that scopes give: a name declared anywhere in such a statement is not visible
after it. -/
theorem ofParseTree_reference_types (source name : String) (tree : ParseTree) :
    List.Forall₂ IsSeenAs (Outline.ofParseTree source name tree).references
      (typesAll [] (dissolvedAll (mentionsOfFile source.toList tree))) ∧
    (areContained (mentionsOfFile source.toList tree) = true →
      List.Forall₂ IsSeenAs (Outline.ofParseTree source name tree).references
        (typesAll [] (mentionsOfFile source.toList tree))) := by
  have hreferences := ofParseTree_references source name tree
  refine ⟨hreferences, fun hcontained => ?_⟩
  rw [(dissolvedAll_agrees _ hcontained []).2] at hreferences
  exact hreferences

/-- The source `void g() { long v; { short v; v; } if (v) { char v; v; } v; }`: two blocks that
declare a name again. -/
def shadowedInBlocks : ParseTree :=
  .plain "translation_unit" 0 61 none [
    .plain "function_definition" 0 61 none [
      .plain "primitive_type" 0 4 (some .type) [],
      .plain "function_declarator" 5 8 (some .declarator) [
        .plain "identifier" 5 6 (some .declarator) [],
        .plain "parameter_list" 6 8 (some .parameters) []],
      .plain "compound_statement" 9 61 (some .body) [
        .plain "declaration" 11 18 none [
          .plain "sized_type_specifier" 11 15 (some .type) [],
          .plain "identifier" 16 17 (some .declarator) []],
        .plain "compound_statement" 19 34 none [
          .plain "declaration" 21 29 none [
            .plain "sized_type_specifier" 21 26 (some .type) [],
            .plain "identifier" 27 28 (some .declarator) []],
          .plain "expression_statement" 30 32 none [
            .plain "identifier" 30 31 none []]],
        .plain "if_statement" 35 56 none [
          .plain "condition_clause" 38 41 (some .condition) [
            .plain "identifier" 39 40 (some .value) []],
          .plain "compound_statement" 42 56 none [
            .plain "declaration" 44 51 none [
              .plain "primitive_type" 44 48 (some .type) [],
              .plain "identifier" 49 50 (some .declarator) []],
            .plain "expression_statement" 52 54 none [
              .plain "identifier" 52 53 none []]]],
        .plain "expression_statement" 57 59 none [
          .plain "identifier" 57 58 none []]]]]

/-- After both blocks the name means the variable before them. -/
theorem shadowedInBlocks_reference_types :
    areContained (mentionsOfFile
      "void g() { long v; { short v; v; } if (v) { char v; v; } v; }".toList
      shadowedInBlocks) = true ∧
    List.Forall₂ IsSeenAs
      (Outline.ofParseTree "void g() { long v; { short v; v; } if (v) { char v; v; } v; }"
        "a.cpp" shadowedInBlocks).references
      [("v", some "short"), ("v", some "long"), ("v", some "char"), ("v", some "long")] := by
  have hcontained : areContained (mentionsOfFile
      "void g() { long v; { short v; v; } if (v) { char v; v; } v; }".toList
      shadowedInBlocks) = true := by decide +kernel
  have htypes : typesAll [] (mentionsOfFile
      "void g() { long v; { short v; v; } if (v) { char v; v; } v; }".toList shadowedInBlocks) =
      [("v", some "short"), ("v", some "long"), ("v", some "char"), ("v", some "long")] := by
    decide +kernel
  refine ⟨hcontained, ?_⟩
  rw [← htypes]
  exact (ofParseTree_reference_types _ _ _).2 hcontained

/-- The source `void g() { long v; for (short v = 0; v < 2; v++) { v; } v; }`: a loop variable with
the name of another variable. -/
def loopVariable : ParseTree :=
  .plain "translation_unit" 0 60 none [
    .plain "function_definition" 0 60 none [
      .plain "primitive_type" 0 4 (some .type) [],
      .plain "function_declarator" 5 8 (some .declarator) [
        .plain "identifier" 5 6 (some .declarator) [],
        .plain "parameter_list" 6 8 (some .parameters) []],
      .plain "compound_statement" 9 60 (some .body) [
        .plain "declaration" 11 18 none [
          .plain "sized_type_specifier" 11 15 (some .type) [],
          .plain "identifier" 16 17 (some .declarator) []],
        .plain "for_statement" 19 55 none [
          .plain "declaration" 24 36 none [
            .plain "sized_type_specifier" 24 29 (some .type) [],
            .plain "init_declarator" 30 35 (some .declarator) [
              .plain "identifier" 30 31 (some .declarator) [],
              .plain "number_literal" 34 35 (some .value) []]],
          .plain "binary_expression" 37 42 (some .condition) [
            .plain "identifier" 37 38 none [],
            .plain "number_literal" 41 42 none []],
          .plain "update_expression" 44 47 none [
            .plain "identifier" 44 45 (some .argument) []],
          .plain "compound_statement" 49 55 (some .body) [
            .plain "expression_statement" 51 53 none [
              .plain "identifier" 51 52 none []]]],
        .plain "expression_statement" 56 58 none [
          .plain "identifier" 56 57 none []]]]]

/-- After the loop the name means the variable before it, but the reference has the type of the loop
variable. -/
theorem loopVariable_outlives_loop :
    typesAll [] (mentionsOfFile
      "void g() { long v; for (short v = 0; v < 2; v++) { v; } v; }".toList loopVariable) =
      [("v", some "short"), ("v", some "short"), ("v", some "short"), ("v", some "long")] ∧
    (Outline.ofParseTree "void g() { long v; for (short v = 0; v < 2; v++) { v; } v; }"
      "shadow.cpp" loopVariable).references =
      [("v", "short"), ("v", "short"), ("v", "short"), ("v", "short")] ∧
    ¬List.Forall₂ IsSeenAs
      (Outline.ofParseTree "void g() { long v; for (short v = 0; v < 2; v++) { v; } v; }"
        "shadow.cpp" loopVariable).references
      (typesAll [] (mentionsOfFile
        "void g() { long v; for (short v = 0; v < 2; v++) { v; } v; }".toList loopVariable)) := by
  have htypes : typesAll [] (mentionsOfFile
      "void g() { long v; for (short v = 0; v < 2; v++) { v; } v; }".toList loopVariable) =
      [("v", some "short"), ("v", some "short"), ("v", some "short"), ("v", some "long")] := by
    decide +kernel
  have hreferences : (Outline.ofParseTree
      "void g() { long v; for (short v = 0; v < 2; v++) { v; } v; }" "shadow.cpp"
      loopVariable).references =
      [("v", "short"), ("v", "short"), ("v", "short"), ("v", "short")] := by
    decide +kernel
  refine ⟨htypes, hreferences, ?_⟩
  rw [htypes, hreferences]
  simp [IsSeenAs]

end StructSearch

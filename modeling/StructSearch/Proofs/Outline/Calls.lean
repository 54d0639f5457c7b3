import StructSearch.Proofs.Outline.RuleCalls

/-!
# Calls are built once

The calls of an outline are among those of its parse tree: none is built twice, and what a variable
is initialized with is built below that variable. This fails for data members that share a
declaration: each of them takes the default value that comes first.

Results:
* `variableRule_ownsValue`: the value of a variable is built below the variable.
* `ofParseTree_calls_once`: the calls of an outline have different ranges.
* `membersWithDefaults_calls_repeated`: a default value that is built for two data members.
-/

namespace StructSearch

open Source ParseTree Outline

variable {source : List Char} {tree : ParseTree} {parent : NodeId} {draft : Draft}

/-! ## Variables and their values -/

/-- What the run of a variable adds to a draft: one node below `parent`, everything else below that
node, and at most the calls of its value. -/
structure OwnsValue (parent : NodeId) (value? : Option ParseTree) (draft : Draft)
    (run : NodeId × Draft) : Prop where
  id_eq : run.1 = draft.outline.size
  parent_eq : run.2.outline.parent? run.1 = some parent
  beneath : ∀ other, run.1 < other → other < run.2.outline.size →
    run.1 ∈ run.2.outline.ancestors other
  calls_le : run.2.outline.calls ≤ draft.outline.calls + callsAll value?.toList

theorem variableRule_ownsValue {declaratorTree : ParseTree} (base : BaseType)
    (hspares : ∀ part ∈ tree.subtrees, Spares (buildTree source) part)
    (hlinked : draft.outline.Linked) (hparent : parent < draft.outline.size)
    (hpart : declaratorTree ∈ tree.parts .declarator) :
    OwnsValue parent
      ((Declarator.ofTree source declaratorTree).value.or (tree.part? .defaultValue)) draft
      ((Rules.variableRule source (buildTree source) tree declaratorTree
        (Declarator.ofTree source declaratorTree) base parent).run draft) := by
  obtain ⟨above, habove⟩ := exists_info? hparent
  have hspends : Spends _ draft (Rules.variableRule source (buildTree source) tree declaratorTree
      (Declarator.ofTree source declaratorTree) base parent) _ :=
    Rules.variableRule_spends hspares hpart
  have hready : Ready (fun _ _ => True) source (buildTree source) tree :=
    buildTree_ready (fun _ => trivial) (fun _ _ => trivial) fun part _ => fitted_any source part
  obtain ⟨start, hstart, hid, hsteps⟩ := Rules.variableRule_below hready habove declaratorTree _
    base fun value hv => ⟨Declarator.builtValue_mem_subtrees hpart hv, trivial⟩
  have hnew := isNew_of_add habove hstart
  have hsize := hnew.size_eq
  refine ⟨hid, ?_, fun other hother hlt => ?_, hspends.1.calls_le⟩
  · rw [hid, hsteps.parent?_eq (by lia), hnew.parent_eq]
  · rw [hid] at hother ⊢
    refine hsteps.mem_ancestors ?_ (by lia) hlt
    rw [hstart]
    exact hlinked.add _ _ _

/-! ## Outlines of parse trees -/

/-- If the calls of a parse tree have different ranges, so have the calls of its outline, provided
that no two variables take the same default value. The value of each variable is built below it. -/
theorem ofParseTree_calls_once (source name : String) (tree : ParseTree)
    (hconforms : ∀ part ∈ tree.subtrees, Conforms part)
    (hshares : ∀ part ∈ tree.subtrees, SharesNoDefault source.toList part)
    (hdistinct : tree.callRanges.Nodup) :
    (Outline.ofParseTree source name tree).callRanges.Nodup ∧
      ∀ part ∈ tree.subtrees, ∀ declarator ∈ part.parts .declarator,
        ∀ (base : BaseType) (parent : NodeId) (draft : Draft),
          draft.outline.Linked → parent < draft.outline.size →
          OwnsValue parent
            ((Declarator.ofTree source.toList declarator).value.or (part.part? .defaultValue)) draft
            ((Rules.variableRule source.toList (buildTree source.toList) part declarator
              (Declarator.ofTree source.toList declarator) base parent).run draft) := by
  have hspares : ∀ part ∈ tree.subtrees, Spares (buildTree source.toList) part :=
    fun part hpart => buildTree_spares
      (fun inner hi => hconforms inner (mem_subtrees_trans hi hpart))
      (fun inner hi => hshares inner (mem_subtrees_trans hi hpart))
  constructor
  · have hinfer := rewrites_inferTypes (Draft.finish source.toList name tree).outline
      (Draft.finish source.toList name tree).results
    have hcalls : (Outline.ofParseTree source name tree).callRanges =
        (Draft.finish source.toList name tree).outline.callRanges := by
      refine hinfer.callRanges ?_ ?_
      · intro _ info
        rw [inferInfo_kind]
      · intro _ info _ _
        rw [inferInfo_range]
    rw [hcalls]
    exact Multiset.coe_nodup.1 (Multiset.nodup_of_le (finish_calls_le hspares name)
      (Multiset.coe_nodup.2 hdistinct))
  · intro part hpart declarator hdeclarator base parent draft hlinked hparent
    have hinside : ∀ inner ∈ part.subtrees, Spares (buildTree source.toList) inner :=
      fun inner hi => hspares inner (mem_subtrees_trans hi hpart)
    exact variableRule_ownsValue base hinside hlinked hparent hdeclarator

/-- The source `int a = f(1), b = g(2);`: variables with values of their own. -/
def variablesWithValues : ParseTree :=
  .plain "translation_unit" 0 23 none [
    .plain "declaration" 0 23 none [
      .plain "primitive_type" 0 3 (some .type) [],
      .plain "init_declarator" 4 12 (some .declarator) [
        .plain "identifier" 4 5 (some .declarator) [],
        .plain "call_expression" 8 12 (some .value) [
          .plain "identifier" 8 9 (some .function) [],
          .plain "argument_list" 9 12 (some .arguments) [
            .plain "number_literal" 10 11 none []]]],
      .plain "init_declarator" 14 22 (some .declarator) [
        .plain "identifier" 14 15 (some .declarator) [],
        .plain "call_expression" 18 22 (some .value) [
          .plain "identifier" 18 19 (some .function) [],
          .plain "argument_list" 19 22 (some .arguments) [
            .plain "number_literal" 20 21 none []]]]]]

/-- Both calls are built, each once. -/
theorem variablesWithValues_calls_once :
    variablesWithValues.callRanges.Nodup ∧
      (Outline.ofParseTree "int a = f(1), b = g(2);" "a.cpp" variablesWithValues).callRanges =
        [⟨8, 12⟩, ⟨18, 22⟩] ∧
      (Outline.ofParseTree "int a = f(1), b = g(2);" "a.cpp"
        variablesWithValues).callRanges.Nodup := by
  have hdistinct : variablesWithValues.callRanges.Nodup := by decide +kernel
  refine ⟨hdistinct, by decide +kernel, ?_⟩
  exact (ofParseTree_calls_once _ _ _ (by decide +kernel) (by decide +kernel) hdistinct).1

/-- The source `struct S { int a = f(1), b = g(2); };`: two data members with default values. -/
def membersWithDefaults : ParseTree :=
  .plain "translation_unit" 0 37 none [
    .plain "struct_specifier" 0 36 none [
      .plain "type_identifier" 7 8 (some .name) [],
      .plain "field_declaration_list" 9 36 (some .body) [
        .plain "field_declaration" 11 34 none [
          .plain "primitive_type" 11 14 (some .type) [],
          .plain "field_identifier" 15 16 (some .declarator) [],
          .plain "call_expression" 19 23 (some .defaultValue) [
            .plain "identifier" 19 20 (some .function) [],
            .plain "argument_list" 20 23 (some .arguments) [
              .plain "number_literal" 21 22 none []]],
          .plain "field_identifier" 25 26 (some .declarator) [],
          .plain "call_expression" 29 33 (some .defaultValue) [
            .plain "identifier" 29 30 (some .function) [],
            .plain "argument_list" 30 33 (some .arguments) [
              .plain "number_literal" 31 32 none []]]]]]]

/-- The default value of the first data member is built twice, that of the second one not at all. -/
theorem membersWithDefaults_calls_repeated :
    (∀ part ∈ membersWithDefaults.subtrees, Conforms part) ∧
      membersWithDefaults.callRanges = [⟨19, 23⟩, ⟨29, 33⟩] ∧
      membersWithDefaults.callRanges.Nodup ∧
      (Outline.ofParseTree "struct S { int a = f(1), b = g(2); };" "a.cpp"
        membersWithDefaults).callRanges = [⟨19, 23⟩, ⟨19, 23⟩] ∧
      ¬(Outline.ofParseTree "struct S { int a = f(1), b = g(2); };" "a.cpp"
        membersWithDefaults).callRanges.Nodup := by
  have hcalls : (Outline.ofParseTree "struct S { int a = f(1), b = g(2); };" "a.cpp"
      membersWithDefaults).callRanges = [⟨19, 23⟩, ⟨19, 23⟩] := by decide +kernel
  refine ⟨by decide +kernel, by decide +kernel, by decide +kernel, hcalls, ?_⟩
  rw [hcalls]
  decide

end StructSearch

import StructSearch.Proofs.Outline.RuleMembers

/-!
# Access of class members

The access of a member is read off the top frame when the member is added. Rules push a frame for
the body of a class and one for what is inside a function, and take it away again, so a label of a
nested class or of one around the class is never in the top frame while a member is added. What is
left is the last label before the member in the body of its own class, or the access with which the
body began.

Results:
* `finish_settled`: the classes of a file follow the labels in their bodies.
* `ofParseTree_access_follows_labels`: so do the classes of an outline, and every rule gives the
  frames back.
-/

namespace StructSearch

open Source ParseTree Outline

/-- Every class of a file follows the labels in its body. -/
theorem finish_settled (source : List Char) (name : String) (tree : ParseTree)
    (hlabels : LabelsInBodies source tree) :
    Settled source tree 0 (Draft.finish source name tree).outline := by
  have horderly := finish_orderly source name tree
  have hstart : Settled source tree 1 (Draft.start source name tree).outline := by
    intro id hid hclass
    exact absurd (lt_size_of_isClassDefinition hclass) (Nat.not_lt_of_le hid)
  intro id _ hclass
  -- The root is no class, and all other nodes are added in an orderly way.
  cases id with
  | zero =>
    rw [horderly.grown.isClassDefinition_eq Nat.one_pos] at hclass
    cases hclass
  | succ id => exact horderly.settled hlabels hstart (id + 1) (Nat.le_add_left 1 id) hclass

theorem extends_inferTypes (outline : Outline) (results : List (String × String)) :
    outline.Extends (outline.inferTypes results) := by
  refine extends_rewrites (rewrites_inferTypes outline results) fun _ info => ?_
  obtain ⟨type, result, hinfo⟩ := inferInfo_eq (outline.declaredTypes isValue)
    (outline.declaredTypes Kind.isFunctionDeclaration) results info
  rw [hinfo]
  rfl

/-- Every rule gives the frames back as it found them, up to the access of the top frame. Each
member of a class with a body has the access of the last label before the item of that body that
made it; before all labels it is private in a class and public in a structure or union. -/
theorem ofParseTree_access_follows_labels (source name : String) (tree : ParseTree)
    (hlabels : LabelsInBodies source.toList tree) :
    (∀ (role : Role) (part : ParseTree) (parent : NodeId) (draft : Draft),
      parent < draft.outline.size →
        SameFrames draft ((buildTree source.toList role part parent).run draft).2) ∧
      ∀ id, (Outline.ofParseTree source name tree).isClassDefinition id = true →
        ∃ record body entered,
          MadeFor source.toList tree (Outline.ofParseTree source name tree) id record body entered ∧
          ∀ child access,
            (Outline.ofParseTree source name tree).memberAccess? id child = some access →
            ∃ front item back, bodyItems body = front ++ item :: back ∧
              (afterItems source.toList id entered front).outline.size ≤ child ∧
              child < (afterItems source.toList id entered (front ++ [item])).outline.size ∧
              access = lastAccess source.toList (startAccess record) front := by
  refine ⟨fun role part parent draft hparent => ?_, fun id hclass => ?_⟩
  · exact (buildTree_lowers (self_mem_subtrees part) role parent draft hparent).frames
  let draft := Draft.finish source.toList name tree
  have hextends : draft.outline.Extends (Outline.ofParseTree source name tree) :=
    extends_inferTypes draft.outline draft.results
  have hrewrites := rewrites_inferTypes draft.outline draft.results
  have hlinked : (Outline.ofParseTree source name tree).Linked :=
    ((finish_steps_any source.toList name tree).linked (linked_single _)).rewrites hrewrites
  have hlt : id < draft.outline.size := by
    rw [← hrewrites.size]
    exact lt_size_of_isClassDefinition hclass
  rw [hextends.isClassDefinition_eq hlt] at hclass
  have hsettled := finish_settled source.toList name tree hlabels id (Nat.zero_le id) hclass
  have hfollows := hsettled.extends hextends fun child access hge hchild => by
    have hnew := lt_size_of_memberAccess? hchild
    rw [Outline.ofParseTree, hrewrites.size] at hnew
    exact absurd hnew (Nat.not_lt_of_le hge)
  obtain ⟨record, body, entered, hmade, hmembers⟩ := hfollows
  refine ⟨record, body, entered, hmade, fun child access hchild => ?_⟩
  exact hmembers child access (hlinked.parent_lt (parent?_of_memberAccess? hchild)) hchild

/-- The text of a class with a label inside a branch and a structure with a label of its own. -/
def nestedLabelsSource : String :=
  "class A \x7b\n int a;\n#ifdef X\npublic:\n#endif\n" ++
    " struct B \x7b int b; private: int c; \x7d;\n int d;\n\x7d;"

/-- The parse tree of that text. -/
def nestedLabels : ParseTree :=
  .plain "translation_unit" 0 90 none [
    .plain "class_specifier" 0 89 none [
      .plain "type_identifier" 6 7 (some .name) [],
      .plain "field_declaration_list" 8 89 (some .body) [
        .plain "field_declaration" 11 17 none [
          .plain "primitive_type" 11 14 (some .type) [],
          .plain "field_identifier" 15 16 (some .declarator) []],
        .plain "preproc_ifdef" 18 41 none [
          .plain "identifier" 25 26 (some .name) [],
          .plain "access_specifier" 27 33 none []],
        .plain "field_declaration" 43 79 none [
          .plain "struct_specifier" 43 78 (some .type) [
            .plain "type_identifier" 50 51 (some .name) [],
            .plain "field_declaration_list" 52 78 (some .body) [
              .plain "field_declaration" 54 60 none [
                .plain "primitive_type" 54 57 (some .type) [],
                .plain "field_identifier" 58 59 (some .declarator) []],
              .plain "access_specifier" 61 68 none [],
              .plain "field_declaration" 70 76 none [
                .plain "primitive_type" 70 73 (some .type) [],
                .plain "field_identifier" 74 75 (some .declarator) []]]]],
        .plain "field_declaration" 81 87 none [
          .plain "primitive_type" 81 84 (some .type) [],
          .plain "field_identifier" 85 86 (some .declarator) []]]]]

/-- The data member `d` after the nested structure is public by the label before the structure, not
private by the one inside it. -/
theorem nestedLabels_access :
    let outline := Outline.ofParseTree nestedLabelsSource "a.cpp" nestedLabels
    LabelsInBodies nestedLabelsSource.toList nestedLabels ∧
      outline.isClassDefinition 1 = true ∧ outline.memberAccess? 3 5 = some .isPrivate ∧
      outline.memberAccess? 1 6 = some .isPublic ∧
      ∃ record body entered,
        MadeFor nestedLabelsSource.toList nestedLabels outline 1 record body entered ∧
        ∃ front item back, bodyItems body = front ++ item :: back ∧
          (afterItems nestedLabelsSource.toList 1 entered front).outline.size ≤ 6 ∧
          6 < (afterItems nestedLabelsSource.toList 1 entered (front ++ [item])).outline.size ∧
          .isPublic = lastAccess nestedLabelsSource.toList (startAccess record) front := by
  intro outline
  have hlabels : LabelsInBodies nestedLabelsSource.toList nestedLabels := by decide +kernel
  have hclass : outline.isClassDefinition 1 = true := by decide +kernel
  have hlast : outline.memberAccess? 1 6 = some .isPublic := by decide +kernel
  obtain ⟨record, body, entered, hmade, hmembers⟩ :=
    (ofParseTree_access_follows_labels nestedLabelsSource "a.cpp" nestedLabels hlabels).2 1 hclass
  exact ⟨hlabels, hclass, by decide +kernel, hlast, record, body, entered, hmade,
    hmembers 6 .isPublic hlast⟩

end StructSearch

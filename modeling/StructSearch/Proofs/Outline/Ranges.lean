import StructSearch.Proofs.Outline.RuleGrowth

/-!
# Ranges of nodes nest

In a parse tree the range of a node covers those of its children, and the text that is shown for a
match is expected to do so, too. Rules choose the ranges of nodes in different ways: a whole
construct, a declaration up to the end of one declarator, a template in place of its declaration.
These ranges cover what is built below their node, but for one case: a variable covers its
declaration up to the end of its declarator, and a default value of the declaration stands after
that.

Results:
* `Step.keeps_fits`: a step keeps ranges in order.
* `ofParseTree_ranges_nest`: ranges nest unless a variable takes a default value beyond its end.
* `memberDefault_ranges_not_nested`: the range of a data member does not cover its default value.
-/

namespace StructSearch

open Source ParseTree Outline

/-! ## Ranges of parse trees -/

/-- A range lies within another one. -/
def Source.ByteRange.Within (inner outer : ByteRange) : Prop :=
  outer.start ≤ inner.start ∧ inner.stop ≤ outer.stop

instance (inner outer : ByteRange) : Decidable (inner.Within outer) :=
  inferInstanceAs (Decidable (outer.start ≤ inner.start ∧ inner.stop ≤ outer.stop))

theorem Source.ByteRange.Within.trans {inner middle outer : ByteRange}
    (h : inner.Within middle) (h' : middle.Within outer) : inner.Within outer :=
  ⟨h'.1.trans h.1, h.2.trans h'.2⟩

/-- The range of every node covers those of its children. -/
def Source.ParseTree.RangesNest (tree : ParseTree) : Prop :=
  ∀ part ∈ tree.subtrees, ∀ child ∈ part.children, child.range.Within part.range

instance (tree : ParseTree) : Decidable tree.RangesNest :=
  inferInstanceAs (Decidable (∀ part ∈ tree.subtrees, ∀ child ∈ part.children,
    child.range.Within part.range))

/-- Where a variable takes the default value of its declaration, its declarator ends no earlier
than that value. -/
def CoversDefault (source : List Char) (tree : ParseTree) : Prop :=
  (tree.construct = .declaration ∨ tree.construct = .fieldDeclaration) →
    ∀ declarator ∈ tree.parts .declarator, takesDefault source declarator = true →
      ∀ value ∈ tree.part? .defaultValue, value.range.stop ≤ declarator.range.stop

instance (source : List Char) (tree : ParseTree) : Decidable (CoversDefault source tree) :=
  inferInstanceAs (Decidable (_ → ∀ declarator ∈ tree.parts .declarator, _ →
    ∀ value ∈ tree.part? .defaultValue, value.range.stop ≤ declarator.range.stop))

/-- Then the ranges at every node fit together. -/
theorem fitted_of_nest {source : List Char} {tree part : ParseTree} (hnest : tree.RangesNest)
    (hmem : part ∈ tree.subtrees) (hcovers : CoversDefault source part) :
    Fitted ByteRange.Within source part := by
  have hchild := hnest part hmem
  have hdeclarator : ∀ declarator ∈ part.parts .declarator,
      declarator.range.Within part.range :=
    fun declarator hd => hchild declarator (mem_children_of_mem_parts hd)
  constructor
  · exact hchild
  · intro declarator hd
    exact ⟨le_rfl, (hdeclarator declarator hd).2⟩
  · intro declarator hd
    exact ⟨(hdeclarator declarator hd).1, le_rfl⟩
  · intro hconstruct declarator hd htakes value hvalue
    refine ⟨(hchild value (mem_children_of_part?_eq hvalue)).1, ?_⟩
    exact hcovers hconstruct declarator hd htakes value hvalue

/-! ## Ranges of outlines -/

namespace Outline

/-- The range of a node. -/
def range? (outline : Outline) (id : NodeId) : Option ByteRange := (outline.info? id).map (·.range)

/-- The range of every node fits into that of its parent. -/
def Fits (fits : ByteRange → ByteRange → Prop) (outline : Outline) : Prop :=
  ∀ ⦃id owner : NodeId⦄ ⦃inner outer : ByteRange⦄, outline.parent? id = some owner →
    outline.range? id = some inner → outline.range? owner = some outer → fits inner outer

/-- The range of every node lies within that of its parent. -/
def RangesNest (outline : Outline) : Prop := outline.Fits ByteRange.Within

theorem range?_of_info? {outline : Outline} {id : NodeId} {info : NodeInfo}
    (h : outline.info? id = some info) : outline.range? id = some info.range := by
  rw [range?, h]
  rfl

theorem range?_add (outline : Outline) (parent : NodeId) (info : NodeInfo) (role : Role)
    (id : NodeId) :
    (outline.add parent info role).range? id =
      if id = outline.size then some info.range else outline.range? id := by
  unfold range?
  rw [info?_add]
  split_ifs <;> rfl

variable {fits : ByteRange → ByteRange → Prop} {outline : Outline} {id owner : NodeId}
  {above info : NodeInfo}

theorem Fits.add (h : outline.Fits fits) (hl : outline.Linked) (role : Role)
    (habove : outline.info? owner = some above) (hfits : fits info.range above.range) :
    (outline.add owner info role).Fits fits := by
  have howner := lt_size_of_info?_eq habove
  intro child parent inner outer hparent hinner houter
  rw [parent?_add] at hparent
  rw [range?_add] at hinner houter
  by_cases hnew : child = outline.size
  · rw [if_pos hnew, if_pos howner] at hparent
    cases hparent
    rw [if_pos hnew] at hinner
    rw [if_neg (Nat.ne_of_lt howner), range?_of_info? habove] at houter
    cases hinner
    cases houter
    exact hfits
  · rw [if_neg hnew] at hparent hinner
    have hlt := (hl.parent_lt hparent).trans (lt_size_of_parent?_eq hparent)
    rw [if_neg (Nat.ne_of_lt hlt)] at houter
    exact h hparent hinner houter

/-- A node may take a larger range that still fits. -/
theorem Fits.modifyInfo {f : NodeInfo → NodeInfo} (h : outline.Fits fits) (hl : outline.Linked)
    (htrans : ∀ {inner middle outer}, fits inner middle → fits middle outer → fits inner outer)
    (hinfo : outline.info? id = some info) (hparent : outline.parent? id = some owner)
    (habove : outline.info? owner = some above) (hgrown : fits info.range (f info).range)
    (hfits : fits (f info).range above.range) : (outline.modifyInfo id f).Fits fits := by
  have hne : id ≠ owner := (Nat.ne_of_lt (hl.parent_lt hparent)).symm
  have hchanged : (outline.modifyInfo id f).range? id = some (f info).range := by
    refine range?_of_info? ?_
    rw [info?_modifyInfo, if_pos rfl, hinfo]
    rfl
  have hother : ∀ {other}, id ≠ other →
      (outline.modifyInfo id f).range? other = outline.range? other := by
    intro other hdiffers
    rw [range?, info?_modifyInfo, if_neg hdiffers]
    rfl
  -- The node itself, its children and all other nodes are three cases.
  intro child parent inner outer hchild hinner houter
  rw [parent?_modifyInfo] at hchild
  by_cases hself : id = child
  · subst hself
    obtain rfl : owner = parent := Option.some.inj (hparent.symm.trans hchild)
    rw [hchanged] at hinner
    rw [hother hne, range?_of_info? habove] at houter
    cases hinner
    cases houter
    exact hfits
  · rw [hother hself] at hinner
    by_cases hbelow : id = parent
    · subst hbelow
      rw [hchanged] at houter
      cases houter
      exact htrans (h hchild hinner (range?_of_info? hinfo)) hgrown
    · rw [hother hbelow] at houter
      exact h hchild hinner houter

theorem Fits.rewrites {f : NodeId → NodeInfo → NodeInfo} {before after : Outline}
    (h : before.Fits fits) (hf : Rewrites f before after)
    (hrange : ∀ id info, (f id info).range = info.range) : after.Fits fits := by
  have hsame : ∀ id, after.range? id = before.range? id := by
    intro id
    rw [range?, range?, hf.info?, Option.map_map]
    simp only [Function.comp_def, hrange]
  intro child parent inner outer hparent hinner houter
  rw [hf.parent?] at hparent
  rw [hsame] at hinner houter
  exact h hparent hinner houter

end Outline

/-! ## Steps -/

variable {fits : ByteRange → ByteRange → Prop} {base : ℕ} {parent : NodeId} {before after : Draft}

theorem Step.keeps_fits (h : Step fits base parent before after) (hl : before.outline.Linked)
    (hf : before.outline.Fits fits)
    (htrans : ∀ {inner middle outer}, fits inner middle → fits middle outer → fits inner outer) :
    after.outline.Fits fits := by
  cases h with
  | add _ habove hfits => exact hf.add hl _ habove hfits
  | function _ habove hfits =>
    rw [Draft.withResult_outline]
    exact hf.add hl _ habove hfits
  | generalize _ hinfo hparent habove hgrown hfits =>
    exact hf.modifyInfo hl htrans hinfo hparent habove hgrown hfits
  | context => exact hf

theorem Steps.keeps_fits (h : Steps fits base parent before after) (hl : before.outline.Linked)
    (hf : before.outline.Fits fits)
    (htrans : ∀ {inner middle outer}, fits inner middle → fits middle outer → fits inner outer) :
    after.outline.Fits fits := by
  induction h with
  | refl => exact hf
  | tail hsteps hstep ih => exact hstep.keeps_fits (Steps.linked hsteps hl) ih htrans

/-! ## Outlines of parse trees -/

theorem fits_single (info : NodeInfo) : (single info).Fits fits := by
  intro child parent inner outer hparent
  have hlt := (linked_single info).parent_lt hparent
  have hsize := lt_size_of_parent?_eq hparent
  rw [size_single] at hsize
  lia

/-- If ranges nest in a parse tree, they nest in its outline, provided that no variable takes a
default value that stands beyond its declarator. -/
theorem ofParseTree_ranges_nest (source name : String) (tree : ParseTree) (hnest : tree.RangesNest)
    (hcovers : ∀ part ∈ tree.subtrees, CoversDefault source.toList part) :
    (Outline.ofParseTree source name tree).RangesNest := by
  have hfitted : ∀ part ∈ tree.subtrees, Fitted ByteRange.Within source.toList part :=
    fun part hmem => fitted_of_nest hnest hmem (hcovers part hmem)
  have hrefl : ∀ range : ByteRange, range.Within range := fun _ => ⟨le_rfl, le_rfl⟩
  have hsteps := finish_steps hrefl ByteRange.Within.trans hfitted name
  have hfits := hsteps.keeps_fits (linked_single _) (fits_single _) ByteRange.Within.trans
  exact hfits.rewrites (rewrites_inferTypes _ _) fun _ info => inferInfo_range _ _ _ info

/-- The source `int a = f(1);`: a variable with a value of its own. -/
def variableWithValue : ParseTree :=
  .plain "translation_unit" 0 13 none [
    .plain "declaration" 0 13 none [
      .plain "primitive_type" 0 3 (some .type) [],
      .plain "init_declarator" 4 12 (some .declarator) [
        .plain "identifier" 4 5 (some .declarator) [],
        .plain "call_expression" 8 12 (some .value) [
          .plain "identifier" 8 9 (some .function) [],
          .plain "argument_list" 9 12 (some .arguments) [
            .plain "number_literal" 10 11 none []]]]]]

/-- The range of the call lies within that of the variable. -/
theorem variableWithValue_ranges_nest :
    variableWithValue.RangesNest ∧
      (∀ part ∈ variableWithValue.subtrees, CoversDefault "int a = f(1);".toList part) ∧
      (Outline.ofParseTree "int a = f(1);" "a.cpp" variableWithValue).parent? 2 = some 1 ∧
      (Outline.ofParseTree "int a = f(1);" "a.cpp" variableWithValue).range? 2 = some ⟨8, 12⟩ ∧
      (Outline.ofParseTree "int a = f(1);" "a.cpp" variableWithValue).range? 1 = some ⟨0, 12⟩ ∧
      ByteRange.Within ⟨8, 12⟩ ⟨0, 12⟩ := by
  have hnest : variableWithValue.RangesNest := by decide +kernel
  have hparent : (Outline.ofParseTree "int a = f(1);" "a.cpp" variableWithValue).parent? 2 =
      some 1 := by decide +kernel
  have hcall : (Outline.ofParseTree "int a = f(1);" "a.cpp" variableWithValue).range? 2 =
      some ⟨8, 12⟩ := by decide +kernel
  have hvariable : (Outline.ofParseTree "int a = f(1);" "a.cpp" variableWithValue).range? 1 =
      some ⟨0, 12⟩ := by decide +kernel
  have hcovers : ∀ part ∈ variableWithValue.subtrees,
      CoversDefault "int a = f(1);".toList part := by decide +kernel
  refine ⟨hnest, hcovers, hparent, hcall, hvariable, ?_⟩
  exact ofParseTree_ranges_nest _ _ _ hnest hcovers hparent hcall hvariable

/-- The source `struct S { int k = f(1); };`: a data member with a default value. -/
def memberDefault : ParseTree :=
  .plain "translation_unit" 0 27 none [
    .plain "struct_specifier" 0 26 none [
      .plain "type_identifier" 7 8 (some .name) [],
      .plain "field_declaration_list" 9 26 (some .body) [
        .plain "field_declaration" 11 24 none [
          .plain "primitive_type" 11 14 (some .type) [],
          .plain "field_identifier" 15 16 (some .declarator) [],
          .plain "call_expression" 19 23 (some .defaultValue) [
            .plain "identifier" 19 20 (some .function) [],
            .plain "argument_list" 20 23 (some .arguments) [
              .plain "number_literal" 21 22 none []]]]]]]

/-- The range of a data member ends before its default value begins. -/
theorem memberDefault_ranges_not_nested :
    memberDefault.RangesNest ∧
      ¬(Outline.ofParseTree "struct S { int k = f(1); };" "a.cpp" memberDefault).RangesNest := by
  refine ⟨by decide +kernel, fun hnest => ?_⟩
  have hparent : (Outline.ofParseTree "struct S { int k = f(1); };" "a.cpp"
      memberDefault).parent? 3 = some 2 := by decide +kernel
  have hcall : (Outline.ofParseTree "struct S { int k = f(1); };" "a.cpp"
      memberDefault).range? 3 = some ⟨19, 23⟩ := by decide +kernel
  have hmember : (Outline.ofParseTree "struct S { int k = f(1); };" "a.cpp"
      memberDefault).range? 2 = some ⟨11, 16⟩ := by decide +kernel
  exact absurd (hnest hparent hcall hmember) (by decide)

end StructSearch

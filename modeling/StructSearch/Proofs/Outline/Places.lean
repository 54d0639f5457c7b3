import StructSearch.Proofs.Matching.Findings
import StructSearch.Proofs.Outline.Ranges
import StructSearch.Proofs.Outline.RuleMembers
import StructSearch.Proofs.Source.Positions

/-!
# Places of nodes

A node has its place twice, as a range of bytes and as an extent of lines and columns. Rules take
both from one tree, or for a variable from the start of its declaration and the end of its
declarator, and a template changes both at once. So the extent of a node is always that of its
range. If the trees of a source cover whole characters, so do the nodes: every node has a text, and
ordering nodes by extent is ordering them by bytes.

Results:
* `finish_slices`: the ranges of nodes cover whole characters if those of trees do.
* `finish_placed`: extents are those of the ranges.
* `ofParseTree_places`: both for an outline, with what follows for findings.
-/

namespace StructSearch

open Source ParseTree Outline Matching

variable {source : List Char} {tree : ParseTree}

/-- From trees that cover whole characters, rules take ranges that do. -/
theorem fitted_slices (hslices : ∀ part ∈ tree.subtrees, part.range.IsSlice source)
    (hnest : tree.RangesNest) {part : ParseTree} (hmem : part ∈ tree.subtrees) :
    Fitted (fun inner outer => outer.IsSlice source → inner.IsSlice source) source part := by
  have hchild : ∀ child ∈ part.children, child.range.IsSlice source := fun child hc =>
    hslices child (mem_subtrees_trans (mem_subtrees_of_mem_children hc) hmem)
  have hdeclarator : ∀ declarator ∈ part.parts .declarator, declarator.range.IsSlice source :=
    fun declarator hd => hchild declarator (mem_children_of_mem_parts hd)
  constructor
  · exact fun child hc _ => hchild child hc
  · intro declarator hd hpart
    have hwithin := hnest part hmem declarator (mem_children_of_mem_parts hd)
    have hslice := hdeclarator declarator hd
    exact ⟨le_trans hwithin.1 hslice.start_le_stop, hpart.start, hslice.stop⟩
  · exact fun declarator hd _ => hdeclarator declarator hd
  · exact fun _ _ _ _ value hvalue _ => hchild value (mem_children_of_part?_eq hvalue)

/-- The ranges of nodes cover whole characters. -/
theorem finish_slices (name : String) (hslices : ∀ part ∈ tree.subtrees, part.range.IsSlice source)
    (hnest : tree.RangesNest) {id : NodeId} {info : NodeInfo}
    (hinfo : (Draft.finish source name tree).outline.info? id = some info) :
    info.range.IsSlice source := by
  have hsteps := finish_steps (fun _ h => h) (fun h h' ho => h (h' ho))
    (fun part hmem => fitted_slices hslices hnest hmem) name
  have hlinked := hsteps.linked (linked_single _)
  have hfits := hsteps.keeps_fits (linked_single _) (fits_single _) fun h h' ho => h (h' ho)
  induction id using Nat.strong_induction_on generalizing info with
  | _ id ih =>
    cases id with
    | zero =>
      rw [hsteps.info?_eq le_rfl Nat.one_pos] at hinfo
      cases hinfo
      exact hslices tree (self_mem_subtrees tree)
    | succ id =>
      -- The range of the parent carries over to its child.
      have hnew : (Draft.start source name tree).outline.size ≤ id + 1 := Nat.le_add_left 1 id
      obtain ⟨owner, howner, -⟩ := hsteps.exists_parent hnew (lt_size_of_info?_eq hinfo)
      have hlt := hlinked.parent_lt howner
      obtain ⟨above, habove⟩ := exists_info? (hlt.trans (lt_size_of_info?_eq hinfo))
      exact hfits howner (range?_of_info? hinfo) (range?_of_info? habove) (ih owner hlt habove)

/-- The extents of nodes are those of their ranges. -/
theorem finish_placed (source : List Char) (name : String) (tree : ParseTree) :
    (Draft.finish source name tree).outline.Placed source := by
  refine (finish_orderly source name tree).placed fun id info hinfo => ?_
  have hroot := lt_size_of_info?_eq hinfo
  obtain rfl : id = 0 := Nat.lt_one_iff.1 hroot
  cases hinfo
  rfl

/-- What holds of the ranges and extents of a draft holds of those of its outline. -/
theorem exists_info?_of_ofParseTree {source name : String} {id : NodeId} {info : NodeInfo}
    (h : (Outline.ofParseTree source name tree).info? id = some info) :
    ∃ drafted, (Draft.finish source.toList name tree).outline.info? id = some drafted ∧
      info.range = drafted.range ∧ info.extent = drafted.extent := by
  rw [Outline.ofParseTree, (rewrites_inferTypes _ _).info?] at h
  obtain ⟨drafted, hdrafted, rfl⟩ := Option.map_eq_some_iff.1 h
  obtain ⟨type, result, hinferred⟩ := inferInfo_eq
    ((Draft.finish source.toList name tree).outline.declaredTypes isValue)
    ((Draft.finish source.toList name tree).outline.declaredTypes Kind.isFunctionDeclaration)
    (Draft.finish source.toList name tree).results drafted
  exact ⟨drafted, hdrafted, by rw [hinferred], by rw [hinferred]⟩

section Outlines

variable {source name : String} {id other : NodeId} {info info' : NodeInfo}
  (hslices : ∀ part ∈ tree.subtrees, part.range.IsSlice source.toList) (hnest : tree.RangesNest)
  (hinfo : (Outline.ofParseTree source name tree).info? id = some info)
include hslices hnest hinfo

theorem placed_of_ofParseTree :
    info.range.IsSlice source.toList ∧ info.extent = extentOf source.toList info.range := by
  obtain ⟨drafted, hdrafted, hrange, hextent⟩ := exists_info?_of_ofParseTree hinfo
  rw [hrange, hextent]
  exact ⟨finish_slices name hslices hnest hdrafted,
    finish_placed source.toList name tree id drafted hdrafted⟩

theorem extent_order_of_ofParseTree (hsize : Text.byteSize source.toList < Position.limit)
    (hinfo' : (Outline.ofParseTree source name tree).info? other = some info') :
    (info.extent < info'.extent ↔ info.range.Precedes info'.range) ∧
      (info.extent = info'.extent ↔ info.range = info'.range) := by
  obtain ⟨hslice, hextent⟩ := placed_of_ofParseTree hslices hnest hinfo
  obtain ⟨hslice', hextent'⟩ := placed_of_ofParseTree hslices hnest hinfo'
  rw [hextent, hextent']
  exact ⟨extentOf_lt_iff hsize hslice hslice', extentOf_inj hsize hslice hslice'⟩

end Outlines

/-- In a source without lines or columns beyond the limit, with trees that cover whole characters
and nest, every node covers a text of the source, and its extent is from the position before to the
position after that text. Nodes are ordered by extent as they are by bytes, so findings are listed
in the order of their bytes. -/
theorem ofParseTree_places [Regex.Engine] (source name : String) (tree : ParseTree)
    (hsize : Text.byteSize source.toList < Position.limit)
    (hslices : ∀ part ∈ tree.subtrees, part.range.IsSlice source.toList)
    (hnest : tree.RangesNest) :
    let outline := Outline.ofParseTree source name tree
    (∀ id info, outline.info? id = some info → ∃ before text after,
      source.toList = before ++ (text ++ after) ∧
      info.range = ⟨Text.byteSize before, Text.byteSize before + Text.byteSize text⟩ ∧
      info.extent = ⟨positionAfter before, positionAfter (before ++ text)⟩ ∧
      ∀ path, (Finding.ofInfo path info).text? source = some (String.ofList text)) ∧
    (∀ id info other info', outline.info? id = some info → outline.info? other = some info' →
      (info.extent < info'.extent ↔ info.range.Precedes info'.range) ∧
      (info.extent = info'.extent ↔ info.range = info'.range)) ∧
    ∀ path mode pattern, (collect outline path mode pattern).Pairwise fun first second =>
      first.range.Precedes second.range ∨ first.range = second.range := by
  intro outline
  refine ⟨fun id info hinfo => ?_,
    fun _ _ _ _ hinfo => extent_order_of_ofParseTree hslices hnest hinfo hsize,
    fun path mode pattern => ?_⟩
  · obtain ⟨hslice, hextent⟩ := placed_of_ofParseTree hslices hnest hinfo
    obtain ⟨before, text, after, hsource, hrange⟩ := hslice.exists_text
    refine ⟨before, text, after, hsource, hrange, ?_, fun path => ?_⟩
    · rw [hsource] at hsize
      rw [hextent, hrange, hsource, extentOf_append hsize]
    · rw [Finding.text?, Finding.ofInfo, hrange, hsource, Text.slice?_append]
      rfl
  · have hcollect : collect outline path mode pattern =
        (foundNodes outline mode pattern).filterMap fun id =>
          (outline.info? id).map (Finding.ofInfo path) := rfl
    rw [hcollect, List.pairwise_filterMap]
    refine (pairwise_foundNodes outline mode pattern).imp ?_
    intro i j hprec first hfirst second hsecond
    obtain ⟨info, hinfo, rfl⟩ := Option.map_eq_some_iff.1 hfirst
    obtain ⟨info', hinfo', rfl⟩ := Option.map_eq_some_iff.1 hsecond
    obtain ⟨hlt, heq⟩ := extent_order_of_ofParseTree hslices hnest hinfo hsize hinfo'
    simp only [extentAt, hinfo, hinfo', Option.map_some, Option.getD_some] at hprec
    exact hprec.imp hlt.1 fun hsame => heq.1 hsame.1

/-- The source `int é;`, `int b = 1;` on two lines, the first with a character of two bytes. -/
def twoLines : ParseTree :=
  .plain "translation_unit" 0 18 none [
    .plain "declaration" 0 7 none [
      .plain "primitive_type" 0 3 (some .type) [],
      .plain "identifier" 4 6 (some .declarator) []],
    .plain "declaration" 8 18 none [
      .plain "primitive_type" 8 11 (some .type) [],
      .plain "init_declarator" 12 17 (some .declarator) [
        .plain "identifier" 12 13 (some .declarator) [],
        .plain "number_literal" 16 17 (some .value) []]]]

/-- The two variables have their extents in the order of their bytes. -/
theorem twoLines_places :
    let source := "int é;\nint b = 1;"
    let outline := Outline.ofParseTree source "a.cpp" twoLines
    (Text.byteSize source.toList < Position.limit ∧
      (∀ part ∈ twoLines.subtrees, part.range.IsSlice source.toList) ∧ twoLines.RangesNest) ∧
      ∃ first second, outline.info? 1 = some first ∧ outline.info? 2 = some second ∧
        first.range = ⟨0, 6⟩ ∧ first.extent = ⟨⟨1, 1⟩, ⟨1, 7⟩⟩ ∧
        second.range = ⟨8, 17⟩ ∧ second.extent = ⟨⟨2, 1⟩, ⟨2, 10⟩⟩ ∧
        first.extent < second.extent ∧
        ∃ text, (Finding.ofInfo "a.cpp" second).text? source = some (String.ofList text) := by
  intro source outline
  have hsize : Text.byteSize source.toList < Position.limit := by decide +kernel
  have hslices : ∀ part ∈ twoLines.subtrees, part.range.IsSlice source.toList := by decide +kernel
  have hnest : twoLines.RangesNest := by decide +kernel
  obtain ⟨htexts, horder, -⟩ := ofParseTree_places source "a.cpp" twoLines hsize hslices hnest
  have hplaces : (outline.info? 1).map (fun info => (info.range, info.extent)) =
        some (⟨0, 6⟩, ⟨⟨1, 1⟩, ⟨1, 7⟩⟩) ∧
      (outline.info? 2).map (fun info => (info.range, info.extent)) =
        some (⟨8, 17⟩, ⟨⟨2, 1⟩, ⟨2, 10⟩⟩) := by decide +kernel
  obtain ⟨first, hfirst, hplace⟩ := Option.map_eq_some_iff.1 hplaces.1
  obtain ⟨second, hsecond, hplace'⟩ := Option.map_eq_some_iff.1 hplaces.2
  rw [Prod.mk.injEq] at hplace hplace'
  obtain ⟨-, text, -, -, -, -, htext⟩ := htexts 2 second hsecond
  have hlt : first.extent < second.extent := by
    rw [(horder 1 first 2 second hfirst hsecond).1, hplace.1, hplace'.1]
    decide
  exact ⟨⟨hsize, hslices, hnest⟩, first, second, hfirst, hsecond, hplace.1, hplace.2, hplace'.1,
    hplace'.2, hlt, text, htext "a.cpp"⟩

end StructSearch

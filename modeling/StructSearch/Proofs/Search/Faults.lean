import Mathlib.Tactic
import StructSearch.Proofs.Outline.Ranges
import StructSearch.Search.Reader

/-!
# Syntax faults

A parser marks the nodes of its tree that stand for text that does not parse, and those that it
inserted. A flag on every other node says whether there is such a node below. The faults of a tree
are its outermost marked nodes: the flags only spare the search of parts that hold none.

A node is told by its address, the numbers of the children on the way to it. Addresses in
lexicographic order are the nodes in pre-order.

Results:
* `mem_outermost_iff`, `pairwise_outermost`: the outermost marked nodes, by address.
* `faults_eq`: they are what the search finds.
* `hasFaults_iff`: there is one exactly when the top node has the flag.
* `faults_listed_and_rejected`: the faults of a tree, and what a reader that rejects them does.
-/

namespace StructSearch.Source

/-- The node stands for text that does not parse, or it was inserted. -/
def Label.isMarked (label : Label) : Bool := label.isError || label.isMissing

namespace ParseTree

/-! ## Addresses -/

/-- A tree is settled once its children are. -/
@[elab_as_elim]
theorem childwise {motive : ParseTree → Prop}
    (tree : ∀ tree : ParseTree, (∀ child ∈ tree.children, motive child) → motive tree)
    (top : ParseTree) : motive top := by
  induction hsize : top.size using Nat.strong_induction_on generalizing top with
  | _ size ih =>
    refine tree top fun child hchild => ih child.size ?_ child rfl
    rw [← hsize]
    exact size_lt_of_mem_children hchild

/-- The tree at an address. -/
def at? (tree : ParseTree) : List ℕ → Option ParseTree
  | [] => some tree
  | i :: path => tree.children[i]?.bind fun child => child.at? path

theorem at?_cons_eq_some_iff {tree inner : ParseTree} {i : ℕ} {path : List ℕ} :
    tree.at? (i :: path) = some inner ↔
      ∃ child, tree.children[i]? = some child ∧ child.at? path = some inner := by
  rw [at?, Option.bind_eq_some_iff]

theorem mem_subtrees_of_at? {tree inner : ParseTree} {path : List ℕ}
    (h : tree.at? path = some inner) : inner ∈ tree.subtrees := by
  induction path generalizing tree with
  | nil =>
    obtain rfl : tree = inner := Option.some.inj h
    exact self_mem_subtrees tree
  | cons i path ih =>
    obtain ⟨child, hchild, h⟩ := at?_cons_eq_some_iff.1 h
    exact mem_subtrees_trans (ih h) (mem_subtrees_of_mem_children (List.mem_of_getElem? hchild))

/-- At the address stands a marked node, and above it none. -/
def IsOutermost (tree : ParseTree) (path : List ℕ) : Prop :=
  (∃ inner, tree.at? path = some inner ∧ inner.label.isMarked = true) ∧
    ∀ above outer, above <+: path → above ≠ path → tree.at? above = some outer →
      outer.label.isMarked = false

theorem isOutermost_nil {tree : ParseTree} :
    tree.IsOutermost [] ↔ tree.label.isMarked = true := by
  constructor
  · rintro ⟨⟨inner, ⟨⟩, hmarked⟩, -⟩
    exact hmarked
  · intro hmarked
    refine ⟨⟨tree, rfl, hmarked⟩, fun above outer hprefix hne => ?_⟩
    exact absurd (List.prefix_nil.1 hprefix) hne

theorem isOutermost_cons {tree : ParseTree} {i : ℕ} {path : List ℕ} :
    tree.IsOutermost (i :: path) ↔ tree.label.isMarked = false ∧
      ∃ child, tree.children[i]? = some child ∧ child.IsOutermost path := by
  constructor
  · rintro ⟨⟨inner, hinner, hmarked⟩, habove⟩
    obtain ⟨child, hchild, hinner⟩ := at?_cons_eq_some_iff.1 hinner
    refine ⟨habove [] tree List.nil_prefix nofun rfl, child, hchild, ⟨inner, hinner, hmarked⟩, ?_⟩
    intro above outer hprefix hne houter
    refine habove (i :: above) outer ((List.prefix_cons_inj i).2 hprefix) ?_ ?_
    · simpa using hne
    · exact at?_cons_eq_some_iff.2 ⟨child, hchild, houter⟩
  · rintro ⟨htop, child, hchild, ⟨inner, hinner, hmarked⟩, habove⟩
    refine ⟨⟨inner, at?_cons_eq_some_iff.2 ⟨child, hchild, hinner⟩, hmarked⟩, ?_⟩
    intro above outer hprefix hne houter
    cases above with
    | nil =>
      cases houter
      exact htop
    | cons j above =>
      obtain ⟨rfl, hbelow⟩ := List.cons_prefix_cons.1 hprefix
      obtain ⟨other, hother, houter⟩ := at?_cons_eq_some_iff.1 houter
      obtain rfl : child = other := Option.some.inj (hchild.symm.trans hother)
      exact habove above outer hbelow (by simpa using hne) houter

/-! ## The outermost marked nodes -/

mutual

/-- The outermost marked nodes of a tree, with their addresses. -/
def outermost : ParseTree → List (List ℕ × ParseTree)
  | node label children =>
    if label.isMarked then [([], node label children)] else outermostFrom 0 children

/-- The outermost marked nodes of several trees, which are numbered from the first one on. -/
def outermostFrom : ℕ → List ParseTree → List (List ℕ × ParseTree)
  | _, [] => []
  | i, tree :: rest => (outermost tree).map (Prod.map (i :: ·) id) ++ outermostFrom (i + 1) rest

end

theorem outermostFrom_eq (i : ℕ) (trees : List ParseTree) :
    outermostFrom i trees = (trees.zipIdx i).flatMap fun child =>
      child.1.outermost.map (Prod.map (child.2 :: ·) id) := by
  induction trees generalizing i with
  | nil => rfl
  | cons tree rest ih => rw [outermostFrom, ih, List.zipIdx_cons, List.flatMap_cons]

theorem outermost_of_marked {tree : ParseTree} (h : tree.label.isMarked = true) :
    tree.outermost = [([], tree)] := by
  obtain ⟨label, children⟩ := tree
  rw [outermost]
  exact if_pos h

theorem outermost_of_unmarked {tree : ParseTree} (h : tree.label.isMarked = false) :
    tree.outermost = tree.children.zipIdx.flatMap fun child =>
      child.1.outermost.map (Prod.map (child.2 :: ·) id) := by
  obtain ⟨label, children⟩ := tree
  rw [outermost, if_neg (by rw [← Bool.not_eq_true] at h; exact h), outermostFrom_eq]
  rfl

/-- The outermost marked nodes are listed, and nothing else is. -/
theorem mem_outermost_iff {tree inner : ParseTree} {path : List ℕ} :
    (path, inner) ∈ tree.outermost ↔ tree.at? path = some inner ∧ tree.IsOutermost path := by
  induction tree using childwise generalizing path with
  | tree tree ih =>
    cases hmarked : tree.label.isMarked with
    | true =>
      rw [outermost_of_marked hmarked, List.mem_singleton]
      cases path with
      | nil => simp [isOutermost_nil, at?, hmarked, eq_comm]
      | cons i path => simp [isOutermost_cons, hmarked]
    | false =>
      rw [outermost_of_unmarked hmarked]
      simp only [List.mem_flatMap, List.mem_map]
      cases path with
      | nil => simp [isOutermost_nil, hmarked]
      | cons i path =>
        rw [at?_cons_eq_some_iff, isOutermost_cons]
        constructor
        · rintro ⟨⟨child, j⟩, hchild, ⟨rest, other⟩, hrest, heq⟩
          obtain ⟨hpath, rfl⟩ := Prod.mk.inj heq
          obtain ⟨rfl, rfl⟩ := List.cons.inj hpath
          have hget := List.mk_mem_zipIdx_iff_getElem?.1 hchild
          obtain ⟨hinner, houtermost⟩ := (ih child (List.mem_of_getElem? hget)).1 hrest
          exact ⟨⟨child, hget, hinner⟩, hmarked, child, hget, houtermost⟩
        · rintro ⟨⟨child, hget, hinner⟩, -, other, hother, houtermost⟩
          obtain rfl : child = other := Option.some.inj (hget.symm.trans hother)
          refine ⟨(child, i), List.mk_mem_zipIdx_iff_getElem?.2 hget, (path, inner), ?_, rfl⟩
          exact (ih child (List.mem_of_getElem? hget)).2 ⟨hinner, houtermost⟩

/-- The outermost marked nodes are listed in pre-order. -/
theorem pairwise_outermost (tree : ParseTree) :
    tree.outermost.Pairwise fun first second => first.1 < second.1 := by
  induction tree using childwise with
  | tree tree ih =>
    cases hmarked : tree.label.isMarked with
    | true =>
      rw [outermost_of_marked hmarked]
      exact List.pairwise_singleton _ _
    | false =>
      rw [outermost_of_unmarked hmarked, List.pairwise_flatMap]
      constructor
      · rintro ⟨child, i⟩ hchild
        rw [List.pairwise_map]
        have hmem := List.fst_mem_of_mem_zipIdx hchild
        exact (ih child hmem).imp fun hlt => List.cons_lt_cons_iff.2 (Or.inr ⟨rfl, hlt⟩)
      · have hnumbers : (List.range' 0 tree.children.length).Pairwise (· < ·) :=
          List.pairwise_lt_range' 1
        rw [← List.zipIdx_map_snd 0 tree.children, List.pairwise_map] at hnumbers
        refine hnumbers.imp ?_
        rintro ⟨child, i⟩ ⟨other, j⟩ hlt first hfirst second hsecond
        obtain ⟨inner, -, rfl⟩ := List.mem_map.1 hfirst
        obtain ⟨later, -, rfl⟩ := List.mem_map.1 hsecond
        exact List.cons_lt_cons_iff.2 (Or.inl hlt)

theorem outermost_ne_nil_iff {tree : ParseTree} :
    tree.outermost ≠ [] ↔ ∃ inner ∈ tree.subtrees, inner.label.isMarked = true := by
  constructor
  · intro hne
    obtain ⟨⟨path, inner⟩, hmem⟩ := List.exists_mem_of_ne_nil _ hne
    obtain ⟨hinner, ⟨other, hother, hmarked⟩, -⟩ := mem_outermost_iff.1 hmem
    obtain rfl : inner = other := Option.some.inj (hinner.symm.trans hother)
    exact ⟨inner, mem_subtrees_of_at? hinner, hmarked⟩
  · induction tree using childwise with
    | tree tree ih =>
      rintro ⟨inner, hinner, hmarked⟩
      cases htop : tree.label.isMarked with
      | true =>
        rw [outermost_of_marked htop]
        exact List.cons_ne_nil _ _
      | false =>
        rw [subtrees_eq, List.mem_cons, List.mem_flatMap] at hinner
        obtain rfl | ⟨child, hchild, hinner⟩ := hinner
        · rw [htop] at hmarked
          cases hmarked
        · obtain ⟨i, hget⟩ := List.mem_iff_getElem?.1 hchild
          obtain ⟨⟨path, other⟩, hmem⟩ :=
            List.exists_mem_of_ne_nil _ (ih child hchild ⟨inner, hinner, hmarked⟩)
          obtain ⟨hother, houtermost⟩ := mem_outermost_iff.1 hmem
          have hplace : (i :: path, other) ∈ tree.outermost :=
            mem_outermost_iff.2 ⟨at?_cons_eq_some_iff.2 ⟨child, hget, hother⟩,
              isOutermost_cons.2 ⟨htop, child, hget, houtermost⟩⟩
          exact List.ne_nil_of_mem hplace

/-! ## Flags -/

/-- The flag of an unmarked node says whether a marked one is below it. -/
def FlagsTell (tree : ParseTree) : Prop :=
  ∀ part ∈ tree.subtrees, part.label.isMarked = false →
    (part.label.hasError = true ↔ ∃ inner ∈ part.subtrees, inner.label.isMarked = true)

instance (tree : ParseTree) : Decidable tree.FlagsTell :=
  inferInstanceAs (Decidable (∀ part ∈ tree.subtrees, part.label.isMarked = false →
    (part.label.hasError = true ↔ ∃ inner ∈ part.subtrees, inner.label.isMarked = true)))

/-- The flag says whether a marked node is at or below a node. Only marked nodes inside the tree may
lack it, as tokens that are none of the language do. -/
structure FlagsExact (tree : ParseTree) : Prop where
  top : tree.label.isMarked = true → tree.label.hasError = true
  tell : tree.FlagsTell

theorem faultsAll_eq (source : List Char) (trees : List ParseTree) :
    faultsAll source trees = trees.flatMap (faults source) := by
  induction trees with
  | nil => rfl
  | cons tree rest ih => rw [faultsAll, ih, List.flatMap_cons]

/-- The search finds the outermost marked nodes. -/
theorem faults_eq {tree : ParseTree} (h : tree.FlagsTell) (source : List Char) :
    tree.faults source = tree.outermost.map fun found => .ofLabel source found.2.label := by
  induction tree using childwise with
  | tree tree ih =>
    have hfaults : tree.faults source = if tree.label.isMarked then [.ofLabel source tree.label]
        else if tree.label.hasError then tree.children.flatMap (faults source) else [] := by
      obtain ⟨label, children⟩ := tree
      rw [faults, faultsAll_eq]
      rfl
    cases hmarked : tree.label.isMarked with
    | true =>
      rw [hfaults, hmarked, outermost_of_marked hmarked]
      rfl
    | false =>
      have hflag := h tree (self_mem_subtrees tree) hmarked
      rw [← outermost_ne_nil_iff] at hflag
      rw [hfaults, hmarked]
      cases herror : tree.label.hasError with
      | false =>
        -- a part without the flag holds no marked node
        have hnil : tree.outermost = [] := by
          rw [herror] at hflag
          simpa using hflag
        rw [hnil]
        rfl
      | true =>
        have hchildren : tree.children.flatMap (faults source) =
            (tree.children.zipIdx.map Prod.fst).flatMap (faults source) := by
          rw [List.zipIdx_map_fst]
        rw [outermost_of_unmarked hmarked, List.map_flatMap]
        refine hchildren.trans ?_
        rw [List.flatMap_map]
        refine List.flatMap_congr fun child hchild => ?_
        have hmem := List.fst_mem_of_mem_zipIdx hchild
        have htell : child.1.FlagsTell := fun part hpart =>
          h part (mem_subtrees_trans hpart (mem_subtrees_of_mem_children hmem))
        rw [ih child.1 hmem htell, List.map_map]
        rfl

/-- The top node has the flag exactly when there is a fault. -/
theorem hasFaults_iff {tree : ParseTree} (h : tree.FlagsExact) (source : List Char) :
    tree.hasFaults = true ↔ tree.faults source ≠ [] := by
  rw [faults_eq h.tell, ne_eq, List.map_eq_nil_iff, ← ne_eq, outermost_ne_nil_iff, hasFaults]
  cases hmarked : tree.label.isMarked with
  | true =>
    exact iff_of_true (h.top hmarked) ⟨tree, self_mem_subtrees tree, hmarked⟩
  | false => exact h.tell tree (self_mem_subtrees tree) hmarked

/-! ## The order of the source -/

/-- The ranges of nodes nest, and those of siblings follow each other. -/
structure SourceOrdered (tree : ParseTree) : Prop where
  nest : tree.RangesNest
  proper : ∀ part ∈ tree.subtrees, part.range.start ≤ part.range.stop
  siblings : ∀ part ∈ tree.subtrees,
    part.children.Pairwise fun first second => first.range.stop ≤ second.range.start

theorem SourceOrdered.of_mem_children {tree child : ParseTree} (h : tree.SourceOrdered)
    (hchild : child ∈ tree.children) : child.SourceOrdered := by
  have hsub : ∀ part ∈ child.subtrees, part ∈ tree.subtrees := fun part hpart =>
    mem_subtrees_trans hpart (mem_subtrees_of_mem_children hchild)
  exact {
    nest := fun part hpart => h.nest part (hsub part hpart)
    proper := fun part hpart => h.proper part (hsub part hpart)
    siblings := fun part hpart => h.siblings part (hsub part hpart) }

theorem SourceOrdered.within {tree inner : ParseTree} (h : tree.SourceOrdered)
    (hinner : inner ∈ tree.subtrees) : inner.range.Within tree.range := by
  induction tree using childwise with
  | tree tree ih =>
    rw [subtrees_eq, List.mem_cons, List.mem_flatMap] at hinner
    obtain rfl | ⟨child, hchild, hinner⟩ := hinner
    · exact ⟨le_rfl, le_rfl⟩
    · exact (ih child hchild (h.of_mem_children hchild) hinner).trans
        (h.nest tree (self_mem_subtrees tree) child hchild)

/-- Where ranges are in order, faults start one after another. -/
theorem pairwise_start_outermost {tree : ParseTree} (h : tree.SourceOrdered) :
    tree.outermost.Pairwise fun first second => first.2.range.start ≤ second.2.range.start := by
  induction tree using childwise with
  | tree tree ih =>
    cases hmarked : tree.label.isMarked with
    | true =>
      rw [outermost_of_marked hmarked]
      exact List.pairwise_singleton _ _
    | false =>
      rw [outermost_of_unmarked hmarked, List.pairwise_flatMap]
      constructor
      · rintro ⟨child, i⟩ hchild
        rw [List.pairwise_map]
        have hmem := List.fst_mem_of_mem_zipIdx hchild
        exact ih child hmem (h.of_mem_children hmem)
      · have hsiblings := h.siblings tree (self_mem_subtrees tree)
        rw [← List.zipIdx_map_fst 0 tree.children, List.pairwise_map] at hsiblings
        refine hsiblings.imp_of_mem ?_
        rintro ⟨child, i⟩ ⟨other, j⟩ hchild hother hle first hfirst second hsecond
        obtain ⟨⟨path, inner⟩, hinner, rfl⟩ := List.mem_map.1 hfirst
        obtain ⟨⟨others, later⟩, hlater, rfl⟩ := List.mem_map.1 hsecond
        have hchild := h.of_mem_children (List.fst_mem_of_mem_zipIdx hchild)
        have hother := h.of_mem_children (List.fst_mem_of_mem_zipIdx hother)
        have hinner := mem_subtrees_of_at? (mem_outermost_iff.1 hinner).1
        have hlater := mem_subtrees_of_at? (mem_outermost_iff.1 hlater).1
        calc inner.range.start
            ≤ inner.range.stop := hchild.proper inner hinner
          _ ≤ child.range.stop := (hchild.within hinner).2
          _ ≤ other.range.start := hle
          _ ≤ later.range.start := (hother.within hlater).1

/-- What the list of the faults of a tree holds. -/
structure ListsFaults (tree : ParseTree) (source : List Char) : Prop where
  /-- The outermost marked nodes are listed, each once and in pre-order. -/
  places : ∃ places : List (List ℕ), places.Pairwise (· < ·) ∧
    (∀ path, path ∈ places ↔ tree.IsOutermost path) ∧
    List.Forall₂ (fun path fault => ∃ inner, tree.at? path = some inner ∧
      fault = SyntaxFault.ofLabel source inner.label) places (tree.faults source)
  increasing : (tree.faults source).Pairwise fun first second =>
    first.range.start ≤ second.range.start
  flagged : tree.hasFaults = true ↔ tree.faults source ≠ []

theorem listsFaults {tree : ParseTree} (hflags : tree.FlagsExact) (horder : tree.SourceOrdered)
    (source : List Char) : tree.ListsFaults source := by
  constructor
  · refine ⟨tree.outermost.map Prod.fst, ?_, fun path => ?_, ?_⟩
    · rw [List.pairwise_map]
      exact tree.pairwise_outermost
    · rw [List.mem_map]
      constructor
      · rintro ⟨⟨path, inner⟩, hmem, rfl⟩
        exact (mem_outermost_iff.1 hmem).2
      · intro houtermost
        obtain ⟨⟨inner, hinner, -⟩, -⟩ := id houtermost
        exact ⟨(path, inner), mem_outermost_iff.2 ⟨hinner, houtermost⟩, rfl⟩
    · rw [faults_eq hflags.tell, List.forall₂_map_left_iff, List.forall₂_map_right_iff,
        List.forall₂_same]
      rintro ⟨path, inner⟩ hmem
      exact ⟨inner, (mem_outermost_iff.1 hmem).1, rfl⟩
  · rw [faults_eq hflags.tell, List.pairwise_map]
    exact pairwise_start_outermost horder
  · exact hasFaults_iff hflags source

end ParseTree

theorem positionAt_pos (source : List Char) (offset : ℕ) :
    1 ≤ (positionAt source offset).line ∧ 1 ≤ (positionAt source offset).column := by
  unfold positionAt Position.ofPoint Position.limit
  dsimp only
  omega

end StructSearch.Source

/-! ## Readers -/

namespace StructSearch.Search

open Source

namespace Reader

/-- The reader, rejecting syntax faults or not. -/
def rejecting (reader : Reader) (rejects : Bool) : Reader := { reader with rejectFaults := rejects }

section Parsed

variable {reader : Reader} {parse : Parser} {path source : String} {language : Language}
  {tree : ParseTree}

theorem outline_of_faulty (hlanguage : reader.languageFor path = .ok language)
    (hparse : parse language source = some tree) (hfaults : tree.hasFaults = true) :
    (reader.rejecting true).outline parse path source =
      (.error (faultyError path (tree.faults source.toList)), faultEvents path source tree) := by
  have hother : (reader.rejecting true).languageFor path = .ok language := hlanguage
  have houtline : (reader.rejecting true).outlineOf path source tree =
      .error (faultyError path (tree.faults source.toList)) := if_pos (by rw [hfaults]; rfl)
  simp only [outline, hother, hparse, houtline]

theorem outline_of_accepted (hlanguage : reader.languageFor path = .ok language)
    (hparse : parse language source = some tree) (rejects : Bool)
    (haccepts : (tree.hasFaults && rejects) = false) :
    (reader.rejecting rejects).outline parse path source =
      (.ok (Outline.ofParseTree source path tree), faultEvents path source tree ++
        [.outlined path language (Outline.ofParseTree source path tree).size]) := by
  have hother : (reader.rejecting rejects).languageFor path = .ok language := hlanguage
  have houtline : (reader.rejecting rejects).outlineOf path source tree =
      .ok (Outline.ofParseTree source path tree) :=
    if_neg (by rw [Bool.not_eq_true]; exact haccepts)
  simp only [outline, hother, hparse, houtline]

end Parsed

/-- What a reader makes of the faults of a source that is parsed to a tree. -/
structure JudgesFaults (reader : Reader) (parse : Parser) (path source : String)
    (tree : ParseTree) : Prop where
  /-- A reader that rejects faults fails exactly if there is one. -/
  fails_iff : (∃ e, ((reader.rejecting true).outline parse path source).1 = .error e) ↔
    tree.faults source.toList ≠ []
  /-- Its error counts the faults and points at the first one, with line and column from one. -/
  error : ∀ first ∈ (tree.faults source.toList).head?,
    ((reader.rejecting true).outline parse path source).1 =
      .error (.faulty path (tree.faults source.toList).length
        first.position.line first.position.column) ∧
    1 ≤ (tree.faults source.toList).length ∧ 1 ≤ first.position.line ∧ 1 ≤ first.position.column
  /-- Without faults it is no different from a reader that tolerates them. -/
  accepts : tree.faults source.toList = [] →
    (reader.rejecting true).outline parse path source =
      (reader.rejecting false).outline parse path source ∧
    ∃ outline, ((reader.rejecting true).outline parse path source).1 = .ok outline

theorem judgesFaults {reader : Reader} {parse : Parser} {path source : String}
    {language : Language} {tree : ParseTree} (hlisted : tree.ListsFaults source.toList)
    (hlanguage : reader.languageFor path = .ok language)
    (hparse : parse language source = some tree) :
    reader.JudgesFaults parse path source tree := by
  have hflagged := hlisted.flagged
  cases hfaults : tree.faults source.toList with
  | nil =>
    have hclean : tree.hasFaults = false := by
      rw [hfaults] at hflagged
      simpa using hflagged
    have hstrict := outline_of_accepted hlanguage hparse true (by rw [hclean]; rfl)
    have htolerant := outline_of_accepted hlanguage hparse false (by rw [hclean]; rfl)
    refine ⟨?_, ?_, fun _ => ⟨hstrict.trans htolerant.symm, _, by rw [hstrict]⟩⟩
    · rw [hstrict, hfaults]
      simp
    · rw [hfaults]
      nofun
  | cons first rest =>
    have hfaulty : tree.hasFaults = true := hflagged.2 (by rw [hfaults]; exact List.cons_ne_nil _ _)
    have hstrict := outline_of_faulty hlanguage hparse hfaulty
    obtain ⟨places, -, -, hplaces⟩ := hlisted.places
    rw [hfaults, List.forall₂_cons_right_iff] at hplaces
    obtain ⟨place, others, ⟨inner, -, rfl⟩, -⟩ := hplaces
    refine ⟨?_, ?_, ?_⟩
    · rw [hstrict, hfaults]
      simp
    · rw [hfaults]
      rintro _ ⟨⟩
      refine ⟨by rw [hstrict, hfaults]; rfl, by simp, positionAt_pos _ _⟩
    · rw [hfaults]
      nofun

end Reader

/-- The faults of a tree with exact flags and ordered ranges are its outermost marked nodes, in
pre-order. A reader that rejects faults fails with the first of them, or does what one does that
tolerates faults. -/
theorem faults_listed_and_rejected (source : String) (tree : ParseTree) (hflags : tree.FlagsExact)
    (horder : tree.SourceOrdered) :
    tree.ListsFaults source.toList ∧
      ∀ (reader : Reader) (parse : Parser) (path : String) (language : Language),
        reader.languageFor path = .ok language → parse language source = some tree →
          reader.JudgesFaults parse path source tree := by
  have hlisted := ParseTree.listsFaults hflags horder source.toList
  refine ⟨hlisted, fun reader parse path language hlanguage hparse => ?_⟩
  exact Reader.judgesFaults hlisted hlanguage hparse

/-- A sign in a tree without errors. -/
def sign (name : String) (start stop : ℕ) : ParseTree :=
  .node ⟨name, false, false, false, false, ⟨start, stop⟩, none⟩ []

/-- Two declarations. A bracket is missing, and between them is what belongs to neither. -/
def brokenSource : String := "int a[; struct ) template < class\nint b;\n"

/-- The tree of the source, with an error inside another one. -/
def brokenDeclarations : ParseTree :=
  .node ⟨"translation_unit", true, false, false, true, ⟨0, 41⟩, none⟩ [
    .node ⟨"declaration", true, false, false, true, ⟨0, 7⟩, none⟩ [
      .plain "primitive_type" 0 3 (some .type) [],
      .node ⟨"array_declarator", true, false, false, true, ⟨4, 6⟩, some .declarator⟩ [
        .plain "identifier" 4 5 (some .declarator) [],
        sign "[" 5 6,
        .node ⟨"]", false, false, true, true, ⟨6, 6⟩, none⟩ []],
      sign ";" 6 7],
    .node ⟨"ERROR", true, true, false, true, ⟨8, 27⟩, none⟩ [
      sign "struct" 8 14,
      .node ⟨"ERROR", true, true, false, true, ⟨15, 16⟩, none⟩ [sign ")" 15 16],
      sign "template" 17 25,
      sign "<" 26 27],
    .plain "declaration" 28 40 none [
      .plain "class_specifier" 28 37 (some .type) [
        sign "class" 28 33,
        .plain "type_identifier" 34 37 (some .name) []],
      .plain "identifier" 38 39 (some .declarator) [],
      sign ";" 39 40]]

/-- The error inside the error is not listed, and the missing bracket is the first fault. -/
theorem faults_of_brokenDeclarations :
    brokenDeclarations.FlagsExact ∧ brokenDeclarations.SourceOrdered ∧
    brokenDeclarations.faults brokenSource.toList =
      [⟨⟨6, 6⟩, ⟨1, 7⟩, "missing ]"⟩, ⟨⟨8, 27⟩, ⟨1, 9⟩, "syntax error"⟩] ∧
    brokenDeclarations.ListsFaults brokenSource.toList ∧
    ((Reader.rejecting {} true).outline (fun _ _ => some brokenDeclarations) "broken.cpp"
      brokenSource).1 = .error (.faulty "broken.cpp" 2 1 7) := by
  have hflags : brokenDeclarations.FlagsExact := ⟨by decide +kernel, by decide +kernel⟩
  have horder : brokenDeclarations.SourceOrdered :=
    ⟨by decide +kernel, by decide +kernel, by decide +kernel⟩
  have hfaults : brokenDeclarations.faults brokenSource.toList =
      [⟨⟨6, 6⟩, ⟨1, 7⟩, "missing ]"⟩, ⟨⟨8, 27⟩, ⟨1, 9⟩, "syntax error"⟩] := by decide +kernel
  obtain ⟨hlisted, hjudges⟩ :=
    faults_listed_and_rejected brokenSource brokenDeclarations hflags horder
  have hlanguage : Reader.languageFor {} "broken.cpp" = .ok .cpp := by decide +kernel
  have herror := (hjudges {} (fun _ _ => some brokenDeclarations) "broken.cpp" .cpp
    hlanguage rfl).error
  rw [hfaults] at herror
  exact ⟨hflags, horder, hfaults, hlisted, (herror _ rfl).1⟩

end StructSearch.Search

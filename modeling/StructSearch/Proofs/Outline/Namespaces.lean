import StructSearch.Proofs.Matching.Preorder
import StructSearch.Proofs.Outline.Labels

/-!
# Nested namespaces

A definition such as `namespace a :: inline b { .. }` opens one namespace inside the other. Their
names are read off the text between the double colons. The word `inline` is a keyword only with a
blank behind it, but it is taken off a name that begins with these letters too: `namespace
a::inlined` opens a namespace `d`.

Results:
* `ParseNames.nested_writeParts`: which names are read off a text.
* `Rules.namespaces_run`: namespaces are opened one inside the other.
* `IsNest.mem_candidates`: a chain of their names leads to what is inside.
* `buildTree_nestedNamespaces`: what a definition of nested namespaces builds, and when the
  namespaces have the names that are written.
* `namespaceInlined_misnamed`: a namespace with another name than the one that is written.
-/

namespace StructSearch

open Source ParseTree Outline

/-! ## Names between double colons -/

/-- A name between double colons as it is written: with blanks around it, and possibly with the
keyword `inline` and blanks before it. -/
structure NamespacePart where
  before : List Char
  /-- The blanks behind the keyword, if it is there. -/
  keyword : Option (List Char)
  name : List Char
  after : List Char
  before_blank : ∀ c ∈ before, Text.isBlank c = true
  after_blank : ∀ c ∈ after, Text.isBlank c = true
  keyword_blank : ∀ blanks ∈ keyword, blanks ≠ [] ∧ ∀ c ∈ blanks, Text.isBlank c = true
  name_ne_nil : name ≠ []
  name_solid : ∀ c ∈ name, Text.isBlank c = false ∧ c ≠ ':'

namespace NamespacePart

/-- The text of the keyword. -/
def inlineWord : List Char := "inline".toList

/-- The keyword and the name. -/
def core (part : NamespacePart) : List Char :=
  match part.keyword with
  | some blanks => inlineWord ++ blanks ++ part.name
  | none => part.name

/-- The part as it stands between two `::`, with its white space. -/
def text (part : NamespacePart) : List Char := part.before ++ part.core ++ part.after

/-- The name that is written. -/
def written (part : NamespacePart) : String := String.ofList part.name

/-- The name that is read: without a keyword, its first letters may be taken for one. -/
def read (part : NamespacePart) : String :=
  match part.keyword with
  | some _ => String.ofList part.name
  | none => String.ofList (ParseNames.dropInline part.name)

/-- Names with double colons between them. -/
def writeParts (parts : List NamespacePart) : List Char :=
  List.intercalate "::".toList (parts.map text)

end NamespacePart

namespace Text

theorem dropWhile_blanks_append {blanks text : List Char} (hblanks : ∀ c ∈ blanks, isBlank c = true)
    (hhead : ∀ c ∈ text.head?, isBlank c = false) : (blanks ++ text).dropWhile isBlank = text := by
  rw [List.dropWhile_append_of_pos hblanks]
  cases text with
  | nil => rfl
  | cons c rest => exact List.dropWhile_cons_of_neg (by simp [hhead c rfl])

/-- The blanks around a text are what is trimmed off, if the text has none at its ends. -/
theorem trim_append {before text after : List Char} (hne : text ≠ [])
    (hbefore : ∀ c ∈ before, isBlank c = true) (hafter : ∀ c ∈ after, isBlank c = true)
    (hhead : ∀ c ∈ text.head?, isBlank c = false)
    (hlast : ∀ c ∈ text.getLast?, isBlank c = false) :
    trim (before ++ text ++ after) = text := by
  have hfront : (before ++ (text ++ after)).dropWhile isBlank = text ++ after := by
    refine dropWhile_blanks_append hbefore fun c hc => hhead c ?_
    rwa [List.head?_append_of_ne_nil _ hne] at hc
  have hback : (after.reverse ++ text.reverse).dropWhile isBlank = text.reverse := by
    refine dropWhile_blanks_append (fun c hc => hafter c (List.mem_reverse.1 hc)) fun c hc => ?_
    rw [List.head?_reverse] at hc
    exact hlast c hc
  rw [trim, List.append_assoc, hfront, List.reverse_append, hback, List.reverse_reverse]

theorem trim_of_solid {text : List Char} (h : ∀ c ∈ text, isBlank c = false) :
    trim text = text := by
  cases text with
  | nil => rfl
  | cons c rest =>
    have htrim : trim ([] ++ c :: rest ++ []) = c :: rest :=
      trim_append (List.cons_ne_nil c rest) nofun nofun (fun d hd => h d (List.mem_of_head? hd))
        fun d hd => h d (List.mem_of_getLast? hd)
    rwa [List.nil_append, List.append_nil] at htrim

end Text

namespace ParseNames

/-! ### The word `inline` -/

theorem dropInline_append (text : List Char) :
    dropInline (NamespacePart.inlineWord ++ text) = dropInline text := by
  show dropInline ('i' :: 'n' :: 'l' :: 'i' :: 'n' :: 'e' :: text) = _
  rw [dropInline]

theorem dropInline_of_not_isPrefix {text : List Char} (h : ¬NamespacePart.inlineWord <+: text) :
    dropInline text = text := by
  unfold dropInline
  split
  next rest => exact absurd ⟨rest, rfl⟩ h
  next => rfl

theorem dropInline_isSuffix (text : List Char) : dropInline text <:+ text := by
  induction text using dropInline.induct with
  | case1 rest ih =>
    rw [dropInline]
    exact ih.trans (List.suffix_append NamespacePart.inlineWord rest)
  | case2 text h =>
    rw [dropInline_of_not_isPrefix fun ⟨rest, hrest⟩ => h rest hrest.symm]

/-- A text is left alone iff it does not begin with `inline`. -/
theorem dropInline_eq_self_iff {text : List Char} :
    dropInline text = text ↔ ¬NamespacePart.inlineWord <+: text := by
  refine ⟨?_, dropInline_of_not_isPrefix⟩
  rintro h ⟨rest, rfl⟩
  have hlength := (dropInline_isSuffix rest).length_le
  rw [← dropInline_append, h, List.length_append] at hlength
  have : NamespacePart.inlineWord.length = 6 := rfl
  omega

/-! ### Texts with double colons -/

theorem splitColons_cons {c : Char} {text piece : List Char} {pieces : List (List Char)}
    (hc : c ≠ ':') (h : splitColons text = piece :: pieces) :
    splitColons (c :: text) = (c :: piece) :: pieces := by
  rw [splitColons, h]
  exact fun _ hcolon => absurd hcolon hc

theorem splitColons_of_not_mem {piece : List Char} (h : ':' ∉ piece) :
    splitColons piece = [piece] := by
  induction piece with
  | nil => rfl
  | cons c rest ih =>
    rw [List.mem_cons, not_or] at h
    exact splitColons_cons (Ne.symm h.1) (ih h.2)

theorem splitColons_append {piece : List Char} (h : ':' ∉ piece) (text : List Char) :
    splitColons (piece ++ "::".toList ++ text) = piece :: splitColons text := by
  induction piece with
  | nil =>
    show splitColons (':' :: ':' :: text) = _
    rw [splitColons]
  | cons c rest ih =>
    rw [List.mem_cons, not_or] at h
    exact splitColons_cons (Ne.symm h.1) (ih h.2)

theorem splitColons_intercalate {pieces : List (List Char)} (hne : pieces ≠ [])
    (h : ∀ piece ∈ pieces, ':' ∉ piece) :
    splitColons (List.intercalate "::".toList pieces) = pieces := by
  induction pieces with
  | nil => exact absurd rfl hne
  | cons piece rest ih =>
    rw [List.forall_mem_cons] at h
    cases rest with
    | nil => rw [List.intercalate_singleton, splitColons_of_not_mem h.1]
    | cons next others =>
      rw [List.intercalate_cons_cons, splitColons_append h.1, ih (List.cons_ne_nil _ _) h.2]

end ParseNames

namespace NamespacePart

variable (part : NamespacePart)

theorem core_ne_nil : part.core ≠ [] := by
  unfold core
  cases part.keyword with
  | some blanks => exact List.cons_ne_nil _ _
  | none => exact part.name_ne_nil

theorem getLast?_core : part.core.getLast? = part.name.getLast? := by
  unfold core
  cases part.keyword with
  | some blanks => exact List.getLast?_append_of_ne_nil _ part.name_ne_nil
  | none => rfl

theorem isBlank_head_core : ∀ c ∈ part.core.head?, Text.isBlank c = false := by
  unfold core
  cases part.keyword with
  | some blanks =>
    intro c hc
    cases hc
    decide
  | none => exact fun c hc => (part.name_solid c (List.mem_of_head? hc)).1

theorem trim_text : Text.trim part.text = part.core := by
  refine Text.trim_append part.core_ne_nil part.before_blank part.after_blank
    part.isBlank_head_core fun c hc => ?_
  rw [getLast?_core] at hc
  exact (part.name_solid c (List.mem_of_getLast? hc)).1

theorem colon_not_mem_text : ':' ∉ part.text := by
  have hblank {blanks : List Char} (h : ∀ c ∈ blanks, Text.isBlank c = true) : ':' ∉ blanks :=
    fun hc => absurd (h ':' hc) (by decide)
  have hname : ':' ∉ part.name := fun hc => (part.name_solid ':' hc).2 rfl
  have hcore : ':' ∉ part.core := by
    unfold core
    cases hkeyword : part.keyword with
    | some blanks =>
      have hblanks := hblank (part.keyword_blank blanks hkeyword).2
      rw [List.mem_append, List.mem_append, not_or, not_or]
      exact ⟨⟨by decide, hblanks⟩, hname⟩
    | none => exact hname
  rw [text, List.mem_append, List.mem_append, not_or, not_or]
  exact ⟨⟨hblank part.before_blank, hcore⟩, hblank part.after_blank⟩

/-- The name that is read off the text of a part. -/
theorem trim_dropInline_core :
    String.ofList (Text.trim (ParseNames.dropInline part.core)) = part.read := by
  unfold core read
  cases hkeyword : part.keyword with
  | some blanks =>
    obtain ⟨hne, hblank⟩ := part.keyword_blank blanks hkeyword
    -- The blanks behind the keyword keep the name from being taken for another one.
    have hbegins : ¬inlineWord <+: blanks ++ part.name := by
      intro h
      obtain ⟨c, rest, rfl⟩ := List.exists_cons_of_ne_nil hne
      obtain ⟨_, hrest⟩ := h
      have hc : 'i' = c := (List.cons.inj hrest).1
      exact absurd (hblank c List.mem_cons_self) (hc ▸ by decide)
    have htrim : Text.trim (blanks ++ part.name ++ []) = part.name :=
      Text.trim_append part.name_ne_nil hblank nofun
        (fun c hc => (part.name_solid c (List.mem_of_head? hc)).1)
        fun c hc => (part.name_solid c (List.mem_of_getLast? hc)).1
    simp only [List.append_assoc, ParseNames.dropInline_append]
    rw [ParseNames.dropInline_of_not_isPrefix hbegins, ← List.append_nil (blanks ++ part.name),
      htrim]
  | none =>
    have hsolid : ∀ c ∈ ParseNames.dropInline part.name, Text.isBlank c = false := fun c hc =>
      (part.name_solid c ((ParseNames.dropInline_isSuffix part.name).subset hc)).1
    exact congrArg String.ofList (Text.trim_of_solid hsolid)

theorem read_eq_written_iff :
    part.read = part.written ↔ part.keyword = none → ¬inlineWord <+: part.name := by
  unfold read written
  cases part.keyword with
  | some blanks => exact iff_of_true rfl nofun
  | none =>
    rw [String.ofList_inj, ParseNames.dropInline_eq_self_iff]
    exact ⟨fun h _ => h, fun h => h rfl⟩

end NamespacePart

/-- The names that are read off a text. -/
theorem ParseNames.nested_writeParts {parts : List NamespacePart} (hne : parts ≠ []) :
    nested (NamespacePart.writeParts parts) = parts.map NamespacePart.read := by
  have hpieces : ∀ piece ∈ parts.map NamespacePart.text, ':' ∉ piece := by
    simpa using fun part (_ : part ∈ parts) => part.colon_not_mem_text
  rw [nested, NamespacePart.writeParts,
    splitColons_intercalate (fun h => hne (List.map_eq_nil_iff.1 h)) hpieces, List.map_map]
  refine List.map_congr_left fun part _ => ?_
  show String.ofList (Text.trim (dropInline (Text.trim part.text))) = part.read
  rw [part.trim_text, part.trim_dropInline_core]

/-! ## Namespaces inside each other -/

/-- The record of a namespace. -/
def namespaceInfo (source : List Char) (tree : ParseTree) (name : String) : NodeInfo :=
  { NodeInfo.ofTree source .namespaceDecl name tree with isDefinition := true }

/-- The nodes from `first` on are namespaces with these names, the first one below `parent` and each
other one below the one before it. -/
def IsNest (source : List Char) (tree : ParseTree) (outline : Outline) :
    NodeId → NodeId → List String → Prop
  | _, _, [] => True
  | parent, first, name :: names =>
    outline.info? first = some (namespaceInfo source tree name) ∧
      outline.parent? first = some parent ∧ IsNest source tree outline first (first + 1) names

/-- The innermost of `count` namespaces from `first` on. -/
def innermost (parent first : NodeId) : ℕ → NodeId
  | 0 => parent
  | count + 1 => first + count

theorem innermost_add_one (first : NodeId) (count : ℕ) :
    innermost first (first + 1) count = first + count := by
  cases count with
  | zero => rfl
  | succ count => rw [innermost, Nat.add_assoc, Nat.add_comm 1]

section Nest

variable {source : List Char} {tree : ParseTree} {parent first : NodeId} {names : List String}
  {outline later : Outline}

/-- Namespaces stay where they are while their nodes do. -/
theorem IsNest.keeps (h : IsNest source tree outline parent first names)
    (hinfo : ∀ id < first + names.length, later.info? id = outline.info? id)
    (hparent : ∀ id < first + names.length, later.parent? id = outline.parent? id) :
    IsNest source tree later parent first names := by
  induction names generalizing parent first with
  | nil => trivial
  | cons name names ih =>
    obtain ⟨hfirst, habove, hrest⟩ := h
    rw [List.length_cons] at hinfo hparent
    refine ⟨?_, ?_, ih hrest ?_ ?_⟩
    · rw [hinfo first (by lia), hfirst]
    · rw [hparent first (by lia), habove]
    · exact fun id hid => hinfo id (by lia)
    · exact fun id hid => hparent id (by lia)

/-- A chain of the names of namespaces leads to what is inside the innermost one. -/
theorem IsNest.mem_candidates (h : IsNest source tree outline parent first names)
    (hlinked : outline.Linked) {fields : List Query.Field}
    (hfields : List.Forall₂ (fun field name => field.accepts name = true) fields names)
    {id : NodeId} (hid : id ∈ outline.children (innermost parent first names.length)) :
    id ∈ Matching.candidates outline (.chain fields) parent := by
  induction hfields generalizing parent first with
  | nil => simpa [Matching.candidates, Matching.descend, innermost] using hid
  | @cons field name fields names haccepts _ ih =>
    obtain ⟨hfirst, habove, hrest⟩ := h
    have hscope : Matching.isNamedScope outline field first = true := by
      rw [Matching.isNamedScope, hfirst]
      exact Bool.and_eq_true_iff.2 ⟨rfl, haccepts⟩
    rw [Matching.candidates_chain_cons, List.mem_flatMap]
    refine ⟨first, List.mem_filter.2 ⟨hlinked.mem_children.2 habove, hscope⟩, ih hrest ?_⟩
    rwa [innermost_add_one]

end Nest

namespace Rules

/-- Opening namespaces adds their nodes, one inside the other. -/
theorem namespaces_run (source : List Char) (tree : ParseTree) (names : List String)
    {parent : NodeId} {draft : Draft} (hparent : parent < draft.outline.size) :
    let result := (namespaces source tree parent names).run draft
    result.1 = (names.head?.map fun _ => draft.outline.size,
        innermost parent draft.outline.size names.length) ∧
      result.2.outline.size = draft.outline.size + names.length ∧
      IsNest source tree result.2.outline parent draft.outline.size names ∧
      ∀ id < draft.outline.size, result.2.outline.info? id = draft.outline.info? id ∧
        result.2.outline.parent? id = draft.outline.parent? id := by
  induction names generalizing parent draft with
  | nil => exact ⟨rfl, rfl, trivial, fun _ _ => ⟨rfl, rfl⟩⟩
  | cons name names ih =>
    intro result
    obtain ⟨above, habove⟩ := exists_info? hparent
    let start := draft.withNode parent .member (namespaceInfo source tree name)
    have hnew : IsNew draft parent (namespaceInfo source tree name) start := isNew_of_add habove rfl
    have hsize := hnew.size_eq
    have hrun : result =
        ((some draft.outline.size,
          ((namespaces source tree draft.outline.size names).run start).1.2),
        ((namespaces source tree draft.outline.size names).run start).2) := rfl
    obtain ⟨hresult, hlater, hnest, hkeeps⟩ :=
      ih (show draft.outline.size < start.outline.size by lia)
    rw [hsize] at hresult hlater hnest hkeeps
    have hfirst := hkeeps draft.outline.size (by lia)
    rw [hrun, hresult]
    refine ⟨?_, by rw [List.length_cons]; lia, ⟨?_, ?_, hnest⟩, fun id hid => ?_⟩
    · rw [innermost_add_one]
      rfl
    · rw [hfirst.1, hnew.info_eq]
    · rw [hfirst.2, hnew.parent_eq]
    · obtain ⟨info, hinfo⟩ := exists_info? hid
      rw [(hkeeps id (by lia)).1, (hkeeps id (by lia)).2, (hnew.keeps hinfo).1,
        (hnew.keeps hinfo).2, hinfo]
      exact ⟨rfl, rfl⟩

end Rules

/-! ## Definitions of namespaces -/

/-- A definition of namespaces, built below `parent`, has made one node for each name, each inside
the one before, and everything else that it made stands below the innermost one. That is where the
body is built, and a chain of the names leads there. -/
structure ExpandsNamespaces (source : List Char) (tree : ParseTree) (parent : NodeId)
    (draft : Draft) (names : List String) (run : Option NodeId × Draft) : Prop where
  main_eq : run.1 = some draft.outline.size
  nest : IsNest source tree run.2.outline parent draft.outline.size names
  beneath : ∀ id, draft.outline.size + names.length ≤ id → id < run.2.outline.size →
    innermost parent draft.outline.size names.length ∈ run.2.outline.ancestors id
  body_built : ∀ body ∈ tree.part? .body, ∃ before : Draft,
    before.outline.size = draft.outline.size + names.length ∧
      IsNest source tree before.outline parent draft.outline.size names ∧
      run.2.outline = ((Rules.each (buildTree source)
        (innermost parent draft.outline.size names.length) (bodyItems body)).run before).2.outline
  without_body : tree.part? .body = none →
    run.2.outline.size = draft.outline.size + names.length
  reached : ∀ fields : List Query.Field,
    List.Forall₂ (fun field name => field.accepts name = true) fields names →
      run.2.outline.children (innermost parent draft.outline.size names.length) ⊆
        Matching.candidates run.2.outline (.chain fields) parent

/-- Once the namespaces are open, whatever is built below the innermost one completes their
definition. -/
theorem expandsNamespaces_of_steps {source : List Char} {tree : ParseTree} {parent : NodeId}
    {draft after final : Draft} {names : List String} (hlinked : after.outline.Linked)
    (hsize : after.outline.size = draft.outline.size + names.length)
    (hnest : IsNest source tree after.outline parent draft.outline.size names)
    (hsteps : Steps (fun _ _ => True) after.outline.size
      (innermost parent draft.outline.size names.length) after final)
    (hbody : ∀ body ∈ tree.part? .body, final.outline = ((Rules.each (buildTree source)
      (innermost parent draft.outline.size names.length) (bodyItems body)).run after).2.outline)
    (hnone : tree.part? .body = none → final = after) :
    ExpandsNamespaces source tree parent draft names (some draft.outline.size, final) := by
  have hnest' : IsNest source tree final.outline parent draft.outline.size names := by
    refine hnest.keeps (fun id hid => ?_) fun id hid => ?_
    · exact hsteps.info?_eq le_rfl (by lia)
    · exact hsteps.parent?_eq (by lia)
  refine ⟨rfl, hnest', fun id hid hlt => ?_, fun body hsome => ?_, fun hbodiless => ?_,
    fun fields hfields id hid => ?_⟩
  · exact hsteps.mem_ancestors hlinked (by lia) hlt
  · exact ⟨after, hsize, hnest, hbody body hsome⟩
  · rw [hnone hbodiless, hsize]
  · exact hnest'.mem_candidates (hsteps.linked hlinked) hfields hid

/-- A definition opens the namespaces with the names that are read. -/
theorem buildTree_namespaceDefinition {source : List Char} (role : Role) {tree : ParseTree}
    {parent : NodeId} {draft : Draft} (hconstruct : tree.construct = .namespaceDefinition)
    (hnames : ParseNames.ofNamespace source tree ≠ []) (hlinked : draft.outline.Linked)
    (hparent : parent < draft.outline.size) :
    ExpandsNamespaces source tree parent draft (ParseNames.ofNamespace source tree)
      ((buildTree source role tree parent).run draft) := by
  obtain ⟨above, habove⟩ := exists_info? hparent
  have hready := buildSmaller_ready_any source tree
  have htree : Belongs (fun _ _ => True) tree above tree := ⟨self_mem_subtrees tree, trivial⟩
  have hrule : buildTree source role tree parent =
      Rules.namespaceRule source (buildSmaller source tree) tree parent := by
    rw [buildTree_eq, Rules.rule]
    simp only [hconstruct]
  obtain ⟨hresult, hsize, hnest, -⟩ :=
    Rules.namespaces_run source tree (ParseNames.ofNamespace source tree) hparent
  obtain ⟨hopened, -, -, info, hinfo, hbelongs⟩ :=
    Rules.namespaces_grows hready habove htree (ParseNames.ofNamespace source tree)
  have hfirst : (ParseNames.ofNamespace source tree).head?.map (fun _ => draft.outline.size) =
      some draft.outline.size := by
    rw [List.head?_eq_some_head hnames]
    rfl
  rw [hrule, Rules.namespaceRule]
  generalize hafter : (Rules.namespaces source tree parent
    (ParseNames.ofNamespace source tree)).run draft = opened at *
  obtain ⟨⟨main, inner⟩, after⟩ := opened
  obtain ⟨rfl, rfl⟩ := Prod.mk.inj (hresult.trans (congrArg (·, _) hfirst))
  have hlinked' : after.outline.Linked := hopened.linked hlinked
  rw [StateT.run_bind, hafter]
  cases hbody : tree.part? .body with
  | none =>
    refine expandsNamespaces_of_steps hlinked' hsize hnest .refl ?_ fun _ => rfl
    rw [hbody]
    exact nofun
  | some body =>
    have hchild := hready.child hbelongs (mem_children_of_part?_eq hbody)
    have hsteps := (Rules.children_grows hready hinfo hchild).inBlock.1
    refine expandsNamespaces_of_steps hlinked' hsize hnest hsteps ?_ ?_
    · rintro body' hbody'
      obtain rfl : body = body' := Option.some.inj (hbody.symm.trans hbody')
      have hagree : ∀ part, part.size < body.size → ∀ parent,
          buildSmaller source tree .member part parent = buildTree source .member part parent :=
        fun part hlt parent => buildSmaller_of_lt (lt_trans hlt (size_lt_of_part?_eq hbody))
      rw [← Rules.children_eq_each_items _ hagree]
      rfl
    · rw [hbody]
      exact nofun

/-- A definition of nested namespaces opens one namespace for each name that is written. They have
the written names iff none that stands without a keyword begins with the letters of one. -/
theorem buildTree_nestedNamespaces (source : List Char) (role : Role) (tree specifier : ParseTree)
    (parts : List NamespacePart) (parent : NodeId) (draft : Draft)
    (hconstruct : tree.construct = .namespaceDefinition)
    (hname : tree.part? .name = some specifier)
    (hspecifier : specifier.construct = .nestedNamespaceSpecifier) (hne : parts ≠ [])
    (htext : specifier.text source = NamespacePart.writeParts parts)
    (hlinked : draft.outline.Linked) (hparent : parent < draft.outline.size) :
    ExpandsNamespaces source tree parent draft (parts.map NamespacePart.read)
        ((buildTree source role tree parent).run draft) ∧
      (parts.map NamespacePart.read = parts.map NamespacePart.written ↔
        ∀ part ∈ parts, part.keyword = none → ¬NamespacePart.inlineWord <+: part.name) := by
  have hnames : ParseNames.ofNamespace source tree = parts.map NamespacePart.read := by
    rw [ParseNames.ofNamespace, hname]
    simp only [hspecifier, if_true, htext]
    exact ParseNames.nested_writeParts hne
  constructor
  · rw [← hnames]
    refine buildTree_namespaceDefinition role hconstruct ?_ hlinked hparent
    rw [hnames]
    exact fun h => hne (List.map_eq_nil_iff.1 h)
  · rw [List.map_inj_left]
    exact forall₂_congr fun part _ => part.read_eq_written_iff

/-- The part with given texts, which are checked character by character. -/
def NamespacePart.ofTexts (before : List Char) (keyword : Option (List Char))
    (name after : List Char)
    (hblank : (before ++ keyword.getD [] ++ after).all Text.isBlank = true)
    (hkeyword : keyword ≠ some []) (hne : name ≠ [])
    (hsolid : name.all (fun c => !Text.isBlank c && c != ':') = true) : NamespacePart where
  before := before
  keyword := keyword
  name := name
  after := after
  before_blank c hc := List.all_eq_true.1 hblank c (by simp [hc])
  after_blank c hc := List.all_eq_true.1 hblank c (by simp [hc])
  keyword_blank blanks h :=
    ⟨fun hnil => hkeyword (hnil ▸ h), fun c hc => List.all_eq_true.1 hblank c (by simp_all)⟩
  name_ne_nil := hne
  name_solid := by simpa using hsolid

/-- The fields that accept the names of a qualifier. -/
def namedFields (names : List String) : List Query.Field :=
  names.map fun name => (Query.Field.compile name).toOption.getD .any

/-- The source `namespace a :: inline b { int h(); }`. -/
def inlineNamespace : ParseTree :=
  .plain "namespace_definition" 0 36 none [
    .plain "nested_namespace_specifier" 10 23 (some .name) [
      .plain "namespace_identifier" 10 11 none [],
      .plain "namespace_identifier" 22 23 none []],
    .plain "declaration_list" 24 36 (some .body) [
      .plain "declaration" 26 34 none [
        .plain "primitive_type" 26 29 (some .type) [],
        .plain "function_declarator" 30 33 (some .declarator) [
          .plain "identifier" 30 31 (some .declarator) [],
          .plain "parameter_list" 31 33 (some .parameters) []]]]]

/-- The keyword is no part of the name `b`, and the chain `a::b::` leads to the function. -/
theorem inlineNamespace_expands :
    let source := "namespace a :: inline b { int h(); }".toList
    let start := Draft.start source "a.cpp" inlineNamespace
    let run := (buildTree source .member inlineNamespace root).run start
    ExpandsNamespaces source inlineNamespace root start ["a", "b"] run ∧
      (run.2.outline.info? 3).map (·.spelling) = some "h" ∧
      3 ∈ Matching.candidates run.2.outline (.chain (namedFields ["a", "b"])) root := by
  intro source start run
  let outer : NamespacePart :=
    .ofTexts [] none ['a'] [' '] (by decide) (by decide) (by decide) (by decide)
  let inner : NamespacePart :=
    .ofTexts [' '] (some [' ']) ['b'] [] (by decide) (by decide) (by decide) (by decide)
  obtain ⟨hexpands, hread⟩ := buildTree_nestedNamespaces source .member inlineNamespace _
    [outer, inner] root start (by decide +kernel) rfl (by decide +kernel) (List.cons_ne_nil _ _)
    (by decide +kernel) (linked_single _) (by decide)
  rw [hread.2 (by decide)] at hexpands
  refine ⟨hexpands, by decide +kernel, hexpands.reached _ ?_ (by decide +kernel)⟩
  exact .cons (by decide +kernel) (.cons (by decide +kernel) .nil)

/-- The source `namespace a::inlined { int h(); }`. -/
def namespaceInlined : ParseTree :=
  .plain "namespace_definition" 0 33 none [
    .plain "nested_namespace_specifier" 10 20 (some .name) [
      .plain "namespace_identifier" 10 11 none [],
      .plain "namespace_identifier" 13 20 none []],
    .plain "declaration_list" 21 33 (some .body) [
      .plain "declaration" 23 31 none [
        .plain "primitive_type" 23 26 (some .type) [],
        .plain "function_declarator" 27 30 (some .declarator) [
          .plain "identifier" 27 28 (some .declarator) [],
          .plain "parameter_list" 28 30 (some .parameters) []]]]]

/-- There is no keyword, but the inner namespace is named `d`, and the chain `a::inlined::` leads
nowhere. -/
theorem namespaceInlined_misnamed :
    let source := "namespace a::inlined { int h(); }"
    let outline := Outline.ofParseTree source "a.cpp"
      (.plain "translation_unit" 0 33 none [namespaceInlined])
    ∃ parts : List NamespacePart,
      (namespaceInlined.part? .name).map (·.text source.toList) =
        some (NamespacePart.writeParts parts) ∧
      parts.map NamespacePart.written = ["a", "inlined"] ∧
      (∀ part ∈ parts, part.keyword = none) ∧
      [1, 2, 3].map (fun id => (outline.info? id).map (·.spelling)) =
        [some "a", some "d", some "h"] ∧
      Matching.candidates outline (.chain (namedFields ["a", "inlined"])) root = [] := by
  intro source outline
  let outer : NamespacePart :=
    .ofTexts [] none "a".toList [] (by decide) (by decide) (by decide) (by decide)
  let inner : NamespacePart :=
    .ofTexts [] none "inlined".toList [] (by decide) (by decide) (by decide) (by decide)
  refine ⟨[outer, inner], ?_, rfl, by decide, ?_, ?_⟩
  · decide +kernel
  · decide +kernel
  · decide +kernel

end StructSearch

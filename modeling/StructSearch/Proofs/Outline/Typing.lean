import StructSearch.Proofs.Outline.RuleGrowth

/-!
# Kinds and lists of nodes agree

Patterns ask for the kinds of nodes and for their lists of arguments and template parameters, and a
list whose entries have the wrong kinds makes a function or template invisible to them. The outline
of every parse tree is well typed, also of one with errors in it: each list belongs to a node of the
right kind and holds nodes of the right kinds.

Results:
* `Typed.add`, `Typed.rewrites`: what a step keeps.
* `ofParseTree_wellTyped`: the outline of a parse tree is well typed.
-/

namespace StructSearch

open Source ParseTree Outline

/-- Declarations that become a node of another kind when a template gives them parameters. -/
def Kind.becomesTemplate : Kind → Bool
  | classDecl | structDecl | unionDecl | functionDecl | method => true
  | _ => false

namespace Outline

/-- The kinds of nodes agree with their places in the lists of other nodes. -/
structure Typed (outline : Outline) : Prop where
  fileUnit_iff : ∀ {id : NodeId}, outline.hasKind (· == .fileUnit) id = true ↔ id = root
  arguments_owner : ∀ {id : NodeId}, outline.arguments id ≠ [] →
    outline.hasKind (fun kind => kind.isFunctionDeclaration || kind == .callExpr) id = true
  /-- The arguments of a function are its parameters, in order. -/
  function_arguments : ∀ {id : NodeId}, outline.hasKind Kind.isFunctionDeclaration id = true →
    outline.arguments id = (outline.children id).filter (outline.hasKind Kind.isParameter)
  parameter_owner : ∀ {id : NodeId}, outline.hasKind Kind.isParameter id = true →
    ∃ owner, outline.hasKind Kind.isFunctionDeclaration owner = true ∧
      id ∈ outline.arguments owner
  call_arguments : ∀ {id argument : NodeId}, outline.hasKind (· == .callExpr) id = true →
    argument ∈ outline.arguments id → outline.hasKind Kind.isExpression argument = true
  template_entries : ∀ {id entry : NodeId}, entry ∈ outline.templateParameters id →
    outline.hasKind Kind.isTemplateParameter entry = true
  template_owner : ∀ {id : NodeId}, outline.templateParameters id ≠ [] →
    outline.hasKind Kind.becomesTemplate id = false
  not_definition : ∀ {id : NodeId} {info : NodeInfo}, outline.info? id = some info →
    info.kind.isExpression = true → info.isDefinition = false

/-- A well typed outline: its nodes all stand below the root, each in one place, and their kinds
agree with these places. -/
structure WellTyped (outline : Outline) : Prop extends Linked outline, Typed outline where
  reachable : ∀ id < outline.size, id = root ∨ id ∈ outline.descendants root

/-! ## What a step keeps -/

/-- What the record and the role of a new node say about each other and about the record above. -/
structure Suits (above : NodeInfo) (role : Role) (info : NodeInfo) : Prop where
  not_fileUnit : info.kind ≠ .fileUnit
  parameter_iff : info.kind.isParameter = true ↔
    role = .argument ∧ above.kind.isFunctionDeclaration = true
  argument : role = .argument → above.kind.isFunctionDeclaration = true ∨ above.kind = .callExpr
  call_argument : role = .argument → above.kind = .callExpr → info.kind.isExpression = true
  template : role = .template →
    info.kind.isTemplateParameter = true ∧ above.kind.becomesTemplate = false
  not_definition : info.kind.isExpression = true → info.isDefinition = false

section Add

variable {outline : Outline} {owner : NodeId} {above info : NodeInfo} {role : Role}

/-- The parameters among the children of a function and its arguments grow together. -/
theorem Typed.function_arguments_add (h : outline.Typed) (hl : outline.Linked)
    (habove : outline.info? owner = some above) (hsuits : Suits above role info) {id : NodeId}
    (hid : id < outline.size) (hfunction : outline.hasKind Kind.isFunctionDeclaration id = true) :
    (outline.add owner info role).arguments id =
      ((outline.add owner info role).children id).filter
        ((outline.add owner info role).hasKind Kind.isParameter) := by
  have hfilter : (outline.children id).filter
      ((outline.add owner info role).hasKind Kind.isParameter) = outline.arguments id := by
    rw [h.function_arguments hfunction]
    refine List.filter_congr fun child hc => ?_
    exact hasKind_add_of_lt _ _ _ _ _ _ (lt_size_of_parent?_eq (hl.mem_children.1 hc))
  by_cases howner : id = owner
  · subst howner
    rw [hasKind_of_info? habove] at hfunction
    rw [children_add, if_pos ⟨rfl, hid⟩, List.filter_append, hfilter, List.filter_singleton,
      hasKind_add, if_pos rfl, arguments_add]
    by_cases hrole : role = .argument
    · rw [if_pos ⟨rfl, hid, hrole⟩, hsuits.parameter_iff.2 ⟨hrole, hfunction⟩]
      rfl
    · have hother : info.kind.isParameter = false :=
        Bool.eq_false_iff.2 fun hkind => hrole (hsuits.parameter_iff.1 hkind).1
      rw [if_neg fun hlist => hrole hlist.2.2, hother]
      exact (List.append_nil _).symm
  · rw [arguments_add, children_add, if_neg fun hlist => howner hlist.1,
      if_neg fun hlist => howner hlist.1, hfilter]

theorem Typed.add (h : outline.Typed) (hl : outline.Linked)
    (habove : outline.info? owner = some above) (hsuits : Suits above role info) :
    (outline.add owner info role).Typed := by
  have howner : owner < outline.size := lt_size_of_info?_eq habove
  have hroot : root < outline.size := outline.size_pos
  have hold : ∀ {ofKind id}, outline.hasKind ofKind id = true →
      (outline.add owner info role).hasKind ofKind id = true := by
    intro ofKind id hkind
    rw [hasKind_add_of_lt _ _ _ _ _ _ (lt_size_of_hasKind hkind), hkind]
  have hnew : ∀ {ofKind}, ofKind info.kind = true →
      (outline.add owner info role).hasKind ofKind outline.size = true := by
    intro ofKind hkind
    rw [hasKind_add, if_pos rfl, hkind]
  -- Only the owner's lists change, and only the new node can break what is said about kinds.
  constructor
  case fileUnit_iff =>
    intro id
    rw [hasKind_add]
    split_ifs with hid
    · have hkind : (info.kind == Kind.fileUnit) = false := by simpa using hsuits.not_fileUnit
      simp only [hkind, Bool.false_eq_true, false_iff]
      lia
    · exact h.fileUnit_iff
  case arguments_owner =>
    intro id hne
    rw [arguments_add] at hne
    split_ifs at hne with hid
    · obtain ⟨rfl, -, hrole⟩ := hid
      refine hold ?_
      rw [hasKind_of_info? habove]
      simpa using hsuits.argument hrole
    · exact hold (h.arguments_owner hne)
  case function_arguments =>
    intro id hfunction
    rw [hasKind_add] at hfunction
    split_ifs at hfunction with hid
    · have hne : ¬(id = owner ∧ owner < outline.size) := by lia
      rw [arguments_add, children_add, if_neg (by lia), if_neg hne, arguments_eq_nil (by lia),
        children_eq_nil (by lia)]
      rfl
    · exact h.function_arguments_add hl habove hsuits (lt_size_of_hasKind hfunction) hfunction
  case parameter_owner =>
    intro id hparameter
    rw [hasKind_add] at hparameter
    split_ifs at hparameter with hid
    · obtain ⟨hrole, hfunction⟩ := hsuits.parameter_iff.1 hparameter
      refine ⟨owner, hold (by rw [hasKind_of_info? habove, hfunction]), ?_⟩
      rw [arguments_add, if_pos ⟨rfl, howner, hrole⟩, hid]
      exact List.mem_append_right _ List.mem_cons_self
    · obtain ⟨other, hother, hmem⟩ := h.parameter_owner hparameter
      refine ⟨other, hold hother, ?_⟩
      rw [arguments_add]
      split_ifs
      · exact List.mem_append_left _ hmem
      · exact hmem
  case call_arguments =>
    intro id argument hcall hmem
    rw [hasKind_add] at hcall
    rw [arguments_add] at hmem
    split_ifs at hcall hmem with hid hlist hlist
    · lia
    · rw [arguments_eq_nil (by lia)] at hmem
      cases hmem
    · rcases List.mem_append.1 hmem with hmem | hmem
      · exact hold (h.call_arguments hcall hmem)
      · obtain ⟨rfl, -, hrole⟩ := hlist
        rw [hasKind_of_info? habove, beq_iff_eq] at hcall
        rw [List.mem_singleton.1 hmem]
        exact hnew (hsuits.call_argument hrole hcall)
    · exact hold (h.call_arguments hcall hmem)
  case template_entries =>
    intro id entry hmem
    rw [templateParameters_add] at hmem
    split_ifs at hmem with hid
    · rcases List.mem_append.1 hmem with hmem | hmem
      · exact hold (h.template_entries hmem)
      · rw [List.mem_singleton.1 hmem]
        exact hnew (hsuits.template hid.2.2).1
    · exact hold (h.template_entries hmem)
  case template_owner =>
    intro id hne
    rw [templateParameters_add] at hne
    have hid : id < outline.size := by
      by_contra hge
      rw [if_neg (by lia), templateParameters_eq_nil (by lia)] at hne
      exact hne rfl
    rw [hasKind_add_of_lt _ _ _ _ _ _ hid]
    split_ifs at hne with hlist
    · obtain ⟨rfl, -, hrole⟩ := hlist
      rw [hasKind_of_info? habove]
      exact (hsuits.template hrole).2
    · exact h.template_owner hne
  case not_definition =>
    intro id record hinfo hkind
    rw [info?_add] at hinfo
    split_ifs at hinfo with hid
    · cases hinfo
      exact hsuits.not_definition hkind
    · exact h.not_definition hinfo hkind

end Add

/-- Records may take the kinds of templates. -/
theorem Typed.rewrites {f : NodeId → NodeInfo → NodeInfo} {before after : Outline}
    (h : before.Typed) (hf : Rewrites f before after)
    (hkind : ∀ id info, (f id info).kind = info.kind ∨
      (f id info).kind = Rules.templateKind info.kind)
    (hdefinition : ∀ id info, (f id info).isDefinition = info.isDefinition) : after.Typed := by
  have hsame : ∀ ofKind : Kind → Bool, (∀ kind, ofKind (Rules.templateKind kind) = ofKind kind) →
      ∀ id, after.hasKind ofKind id = before.hasKind ofKind id := by
    intro ofKind htemplate
    refine hf.hasKind fun id info => ?_
    rcases hkind id info with hk | hk
    · rw [hk]
    · rw [hk, htemplate]
  -- A template kind is in every group in which the plain kind is, but for `becomesTemplate`.
  have hfunction := hsame Kind.isFunctionDeclaration (by intro kind; cases kind <;> rfl)
  have hparameter := hsame Kind.isParameter (by intro kind; cases kind <;> rfl)
  have hcall := hsame (· == .callExpr) (by intro kind; cases kind <;> rfl)
  have hexpression : ∀ kind, (Rules.templateKind kind).isExpression = kind.isExpression := by
    intro kind
    cases kind <;> rfl
  constructor
  case fileUnit_iff =>
    intro id
    rw [hsame (· == .fileUnit) (by intro kind; cases kind <;> rfl)]
    exact h.fileUnit_iff
  case arguments_owner =>
    intro id hne
    rw [hsame _ (by intro kind; cases kind <;> rfl)]
    rw [hf.arguments] at hne
    exact h.arguments_owner hne
  case function_arguments =>
    intro id hid
    rw [hf.arguments, hf.children, funext hparameter]
    exact h.function_arguments (by rw [← hfunction, hid])
  case parameter_owner =>
    intro id hid
    rw [hparameter] at hid
    obtain ⟨owner, howner, hmem⟩ := h.parameter_owner hid
    exact ⟨owner, by rw [hfunction, howner], by rw [hf.arguments]; exact hmem⟩
  case call_arguments =>
    intro id argument hid hmem
    rw [hcall] at hid
    rw [hf.arguments] at hmem
    rw [hsame _ hexpression]
    exact h.call_arguments hid hmem
  case template_entries =>
    intro id entry hmem
    rw [hf.templateParameters] at hmem
    rw [hsame _ (by intro kind; cases kind <;> rfl)]
    exact h.template_entries hmem
  case template_owner =>
    intro id hne
    rw [hf.templateParameters] at hne
    have hbefore := h.template_owner hne
    unfold hasKind at hbefore ⊢
    rw [hf.info?]
    cases hinfo : before.info? id with
    | none => rfl
    | some info =>
      rw [hinfo] at hbefore
      rcases hkind id info with hk | hk
      · simpa [hk] using hbefore
      · cases hinfo : info.kind <;> simp [hk, hinfo, Rules.templateKind, Kind.becomesTemplate]
  case not_definition =>
    intro id info hinfo hid
    rw [hf.info?, Option.map_eq_some_iff] at hinfo
    obtain ⟨old, hold, rfl⟩ := hinfo
    rw [hdefinition]
    refine h.not_definition hold ?_
    rcases hkind id old with hk | hk
    · rwa [hk] at hid
    · rwa [hk, hexpression] at hid

end Outline

/-! ## Steps -/

/-- Declarations are neither files nor expressions, and parameters are a group of their own. -/
theorem Kind.of_declaration (kind : Kind) (h : kind.isPlainDeclaration = true ∨
    kind.isFunctionDeclaration = true ∨ kind.isTemplateParameter = true) :
    kind ≠ .fileUnit ∧ kind.isParameter = false ∧ kind.isExpression = false := by
  revert h
  cases kind <;> decide

theorem Joins.suits {draft : Draft} {above info : NodeInfo} {role : Role}
    (h : Joins draft above role info) : Suits above role info := by
  cases h with
  | declaration hkind =>
    have hfacts := info.kind.of_declaration (Or.inl hkind)
    constructor <;> simp [hfacts]
  | expression hkind hdefinition hrole =>
    have hfacts : info.kind ≠ .fileUnit ∧ info.kind.isParameter = false := by
      revert hkind
      cases info.kind <;> decide
    rcases hrole with rfl | ⟨rfl, hcall⟩
    · constructor <;> simp [hfacts, hdefinition]
    · constructor <;> simp [hfacts, hdefinition, hcall, hkind, Kind.isFunctionDeclaration]
  | parameter habove hkind =>
    have hcall : above.kind ≠ .callExpr := by
      rintro hcall
      rw [hcall] at habove
      cases habove
    constructor <;> simp [hkind, habove, hcall, Kind.isParameter, Kind.isExpression]
  | templateParameter habove hkind =>
    have hfacts := info.kind.of_declaration (Or.inr (Or.inr hkind))
    have hgeneral : above.kind.becomesTemplate = false := by
      revert habove
      cases above.kind <;> decide
    constructor <;> simp [hfacts, hkind, hgeneral]

theorem suits_function {above info : NodeInfo} (h : info.kind.isFunctionDeclaration = true) :
    Suits above .member info := by
  have hfacts := info.kind.of_declaration (Or.inr (Or.inl h))
  constructor <;> simp [hfacts]

variable {fits : ByteRange → ByteRange → Prop} {base : ℕ} {parent : NodeId} {before after : Draft}

theorem Step.typed (h : Step fits base parent before after) (hl : before.outline.Linked)
    (ht : before.outline.Typed) : after.outline.Typed := by
  cases h with
  | add _ habove _ hjoins => exact ht.add hl habove hjoins.suits
  | function _ habove _ hkind =>
    rw [Draft.withResult_outline]
    exact ht.add hl habove (suits_function hkind)
  | generalize =>
    refine ht.rewrites (rewrites_modifyInfo _ _ _) ?_ ?_
    · intro other info
      unfold NodeInfo.generalized
      split_ifs
      · exact Or.inr rfl
      · exact Or.inl rfl
      · exact Or.inl rfl
    · intro other info
      split_ifs <;> rfl
  | context => exact ht

theorem Steps.typed (h : Steps fits base parent before after) (hl : before.outline.Linked)
    (ht : before.outline.Typed) : after.outline.Typed := by
  induction h with
  | refl => exact ht
  | tail hsteps hstep ih => exact hstep.typed (Steps.linked hsteps hl) ih

/-! ## Outlines of parse trees -/

theorem typed_single {info : NodeInfo} (h : info.kind = .fileUnit) : (single info).Typed := by
  have hinfo : (single info).info? root = some info := rfl
  have hroot : ∀ {ofKind id}, (single info).hasKind ofKind id = true →
      id = root ∧ ofKind .fileUnit = true := by
    intro ofKind id hkind
    obtain rfl : id = root := Nat.lt_one_iff.1 (lt_size_of_hasKind hkind)
    rw [hasKind_of_info? hinfo, h] at hkind
    exact ⟨rfl, hkind⟩
  have hlists : ∀ id,
      (single info).arguments id = [] ∧ (single info).templateParameters id = [] := by
    intro id
    cases id with
    | zero => exact ⟨rfl, rfl⟩
    | succ id => exact ⟨arguments_eq_nil (by simp), templateParameters_eq_nil (by simp)⟩
  constructor
  case fileUnit_iff =>
    intro id
    refine ⟨fun hkind => (hroot hkind).1, ?_⟩
    rintro rfl
    rw [hasKind_of_info? hinfo, h]
    rfl
  case arguments_owner => exact fun hne => absurd (hlists _).1 hne
  case function_arguments => exact fun hkind => nomatch (hroot hkind).2
  case parameter_owner => exact fun hkind => nomatch (hroot hkind).2
  case call_arguments => exact fun hkind => nomatch (hroot hkind).2
  case template_entries =>
    intro id entry hmem
    rw [(hlists id).2] at hmem
    cases hmem
  case template_owner => exact fun hne => absurd (hlists _).2 hne
  case not_definition =>
    intro id record hrecord hkind
    have hexpression : (single info).hasKind Kind.isExpression id = true := by
      rw [hasKind_of_info? hrecord, hkind]
    exact nomatch (hroot hexpression).2

/-- The outline of a parse tree is well typed, whatever the shape of the tree. -/
theorem ofParseTree_wellTyped (source name : String) (tree : ParseTree) :
    (Outline.ofParseTree source name tree).WellTyped := by
  have hsteps : Steps (fun _ _ => True) (Draft.start source.toList name tree).outline.size root
      (Draft.start source.toList name tree) (Draft.finish source.toList name tree) :=
    finish_steps_any source.toList name tree
  have hlinked := hsteps.linked (linked_single _)
  have htyped := hsteps.typed (linked_single _) (typed_single rfl)
  have hinfer := rewrites_inferTypes (Draft.finish source.toList name tree).outline
    (Draft.finish source.toList name tree).results
  refine ⟨hlinked.rewrites hinfer, ?_, ?_⟩
  · exact htyped.rewrites hinfer (fun _ info => Or.inl (inferInfo_kind _ _ _ info))
      fun _ info => inferInfo_isDefinition _ _ _ info
  · intro id hid
    by_cases hroot : id = root
    · exact Or.inl hroot
    · have hpos : 1 ≤ id := Nat.one_le_iff_ne_zero.2 hroot
      have hlt : id < (Draft.finish source.toList name tree).outline.size := by
        rw [← hinfer.size]
        exact hid
      have habove := hsteps.mem_ancestors (linked_single _) hpos hlt
      rw [← hinfer.ancestors hlinked] at habove
      exact Or.inr ((hlinked.rewrites hinfer).mem_descendants_iff.2 habove)

end StructSearch

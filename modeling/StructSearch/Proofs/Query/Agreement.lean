import Mathlib.Tactic
import StructSearch.Proofs.Query.Completeness
import StructSearch.Regex.Builtin

/-!
# Reading agrees with the grammar

A derivation stands for a pattern as soon as its fields are regular expressions, its attribute
lists agree on the access, its names are given to entities and its type bindings to functions and
variables. Without a `<` no look ahead for a template list can go wrong, so that such a derivation
is also what its tokens are read as.

Results:
* `Derivation.exists_pattern`: when a derivation stands for a pattern.
* `ofTokens_follows_grammar`: reading gives derived patterns only, and all those without `<`.
-/

namespace StructSearch.Query.Grammar

/-! ## Derivations that stand for a pattern -/

theorem exists_mapM {α β : Type} {f : α → Option β} {parts : List α}
    (h : ∀ part ∈ parts, (f part).isSome) : ∃ images, parts.mapM f = some images := by
  induction parts with
  | nil => exact ⟨[], rfl⟩
  | cons part parts ih =>
    obtain ⟨image, himage⟩ := Option.isSome_iff_exists.1 (h part List.mem_cons_self)
    obtain ⟨images, himages⟩ := ih fun other hother => h other (List.mem_cons_of_mem _ hother)
    exact ⟨image :: images, by simp [himage, himages]⟩

section AnyEngine

variable [Regex.Engine]

theorem exists_orAny? {α : Type} {f : α → Option Field} {part : Option α}
    (h : ∀ a ∈ part, (f a).isSome) : ∃ field, orAny? f part = some field := by
  cases part with
  | none => exact ⟨.any, rfl⟩
  | some a => exact Option.isSome_iff_exists.1 (h a rfl)

/-- An optional type is a field if its text is one. -/
theorem exists_type {type : Option TypeName}
    (h : ∀ text ∈ type.toList.map TypeName.text, (field? text).isSome) :
    ∃ field, orAny? TypeName.field? type = some field := by
  refine exists_orAny? fun name hname => h name.text ?_
  rw [Option.mem_def.1 hname]
  exact List.mem_singleton_self _

theorem exists_name {name : Option String} (h : ∀ text ∈ name.toList, (field? text).isSome) :
    ∃ field, orAny? field? name = some field :=
  exists_orAny? fun text htext => h text (Option.mem_toList.2 htext)

theorem Entry.exists_parameter {entry : Entry}
    (h : ∀ text ∈ entry.fieldTexts, (field? text).isSome) : (entry.parameter?).isSome := by
  cases entry with
  | ellipsis => rfl
  | named name =>
    obtain ⟨field, hfield⟩ := Option.isSome_iff_exists.1 (h name List.mem_cons_self)
    simp [Entry.parameter?, hfield]
  | typed name type =>
    obtain ⟨_, hname⟩ := exists_name fun text htext => h text (List.mem_append_left _ htext)
    obtain ⟨_, htype⟩ := exists_type fun text htext => h text (List.mem_append_right _ htext)
    simp [Entry.parameter?, hname, htype]

theorem exists_parameters {entries : List Entry}
    (h : ∀ text ∈ entries.flatMap Entry.fieldTexts, (field? text).isSome) :
    ∃ parameters, parameters? entries = some parameters :=
  exists_mapM fun _ hentry => Entry.exists_parameter fun text htext =>
    h text (List.mem_flatMap_of_mem hentry htext)

theorem exists_template {template : Option (List Entry)}
    (h : ∀ text ∈ (template.getD []).flatMap Entry.fieldTexts, (field? text).isSome) :
    ∃ parameters, template? template = some parameters := by
  cases template with
  | none => exact ⟨none, rfl⟩
  | some entries =>
    rw [Option.getD_some] at h
    obtain ⟨parameters, hparameters⟩ := exists_parameters h
    exact ⟨some parameters, by simp [template?, hparameters]⟩

omit [Regex.Engine] in
theorem exists_attributes {words : Option (List String)}
    (h : OneAccess ((words.getD []).map Text.lowercase)) :
    ∃ list, attributes? words = some list :=
  ⟨_, attributes?_eq_some.2 ⟨h, rfl⟩⟩

/-- A head writes an entity if its fields and attributes do. -/
theorem Head.exists_entity {head : Head} (hfields : ∀ text ∈ head.fieldTexts, (field? text).isSome)
    (haccess : OneAccess (head.attributeWords.map Text.lowercase)) :
    ∃ entity, head.entity? = some entity := by
  cases head with
  | sigilFunction type template parameters attributes =>
    simp only [Head.fieldTexts, List.mem_append, or_imp, forall_and] at hfields
    obtain ⟨_, htype⟩ := exists_type hfields.1.1
    obtain ⟨_, htemplate⟩ := exists_template hfields.1.2
    obtain ⟨_, hlist⟩ := exists_attributes haccess
    cases parameters with
    | none => simp [Head.entity?, htype, htemplate, hlist]
    | some entries =>
      rw [Option.getD_some] at hfields
      obtain ⟨_, hparameters⟩ := exists_parameters hfields.2
      simp [Head.entity?, htype, htemplate, hparameters, hlist]
  | sigilVariable isParameter type attributes =>
    obtain ⟨_, htype⟩ := exists_type hfields
    obtain ⟨_, hlist⟩ := exists_attributes haccess
    simp [Head.entity?, htype, hlist]
  | sigilClass template =>
    obtain ⟨_, htemplate⟩ := exists_template hfields
    simp [Head.entity?, htemplate]
  | namedClass name template =>
    simp only [Head.fieldTexts, List.mem_cons, forall_eq_or_imp] at hfields
    obtain ⟨_, hname⟩ := Option.isSome_iff_exists.1 hfields.1
    obtain ⟨_, htemplate⟩ := exists_template hfields.2
    simp [Head.entity?, hname, htemplate]
  | typedFunction name type template parameters attributes =>
    simp only [Head.fieldTexts, List.mem_append, or_imp, forall_and] at hfields
    obtain ⟨_, hname⟩ := exists_name hfields.1.1.1
    obtain ⟨_, htype⟩ := exists_type hfields.1.1.2
    obtain ⟨_, htemplate⟩ := exists_template hfields.1.2
    obtain ⟨_, hparameters⟩ := exists_parameters hfields.2
    obtain ⟨_, hlist⟩ := exists_attributes haccess
    simp [Head.entity?, hname, htype, htemplate, hparameters, hlist]
  | typedVariable name type attributes =>
    simp only [Head.fieldTexts, List.mem_append, or_imp, forall_and] at hfields
    obtain ⟨_, hname⟩ := exists_name hfields.1
    obtain ⟨_, htype⟩ := exists_type hfields.2
    obtain ⟨_, hlist⟩ := exists_attributes haccess
    simp [Head.entity?, hname, htype, hlist]
  | search text =>
    obtain ⟨_, hfield⟩ := Option.isSome_iff_exists.1 (hfields text List.mem_cons_self)
    simp [Head.entity?, hfield]

theorem Term.exists_pattern {term : Term}
    (hfields : ∀ text ∈ term.scopes ++ term.head.fieldTexts, (field? text).isSome)
    (haccess : OneAccess (term.head.attributeWords.map Text.lowercase)) :
    ∃ pattern, term.pattern? = some pattern := by
  simp only [List.mem_append, or_imp, forall_and] at hfields
  obtain ⟨fields, hscopes⟩ := exists_mapM hfields.1
  obtain ⟨entity, hentity⟩ := Head.exists_entity hfields.2 haccess
  simp [Term.pattern?, Term.qualifier?, hscopes, hentity]

/-- What a place of a derivation needs for the derivation to stand for a pattern. -/
structure Stands (site : Site × List Terminal) : Prop where
  fields : ∀ text ∈ site.1.fieldTexts, (field? text).isSome = true
  access : OneAccess site.1.attributeNames
  entity : namesEntity site.1 = true
  tilde : tildeBinds site = true

theorem exists_named {pattern : Pattern} (h : pattern.isEntity = true) (field : Field) :
    ∃ named, named? pattern field = some named := by
  cases pattern with
  | combine => cases h
  | entity e qualifier contents => cases e <;> exact ⟨_, rfl⟩

/-- A derivation stands for a pattern if all its places allow it. -/
theorem Derivation.exists_pattern {level : Level} (derivation : Derivation level) :
    ∀ {rest : List Terminal}, (∀ site ∈ derivation.sites rest, Stands site) →
    ∃ pattern, derivation.pattern? = some pattern := by
  induction derivation with
  | ofTerm term =>
    intro rest h
    have hterm := h (.term term, rest) List.mem_cons_self
    exact term.exists_pattern hterm.fields hterm.access
  | group inner ih => exact ih
  | ofPrimary primary ih => exact ih
  | name left word ih =>
    intro rest h
    have hname := h (.name left word, rest) List.mem_cons_self
    obtain ⟨pattern, hpattern⟩ := ih fun site hsite => h site (List.mem_cons_of_mem _ hsite)
    obtain ⟨field, hfield⟩ := Option.isSome_iff_exists.1 (hname.fields word List.mem_cons_self)
    have hentity := hname.entity
    rw [namesEntity, hpattern, Option.all_some] at hentity
    obtain ⟨named, hnamed⟩ := exists_named hentity field
    exact ⟨named, by simp [pattern?, hpattern, hfield, hnamed]⟩
  | type left word ih =>
    intro rest h
    have htype := h (.type left word, rest) List.mem_cons_self
    obtain ⟨pattern, hpattern⟩ := ih fun site hsite => h site (List.mem_cons_of_mem _ hsite)
    have htyped := htype.tilde
    simp only [tildeBinds, isTyped, hpattern, Option.any_some, Bool.and_eq_true] at htyped
    obtain ⟨htyped, -⟩ := htyped
    obtain ⟨field, hfield⟩ := Option.isSome_iff_exists.1 (htype.fields word List.mem_cons_self)
    rw [← isSome_bindType? field, Option.isSome_iff_exists] at htyped
    obtain ⟨typed, htyped⟩ := htyped
    exact ⟨typed, by simp [pattern?, hpattern, hfield, htyped]⟩
  | emptyScope left ih => exact ih
  | scope left inner ih ihinner =>
    intro rest h
    obtain ⟨pattern, hpattern⟩ := ih fun site hsite => h site (List.mem_append_left _ hsite)
    obtain ⟨other, hother⟩ := ihinner fun site hsite => h site (List.mem_append_right _ hsite)
    exact ⟨_, by simp only [pattern?, hpattern, hother]; rfl⟩
  | ofOperand operand ih =>
    intro rest h
    exact ih fun site hsite => h site (List.mem_cons_of_mem _ hsite)
  | both left right ih ihright =>
    intro rest h
    obtain ⟨pattern, hpattern⟩ := ih fun site hsite => h site (List.mem_append_left _ hsite)
    obtain ⟨other, hother⟩ := ihright fun site hsite =>
      h site (List.mem_append_right _ (List.mem_cons_of_mem _ hsite))
    exact ⟨_, by simp only [pattern?, hpattern, hother]; rfl⟩
  | constraint left right ih ihright =>
    intro rest h
    obtain ⟨pattern, hpattern⟩ := ih fun site hsite => h site (List.mem_append_left _ hsite)
    obtain ⟨other, hother⟩ := ihright fun site hsite =>
      h site (List.mem_append_right _ (List.mem_cons_of_mem _ hsite))
    exact ⟨_, by simp only [pattern?, hpattern, hother]; rfl⟩
  | ofConjunction conjunction ih => exact ih
  | binary left operator right ih ihright =>
    intro rest h
    obtain ⟨pattern, hpattern⟩ := ih fun site hsite => h site (List.mem_append_left _ hsite)
    obtain ⟨other, hother⟩ := ihright fun site hsite => h site (List.mem_append_right _ hsite)
    exact ⟨_, by simp only [pattern?, hpattern, hother]; rfl⟩

/-! ## Derivations without `<` -/

omit [Regex.Engine] in
/-- A term and what follows it end the terminals of the whole derivation and what follows that. -/
theorem Derivation.term_suffix {level : Level} (derivation : Derivation level) :
    ∀ {rest after : List Terminal} {term : Term},
    (Site.term term, after) ∈ derivation.sites rest →
    term.yield ++ after <:+ derivation.yield ++ rest := by
  induction derivation with
  | ofTerm term =>
    intro rest after other h
    simp only [sites, List.mem_singleton, Prod.mk.injEq, Site.term.injEq] at h
    obtain ⟨rfl, rfl⟩ := h
    exact List.suffix_refl _
  | group inner ih =>
    intro rest after term h
    refine (ih h).trans ⟨[.mark .lparen], ?_⟩
    simp [yield]
  | ofPrimary primary ih => exact ih
  | name left word ih =>
    intro rest after term h
    simp only [sites, List.mem_cons, Prod.mk.injEq, reduceCtorEq, false_and, false_or] at h
    simpa [yield] using ih h
  | type left word ih =>
    intro rest after term h
    simp only [sites, List.mem_cons, Prod.mk.injEq, reduceCtorEq, false_and, false_or] at h
    simpa [yield] using ih h
  | emptyScope left ih =>
    intro rest after term h
    simpa [yield] using ih h
  | scope left inner ih ihinner =>
    intro rest after term h
    rw [sites, List.mem_append] at h
    obtain h | h := h
    · simpa [yield] using ih h
    · refine (ihinner h).trans ⟨left.yield ++ [.mark .lcurly], ?_⟩
      simp [yield]
  | ofOperand operand ih =>
    intro rest after term h
    simp only [sites, List.mem_cons, Prod.mk.injEq, reduceCtorEq, false_and, false_or] at h
    exact ih h
  | both left right ih ihright =>
    intro rest after term h
    simp only [sites, List.mem_append, List.mem_cons, Prod.mk.injEq, reduceCtorEq, false_and,
      false_or] at h
    obtain h | h := h
    · simpa [yield] using ih h
    · refine (ihright h).trans ⟨left.yield ++ [.mark .and], ?_⟩
      simp [yield]
  | constraint left right ih ihright =>
    intro rest after term h
    simp only [sites, List.mem_append, List.mem_cons, Prod.mk.injEq, reduceCtorEq, false_and,
      false_or] at h
    obtain h | h := h
    · simpa [yield] using ih h
    · refine (ihright h).trans ⟨left.yield ++ [.mark .tilde], ?_⟩
      simp [yield]
  | ofConjunction conjunction ih => exact ih
  | binary left operator right ih ihright =>
    intro rest after term h
    rw [sites, List.mem_append] at h
    obtain h | h := h
    · simpa [yield] using ih h
    · refine (ihright h).trans ⟨left.yield ++ operator.yield, ?_⟩
      simp [yield]

omit [Regex.Engine] in
theorem opensTemplate_eq_false {ofFunction : Bool} {front : List Terminal}
    (h : .mark .langle ∉ front) : opensTemplate ofFunction front = false := by
  unfold opensTemplate
  split
  · simp at h
  · rfl

omit [Regex.Engine] in
/-- Without a `<`, there is no template list and none opens. -/
theorem Head.templateFits_of_not_mem {head : Head} {rest : List Terminal}
    (h : .mark .langle ∉ head.yield ++ rest) : head.TemplateFits rest := by
  have hnone : ∀ {template : Option (List Entry)},
      .mark .langle ∉ template.elim [] templateYield → template = none := by
    intro template hmem
    cases template with
    | none => rfl
    | some entries => simp [templateYield, entriesYield] at hmem
  cases head with
  | sigilFunction type template parameters attributes =>
    simp only [Head.yield, List.append_assoc, List.cons_append, List.mem_cons, List.mem_append,
      not_or] at h
    obtain ⟨-, -, htemplate, hparameters, hattributes, hrest⟩ := h
    obtain rfl := hnone htemplate
    exact opensTemplate_eq_false (by simp [hparameters, hattributes, hrest])
  | sigilClass template =>
    simp only [Head.yield, List.cons_append, List.mem_cons, List.mem_append, not_or] at h
    obtain ⟨-, htemplate, hrest⟩ := h
    obtain rfl := hnone htemplate
    exact opensTemplate_eq_false (by simpa using hrest)
  | namedClass name template =>
    simp only [Head.yield, List.cons_append, List.mem_cons, List.mem_append, not_or] at h
    obtain ⟨-, -, htemplate, hrest⟩ := h
    obtain rfl := hnone htemplate
    exact opensTemplate_eq_false (by simpa using hrest)
  | typedVariable name type attributes =>
    simp only [Head.yield, List.append_assoc, List.cons_append, List.mem_cons, List.mem_append,
      not_or] at h
    obtain ⟨-, -, -, hattributes, hrest⟩ := h
    exact opensTemplate_eq_false (by simp [hattributes, hrest])
  | sigilVariable | typedFunction | search => trivial

/-- Without a `<`, only the tildes of a derivation need a look ahead. -/
theorem Derivation.fits_of_not_mem {level : Level} {derivation : Derivation level}
    (htildes : derivation.TildesBind) (h : .mark .langle ∉ derivation.yield) :
    derivation.Fits [] := by
  rintro ⟨site, after⟩ hsite
  refine ⟨htildes _ hsite, ?_⟩
  cases site with
  | name | type | operand => trivial
  | term term =>
    have hsuffix := derivation.term_suffix hsite
    rw [List.append_nil] at hsuffix
    refine Head.templateFits_of_not_mem fun hmem => h (hsuffix.subset ?_)
    rw [Term.yield, List.append_assoc]
    exact List.mem_append_right _ hmem

/-! ## Agreement -/

end AnyEngine

/-- The tokens of `\V ~ int & (a | \F) ~ b`. -/
def bindingTokens : List Token := [
  ⟨.sigil .var, "\\V", 0, 2⟩, ⟨.tilde, "~", 3, 4⟩, ⟨.data, "int", 5, 8⟩, ⟨.and, "&", 9, 10⟩,
  ⟨.lparen, "(", 11, 12⟩, ⟨.data, "a", 12, 13⟩, ⟨.or, "|", 14, 15⟩, ⟨.sigil .func, "\\F", 16, 18⟩,
  ⟨.rparen, ")", 18, 19⟩, ⟨.tilde, "~", 20, 21⟩, ⟨.data, "b", 22, 23⟩]

/-- Their derivation: the first tilde binds a type, the second one follows a combination. -/
def bindingDerivation : Derivation .expression :=
  let head (head : Head) : Derivation .operand := .ofPrimary (.ofTerm ⟨false, [], head⟩)
  let typed := Derivation.type (head (.sigilVariable false none none)) "int"
  let either := Derivation.binary (.ofConjunction (.ofOperand (head (.search "a")))) .or
    (.ofOperand (head (.sigilFunction none none none none)))
  .ofConjunction (.constraint (.both (.ofOperand typed) (.ofPrimary (.group either)))
    (head (.search "b")))

end StructSearch.Query.Grammar

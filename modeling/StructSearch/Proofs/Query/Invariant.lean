import Mathlib.Tactic
import StructSearch.Proofs.Query.Terminals

/-!
# What every pattern has that is read

A pattern that a derivation stands for has more structure than its type asks for: its qualifier
chains are not empty, its attributes hold no `expr` and agree on the access, its fields are those
that their texts are read as, and the constraint operator joins to combinations only, since an
entity takes a constraint as a content.

Results:
* `everywhere_entity_iff`, `everywhere_combine_iff`: properties of all parts of a pattern.
* `Derivation.everywhere_regular`: the structure of a pattern that is derived.
-/

namespace StructSearch.Query

/-! ## Parts of a pattern -/

variable [Regex.Engine]

/-- The fields of an entry of a parameter list. -/
def Parameter.fields : Parameter → List Field
  | typed name type => [name, type]
  | ellipsis => []

/-- The fields of a qualifier. -/
def Qualifier.fields : Qualifier → List Field
  | anywhere | fileScope => []
  | chain scopes => scopes

/-- The fields of an entity: its name, its type and those of its parameter lists. -/
def Entity.fields : Entity → List Field
  | func shape =>
    shape.name :: shape.returnType :: shape.parameters.flatMap Parameter.fields ++
      (shape.templateParameters.getD []).flatMap Parameter.fields
  | var shape => [shape.name, shape.type]
  | record shape => shape.name :: (shape.templateParameters.getD []).flatMap Parameter.fields
  | text field => [field]

/-- The attribute names of an entity. -/
def Entity.attributeNames : Entity → List String
  | func shape => shape.attributes.names
  | var shape => shape.attributes.names
  | record _ | text _ => []

namespace Pattern

mutual

/-- A pattern and all that it is built of: its operands, its contents and so on. -/
def subpatterns : Pattern → List Pattern
  | entity e qualifier contents => entity e qualifier contents :: subpatternsAll contents
  | combine operator left right =>
    combine operator left right :: subpatterns left ++ subpatterns right

/-- All that patterns are built of. -/
def subpatternsAll : List Pattern → List Pattern
  | [] => []
  | pattern :: patterns => subpatterns pattern ++ subpatternsAll patterns

end

/-- The fields of a pattern itself, not of its operands and contents. -/
def fields : Pattern → List Field
  | entity e qualifier _ => e.fields ++ qualifier.fields
  | combine .. => []

/-- The attribute names of a pattern itself. -/
def attributeNames : Pattern → List String
  | entity e _ _ => e.attributeNames
  | combine .. => []

/-- A property of a pattern and of all that it is built of. -/
def Everywhere (property : Pattern → Prop) (pattern : Pattern) : Prop :=
  ∀ part ∈ pattern.subpatterns, property part

variable {property : Pattern → Prop}

theorem subpatternsAll_eq (patterns : List Pattern) :
    subpatternsAll patterns = patterns.flatMap subpatterns := by
  induction patterns with
  | nil => rfl
  | cons pattern patterns ih => rw [subpatternsAll, ih, List.flatMap_cons]

theorem everywhere_entity_iff {e : Entity} {qualifier : Qualifier} {contents : List Pattern} :
    (entity e qualifier contents).Everywhere property ↔
      property (entity e qualifier contents) ∧
        ∀ content ∈ contents, content.Everywhere property := by
  simp only [Everywhere, subpatterns, subpatternsAll_eq, List.mem_cons, forall_eq_or_imp,
    List.forall_mem_flatMap]

theorem everywhere_combine_iff {operator : Operator} {left right : Pattern} :
    (combine operator left right).Everywhere property ↔
      property (combine operator left right) ∧ left.Everywhere property ∧
        right.Everywhere property := by
  simp only [Everywhere, subpatterns, List.cons_append, List.mem_cons, List.mem_append, or_imp,
    forall_and, forall_eq]

/-- The structure that reading gives to a pattern itself, if it gives its fields a property. -/
def Regular (ofField : Field → Prop) : Pattern → Prop
  | entity e qualifier _ =>
    (∀ field ∈ e.fields ++ qualifier.fields, ofField field) ∧ qualifier ≠ .chain [] ∧
      "expr" ∉ e.attributeNames ∧ Grammar.OneAccess e.attributeNames
  | combine operator left _ => operator = .constraint → left.isEntity = false

theorem Regular.imp_field {ofField other : Field → Prop} {pattern : Pattern}
    (h : pattern.Regular ofField) (himp : ∀ field ∈ pattern.fields, ofField field → other field) :
    pattern.Regular other := by
  cases pattern with
  | combine => exact h
  | entity => exact ⟨fun field hfield => himp field hfield (h.1 field hfield), h.2⟩

end Pattern

namespace Grammar

/-! ## Fields of derived parts -/

/-- The fields that words in front of a text are read as have a property. -/
structure ReadsInto (front : List Terminal) (ofField : Field → Prop) : Prop where
  any : ofField .any
  type : ∀ (type : TypeName) (field : Field), .word type.first ∈ front →
    type.field? = some field → ofField field

variable {ofField : Field → Prop} {front : List Terminal}

theorem ReadsInto.mono {less : List Terminal} (h : ReadsInto front ofField) (hsub : less ⊆ front) :
    ReadsInto less ofField :=
  ⟨h.any, fun type field hmem => h.type type field (hsub hmem)⟩

theorem ReadsInto.word (h : ReadsInto front ofField) {word : String} {field : Field}
    (hmem : .word word ∈ front) (hfield : field? word = some field) : ofField field := by
  refine h.type ⟨word, []⟩ field hmem ?_
  rw [TypeName.field?, TypeName.text, String.intercalate_singleton]
  exact hfield

theorem ReadsInto.optionalType (h : ReadsInto front ofField) {type : Option TypeName}
    {field : Field} (hsub : type.elim [] TypeName.yield ⊆ front)
    (hfield : orAny? TypeName.field? type = some field) : ofField field := by
  cases type with
  | none =>
    obtain rfl := Option.some.inj hfield
    exact h.any
  | some type => exact h.type type field (hsub List.mem_cons_self) hfield

theorem ReadsInto.optionalName (h : ReadsInto front ofField) {name : Option String}
    {field : Field} (hsub : name.elim [] (fun name => [.word name]) ⊆ front)
    (hfield : orAny? field? name = some field) : ofField field := by
  cases name with
  | none =>
    obtain rfl := Option.some.inj hfield
    exact h.any
  | some name => exact h.word (hsub List.mem_cons_self) hfield

theorem ReadsInto.entry {entry : Entry} (h : ReadsInto entry.yield ofField)
    {parameter : Parameter} (hentry : entry.parameter? = some parameter) :
    ∀ field ∈ parameter.fields, ofField field := by
  cases entry with
  | ellipsis =>
    obtain rfl := Option.some.inj hentry
    simp [Parameter.fields]
  | named name =>
    simp only [Entry.parameter?, Option.bind_eq_bind, Option.bind_eq_some_iff,
      Option.some.injEq] at hentry
    obtain ⟨field, hfield, rfl⟩ := hentry
    simpa [Parameter.fields] using ⟨h.word List.mem_cons_self hfield, h.any⟩
  | typed name type =>
    simp only [Entry.parameter?, Option.bind_eq_bind, Option.bind_eq_some_iff,
      Option.some.injEq] at hentry
    obtain ⟨nameField, hname, typeField, htype, rfl⟩ := hentry
    have hofName := h.optionalName (List.subset_append_left _ _) hname
    have hofType := h.optionalType
      (List.subset_append_of_subset_right _ (List.subset_cons_self _ _)) htype
    simpa [Parameter.fields] using ⟨hofName, hofType⟩

omit [Regex.Engine] in
theorem exists_of_mem_mapM {α β : Type} {f : α → Option β} {parts : List α} :
    ∀ {images : List β}, parts.mapM f = some images → ∀ image ∈ images,
      ∃ part ∈ parts, f part = some image := by
  induction parts with
  | nil =>
    intro images h
    obtain rfl : [] = images := by simpa using h
    simp
  | cons part parts ih =>
    intro images h
    simp only [List.mapM_cons, Option.bind_eq_bind, Option.bind_eq_some_iff, Option.pure_def,
      Option.some.injEq] at h
    obtain ⟨first, hfirst, others, hothers, rfl⟩ := h
    intro image himage
    obtain rfl | himage := List.mem_cons.1 himage
    · exact ⟨part, List.mem_cons_self, hfirst⟩
    · obtain ⟨other, hother, heq⟩ := ih hothers image himage
      exact ⟨other, List.mem_cons_of_mem _ hother, heq⟩

omit [Regex.Engine] in
theorem subset_separated {α : Type} {yield : α → List Terminal} {part : α} {parts : List α}
    (h : part ∈ parts) : yield part ⊆ separated yield parts := by
  fun_induction separated yield parts with
  | case1 => cases h
  | case2 only =>
    obtain rfl := List.mem_singleton.1 h
    exact List.Subset.refl _
  | case3 first next rest ih =>
    obtain rfl | h := List.mem_cons.1 h
    · exact List.subset_append_left _ _
    · exact List.subset_append_of_subset_right _ (List.subset_cons_of_subset _ (ih h))

theorem ReadsInto.parameters {entries : List Entry} (h : ReadsInto front ofField)
    (hsub : separated Entry.yield entries ⊆ front) {parameters : List Parameter}
    (hparameters : parameters? entries = some parameters) :
    ∀ field ∈ parameters.flatMap Parameter.fields, ofField field := by
  intro field hfield
  obtain ⟨parameter, hparameter, hfield⟩ := List.mem_flatMap.1 hfield
  obtain ⟨entry, hentry, heq⟩ := exists_of_mem_mapM hparameters parameter hparameter
  exact (h.mono (List.Subset.trans (subset_separated hentry) hsub)).entry heq field hfield

theorem ReadsInto.template {template : Option (List Entry)} (h : ReadsInto front ofField)
    (hsub : template.elim [] templateYield ⊆ front) {parameters : Option (List Parameter)}
    (htemplate : template? template = some parameters) :
    ∀ field ∈ (parameters.getD []).flatMap Parameter.fields, ofField field := by
  cases template with
  | none =>
    obtain rfl := Option.some.inj htemplate
    simp
  | some entries =>
    obtain ⟨list, hlist, rfl⟩ := Option.map_eq_some_iff.1 htemplate
    refine h.parameters (fun terminal hterminal => hsub ?_) hlist
    simp [templateYield, entriesYield, hterminal]

/-! ## Attributes of derived parts -/

omit [Regex.Engine] in
theorem mem_foldl_insert {names : List String} {name : String} : ∀ {attributes : Attributes},
    name ∈ (names.foldl Attributes.insert attributes).names ↔
      name ∈ attributes.names ∨ name ∈ names := by
  induction names with
  | nil => simp
  | cons first names ih =>
    intro attributes
    rw [List.foldl_cons, ih, Attributes.insert, mem_insertName, List.mem_cons]
    tauto

omit [Regex.Engine] in
/-- Attributes hold no `expr` and agree on the access. -/
theorem attributes_regular {words : Option (List String)} {list : AttributeList}
    (h : attributes? words = some list) :
    "expr" ∉ list.names.names ∧ OneAccess list.names.names := by
  obtain ⟨hone, rfl⟩ := attributes?_eq_some.1 h
  have hmem : ∀ name, name ∈ (((words.getD []).map Text.lowercase).foldl addName {}).names.names ↔
      name ≠ "expr" ∧ name ∈ (words.getD []).map Text.lowercase := by
    intro name
    rw [foldl_addName, mem_foldl_insert]
    simp [Attributes.empty, and_comm]
  refine ⟨fun hexpr => ((hmem "expr").1 hexpr).1 rfl, ?_⟩
  intro a ha b hb
  exact hone a ((hmem a).1 ha).2 b ((hmem b).1 hb).2

/-! ## Derived patterns -/

omit [Regex.Engine] in
theorem subset_colonYield (type : Option TypeName) :
    type.elim [] TypeName.yield ⊆ Head.colonYield type := by
  cases type with
  | none => exact List.Subset.refl _
  | some type => exact List.subset_cons_self _ _

omit [Regex.Engine] in
theorem subset_parametersYield (entries : List Entry) :
    separated Entry.yield entries ⊆ parametersYield entries :=
  List.subset_cons_of_subset _ (List.subset_append_left _ _)

theorem Head.entity_regular {head : Head} {entity : Entity} (h : ReadsInto head.yield ofField)
    (hentity : head.entity? = some entity) :
    (∀ field ∈ entity.fields, ofField field) ∧ "expr" ∉ entity.attributeNames ∧
      OneAccess entity.attributeNames := by
  cases head with
  | sigilFunction type template parameters attributes =>
    simp only [Head.entity?, Option.bind_eq_bind, Option.bind_eq_some_iff, Option.some.injEq]
      at hentity
    obtain ⟨field, hfield, list, hlist, arguments, harguments, names, hnames, rfl⟩ := hentity
    have htype := h.optionalType
      (fun terminal hmem => by simp [Head.yield, subset_colonYield type hmem]) hfield
    have htemplate := h.template (fun terminal hmem => by simp [Head.yield, hmem]) hlist
    have hparameters : ∀ field ∈ arguments.flatMap Parameter.fields, ofField field := by
      cases parameters with
      | none =>
        obtain rfl := Option.some.inj harguments
        simp [Parameter.fields]
      | some entries =>
        exact h.parameters
          (fun terminal hmem => by simp [Head.yield, subset_parametersYield entries hmem])
          harguments
    refine ⟨?_, attributes_regular hnames⟩
    simp only [Entity.fields, List.cons_append, List.mem_cons, List.mem_append, or_imp,
      forall_and, forall_eq]
    exact ⟨h.any, htype, hparameters, htemplate⟩
  | sigilVariable isParameter type attributes =>
    simp only [Head.entity?, Option.bind_eq_bind, Option.bind_eq_some_iff, Option.some.injEq]
      at hentity
    obtain ⟨field, hfield, names, hnames, rfl⟩ := hentity
    have htype := h.optionalType
      (fun terminal hmem => by simp [Head.yield, subset_colonYield type hmem]) hfield
    exact ⟨by simp [Entity.fields, h.any, htype], attributes_regular hnames⟩
  | sigilClass template =>
    simp only [Head.entity?, Option.bind_eq_bind, Option.bind_eq_some_iff, Option.some.injEq]
      at hentity
    obtain ⟨list, hlist, rfl⟩ := hentity
    have htemplate := h.template (fun terminal hmem => by simp [Head.yield, hmem]) hlist
    refine ⟨?_, by simp [Entity.attributeNames], by simp [Entity.attributeNames, OneAccess]⟩
    simp only [Entity.fields, List.mem_cons, forall_eq_or_imp]
    exact ⟨h.any, htemplate⟩
  | namedClass name template =>
    simp only [Head.entity?, Option.bind_eq_bind, Option.bind_eq_some_iff, Option.some.injEq]
      at hentity
    obtain ⟨field, hfield, list, hlist, rfl⟩ := hentity
    have hname := h.word (by simp [Head.yield]) hfield
    have htemplate := h.template (fun terminal hmem => by simp [Head.yield, hmem]) hlist
    refine ⟨?_, by simp [Entity.attributeNames], by simp [Entity.attributeNames, OneAccess]⟩
    simp only [Entity.fields, List.mem_cons, forall_eq_or_imp]
    exact ⟨hname, htemplate⟩
  | typedFunction name type template parameters attributes =>
    simp only [Head.entity?, Option.bind_eq_bind, Option.bind_eq_some_iff, Option.some.injEq]
      at hentity
    obtain ⟨nameField, hnameField, field, hfield, list, hlist, arguments, harguments, names, hnames,
      rfl⟩ := hentity
    have hname := h.optionalName (fun terminal hmem => by simp [Head.yield, hmem]) hnameField
    have htype := h.optionalType (fun terminal hmem => by simp [Head.yield, hmem]) hfield
    have htemplate := h.template (fun terminal hmem => by simp [Head.yield, hmem]) hlist
    have hparameters := h.parameters
      (fun terminal hmem => by simp [Head.yield, subset_parametersYield parameters hmem]) harguments
    refine ⟨?_, attributes_regular hnames⟩
    simp only [Entity.fields, List.cons_append, List.mem_cons, List.mem_append, or_imp,
      forall_and, forall_eq]
    exact ⟨hname, htype, hparameters, htemplate⟩
  | typedVariable name type attributes =>
    simp only [Head.entity?, Option.bind_eq_bind, Option.bind_eq_some_iff, Option.some.injEq]
      at hentity
    obtain ⟨nameField, hnameField, field, hfield, names, hnames, rfl⟩ := hentity
    have hname := h.optionalName (fun terminal hmem => by simp [Head.yield, hmem]) hnameField
    have htype := h.optionalType (fun terminal hmem => by simp [Head.yield, hmem]) hfield
    exact ⟨by simp [Entity.fields, hname, htype], attributes_regular hnames⟩
  | search text =>
    simp only [Head.entity?, Option.bind_eq_bind, Option.bind_eq_some_iff, Option.some.injEq]
      at hentity
    obtain ⟨field, hfield, rfl⟩ := hentity
    have htext := h.word (by simp [Head.yield]) hfield
    exact ⟨by simp [Entity.fields, htext], by simp [Entity.attributeNames],
      by simp [Entity.attributeNames, OneAccess]⟩

theorem Term.pattern_regular {term : Term} {pattern : Pattern} (h : ReadsInto term.yield ofField)
    (hpattern : term.pattern? = some pattern) : pattern.Everywhere (Pattern.Regular ofField) := by
  simp only [Term.pattern?, Term.qualifier?, Option.bind_eq_bind, Option.bind_eq_some_iff,
    Option.some.injEq] at hpattern
  obtain ⟨_, ⟨fields, hfields, rfl⟩, entity, hentity, rfl⟩ := hpattern
  obtain ⟨hentityFields, hexpr, hone⟩ := Head.entity_regular
    (h.mono fun terminal hmem => by simp [Term.yield, hmem]) hentity
  have hscopes : ∀ field ∈ fields, ofField field := by
    intro field hfield
    obtain ⟨scope, hscope, heq⟩ := exists_of_mem_mapM hfields field hfield
    refine h.word ?_ heq
    simp [Term.yield, hscope]
  rw [Pattern.everywhere_entity_iff]
  refine ⟨⟨?_, ?_, hexpr, hone⟩, by simp⟩
  · intro field hfield
    rw [List.mem_append] at hfield
    obtain hfield | hfield := hfield
    · exact hentityFields field hfield
    · split_ifs at hfield
      · exact hscopes field hfield
      · cases hfield
      · cases hfield
  · split_ifs <;> simp_all

/-- A new name leaves all but one field as they are. -/
theorem named_regular {pattern result : Pattern} {field : Field} (hfield : ofField field)
    (h : pattern.Everywhere (Pattern.Regular ofField))
    (hnamed : named? pattern field = some result) :
    result.Everywhere (Pattern.Regular ofField) := by
  cases pattern with
  | combine => cases hnamed
  | entity e qualifier contents =>
    obtain ⟨⟨hfields, hchain, hexpr, hone⟩, hcontents⟩ := Pattern.everywhere_entity_iff.1 h
    cases e <;> obtain rfl := Option.some.inj hnamed <;>
      refine Pattern.everywhere_entity_iff.2 ⟨⟨?_, hchain, hexpr, hone⟩, hcontents⟩ <;>
      simp_all [Entity.fields]

/-- So does a new type. -/
theorem bindType_regular {pattern result : Pattern} {field : Field} (hfield : ofField field)
    (h : pattern.Everywhere (Pattern.Regular ofField))
    (htyped : bindType? pattern field = some result) :
    result.Everywhere (Pattern.Regular ofField) := by
  cases pattern with
  | combine => cases htyped
  | entity e qualifier contents =>
    obtain ⟨⟨hfields, hchain, hexpr, hone⟩, hcontents⟩ := Pattern.everywhere_entity_iff.1 h
    cases e with
    | record | text => cases htyped
    | func shape | var shape =>
      obtain rfl := Option.some.inj htyped
      refine Pattern.everywhere_entity_iff.2 ⟨⟨?_, hchain, hexpr, hone⟩, hcontents⟩
      simp_all [Entity.fields]

/-- A constraint joins to combinations only. -/
theorem constrain_regular {left right : Pattern} (hleft : left.Everywhere (Pattern.Regular ofField))
    (hright : right.Everywhere (Pattern.Regular ofField)) :
    (left.constrain right).Everywhere (Pattern.Regular ofField) := by
  cases left with
  | entity e qualifier contents =>
    obtain ⟨hnode, hcontents⟩ := Pattern.everywhere_entity_iff.1 hleft
    refine Pattern.everywhere_entity_iff.2 ⟨hnode, fun content hcontent => ?_⟩
    obtain hcontent | hcontent := List.mem_append.1 hcontent
    · exact hcontents content hcontent
    · rwa [List.mem_singleton.1 hcontent]
  | combine operator first second =>
    exact Pattern.everywhere_combine_iff.2 ⟨fun _ => rfl, hleft, hright⟩

theorem combine_regular {operator : Operator} {left right : Pattern}
    (hoperator : operator ≠ .constraint) (hleft : left.Everywhere (Pattern.Regular ofField))
    (hright : right.Everywhere (Pattern.Regular ofField)) :
    (Pattern.combine operator left right).Everywhere (Pattern.Regular ofField) :=
  Pattern.everywhere_combine_iff.2 ⟨fun heq => absurd heq hoperator, hleft, hright⟩

/-- Every pattern that is derived is regular everywhere. -/
theorem Derivation.everywhere_regular {level : Level} (derivation : Derivation level) :
    ∀ {pattern : Pattern}, ReadsInto derivation.yield ofField →
    derivation.pattern? = some pattern → pattern.Everywhere (Pattern.Regular ofField) := by
  induction derivation with
  | ofTerm term => exact Term.pattern_regular
  | group inner ih =>
    intro pattern h hpattern
    exact ih (h.mono fun terminal hmem => by simp [yield, hmem]) hpattern
  | ofPrimary primary ih => exact ih
  | name left word ih =>
    intro pattern h hpattern
    simp only [pattern?, Option.bind_eq_bind, Option.bind_eq_some_iff] at hpattern
    obtain ⟨first, hfirst, field, hfield, hnamed⟩ := hpattern
    have hleft := ih (h.mono fun terminal hmem => by simp [yield, hmem]) hfirst
    exact named_regular (h.word (by simp [yield]) hfield) hleft hnamed
  | type left word ih =>
    intro pattern h hpattern
    simp only [pattern?, Option.bind_eq_bind, Option.bind_eq_some_iff] at hpattern
    obtain ⟨first, hfirst, field, hfield, htyped⟩ := hpattern
    have hleft := ih (h.mono fun terminal hmem => by simp [yield, hmem]) hfirst
    exact bindType_regular (h.word (by simp [yield]) hfield) hleft htyped
  | emptyScope left ih =>
    intro pattern h hpattern
    exact ih (h.mono fun terminal hmem => by simp [yield, hmem]) hpattern
  | scope left inner ih ihinner =>
    intro pattern h hpattern
    simp only [pattern?, Option.bind_eq_bind, Option.bind_eq_some_iff, Option.some.injEq]
      at hpattern
    obtain ⟨first, hfirst, other, hother, rfl⟩ := hpattern
    exact constrain_regular (ih (h.mono fun terminal hmem => by simp [yield, hmem]) hfirst)
      (ihinner (h.mono fun terminal hmem => by simp [yield, hmem]) hother)
  | ofOperand operand ih => exact ih
  | both left right ih ihright =>
    intro pattern h hpattern
    simp only [pattern?, Option.bind_eq_bind, Option.bind_eq_some_iff, Option.some.injEq]
      at hpattern
    obtain ⟨first, hfirst, other, hother, rfl⟩ := hpattern
    exact combine_regular (by decide)
      (ih (h.mono fun terminal hmem => by simp [yield, hmem]) hfirst)
      (ihright (h.mono fun terminal hmem => by simp [yield, hmem]) hother)
  | constraint left right ih ihright =>
    intro pattern h hpattern
    simp only [pattern?, Option.bind_eq_bind, Option.bind_eq_some_iff, Option.some.injEq]
      at hpattern
    obtain ⟨first, hfirst, other, hother, rfl⟩ := hpattern
    exact constrain_regular (ih (h.mono fun terminal hmem => by simp [yield, hmem]) hfirst)
      (ihright (h.mono fun terminal hmem => by simp [yield, hmem]) hother)
  | ofConjunction conjunction ih => exact ih
  | binary left operator right ih ihright =>
    intro pattern h hpattern
    simp only [pattern?, Option.bind_eq_bind, Option.bind_eq_some_iff, Option.some.injEq]
      at hpattern
    obtain ⟨first, hfirst, other, hother, rfl⟩ := hpattern
    have hloose : operator.operator ≠ .constraint := by
      cases operator <;> decide
    exact combine_regular hloose (ih (h.mono fun terminal hmem => by simp [yield, hmem]) hfirst)
      (ihright (h.mono fun terminal hmem => by simp [yield, hmem]) hother)

end Grammar

end StructSearch.Query

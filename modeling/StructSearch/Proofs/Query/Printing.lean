import Mathlib.Tactic
import StructSearch.Query.Printer
import StructSearch.Proofs.Query.Written

/-!
# The text of a pattern

The text of a pattern is cut into the terminals of its derivation, part by part: fields stand
between slashes, attributes are bare words before a comma or a bracket, and everything else is
punctuation. So the text of a pattern that can be written is read as the pattern.

Results:
* `Pattern.scans_print`: the text has the terminals of the derivation.
* `Pattern.compile_print`: the text is read as the pattern.
-/

namespace StructSearch.Query

open Grammar

/-! ## Fields and lists -/

variable {rest : List Char} {after : List Terminal}

variable [Regex.Engine]

theorem scans_field {field : Field} (hfield : field.Printable) (h : Scans rest after) :
    Scans (field.print.toList ++ rest) (.word field.source :: after) := by
  have hscans := h.literal hfield.ne_nil hfield.slash
  rw [String.ofList_toList] at hscans
  simpa [Field.print] using hscans

theorem scans_word? {field : Field} (hfield : field.Printable) (h : Scans rest after) :
    Scans ((if field.isAny then "" else field.print).toList ++ rest)
      (field.word?.elim [] (fun word => [.word word]) ++ after) := by
  unfold Field.word?
  split_ifs
  · exact h
  · exact scans_field hfield h

theorem scans_typeName? {field : Field} (hfield : field.Printable) (h : Scans rest after) :
    Scans ((if field.isAny then "" else field.print).toList ++ rest)
      (field.typeName?.elim [] TypeName.yield ++ after) := by
  unfold Field.typeName?
  split_ifs
  · exact h
  · exact scans_field hfield h

theorem scans_printType {field : Field} (hfield : field.Printable) (h : Scans rest after) :
    Scans ((printType field).toList ++ rest) (Head.colonYield field.typeName? ++ after) := by
  unfold printType Field.typeName?
  split_ifs
  · exact h
  · have hscans := (scans_field hfield h).punctuation (c := ':') rfl fun _ => by simp [Field.print]
    simpa [Head.colonYield, TypeName.yield] using hscans

/-- A comma or a closing delimiter stands in front. -/
def Closes (rest : List Char) : Prop := ∃ c ∈ [',', ')', '>', ']'], ∃ tail, rest = c :: tail

omit [Regex.Engine] in
/-- Parts between commas are cut off one by one, if what follows a part is not taken into it. -/
theorem scans_intercalate {α : Type} {print : α → String} {yield : α → List Terminal}
    {parts : List α} (hparts : ∀ part ∈ parts, ∀ {rest after}, Closes rest → Scans rest after →
      Scans ((print part).toList ++ rest) (yield part ++ after))
    (hcloses : Closes rest) (h : Scans rest after) :
    Scans ((String.intercalate ", " (parts.map print)).toList ++ rest)
      (separated yield parts ++ after) := by
  fun_induction separated yield parts with
  | case1 => exact h
  | case2 part => simpa using hparts part List.mem_cons_self hcloses h
  | case3 part next parts ih =>
    have hlater := ih fun other hother => hparts other (List.mem_cons_of_mem _ hother)
    have hcomma := (hlater.blank (c := ' ') rfl).punctuation (c := ',') rfl (by simp)
    have hscans := hparts part List.mem_cons_self ⟨',', by simp, _, rfl⟩ hcomma
    simpa [String.intercalate_cons_cons] using hscans

theorem scans_parameter {parameter : Parameter}
    (hfields : ∀ field ∈ parameter.fields, field.Printable) (hcloses : Closes rest)
    (h : Scans rest after) :
    Scans (parameter.print.toList ++ rest) (parameter.entry.yield ++ after) := by
  cases parameter with
  | ellipsis => simpa [Parameter.print, Parameter.entry, Entry.yield] using h.ellipsis
  | typed name type =>
    have htype := scans_typeName? (hfields type (by simp [Parameter.fields])) h
    have hcolon := htype.punctuation (c := ':') rfl fun _ => by
      obtain ⟨c, hc, tail, rfl⟩ := hcloses
      split_ifs
      · rintro heq
        obtain rfl := Option.some.inj heq
        revert hc
        decide
      · simp [Field.print]
    have hname := scans_word? (hfields name (by simp [Parameter.fields])) hcolon
    simpa [Parameter.print, Parameter.entry, Entry.yield] using hname

omit [Regex.Engine] in
theorem separated_map {α β : Type} (yield : β → List Terminal) (f : α → β) (parts : List α) :
    separated yield (parts.map f) = separated (fun part => yield (f part)) parts := by
  fun_induction separated (fun part => yield (f part)) parts with
  | case1 => rfl
  | case2 => rfl
  | case3 part next parts ih => rw [← ih]; rfl

/-- The entries of a list are cut off up to the closing delimiter. -/
theorem scans_entries {parameters : List Parameter}
    (hfields : ∀ field ∈ parameters.flatMap Parameter.fields, field.Printable)
    (hcloses : Closes rest) (h : Scans rest after) :
    Scans ((String.intercalate ", " (parameters.map Parameter.print)).toList ++ rest)
      (separated Entry.yield (parameters.map Parameter.entry) ++ after) := by
  rw [separated_map]
  refine scans_intercalate (fun parameter hparameter => ?_) hcloses h
  exact scans_parameter fun field hfield =>
    hfields field (List.mem_flatMap_of_mem hparameter hfield)

theorem scans_parameters {parameters : List Parameter}
    (hfields : ∀ field ∈ parameters.flatMap Parameter.fields, field.Printable)
    (h : Scans rest after) :
    Scans ((printParameters "(" ")" parameters).toList ++ rest)
      (parametersYield (parameters.map Parameter.entry) ++ after) := by
  have hclosing := h.punctuation (c := ')') rfl (by simp)
  have hentries := scans_entries hfields ⟨')', by simp, rest, rfl⟩ hclosing
  have hopening := hentries.punctuation (c := '(') rfl (by simp)
  simpa [printParameters, parametersYield, entriesYield] using hopening

theorem scans_template {template : Option (List Parameter)}
    (hfields : ∀ field ∈ (template.getD []).flatMap Parameter.fields, field.Printable)
    (h : Scans rest after) :
    Scans ((printTemplate template).toList ++ rest)
      ((template.map (·.map Parameter.entry)).elim [] templateYield ++ after) := by
  cases template with
  | none => exact h
  | some parameters =>
    rw [Option.getD_some] at hfields
    have hclosing := h.punctuation (c := '>') rfl (by simp)
    have hentries := scans_entries hfields ⟨'>', by simp, rest, rfl⟩ hclosing
    have hopening := hentries.punctuation (c := '<') rfl (by simp)
    simpa [printTemplate, printParameters, templateYield, entriesYield] using hopening

omit [Regex.Engine] in
theorem isAttributeName_expr : IsAttributeName "expr" := by decide

omit [Regex.Engine] in
theorem scans_attributes {attributes : Attributes} (isExpression : Bool)
    (hnames : ∀ name ∈ attributes.names, IsAttributeName name) (h : Scans rest after) :
    Scans ((printAttributes attributes isExpression).toList ++ rest)
      ((attributeWords attributes isExpression).elim [] attributesYield ++ after) := by
  have hwords : ∀ name ∈ (if isExpression then ["expr"] else []) ++ attributes.names,
      IsAttributeName name := by
    intro name hname
    rw [List.mem_append] at hname
    obtain hname | hname := hname
    · split_ifs at hname
      · rw [List.mem_singleton.1 hname]
        exact isAttributeName_expr
      · cases hname
    · exact hnames name hname
  unfold printAttributes attributeWords
  generalize (if isExpression then ["expr"] else []) ++ attributes.names = names at hwords
  cases names with
  | nil => exact h
  | cons name names =>
    have hclosing := h.punctuation (c := ']') rfl (by simp)
    have hlist : Scans ((String.intercalate ", " ((name :: names).map id)).toList ++ ']' :: rest)
        (separated (fun word => [.word word]) (name :: names) ++ .mark .rsquare :: after) := by
      refine scans_intercalate (fun word hword rest after hcloses hscans => ?_)
        ⟨']', by simp, rest, rfl⟩ hclosing
      refine hscans.bareWord (hwords word hword).toIsBareWord fun c hc => ?_
      obtain ⟨d, hd, tail, rfl⟩ := hcloses
      obtain rfl := Option.some.inj hc
      simp only [List.mem_cons, List.not_mem_nil, or_false] at hd
      obtain rfl | rfl | rfl | rfl := hd <;> rfl
    rw [List.map_id] at hlist
    have hopening := hlist.punctuation (c := '[') rfl (by simp)
    simpa [attributesYield] using hopening

theorem scans_printName {field : Field} (hfield : field.Printable) (h : Scans rest after) :
    Scans ((printName field).toList ++ rest)
      (field.word?.elim [] (fun word => [.mark .equal, .word word]) ++ after) := by
  unfold printName Field.word?
  split_ifs
  · exact h
  · have hword := (scans_field hfield h).blank (c := ' ') rfl
    have hequal := (hword.punctuation (c := '=') rfl (by simp)).blank (c := ' ') rfl
    simpa using hequal

/-! ## Entities and patterns -/

theorem scans_entity {e : Entity} (hfields : ∀ field ∈ e.fields, field.Printable)
    (hnames : ∀ name ∈ e.attributeNames, IsAttributeName name) (h : Scans rest after) :
    Scans (e.print.toList ++ rest)
      (e.head.yield ++
        (e.boundName?.elim [] (fun word => [.mark .equal, .word word]) ++ after)) := by
  cases e with
  | func shape =>
    simp only [Entity.fields, List.cons_append, List.mem_cons, List.mem_append, or_imp, forall_and,
      forall_eq] at hfields
    obtain ⟨hname, htype, hparameters, htemplate⟩ := hfields
    have hscans := (scans_printType htype (scans_template htemplate (scans_parameters hparameters
      (scans_attributes shape.isExpression hnames (scans_printName hname h))))).sigil .func
    simpa [Entity.print, Entity.head, Entity.boundName?, Head.yield, Sigil.letter] using hscans
  | var shape =>
    have hname : shape.name.Printable := hfields shape.name (by simp [Entity.fields])
    have htype : shape.type.Printable := hfields shape.type (by simp [Entity.fields])
    have hscans := (scans_printType htype (scans_attributes shape.isExpression hnames
      (scans_printName hname h))).sigil (if shape.isParameter then .param else .var)
    cases hparameter : shape.isParameter <;>
      simpa [Entity.print, Entity.head, Entity.boundName?, Head.yield, Sigil.letter, hparameter]
        using hscans
  | record shape =>
    simp only [Entity.fields, List.mem_cons, forall_eq_or_imp] at hfields
    obtain ⟨hname, htemplate⟩ := hfields
    have htemplate := scans_template htemplate h
    simp only [Entity.print, Entity.head, Entity.boundName?]
    split_ifs
    · simpa [Head.yield, Sigil.letter] using htemplate.sigil .type
    · have hpound := (scans_field hname htemplate).punctuation (c := '#') rfl (by simp)
      simpa [Head.yield] using hpound
  | text field => exact scans_field (hfields field (by simp [Entity.fields])) h

theorem scans_qualifier {qualifier : Qualifier}
    (hfields : ∀ field ∈ qualifier.fields, field.Printable) {head : Head}
    (h : Scans rest (head.yield ++ after)) :
    Scans (qualifier.print.toList ++ rest) ((qualifier.term head).yield ++ after) := by
  cases qualifier with
  | anywhere => exact h
  | fileScope =>
    simpa [Qualifier.print, Qualifier.term, Qualifier.fields, Term.yield] using h.doubleColon
  | chain scopes =>
    suffices hscopes : Scans ((String.join (scopes.map fun scope => scope.print ++ "::")).toList ++
        rest) ((scopes.map Field.source).flatMap (fun scope => [.word scope, .mark .doubleColon]) ++
          (head.yield ++ after)) by
      simpa [Qualifier.print, Qualifier.term, Qualifier.fields, Term.yield] using hscopes
    induction scopes with
    | nil => exact h
    | cons scope scopes ih =>
      have hlater := ih fun field hfield => hfields field (List.mem_cons_of_mem _ hfield)
      have hscope := scans_field (hfields scope List.mem_cons_self) hlater.doubleColon
      simpa [String.toList_join] using hscope

/-- The text of an entity without its contents has the terminals of its operand. -/
theorem scans_operand {e : Entity} {qualifier : Qualifier} {contents : List Pattern}
    (hentity : (Pattern.entity e qualifier contents).Printable) (h : Scans rest after) :
    Scans (qualifier.print.toList ++ (e.print.toList ++ rest))
      ((e.operand qualifier).yield ++ after) := by
  obtain ⟨⟨hfields, -, -, -⟩, hnames⟩ := hentity
  have hscans := scans_entity (fun field hfield => hfields field (List.mem_append_left _ hfield))
    hnames h
  have hqualified := scans_qualifier
    (fun field hfield => hfields field (List.mem_append_right _ hfield)) hscans
  rw [Entity.operand, withName_yield, List.append_assoc]
  exact hqualified

omit [Regex.Engine] in
theorem scans_operator (operator : Operator) (h : Scans rest after) :
    Scans (operator.symbol.toList ++ rest) (operator.yield ++ after) := by
  cases operator with
  | and => exact h.punctuation (c := '&') rfl (by simp)
  | constraint => exact h.punctuation (c := '~') rfl (by simp)
  | or => exact h.punctuation (c := '|') rfl (by simp)
  | child => exact h.punctuation (c := '>') rfl (by simp)
  | parent => exact h.punctuation (c := '<') rfl (by simp)
  | notChild => exact (h.punctuation (c := '>') rfl (by simp)).punctuation (c := '!') rfl (by simp)
  | notParent => exact (h.punctuation (c := '<') rfl (by simp)).punctuation (c := '!') rfl (by simp)

namespace Pattern

mutual

/-- The text of a pattern has the terminals of its derivation. -/
theorem scans_print : ∀ pattern : Pattern, pattern.Everywhere Printable →
    ∀ {rest : List Char} {after : List Terminal}, Scans rest after →
      Scans (pattern.print.toList ++ rest) (pattern.written.yield ++ after)
  | entity e qualifier contents, hpattern, rest, after, h => by
    obtain ⟨hentity, hcontents⟩ := everywhere_entity_iff.1 hpattern
    have hscans := scans_operand hentity (scans_printContents contents hcontents h)
    rw [written, writtenContents_yield]
    simpa [print] using hscans
  | combine operator left right, hpattern, rest, after, h => by
    obtain ⟨-, hleft, hright⟩ := everywhere_combine_iff.1 hpattern
    have hclosing := h.punctuation (c := ')') rfl (by simp)
    have hright := (scans_print right hright hclosing).blank (c := ' ') rfl
    have hoperator := scans_operator operator hright
    have hscans := scans_print left hleft (hoperator.blank (c := ' ') rfl)
    have hopening := hscans.punctuation (c := '(') rfl (by simp)
    simpa [print, written, Derivation.yield, joined_yield] using hopening

theorem scans_printContents : ∀ contents : List Pattern,
    (∀ content ∈ contents, content.Everywhere Printable) →
    ∀ {rest : List Char} {after : List Terminal}, Scans rest after →
      Scans ((printContents contents).toList ++ rest) (contentsYield contents ++ after)
  | [], _, rest, after, h => h
  | content :: contents, hcontents, rest, after, h => by
    have hlater := scans_printContents contents
      (fun other hother => hcontents other (List.mem_cons_of_mem _ hother)) h
    have hclosing := (hlater.punctuation (c := '}') rfl (by simp)).blank (c := ' ') rfl
    have hscans := scans_print content (hcontents content List.mem_cons_self) hclosing
    have hopening := (hscans.blank (c := ' ') rfl).punctuation (c := '{') rfl (by simp)
    simpa [printContents, contentsYield] using hopening.blank (c := ' ') rfl

end

/-- A pattern that can be written is read back from its text. -/
theorem compile_print {pattern : Pattern} (h : pattern.Everywhere Printable) :
    compile pattern.print = .ok pattern := by
  have hscans := scans_print pattern h Scans.nil 0
  rw [List.append_nil, List.append_nil] at hscans
  obtain ⟨tokens, hscan, hterminals⟩ := hscans
  have hfits : (Derivation.ofConjunction (.ofOperand pattern.written)).Fits [] :=
    ofOperand_fits (written_fits pattern h ⟨.nil, rfl⟩) rfl
  have hread := ofTokens_complete hterminals.symm (written_pattern pattern h) hfits
  rw [compile, Token.scan, hscan]
  exact hread

end Pattern

end StructSearch.Query

import Mathlib.Tactic
import StructSearch.Proofs.Query.Completeness
import StructSearch.Proofs.Query.Invariant
import StructSearch.Proofs.Query.Scanning

/-!
# The derivation of a printed pattern

A printed pattern has a derivation that follows its shape: an entity is a term with a sigil or a
word, then perhaps its name, then one scope for each of its contents, and a combination is a group.
For patterns with the structure that reading gives, and whose fields and attributes can be written,
this derivation stands for the pattern, and the looks ahead of the readers agree with it. A `<` in
it opens a template list only where the pattern has one: after any other, a delimiter is met before
the next `>`.

Results:
* `Pattern.written_pattern`: the derivation stands for the pattern.
* `Pattern.written_fits`: the looks ahead agree with the derivation.
-/

namespace StructSearch.Query

open Grammar

/-! ## Parts that can be written -/

variable [Regex.Engine]

/-- A field that its text between slashes is read as. -/
structure Field.Printable (field : Field) : Prop where
  compiles : Field.compile field.source = .ok field
  ne_nil : field.source.toList ≠ []
  slash : '/' ∉ field.source.toList

/-- A word that is read as an attribute and kept as it is. -/
structure IsAttributeName (name : String) : Prop extends IsBareWord name where
  lowercase : Text.lowercase name = name

instance (name : String) : Decidable (IsAttributeName name) :=
  decidable_of_iff (IsBareWord name ∧ Text.lowercase name = name)
    ⟨fun h => ⟨h.1, h.2⟩, fun h => ⟨h.toIsBareWord, h.lowercase⟩⟩

/-- A pattern itself has the structure that reading gives, its fields and attributes can be
written. -/
def Pattern.Printable (pattern : Pattern) : Prop :=
  pattern.Regular Field.Printable ∧ ∀ name ∈ pattern.attributeNames, IsAttributeName name

/-! ## The derivation of a pattern -/

/-- The text of a field, unless it accepts everything. -/
def Field.word? (field : Field) : Option String :=
  if field.isAny then none else some field.source

/-- The type name of a field, unless it accepts everything. -/
def Field.typeName? (field : Field) : Option TypeName :=
  if field.isAny then none else some ⟨field.source, []⟩

/-- The entry that a parameter is printed as: what accepts everything is left out. -/
def Parameter.entry : Parameter → Entry
  | typed name type => .typed name.word? type.typeName?
  | ellipsis => .ellipsis

/-- The words of an attribute list, if there is one. -/
def attributeWords (attributes : Attributes) (isExpression : Bool) : Option (List String) :=
  let names := (if isExpression then ["expr"] else []) ++ attributes.names
  if names.isEmpty then none else some names

/-- The head that an entity is printed as. Functions and variables are written with a sigil, and
their name is bound behind it. -/
def Entity.head : Entity → Head
  | func shape =>
    .sigilFunction shape.returnType.typeName?
      (shape.templateParameters.map (·.map Parameter.entry))
      (some (shape.parameters.map Parameter.entry))
      (attributeWords shape.attributes shape.isExpression)
  | var shape =>
    .sigilVariable shape.isParameter shape.type.typeName?
      (attributeWords shape.attributes shape.isExpression)
  | record shape =>
    let template := shape.templateParameters.map (·.map Parameter.entry)
    if shape.name.isAny then .sigilClass template else .namedClass shape.name.source template
  | text field => .search field.source

/-- The name that is bound after the head of an entity. -/
def Entity.boundName? : Entity → Option String
  | func shape => shape.name.word?
  | var shape => shape.name.word?
  | record _ | text _ => none

/-- The head with the scopes of a qualifier before it. -/
def Qualifier.term (qualifier : Qualifier) (head : Head) : Term where
  fileScope := decide (qualifier = .fileScope)
  scopes := qualifier.fields.map Field.source
  head := head

/-- An operand with a name, if there is one. -/
def withName (left : Derivation .operand) : Option String → Derivation .operand
  | none => left
  | some word => .name left word

/-- Two operands joined by an operator. -/
def joined (left right : Derivation .operand) : Operator → Derivation .expression
  | .and => .ofConjunction (.both (.ofOperand left) right)
  | .constraint => .ofConjunction (.constraint (.ofOperand left) right)
  | .or => .binary (.ofConjunction (.ofOperand left)) .or (.ofOperand right)
  | .child => .binary (.ofConjunction (.ofOperand left)) .child (.ofOperand right)
  | .parent => .binary (.ofConjunction (.ofOperand left)) .parent (.ofOperand right)
  | .notChild => .binary (.ofConjunction (.ofOperand left)) .notChild (.ofOperand right)
  | .notParent => .binary (.ofConjunction (.ofOperand left)) .notParent (.ofOperand right)

/-- The operand that an entity is written as, without its contents. -/
def Entity.operand (entity : Entity) (qualifier : Qualifier) : Derivation .operand :=
  withName (.ofPrimary (.ofTerm (qualifier.term entity.head))) entity.boundName?

namespace Pattern

mutual

/-- The derivation of the text of a pattern. -/
def written : Pattern → Derivation .operand
  | entity e qualifier contents => writtenContents (e.operand qualifier) contents
  | combine operator left right =>
    .ofPrimary (.group (joined (written left) (written right) operator))

/-- An operand with the contents of an entity. -/
def writtenContents (left : Derivation .operand) : List Pattern → Derivation .operand
  | [] => left
  | content :: rest =>
    writtenContents (.scope left (.ofConjunction (.ofOperand (written content)))) rest

end

end Pattern

/-! ## Its terminals -/

omit [Regex.Engine] in
theorem withName_yield (left : Derivation .operand) (name : Option String) :
    (withName left name).yield =
      left.yield ++ name.elim [] fun word => [.mark .equal, .word word] := by
  cases name with
  | none => simp [withName]
  | some word => rfl

/-- The terminals of an operator. -/
def Operator.yield : Operator → List Terminal
  | and => [.mark .and]
  | constraint => [.mark .tilde]
  | or => [.mark .or]
  | child => [.mark .rangle]
  | parent => [.mark .langle]
  | notChild => [.mark .not, .mark .rangle]
  | notParent => [.mark .not, .mark .langle]

omit [Regex.Engine] in
theorem joined_yield (left right : Derivation .operand) (operator : Operator) :
    (joined left right operator).yield = left.yield ++ operator.yield ++ right.yield := by
  cases operator <;>
    simp [joined, Derivation.yield, Operator.yield, LooseOperator.yield]

/-- The terminals of the contents of an entity. -/
def Pattern.contentsYield (contents : List Pattern) : List Terminal :=
  contents.flatMap fun content => .mark .lcurly :: content.written.yield ++ [.mark .rcurly]

theorem Pattern.writtenContents_yield (contents : List Pattern) : ∀ left : Derivation .operand,
    (writtenContents left contents).yield = left.yield ++ contentsYield contents := by
  induction contents with
  | nil => simp [writtenContents, contentsYield]
  | cons content rest ih =>
    intro left
    rw [writtenContents, ih]
    simp [Derivation.yield, contentsYield]

/-! ## It stands for the pattern -/

namespace Field.Printable

variable {field : Field} (h : field.Printable)
include h

theorem field? : Grammar.field? field.source = some field := field?_eq_some_iff.2 h.compiles

/-- Only the field `.*` accepts everything. -/
theorem eq_any (hany : field.isAny = true) : field = .any := by
  obtain ⟨-, hfield⟩ | ⟨-, expr, -, hfield⟩ := Field.compile_eq_ok_iff.1 h.compiles
  · exact hfield
  · rw [hfield] at hany
    cases hany

theorem word? : orAny? Grammar.field? field.word? = some field := by
  unfold Field.word?
  split_ifs with hany
  · rw [h.eq_any hany]
    rfl
  · exact h.field?

theorem typeName? : orAny? TypeName.field? field.typeName? = some field := by
  unfold Field.typeName?
  split_ifs with hany
  · rw [h.eq_any hany]
    rfl
  · rw [orAny?, TypeName.field?, TypeName.text, String.intercalate_singleton]
    exact h.field?

end Field.Printable

omit [Regex.Engine] in
theorem mapM_map_eq_some {α β : Type} {f : β → Option α} {g : α → β} {parts : List α}
    (h : ∀ part ∈ parts, f (g part) = some part) : (parts.map g).mapM f = some parts := by
  induction parts with
  | nil => rfl
  | cons part parts ih =>
    have hparts := ih fun other hother => h other (List.mem_cons_of_mem _ hother)
    simp [h part List.mem_cons_self, hparts]

theorem parameters?_map_entry {parameters : List Parameter}
    (h : ∀ field ∈ parameters.flatMap Parameter.fields, field.Printable) :
    parameters? (parameters.map Parameter.entry) = some parameters := by
  refine mapM_map_eq_some fun parameter hparameter => ?_
  have hfields : ∀ field ∈ parameter.fields, field.Printable :=
    fun field hfield => h field (List.mem_flatMap_of_mem hparameter hfield)
  cases parameter with
  | ellipsis => rfl
  | typed name type =>
    have hname := (hfields name (by simp [Parameter.fields])).word?
    have htype := (hfields type (by simp [Parameter.fields])).typeName?
    simp [Parameter.entry, Entry.parameter?, hname, htype]

theorem template?_map_entry {template : Option (List Parameter)}
    (h : ∀ field ∈ (template.getD []).flatMap Parameter.fields, field.Printable) :
    template? (template.map (·.map Parameter.entry)) = some template := by
  cases template with
  | none => rfl
  | some parameters =>
    rw [Option.getD_some] at h
    simp [template?, parameters?_map_entry h]

omit [Regex.Engine] in
/-- A name beyond all others is added at the end. -/
theorem insertName_append {names : List String} {name : String}
    (h : ∀ other ∈ names, other < name) :
    insertName name names = names ++ [name] := by
  induction names with
  | nil => rfl
  | cons first names ih =>
    have hfirst := h first List.mem_cons_self
    have hnot : ¬name < first := fun hlt => String.lt_irrefl _ (String.lt_trans hfirst hlt)
    have hne : name ≠ first := by
      rintro rfl
      exact String.lt_irrefl _ hfirst
    rw [insertName, if_neg hnot, if_neg hne,
      ih fun other hother => h other (List.mem_cons_of_mem _ hother)]
    rfl

omit [Regex.Engine] in
/-- Names in increasing order are added as they stand. -/
theorem names_foldl_insert (names : List String) : ∀ {attributes : Attributes},
    (attributes.names ++ names).Pairwise (· < ·) →
    (names.foldl Attributes.insert attributes).names = attributes.names ++ names := by
  induction names with
  | nil => simp
  | cons name names ih =>
    intro attributes hsorted
    have hless : ∀ other ∈ attributes.names, other < name := fun other hother =>
      (List.pairwise_append.1 hsorted).2.2 other hother name List.mem_cons_self
    have hinsert : (attributes.insert name).names = attributes.names ++ [name] :=
      insertName_append hless
    rw [List.foldl_cons, ih, hinsert, List.append_assoc]
    · rfl
    · rwa [hinsert, List.append_assoc]

omit [Regex.Engine] in
theorem getD_attributeWords (attributes : Attributes) (isExpression : Bool) :
    (attributeWords attributes isExpression).getD [] =
      (if isExpression then ["expr"] else []) ++ attributes.names := by
  unfold attributeWords
  generalize (if isExpression then ["expr"] else []) ++ attributes.names = names
  cases names <;> rfl

omit [Regex.Engine] in
/-- The words of attributes are read as the attributes. -/
theorem attributes?_attributeWords {attributes : Attributes} (isExpression : Bool)
    (hnames : ∀ name ∈ attributes.names, IsAttributeName name)
    (hexpr : "expr" ∉ attributes.names) (hone : OneAccess attributes.names) :
    attributes? (attributeWords attributes isExpression) = some ⟨attributes, isExpression⟩ := by
  have hlower : attributes.names.map Text.lowercase = attributes.names := by
    rw [List.map_congr_left fun name hname => (hnames name hname).lowercase, List.map_id']
  have hwords : ((attributeWords attributes isExpression).getD []).map Text.lowercase =
      (if isExpression then ["expr"] else []) ++ attributes.names := by
    rw [getD_attributeWords, List.map_append, hlower]
    cases isExpression <;> rfl
  have hfilter : attributes.names.filter (· ≠ "expr") = attributes.names := by
    refine List.filter_eq_self.2 fun name hname => ?_
    simpa using ne_of_mem_of_not_mem hname hexpr
  have hinsert : attributes.names.foldl Attributes.insert .empty = attributes := by
    have hsorted : (Attributes.empty.names ++ attributes.names).Pairwise (· < ·) :=
      attributes.sorted
    cases attributes with
    | mk names sorted =>
      rw [Attributes.mk.injEq]
      exact names_foldl_insert names hsorted
  have hagree : OneAccess ((if isExpression then ["expr"] else []) ++ attributes.names) := by
    refine (OneAccess.congr fun access haccess => ?_).1 hone
    have hne : access ≠ "expr" := by
      rintro rfl
      revert haccess
      decide
    cases isExpression <;> simp [hne]
  rw [attributes?_eq_some, hwords]
  refine ⟨hagree, ?_⟩
  rw [foldl_addName, List.filter_append, hfilter]
  cases isExpression with
  | false => simp [hinsert, hexpr]
  | true => simp [hinsert]

/-- The entity that the head of an entity writes: the name that is bound later is missing. -/
def Entity.unnamed : Entity → Entity
  | func shape => .func { shape with name := .any }
  | var shape => .var { shape with name := .any }
  | record shape => .record shape
  | text field => .text field

theorem Entity.head_entity {e : Entity} (hfields : ∀ field ∈ e.fields, field.Printable)
    (hnames : ∀ name ∈ e.attributeNames, IsAttributeName name)
    (hexpr : "expr" ∉ e.attributeNames) (hone : OneAccess e.attributeNames) :
    e.head.entity? = some e.unnamed := by
  cases e with
  | func shape =>
    simp only [Entity.fields, List.cons_append, List.mem_cons, List.mem_append, or_imp, forall_and,
      forall_eq] at hfields
    obtain ⟨-, htype, hparameters, htemplate⟩ := hfields
    have hlist := attributes?_attributeWords shape.isExpression hnames hexpr hone
    simp [Entity.head, Head.entity?, Entity.unnamed, htype.typeName?,
      template?_map_entry htemplate, parameters?_map_entry hparameters, hlist]
  | var shape =>
    have htype : shape.type.Printable := hfields shape.type (by simp [Entity.fields])
    have hlist := attributes?_attributeWords shape.isExpression hnames hexpr hone
    simp [Entity.head, Head.entity?, Entity.unnamed, htype.typeName?, hlist]
  | record shape =>
    simp only [Entity.fields, List.mem_cons, forall_eq_or_imp] at hfields
    obtain ⟨hname, htemplate⟩ := hfields
    simp only [Entity.head, Entity.unnamed]
    split_ifs with hany
    · have hshape : shape.name = .any := hname.eq_any hany
      simp [Head.entity?, template?_map_entry htemplate, ← hshape]
    · simp [Head.entity?, template?_map_entry htemplate, hname.field?]
  | text field =>
    have hfield : field.Printable := hfields field (by simp [Entity.fields])
    simp [Entity.head, Head.entity?, Entity.unnamed, hfield.field?]

theorem Qualifier.term_qualifier {qualifier : Qualifier} (head : Head)
    (hfields : ∀ field ∈ qualifier.fields, field.Printable) (hchain : qualifier ≠ .chain []) :
    (qualifier.term head).qualifier? = some qualifier := by
  have hscopes : (qualifier.fields.map Field.source).mapM Grammar.field? = some qualifier.fields :=
    mapM_map_eq_some fun field hfield => (hfields field hfield).field?
  rw [Term.qualifier?, Qualifier.term, hscopes]
  cases qualifier with
  | anywhere => rfl
  | fileScope => rfl
  | chain scopes =>
    have hne : scopes ≠ [] := by
      rintro rfl
      exact hchain rfl
    simp [Qualifier.fields, hne]

theorem withName_pattern {left : Derivation .operand} {e : Entity} {qualifier : Qualifier}
    {contents : List Pattern} (hfields : ∀ field ∈ e.fields, field.Printable)
    (hleft : left.pattern? = some (.entity e.unnamed qualifier contents)) :
    (withName left e.boundName?).pattern? = some (.entity e qualifier contents) := by
  cases e with
  | record | text => exact hleft
  | func shape =>
    have hname : shape.name.Printable := hfields shape.name (by simp [Entity.fields])
    simp only [Entity.boundName?, Field.word?]
    split_ifs with hany
    · rw [withName, hleft, Entity.unnamed, ← hname.eq_any hany]
    · simp [withName, Derivation.pattern?, hleft, hname.field?, Entity.unnamed, named?]
  | var shape =>
    have hname : shape.name.Printable := hfields shape.name (by simp [Entity.fields])
    simp only [Entity.boundName?, Field.word?]
    split_ifs with hany
    · rw [withName, hleft, Entity.unnamed, ← hname.eq_any hany]
    · simp [withName, Derivation.pattern?, hleft, hname.field?, Entity.unnamed, named?]

/-- An entity without its contents is written as it is. -/
theorem Entity.operand_pattern {e : Entity} {qualifier : Qualifier} {contents : List Pattern}
    (h : (Pattern.entity e qualifier contents).Printable) :
    (e.operand qualifier).pattern? = some (.entity e qualifier []) := by
  obtain ⟨⟨hfields, hchain, hexpr, hone⟩, hnames⟩ := h
  have hentity := e.head_entity (fun field hfield => hfields field (List.mem_append_left _ hfield))
    hnames hexpr hone
  have hqualifier := qualifier.term_qualifier e.head
    (fun field hfield => hfields field (List.mem_append_right _ hfield)) hchain
  refine withName_pattern (fun field hfield => hfields field (List.mem_append_left _ hfield)) ?_
  simp only [Derivation.pattern?, Term.pattern?, hqualifier]
  simp [Qualifier.term, hentity]

theorem joined_pattern {left right : Derivation .operand} {p q : Pattern} {operator : Operator}
    (hleft : left.pattern? = some p) (hright : right.pattern? = some q)
    (hconstraint : operator = .constraint → p.isEntity = false) :
    (joined left right operator).pattern? = some (.combine operator p q) := by
  cases operator with
  | constraint =>
    cases p with
    | entity => cases hconstraint rfl
    | combine => simp [joined, Derivation.pattern?, hleft, hright, Pattern.constrain]
  | and | or | child | parent | notChild | notParent =>
    simp [joined, Derivation.pattern?, hleft, hright, LooseOperator.operator]

namespace Pattern

mutual

/-- The derivation of a printed pattern stands for the pattern. -/
theorem written_pattern : ∀ pattern : Pattern, pattern.Everywhere Printable →
    pattern.written.pattern? = some pattern
  | entity e qualifier contents, h => by
    obtain ⟨hentity, hcontents⟩ := everywhere_entity_iff.1 h
    rw [written, writtenContents_pattern contents hcontents (e.operand_pattern hentity)]
    rfl
  | combine operator left right, h => by
    obtain ⟨hnode, hleft, hright⟩ := everywhere_combine_iff.1 h
    exact joined_pattern (written_pattern left hleft) (written_pattern right hright) hnode.1

theorem writtenContents_pattern : ∀ (contents : List Pattern),
    (∀ content ∈ contents, content.Everywhere Printable) →
    ∀ {left : Derivation .operand} {e : Entity} {qualifier : Qualifier} {before : List Pattern},
      left.pattern? = some (entity e qualifier before) →
      (writtenContents left contents).pattern? = some (entity e qualifier (before ++ contents))
  | [], _, left, e, qualifier, before, hleft => by
    rw [writtenContents, hleft, List.append_nil]
  | content :: rest, h, left, e, qualifier, before, hleft => by
    have hcontent := written_pattern content (h content List.mem_cons_self)
    have hscope : (Derivation.scope left (.ofConjunction (.ofOperand (written content)))).pattern? =
        some (entity e qualifier (before ++ [content])) := by
      simp [Derivation.pattern?, hleft, hcontent, constrain]
    rw [writtenContents, writtenContents_pattern rest
      (fun other hother => h other (List.mem_cons_of_mem _ hother)) hscope, List.append_assoc]
    rfl

end

end Pattern

/-! ## The looks ahead agree with it -/

/-- No `>` is reached through terminals of a template list. -/
def ReachesNoAngle (front : List Terminal) : Prop :=
  (front.dropWhile isTemplateTerminal).head? ≠ some (.mark .rangle)

omit [Regex.Engine] in
theorem opensTemplate_of_reachesNoAngle {ofFunction : Bool} {front : List Terminal}
    (h : ReachesNoAngle front) : opensTemplate ofFunction (.mark .langle :: front) = false := by
  unfold ReachesNoAngle at h
  rw [opensTemplate]
  split
  · next after hdrop => simp [hdrop] at h
  · rfl

omit [Regex.Engine] in
theorem reachesNoAngle_cons {terminal : Terminal} {front : List Terminal}
    (hterminal : isTemplateTerminal terminal = false) (hne : terminal ≠ .mark .rangle) :
    ReachesNoAngle (terminal :: front) := by
  have hdrop : (terminal :: front).dropWhile isTemplateTerminal = terminal :: front :=
    List.dropWhile_cons_of_neg (by simp [hterminal])
  rw [ReachesNoAngle, hdrop]
  simpa using hne

/-- What follows a written head is looked at only if the head is a word. -/
theorem Entity.reachesNoAngle_head (e : Entity) {front : List Terminal} (h : ReachesNoAngle front) :
    ReachesNoAngle (e.head.yield ++
      (e.boundName?.elim [] (fun word => [.mark .equal, .word word]) ++ front)) := by
  cases e with
  | func => exact reachesNoAngle_cons rfl (by simp)
  | var shape => cases hparameter : shape.isParameter <;>
      exact reachesNoAngle_cons (by simp [hparameter, isTemplateTerminal]) (by simp)
  | record shape =>
    simp only [Entity.head, Entity.boundName?]
    split_ifs
    · exact reachesNoAngle_cons rfl (by simp)
    · exact reachesNoAngle_cons rfl (by simp)
  | text field => exact h

theorem Entity.reachesNoAngle_operand (e : Entity) (qualifier : Qualifier) {front : List Terminal}
    (h : ReachesNoAngle front) : ReachesNoAngle ((e.operand qualifier).yield ++ front) := by
  have hhead := e.reachesNoAngle_head h
  rw [Entity.operand, withName_yield, List.append_assoc]
  unfold ReachesNoAngle at hhead ⊢
  simp only [Derivation.yield, Term.yield, Qualifier.term, List.append_assoc]
  rw [List.dropWhile_append_of_pos, List.dropWhile_append_of_pos]
  · exact hhead
  · intro terminal hterminal
    obtain ⟨scope, -, hscope⟩ := List.mem_flatMap.1 hterminal
    simp only [List.mem_cons, List.not_mem_nil, or_false] at hscope
    obtain rfl | rfl := hscope <;> rfl
  · intro terminal hterminal
    cases qualifier with
    | anywhere | chain => simp at hterminal
    | fileScope =>
      obtain rfl := List.mem_singleton.1 hterminal
      rfl

theorem Pattern.reachesNoAngle_written (pattern : Pattern) (rest : List Terminal) :
    ReachesNoAngle (pattern.written.yield ++ .mark .rparen :: rest) := by
  cases pattern with
  | combine => exact reachesNoAngle_cons rfl (by simp)
  | entity e qualifier contents =>
    rw [Pattern.written, Pattern.writtenContents_yield, List.append_assoc]
    refine e.reachesNoAngle_operand qualifier ?_
    cases contents with
    | nil => exact reachesNoAngle_cons rfl (by simp)
    | cons => exact reachesNoAngle_cons rfl (by simp)

/-- What may follow a written pattern. -/
structure Follows (front : List Terminal) : Prop where
  opens : Opens primaryFollow front
  template : opensTemplate false front = false

omit [Regex.Engine] in
theorem Follows.of_mark {kind : Token.Kind} {front : List Terminal} (hkind : kind ∈ primaryFollow)
    (hangle : kind ≠ .langle) : Follows (.mark kind :: front) := by
  refine ⟨.cons hkind, ?_⟩
  unfold opensTemplate
  split
  · simp_all
  · rfl

omit [Regex.Engine] in
theorem not_startsOperand_of_opens {front : List Terminal} (h : Opens primaryFollow front) :
    front.head?.any Grammar.startsOperand = false := by
  cases front with
  | nil => rfl
  | cons terminal front =>
    obtain ⟨kind, hkind, rfl⟩ := h terminal rfl
    rw [List.head?_cons, Option.any_some]
    clear h
    revert kind
    decide

omit [Regex.Engine] in
/-- A class opens a template list exactly when it has one. -/
theorem opensTemplate_template (template : Option (List Entry)) {front : List Terminal}
    (h : Follows front) :
    opensTemplate false (template.elim [] templateYield ++ front) = template.isSome := by
  cases template with
  | none => exact h.template
  | some entries =>
    rw [Option.elim_some, opensTemplate_entries]
    simp [not_startsOperand_of_opens h.opens]

theorem Entity.head_fits (e : Entity) {front : List Terminal} (h : Follows front) :
    e.head.TemplateFits
      (e.boundName?.elim [] (fun word => [.mark .equal, .word word]) ++ front) := by
  cases e with
  | func shape => exact opensTemplate_parameters _ _ _
  | var => trivial
  | record shape =>
    simp only [Entity.head, Entity.boundName?]
    split_ifs
    · exact opensTemplate_template _ h
    · exact opensTemplate_template _ h
  | text => trivial

theorem Entity.operand_fits (e : Entity) (qualifier : Qualifier) {front : List Terminal}
    (h : Follows front) : (e.operand qualifier).Fits front := by
  have hhead := e.head_fits h
  intro site hsite
  unfold Entity.operand at hsite
  cases hname : e.boundName? with
  | none =>
    rw [hname, withName, Derivation.sites, Derivation.sites, List.mem_singleton] at hsite
    rw [hname] at hhead
    subst hsite
    exact ⟨rfl, hhead⟩
  | some word =>
    rw [hname, withName, Derivation.sites, Derivation.sites, Derivation.sites, List.mem_cons,
      List.mem_singleton] at hsite
    rw [hname] at hhead
    obtain rfl | rfl := hsite
    · exact ⟨rfl, trivial⟩
    · exact ⟨rfl, hhead⟩

theorem tildeBinds_of_not_typed {operand : Derivation .operand} (h : operand.isTyped = false)
    (front : List Terminal) : tildeBinds (.operand operand, front) = true := by
  unfold tildeBinds
  split <;> simp_all

theorem tildeBinds_of_mark {operand : Derivation .operand} {kind : Token.Kind}
    (h : kind ≠ .tilde) (front : List Terminal) :
    tildeBinds (.operand operand, .mark kind :: front) = true := by
  unfold tildeBinds
  split <;> simp_all

theorem ofOperand_fits {operand : Derivation .operand} {front : List Terminal}
    (h : operand.Fits front) (hbinds : tildeBinds (.operand operand, front) = true) :
    (Derivation.ofOperand operand).Fits front := by
  intro site hsite
  rw [Derivation.sites, List.mem_cons] at hsite
  obtain rfl | hsite := hsite
  · exact ⟨hbinds, trivial⟩
  · exact h site hsite

theorem joined_fits {left right : Derivation .operand} (operator : Operator)
    {front : List Terminal} (hleft : left.Fits (operator.yield ++ right.yield ++ front))
    (hleftBinds : tildeBinds (.operand left, operator.yield ++ right.yield ++ front) = true)
    (hright : right.Fits front) (hrightBinds : tildeBinds (.operand right, front) = true) :
    (joined left right operator).Fits front := by
  have hfirst := ofOperand_fits hleft hleftBinds
  have hsecond := ofOperand_fits hright hrightBinds
  have hboth : ∀ site ∈
      (Derivation.ofOperand left).sites (operator.yield ++ right.yield ++ front) ++
        (Derivation.ofOperand right).sites front, tildeBinds site = true ∧ templateFits site := by
    intro site hsite
    obtain hsite | hsite := List.mem_append.1 hsite
    · exact hfirst site hsite
    · exact hsecond site hsite
  cases operator <;> exact hboth

/-- A written combination is no function or variable. -/
theorem Pattern.isTyped_written_combine {operator : Operator} {left right : Pattern}
    (h : (Pattern.combine operator left right).Everywhere Pattern.Printable) :
    (Pattern.combine operator left right).written.isTyped = false := by
  rw [Derivation.isTyped, Pattern.written_pattern _ h]
  rfl

/-- What follows the left operand of a written combination. -/
theorem Pattern.follows_operator (operator : Operator) (right : Pattern) (rest : List Terminal) :
    Follows (operator.yield ++ right.written.yield ++ .mark .rparen :: rest) := by
  cases operator with
  | parent =>
    refine ⟨.cons (by decide), ?_⟩
    rw [List.append_assoc]
    exact opensTemplate_of_reachesNoAngle (right.reachesNoAngle_written rest)
  | and | or | child | constraint | notChild | notParent =>
    exact Follows.of_mark (by decide) (by decide)

theorem Pattern.tildeBinds_left {operator : Operator} {left right : Pattern} (rest : List Terminal)
    (hnode : operator = .constraint → left.isEntity = false)
    (hleft : left.Everywhere Pattern.Printable) :
    tildeBinds (.operand left.written,
      operator.yield ++ right.written.yield ++ .mark .rparen :: rest) = true := by
  cases operator with
  | constraint =>
    cases left with
    | entity => cases hnode rfl
    | combine => exact tildeBinds_of_not_typed (Pattern.isTyped_written_combine hleft) _
  | and | or | child | parent | notChild | notParent => exact tildeBinds_of_mark (by decide) _

theorem follows_contentsYield (contents : List Pattern) {front : List Terminal}
    (h : Follows front) : Follows (Pattern.contentsYield contents ++ front) := by
  cases contents with
  | nil => exact h
  | cons => exact .of_mark (by decide) (by decide)

namespace Pattern

mutual

/-- The looks ahead of the readers agree with the derivation of a printed pattern. -/
theorem written_fits : ∀ pattern : Pattern, pattern.Everywhere Printable →
    ∀ {front : List Terminal}, Follows front → pattern.written.Fits front
  | entity e qualifier contents, hpattern, front, h => by
    obtain ⟨-, hcontents⟩ := everywhere_entity_iff.1 hpattern
    exact writtenContents_fits contents hcontents
      (e.operand_fits qualifier (follows_contentsYield contents h))
  | combine operator left right, hpattern, front, h => by
    obtain ⟨hnode, hleft, hright⟩ := everywhere_combine_iff.1 hpattern
    exact joined_fits operator (written_fits left hleft (follows_operator operator right front))
      (tildeBinds_left front hnode.1 hleft)
      (written_fits right hright (.of_mark (by decide) (by decide)))
      (tildeBinds_of_mark (by decide) front)

theorem writtenContents_fits : ∀ contents : List Pattern,
    (∀ content ∈ contents, content.Everywhere Printable) →
    ∀ {left : Derivation .operand} {front : List Terminal},
      left.Fits (contentsYield contents ++ front) → (writtenContents left contents).Fits front
  | [], _, left, front, h => h
  | content :: contents, hcontents, left, front, h => by
    have hcontent : content.written.Fits (.mark .rcurly :: (contentsYield contents ++ front)) :=
      written_fits content (hcontents content List.mem_cons_self)
        (.of_mark (by decide) (by decide))
    refine writtenContents_fits contents
      (fun other hother => hcontents other (List.mem_cons_of_mem _ hother)) fun site hsite => ?_
    obtain hsite | hsite := List.mem_append.1 hsite
    · refine h site ?_
      simpa [contentsYield, Derivation.yield] using hsite
    · exact ofOperand_fits hcontent (tildeBinds_of_mark (by decide) _) site hsite

end

end Pattern

end StructSearch.Query

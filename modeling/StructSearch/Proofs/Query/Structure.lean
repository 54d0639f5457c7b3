import Mathlib.Tactic
import StructSearch.Proofs.Query.Soundness
import StructSearch.Proofs.Query.Invariant
import StructSearch.Regex.Builtin

/-!
# What reading tokens guarantees

The matcher and the printer rely on more than the type of a pattern says. Here this is told for
every sequence of tokens that is read at all, whether or not it was cut out of a query: the chains,
attributes, constraints and fields of a pattern and of all its parts, what an entry of a parameter
list may say of its variable, and which variables are parameters. The last is a matter of how the
entities of a pattern correspond to the heads that write them. Bindings and scopes change the
entity of a head, but never whether it is a parameter.

Results:
* `readsInto_isRead`: what a field holds that a text is read as.
* `Derivation.entities_correspond`: the entities of a pattern are those of its heads, in order.
* `ofTokens_structure`: the structure of every pattern that is read.
-/

namespace StructSearch.Query

open Grammar

/-! ## Fields -/

section AnyEngine

variable [Regex.Engine]

/-- A field that a text is read as: `.*` holds no expression, and any other text holds its own,
tied to the start of the subject. -/
def Field.IsRead (field : Field) : Prop :=
  field.source = Field.anySource ∧ field.expr = none ∨
    field.source ≠ Field.anySource ∧ ∃ expr,
      field.expr = some expr ∧ Regex.Engine.compile (Field.anchored field.source) = .ok expr

theorem isRead_of_compile {text : String} {field : Field} (h : Field.compile text = .ok field) :
    field.IsRead := by
  obtain ⟨-, rfl⟩ | ⟨hany, expr, hexpr, rfl⟩ := Field.compile_eq_ok_iff.1 h
  · exact .inl ⟨rfl, rfl⟩
  · exact .inr ⟨hany, expr, rfl, hexpr⟩

theorem readsInto_isRead (front : List Terminal) : ReadsInto front Field.IsRead where
  any := .inl ⟨rfl, rfl⟩
  type _ _ _ hfield := isRead_of_compile (field?_eq_some_iff.1 hfield)

/-! ## Entries of parameter lists -/

/-- The variable that an entry of a parameter list describes, as a pattern of its own. The type of
entries has a name and a type only, so everything else about the variable is supplied here. -/
def Parameter.variable? : Parameter → Option Pattern
  | typed name type => some (.entity (.var { name, type }) .anywhere [])
  | ellipsis => none

/-- The parameter lists of an entity, one after the other. -/
def Entity.parameters : Entity → List Parameter
  | func shape => shape.parameters ++ shape.templateParameters.getD []
  | record shape => shape.templateParameters.getD []
  | var _ | text _ => []

theorem Entity.mem_fields_of_mem_parameters {entity : Entity} {parameter : Parameter}
    (hparameter : parameter ∈ entity.parameters) {field : Field}
    (hfield : field ∈ parameter.fields) : field ∈ entity.fields := by
  cases entity with
  | func shape =>
    simp only [Entity.parameters, List.mem_append] at hparameter
    simp only [Entity.fields, List.cons_append, List.mem_cons, List.mem_append, List.mem_flatMap]
    obtain hparameter | hparameter := hparameter
    · exact .inr (.inr (.inl ⟨parameter, hparameter, hfield⟩))
    · exact .inr (.inr (.inr ⟨parameter, hparameter, hfield⟩))
  | record shape =>
    exact List.mem_cons_of_mem _ (List.mem_flatMap.2 ⟨parameter, hparameter, hfield⟩)
  | var | text => cases hparameter

/-- The variables that the parameter lists of a pattern itself describe. That they are plain holds
by the type of the entries; which fields they have is a matter of reading. -/
def Pattern.listed : Pattern → List Pattern
  | entity e _ _ => e.parameters.filterMap Parameter.variable?
  | combine .. => []

/-- A variable with a name and a type and nothing else: no attributes, not an expression, not a
parameter, anywhere and with no contents. -/
def Pattern.IsPlainVariable (ofField : Field → Prop) (pattern : Pattern) : Prop :=
  ∃ name type, ofField name ∧ ofField type ∧
    pattern = .entity (.var {
      name, type, attributes := .empty, isExpression := false, isParameter := false }) .anywhere []

theorem Pattern.Regular.listed {ofField : Field → Prop} {pattern : Pattern}
    (h : pattern.Regular ofField) :
    ∀ entry ∈ pattern.listed, entry.IsPlainVariable ofField := by
  cases pattern with
  | combine => simp [Pattern.listed]
  | entity e qualifier contents =>
    intro entry hentry
    obtain ⟨parameter, hparameter, heq⟩ := List.mem_filterMap.1 hentry
    cases parameter with
    | ellipsis => cases heq
    | typed name type =>
      obtain rfl := Option.some.inj heq
      have hfields : ∀ field ∈ [name, type], ofField field := fun field hfield =>
        h.1 field (List.mem_append_left _ (Entity.mem_fields_of_mem_parameters hparameter hfield))
      exact ⟨name, type, hfields name (by simp), hfields type (by simp), rfl⟩

/-! ## Entities and their heads -/

/-- Whether an entity is a parameter of a function. -/
def Entity.isParameter : Entity → Bool
  | var shape => shape.isParameter
  | func _ | record _ | text _ => false

/-- The entities of a pattern, each before those of its contents. -/
def Pattern.entities (pattern : Pattern) : List Entity :=
  pattern.subpatterns.filterMap fun
    | .entity e _ _ => some e
    | .combine .. => none

namespace Pattern

theorem entities_entity (e : Entity) (qualifier : Qualifier) (contents : List Pattern) :
    (entity e qualifier contents).entities = e :: contents.flatMap entities := by
  rw [entities, subpatterns, subpatternsAll_eq, List.filterMap_cons, List.filterMap_flatMap]
  rfl

theorem entities_combine (operator : Operator) (left right : Pattern) :
    (combine operator left right).entities = left.entities ++ right.entities := by
  rw [entities, subpatterns, List.cons_append, List.filterMap_cons, List.filterMap_append]
  rfl

theorem entities_constrain (left right : Pattern) :
    (left.constrain right).entities = left.entities ++ right.entities := by
  cases left with
  | entity e qualifier contents =>
    rw [constrain, entities_entity, entities_entity, List.flatMap_append, List.flatMap_singleton,
      List.cons_append]
  | combine => exact entities_combine _ _ _

end Pattern

namespace Grammar

/-- The head writes the sigil of parameters. -/
def Head.HasParameterSigil (head : Head) : Prop :=
  head.yield.head? = some (.mark (.sigil .param))

/-- The heads of a derivation from left to right. -/
def Derivation.heads {level : Level} : Derivation level → List Head
  | ofTerm term => [term.head]
  | group inner => inner.heads
  | ofPrimary primary => primary.heads
  | name left _ | type left _ | emptyScope left => left.heads
  | scope left inner => left.heads ++ inner.heads
  | ofOperand operand => operand.heads
  | both left right | constraint left right => left.heads ++ right.heads
  | ofConjunction conjunction => conjunction.heads
  | binary left _ right => left.heads ++ right.heads

omit [Regex.Engine] in
/-- The terminals of the heads stand in the derivation, in this order. -/
theorem Derivation.heads_sublist {level : Level} (derivation : Derivation level) :
    (derivation.heads.flatMap Head.yield).Sublist derivation.yield := by
  induction derivation with
  | ofTerm term => simp [heads, yield, Term.yield]
  | group inner ih => exact (ih.trans (List.sublist_append_left _ _)).cons _
  | ofPrimary primary ih => exact ih
  | name left word ih | type left word ih | emptyScope left ih =>
    exact ih.trans (List.sublist_append_left _ _)
  | scope left inner ih ihinner =>
    rw [heads, List.flatMap_append, yield, List.append_assoc]
    exact ih.append ((ihinner.trans (List.sublist_append_left _ _)).cons _)
  | ofOperand operand ih => exact ih
  | both left right ih ihright | constraint left right ih ihright =>
    rw [heads, List.flatMap_append]
    exact ih.append (ihright.cons _)
  | ofConjunction conjunction ih => exact ih
  | binary left operator right ih ihright =>
    rw [heads, List.flatMap_append]
    exact (ih.trans (List.sublist_append_left _ _)).append ihright

/-- An entity and the head that writes it: it is a parameter if the head has that sigil. -/
def Corresponds (entity : Entity) (head : Head) : Prop :=
  entity.isParameter = true ↔ head.HasParameterSigil

theorem Head.corresponds {head : Head} {entity : Entity} (h : head.entity? = some entity) :
    Corresponds entity head := by
  cases head with
  | sigilVariable isParameter type attributes =>
    simp only [Head.entity?, Option.bind_eq_bind, Option.bind_eq_some_iff, Option.some.injEq] at h
    obtain ⟨field, -, list, -, rfl⟩ := h
    cases isParameter <;> simp [Corresponds, Entity.isParameter, HasParameterSigil, Head.yield]
  | typedFunction name type template parameters attributes =>
    simp only [Head.entity?, Option.bind_eq_bind, Option.bind_eq_some_iff, Option.some.injEq] at h
    obtain ⟨_, -, _, -, _, -, _, -, _, -, rfl⟩ := h
    cases name <;> simp [Corresponds, Entity.isParameter, HasParameterSigil, Head.yield]
  | typedVariable name type attributes =>
    simp only [Head.entity?, Option.bind_eq_bind, Option.bind_eq_some_iff, Option.some.injEq] at h
    obtain ⟨_, -, _, -, _, -, rfl⟩ := h
    cases name <;> simp [Corresponds, Entity.isParameter, HasParameterSigil, Head.yield]
  | sigilFunction | sigilClass | namedClass | search =>
    simp only [Head.entity?, Option.bind_eq_bind, Option.bind_eq_some_iff, Option.some.injEq] at h
    grind [Corresponds, Entity.isParameter, HasParameterSigil, Head.yield]

/-- A name or a type that is bound changes the first entity only, and not whether it is a
parameter. -/
theorem entities_of_bound {pattern result : Pattern} {field : Field}
    (h : named? pattern field = some result ∨ bindType? pattern field = some result) :
    ∃ first last rest, pattern.entities = first :: rest ∧ result.entities = last :: rest ∧
      last.isParameter = first.isParameter := by
  cases pattern with
  | combine => obtain ⟨⟨⟩⟩ | ⟨⟨⟩⟩ := h
  | entity e qualifier contents =>
    obtain h | h := h
    · cases e <;> obtain rfl := Option.some.inj h <;>
        exact ⟨_, _, _, Pattern.entities_entity _ _ _, Pattern.entities_entity _ _ _, rfl⟩
    · cases e with
      | record | text => cases h
      | func shape | var shape =>
        obtain rfl := Option.some.inj h
        exact ⟨_, _, _, Pattern.entities_entity _ _ _, Pattern.entities_entity _ _ _, rfl⟩

theorem forall₂_of_bound {pattern result : Pattern} {field : Field} {heads : List Head}
    (h : named? pattern field = some result ∨ bindType? pattern field = some result)
    (hheads : List.Forall₂ Corresponds pattern.entities heads) :
    List.Forall₂ Corresponds result.entities heads := by
  obtain ⟨first, last, rest, hbefore, hafter, hsame⟩ := entities_of_bound h
  rw [hbefore] at hheads
  cases hheads with
  | cons hfirst hrest =>
    rw [hafter]
    refine .cons ?_ hrest
    rwa [Corresponds, hsame]

/-- The entities of a pattern correspond to the heads of its derivation, in order. -/
theorem Derivation.entities_correspond {level : Level} (derivation : Derivation level) :
    ∀ {pattern : Pattern}, derivation.pattern? = some pattern →
      List.Forall₂ Corresponds pattern.entities derivation.heads := by
  induction derivation with
  | ofTerm term =>
    intro pattern h
    simp only [pattern?, Term.pattern?, Option.bind_eq_bind, Option.bind_eq_some_iff,
      Option.some.injEq] at h
    obtain ⟨qualifier, -, entity, hentity, rfl⟩ := h
    rw [Pattern.entities_entity]
    exact .cons (Head.corresponds hentity) .nil
  | group inner ih => exact ih
  | ofPrimary primary ih => exact ih
  | name left word ih =>
    intro pattern h
    simp only [pattern?, Option.bind_eq_bind, Option.bind_eq_some_iff] at h
    obtain ⟨first, hfirst, field, -, hnamed⟩ := h
    exact forall₂_of_bound (.inl hnamed) (ih hfirst)
  | type left word ih =>
    intro pattern h
    simp only [pattern?, Option.bind_eq_bind, Option.bind_eq_some_iff] at h
    obtain ⟨first, hfirst, field, -, htyped⟩ := h
    exact forall₂_of_bound (.inr htyped) (ih hfirst)
  | emptyScope left ih => exact ih
  | scope left right ih ihright | constraint left right ih ihright =>
    intro pattern h
    simp only [pattern?, Option.bind_eq_bind, Option.bind_eq_some_iff, Option.some.injEq] at h
    obtain ⟨first, hfirst, other, hother, rfl⟩ := h
    rw [Pattern.entities_constrain]
    exact List.rel_append (ih hfirst) (ihright hother)
  | ofOperand operand ih => exact ih
  | both left right ih ihright | binary left operator right ih ihright =>
    intro pattern h
    simp only [pattern?, Option.bind_eq_bind, Option.bind_eq_some_iff, Option.some.injEq] at h
    obtain ⟨first, hfirst, other, hother, rfl⟩ := h
    rw [Pattern.entities_combine]
    exact List.rel_append (ih hfirst) (ihright hother)
  | ofConjunction conjunction ih => exact ih

end Grammar

/-! ## The structure of patterns -/

/-- Whatever tokens are read as a pattern: in it and in all its parts, qualifier chains are not
empty, attributes hold no `expr` and ask for one kind of access at most, a constraint joins to a
combination, and fields hold what their texts are read as. The variables of its parameter lists are
plain. The tokens derive it by heads that stand for its entities in order, where exactly those with
the sigil of parameters stand for parameters. -/
theorem ofTokens_structure {tokens : List Token} {pattern : Pattern}
    (h : Pattern.ofTokens tokens = .ok pattern) :
    pattern.Everywhere (Pattern.Regular Field.IsRead) ∧
    pattern.Everywhere (fun part => ∀ entry ∈ part.listed,
      entry.IsPlainVariable Field.IsRead) ∧
    ∃ derivation : Derivation .expression,
      derivation.yield = terminals tokens ∧ derivation.pattern? = some pattern ∧
      (derivation.heads.flatMap Head.yield).Sublist (terminals tokens) ∧
      List.Forall₂ (fun entity head => entity.isParameter = true ↔ head.HasParameterSigil)
        pattern.entities derivation.heads := by
  obtain ⟨derivation, hyield, hpattern⟩ := ofTokens_sound h
  have hregular := derivation.everywhere_regular (readsInto_isRead _) hpattern
  refine ⟨hregular, fun part hpart => (hregular part hpart).listed, derivation, hyield, hpattern,
    ?_, derivation.entities_correspond hpattern⟩
  rw [← hyield]
  exact derivation.heads_sublist

end AnyEngine

/-- The tokens of `(A::f:(x:int)[Public] | #C<...>) ~ \P = y`, without any places. -/
def placelessTokens : List Token :=
  let token (kind : Token.Kind) (text : String) : Token := ⟨kind, text, 0, 0⟩
  [token .lparen "(", token .data "A", token .doubleColon "::", token .data "f", token .colon ":",
    token .lparen "(", token .data "x", token .colon ":", token .data "int", token .rparen ")",
    token .lsquare "[", token .data "Public", token .rsquare "]", token .or "|", token .pound "#",
    token .data "C", token .langle "<", token .ellipsis "...", token .rangle ">",
    token .rparen ")", token .tilde "~", token (.sigil .param) "\\P", token .equal "=",
    token .data "y"]

/-- Their pattern. -/
def placelessPattern : Pattern := (Pattern.ofTokens placelessTokens).toOption.getD default

theorem ofTokens_structure_placeless :
    Pattern.ofTokens placelessTokens = .ok placelessPattern ∧
      placelessPattern.entities.map Entity.isParameter = [false, false, true] ∧
      placelessPattern.Everywhere (Pattern.Regular Field.IsRead) ∧
      placelessPattern.Everywhere (fun part => ∀ entry ∈ part.listed,
        entry.IsPlainVariable Field.IsRead) := by
  have hread : Pattern.ofTokens placelessTokens = .ok placelessPattern := by decide +kernel
  obtain ⟨hregular, hlisted, -⟩ := ofTokens_structure hread
  exact ⟨hread, by decide +kernel, hregular, hlisted⟩

end StructSearch.Query

import StructSearch.Query.Field

/-!
# Patterns

A pattern describes single entities, with what they must contain, and combines such descriptions
by binary operators.

This is the form in which the search engine gets a query. What a query leaves out stands in it as
the field that accepts everything, as any number of parameters, or as no list of template
parameters.
-/

namespace StructSearch.Query

/-! ## Attributes -/

/-- A list with a name added in its place, unless it is there. A list in increasing order stays in
order. -/
def insertName (name : String) : List String → List String
  | [] => [name]
  | first :: rest =>
    if name < first then name :: first :: rest
    else if name = first then first :: rest
    else first :: insertName name rest

theorem mem_insertName {name other : String} {names : List String} :
    other ∈ insertName name names ↔ other = name ∨ other ∈ names := by
  induction names with
  | nil => simp [insertName]
  | cons first rest ih =>
    unfold insertName
    split
    · simp
    · split
      · simp_all
      · simp [ih]; grind

theorem pairwise_insertName {name : String} {names : List String}
    (h : names.Pairwise (· < ·)) : (insertName name names).Pairwise (· < ·) := by
  induction names with
  | nil => simp [insertName]
  | cons first rest ih =>
    have ⟨hFirst, hRest⟩ := List.pairwise_cons.1 h
    unfold insertName
    split
    · next hLt =>
      refine List.pairwise_cons.2 ⟨fun other hOther => ?_, h⟩
      rcases List.mem_cons.1 hOther with rfl | hOther
      · exact hLt
      · exact String.lt_trans hLt (hFirst other hOther)
    · split
      · exact h
      · next hNotLt hNe =>
        refine List.pairwise_cons.2 ⟨fun other hOther => ?_, ih hRest⟩
        rcases mem_insertName.1 hOther with rfl | hOther
        · refine Decidable.byContradiction fun hNot => hNe ?_
          exact String.le_antisymm (String.not_lt.1 hNot) (String.not_lt.1 hNotLt)
        · exact hFirst other hOther

/-- A set of attribute names, kept in increasing order. -/
structure Attributes where
  names : List String
  sorted : names.Pairwise (· < ·)
  deriving Repr, DecidableEq

namespace Attributes

/-- No attributes. -/
def empty : Attributes := ⟨[], List.Pairwise.nil⟩

instance : Inhabited Attributes := ⟨empty⟩

/-- The attributes with a name added. -/
def insert (attributes : Attributes) (name : String) : Attributes :=
  ⟨insertName name attributes.names, pairwise_insertName attributes.sorted⟩

end Attributes

variable [Regex.Engine]

/-! ## Parts of entities -/

/-- One entry of a parameter list: a name and a type, or any number of parameters. The first
describes a variable. Nothing else about a variable can be written in a list, so that the type has
no place for attributes, contents or a scope: that an entry is a plain variable holds by its type.
-/
inductive Parameter where
  | typed (name type : Field)
  | ellipsis
  deriving Repr, DecidableEq, Inhabited

/-- Where an entity may stand below the node that is searched. This is relative to that node, which
is the match of another pattern inside scopes and operators. -/
inductive Qualifier where
  /-- At any depth. -/
  | anywhere
  /-- Directly below. -/
  | fileScope
  /-- Directly below a scope that is reached through scopes with these names. -/
  | chain (scopes : List Field)
  deriving Repr, DecidableEq, Inhabited

/-! ## Entities -/

/-- A function, or a call of one if `isExpression`. Everything that the query does not mention
accepts everything. -/
structure FunctionShape where
  name : Field := .any
  returnType : Field := .any
  parameters : List Parameter := [.ellipsis]
  /-- Without a list, templates of any arity and plain functions fit alike. -/
  templateParameters : Option (List Parameter) := none
  attributes : Attributes := .empty
  isExpression : Bool := false
  deriving Repr, DecidableEq, Inhabited

/-- A variable, a reference to one if `isExpression`, or a function parameter if `isParameter`. What
the query does not mention accepts everything. -/
structure VariableShape where
  name : Field := .any
  type : Field := .any
  attributes : Attributes := .empty
  isExpression : Bool := false
  isParameter : Bool := false
  deriving Repr, DecidableEq, Inhabited

/-- A class or structure, or a template of one. -/
structure ClassShape where
  name : Field := .any
  templateParameters : Option (List Parameter) := none
  deriving Repr, DecidableEq, Inhabited

/-- What a single entity must be. Each form asks for certain kinds of nodes, apart from the last. -/
inductive Entity where
  | func (shape : FunctionShape)
  | var (shape : VariableShape)
  | record (shape : ClassShape)
  /-- Anything whose spelling the field accepts. -/
  | text (field : Field)
  deriving Repr, DecidableEq, Inhabited

/-! ## Patterns -/

/-- The operators between two patterns. Inside means at any depth below. All but `or` and `parent`
list nodes that fit the left side. -/
inductive Operator where
  /-- Both patterns fit the same node. -/
  | and
  /-- One of the patterns fits. -/
  | or
  /-- The left fits and has a fit of the right inside. -/
  | child
  /-- The right fits inside a fit of the left. -/
  | parent
  /-- The left fits and has no fit of the right inside. -/
  | notChild
  /-- The left fits and lies in no fit of the right. -/
  | notParent
  /-- The left fits and has a fit of the right inside. -/
  | constraint
  deriving Repr, DecidableEq, Inhabited

/-- The operator as a query writes it. -/
def Operator.symbol : Operator → String
  | and => "&"
  | or => "|"
  | child => ">"
  | parent => "<"
  | notChild => "!>"
  | notParent => "!<"
  | constraint => "~"

/-- A pattern: a tree of operators with entities at its leaves, which may hold further patterns as
their contents. -/
inductive Pattern where
  /-- An entity, where it may stand and what must be found inside it. -/
  | entity (entity : Entity) (qualifier : Qualifier) (contents : List Pattern)
  /-- Two patterns joined by an operator. -/
  | combine (operator : Operator) (left right : Pattern)
  deriving Repr, Inhabited

namespace Pattern

/-- Whether a pattern is a single entity. -/
def isEntity : Pattern → Bool
  | entity .. => true
  | combine .. => false

/-- `left` with `right` required inside it: an entity gains a content, anything else is joined to
it by the constraint operator. -/
def constrain (left right : Pattern) : Pattern :=
  match left with
  | entity e qualifier contents => entity e qualifier (contents ++ [right])
  | combine .. => combine .constraint left right

mutual

/-- Whether two patterns are the same. -/
def same : Pattern → Pattern → Bool
  | entity e q cs, entity e' q' cs' => decide (e = e') && decide (q = q') && sameAll cs cs'
  | combine o l r, combine o' l' r' => decide (o = o') && same l l' && same r r'
  | entity .., combine .. => false
  | combine .., entity .. => false

/-- Whether two lists hold the same patterns in the same order. -/
def sameAll : List Pattern → List Pattern → Bool
  | [], [] => true
  | p :: ps, q :: qs => same p q && sameAll ps qs
  | [], _ :: _ => false
  | _ :: _, [] => false

end

mutual

theorem same_iff (p q : Pattern) : same p q = true ↔ p = q := by
  cases p with
  | entity e k cs =>
    cases q with
    | entity e' k' cs' => simp [same, sameAll_iff cs cs', and_assoc]
    | combine => simp [same]
  | combine o l r =>
    cases q with
    | entity => simp [same]
    | combine o' l' r' => simp [same, same_iff l l', same_iff r r', and_assoc]

theorem sameAll_iff (ps qs : List Pattern) : sameAll ps qs = true ↔ ps = qs := by
  cases ps with
  | nil => cases qs <;> simp [sameAll]
  | cons p ps =>
    cases qs with
    | nil => simp [sameAll]
    | cons q qs => simp [sameAll, same_iff p q, sameAll_iff ps qs]

end

instance : DecidableEq Pattern := fun p q => decidable_of_iff (same p q = true) (same_iff p q)

end Pattern

end StructSearch.Query

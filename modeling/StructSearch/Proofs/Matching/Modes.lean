import Mathlib.Data.List.Flatten
import Mathlib.Tactic
import StructSearch.Proofs.Matching.Agreement
import StructSearch.Proofs.Query.Invariant

/-!
# Wider modes find more

A mode enters a search at every entity, at any depth of operands and contents. Allowing more kinds
of nodes adds matches, and asking for definitions only takes some away, though it also asks for
declarations. Either way the matches under the narrower mode are, in their order, among those under
the wider one, as long as no operator asks for the absence of a match.

Results:
* `Mode.narrower_of_contains`, `Mode.narrower_union_definitions`: two ways to narrow a mode.
* `entityFits_of_narrower`: what an entity admits under the narrower mode.
* `includes_of_narrower`: what a pattern finds under the narrower mode, one lemma for each way to
  build a pattern.
* `resolve_sublist_of_mode`: the lists of matches.
-/

namespace StructSearch

/-! ## Narrower modes -/

namespace Mode

/-- Every node that the first mode allows is allowed by the second. -/
structure Narrower (m n : Mode) : Prop where
  declarations : m.includesDeclarations = true → n.includesDeclarations = true
  expressions : m.includesExpressions = true → n.includesExpressions = true
  definitions : n.definitionsOnly = true → m.definitionsOnly = true

/-- Fewer kinds of nodes are narrower. -/
theorem narrower_of_contains {m n : Mode} (hsame : m.definitions = n.definitions)
    (hflags : n.contains m = true) : m.Narrower n := by
  simp only [contains, Bool.and_eq_true, Bool.or_eq_true, Bool.not_eq_true'] at hflags
  obtain ⟨⟨hdeclarations, hexpressions⟩, -⟩ := hflags
  constructor
  · simp only [includesDeclarations, Bool.or_eq_true, hsame]
    rintro (hm | hm)
    · exact Or.inl (hdeclarations.resolve_right (by simp [hm]))
    · exact Or.inr hm
  · exact fun hm => hexpressions.resolve_right (by simpa [includesExpressions] using hm)
  · exact fun hn => hsame.trans hn

/-- Of declarations, definitions are narrower. -/
theorem narrower_union_definitions {m : Mode}
    (hdeclarations : m.contains { declarations := true } = true) :
    (m.union { definitions := true }).Narrower m := by
  have hm : m.declarations = true := by simpa [contains] using hdeclarations
  constructor
  · simp [includesDeclarations, hm]
  · simp [includesExpressions, union]
  · simp [definitionsOnly, union]

end Mode

namespace Matching

open Query

variable {outline : Outline} {m n : Mode}

/-- A weaker test of a longer list keeps more. -/
theorem filter_sublist_filter {ids more : List NodeId} {p q : NodeId → Bool}
    (h : ids.Sublist more) (hpq : ∀ id, p id = true → q id = true) :
    (ids.filter p).Sublist (more.filter q) :=
  (List.monotone_filter_right ids hpq).trans (h.filter q)

/-! ## Entities -/

theorem kindAllowed_of_narrower (h : m.Narrower n) {isDeclaration isExpression asks : Bool} :
    kindAllowed isDeclaration isExpression asks m = true →
      kindAllowed isDeclaration isExpression asks n = true := by
  simp only [kindAllowed, Bool.or_eq_true, Bool.and_eq_true]
  exact Or.imp (And.imp_right h.declarations) (And.imp_right h.expressions)

section AnyEngine

variable [Regex.Engine]

theorem functionFits_of_narrower (h : m.Narrower n) {shape : FunctionShape} {id : NodeId}
    {info : NodeInfo} :
    functionFits outline m shape id info = true → functionFits outline n shape id info = true := by
  simp only [functionFits, Bool.and_eq_true, and_assoc]
  exact And.imp_left (kindAllowed_of_narrower h)

theorem variableFits_of_narrower (h : m.Narrower n) {shape : VariableShape} {info : NodeInfo} :
    variableFits m shape info = true → variableFits n shape info = true := by
  have hallowed : variableAllowed m shape info.kind = true →
      variableAllowed n shape info.kind = true := by
    unfold variableAllowed
    split_ifs
    · simp only [Bool.and_eq_true]
      exact And.imp_right h.declarations
    · exact kindAllowed_of_narrower h
  simp only [variableFits, Bool.and_eq_true, and_assoc]
  exact And.imp_left hallowed

theorem classFits_of_narrower (h : m.Narrower n) {shape : ClassShape} {id : NodeId}
    {info : NodeInfo} :
    classFits outline m shape id info = true → classFits outline n shape id info = true := by
  simp only [classFits, Bool.and_eq_true, and_assoc]
  exact And.imp_right (And.imp_left h.declarations)

theorem entityFits_of_narrower (h : m.Narrower n) {entity : Entity} {id : NodeId}
    (hfits : entityFits outline m entity id = true) : entityFits outline n entity id = true := by
  unfold entityFits at hfits ⊢
  cases hinfo : outline.info? id with
  | none => simp [hinfo] at hfits
  | some info =>
    simp only [hinfo, Bool.and_eq_true, Bool.or_eq_true, Bool.not_eq_true'] at hfits ⊢
    refine hfits.imp ?_ (Or.imp_left fun hm => ?_)
    · cases entity with
      | func shape => exact functionFits_of_narrower h
      | var shape => exact variableFits_of_narrower h
      | record shape => exact classFits_of_narrower h
      | text field => exact fun hfield => hfield
    · exact Bool.eq_false_iff.2 fun hn => Bool.eq_false_iff.1 hm (h.definitions hn)

/-! ## Patterns -/

/-- Whether a pattern asks for the absence of a match. -/
def excludes : Pattern → Bool
  | .combine .notChild _ _ | .combine .notParent _ _ => true
  | _ => false

theorem containsAll_iff {mode : Mode} {contents : List Pattern} {id : NodeId} :
    containsAll outline mode contents id = true ↔
      ∀ content ∈ contents, (finds outline mode content id fun _ => true) = true := by
  induction contents with
  | nil => simp [containsAll]
  | cons content contents ih => simp [containsAll, ih]

/-- What a pattern finds under the first mode it finds under the second, in the same order. -/
structure Includes (outline : Outline) (m n : Mode) (pattern : Pattern) : Prop where
  sublist : ∀ scope, (resolve outline m pattern scope).Sublist (resolve outline n pattern scope)
  satisfies : ∀ {id scope}, satisfies outline m pattern id scope = true →
    satisfies outline n pattern id scope = true

theorem Includes.finds {pattern : Pattern} (h : Includes outline m n pattern) {scope : NodeId} :
    (finds outline m pattern scope fun _ => true) = true →
      (finds outline n pattern scope fun _ => true) = true := by
  rw [finds_eq_any, finds_eq_any, List.any_eq_true, List.any_eq_true]
  rintro ⟨id, hid, -⟩
  exact ⟨id, (h.sublist scope).subset hid, rfl⟩

theorem includes_entity (h : m.Narrower n) {entity : Entity} {qualifier : Qualifier}
    {contents : List Pattern} (hcontents : ∀ content ∈ contents, Includes outline m n content) :
    Includes outline m n (.entity entity qualifier contents) := by
  have hfits : ∀ id, (entityFits outline m entity id && containsAll outline m contents id) = true →
      (entityFits outline n entity id && containsAll outline n contents id) = true := by
    intro id
    simp only [Bool.and_eq_true, containsAll_iff]
    rintro ⟨hentity, hfound⟩
    exact ⟨entityFits_of_narrower h hentity,
      fun content hcontent => (hcontents content hcontent).finds (hfound content hcontent)⟩
  constructor
  · intro scope
    rw [resolve, resolve]
    exact filter_sublist_filter (List.Sublist.refl _) hfits
  · intro id scope hsat
    rw [satisfies, Bool.and_eq_true] at hsat ⊢
    exact hsat.imp_right (hfits id)

section Combine

variable {left right : Pattern} (hleft : Includes outline m n left)
  (hright : Includes outline m n right)
include hleft hright

theorem includes_or : Includes outline m n (.combine .or left right) := by
  constructor
  · intro scope
    rw [resolve, resolve]
    exact (hleft.sublist scope).append (hright.sublist scope)
  · intro id scope
    rw [satisfies, satisfies, Bool.or_eq_true, Bool.or_eq_true]
    exact Or.imp hleft.satisfies hright.satisfies

theorem includes_and : Includes outline m n (.combine .and left right) := by
  constructor
  · intro scope
    rw [resolve, resolve]
    exact filter_sublist_filter (hleft.sublist scope) fun _ => hright.satisfies
  · intro id scope
    rw [satisfies, satisfies, Bool.and_eq_true, Bool.and_eq_true]
    exact And.imp hleft.satisfies hright.satisfies

/-- The two operators that ask for a match inside are the same to a search. -/
theorem includes_inside {operator : Operator} (hop : operator = .child ∨ operator = .constraint) :
    Includes outline m n (.combine operator left right) := by
  obtain rfl | rfl := hop <;>
  · constructor
    · intro scope
      rw [resolve, resolve]
      exact filter_sublist_filter (hleft.sublist scope) fun _ => hright.finds
    · intro id scope
      rw [satisfies, satisfies, Bool.and_eq_true, Bool.and_eq_true]
      exact And.imp hleft.satisfies hright.finds

theorem includes_parent : Includes outline m n (.combine .parent left right) := by
  constructor
  · intro scope
    rw [resolve, resolve]
    exact ((hleft.sublist scope).flatMap _).trans
      (List.Sublist.flatMap_right _ fun above _ => hright.sublist above)
  · intro id scope
    rw [satisfies, satisfies, List.any_eq_true, List.any_eq_true]
    rintro ⟨above, habove, hboth⟩
    rw [Bool.and_eq_true] at hboth
    refine ⟨above, habove, ?_⟩
    rw [Bool.and_eq_true]
    exact hboth.imp hleft.satisfies hright.satisfies

end Combine

/-- A pattern that nowhere asks for the absence of a match finds under a wider mode what it finds
under a narrower one. -/
theorem includes_of_narrower (h : m.Narrower n) (pattern : Pattern)
    (hpattern : pattern.Everywhere fun part => excludes part = false) :
    Includes outline m n pattern := by
  induction pattern using Pattern.part_induction with
  | entity entity qualifier contents ih =>
    obtain ⟨-, hcontents⟩ := Pattern.everywhere_entity_iff.1 hpattern
    exact includes_entity h fun content hcontent => ih content hcontent (hcontents content hcontent)
  | combine operator left right ihl ihr =>
    obtain ⟨hoperator, hleft, hright⟩ := Pattern.everywhere_combine_iff.1 hpattern
    cases operator with
    | or => exact includes_or (ihl hleft) (ihr hright)
    | and => exact includes_and (ihl hleft) (ihr hright)
    | child => exact includes_inside (ihl hleft) (ihr hright) (.inl rfl)
    | constraint => exact includes_inside (ihl hleft) (ihr hright) (.inr rfl)
    | parent => exact includes_parent (ihl hleft) (ihr hright)
    | notChild | notParent => cases hoperator

/-- A pattern without `!>` and `!<`, in operands and contents alike, lists all its matches again, in
the same order, under a mode with more flags if both modes or none of them asks for definitions
only, and also after a mode that allows declarations stops asking for definitions only. -/
theorem resolve_sublist_of_mode (outline : Outline) (pattern : Pattern)
    (hpattern : pattern.Everywhere fun part => excludes part = false) (scope : NodeId) :
    (∀ m n : Mode, m.definitions = n.definitions → n.contains m = true →
        (resolve outline m pattern scope).Sublist (resolve outline n pattern scope)) ∧
      ∀ m : Mode, m.contains { declarations := true } = true →
        (resolve outline (m.union { definitions := true }) pattern scope).Sublist
          (resolve outline m pattern scope) := by
  constructor
  · intro m n hsame hflags
    exact (includes_of_narrower (Mode.narrower_of_contains hsame hflags) pattern hpattern).sublist
      scope
  · intro m hdeclarations
    exact (includes_of_narrower (Mode.narrower_union_definitions hdeclarations) pattern
      hpattern).sublist scope

end AnyEngine

/-- A function that is only declared, and in it the definition of a function with a variable and a
reference. -/
def definedInDeclared : Outline :=
  let node (kind : Kind) (isDefinition : Bool) : NodeInfo :=
    { kind, isDefinition, extent := ⟨⟨1, 1⟩, ⟨1, 9⟩⟩, range := ⟨0, 0⟩ }
  ((((Outline.single (node .fileUnit true)).add 0 (node .functionDecl false) .member).add 1
    (node .functionDecl true) .member).add 2 (node .varDecl true) .member).add 2
    (node .declRef false) .member

/-- Variables inside functions that have a variable inside: each flag that is taken away takes its
matches away, and no others. -/
theorem resolve_sublist_of_definedInDeclared :
    let anyVariable : Pattern := .entity (.var {}) .anywhere []
    let inFunction : Pattern :=
      .combine .parent (.entity (.func {}) .anywhere [anyVariable]) anyVariable
    (∀ part ∈ inFunction.subpatterns, excludes part = false) ∧
      resolve definedInDeclared .standard inFunction Outline.root = [3, 4, 3, 4] ∧
      resolve definedInDeclared { declarations := true } inFunction Outline.root = [3, 3] ∧
      [3, 3].Sublist [3, 4, 3, 4] ∧
      resolve definedInDeclared (Mode.standard.union { definitions := true }) inFunction
        Outline.root = [3] ∧
      [3].Sublist [3, 4, 3, 4] := by
  intro anyVariable inFunction
  have hparts : inFunction.Everywhere fun part => excludes part = false := by
    rw [Pattern.Everywhere]
    decide
  have hall : resolve definedInDeclared .standard inFunction Outline.root = [3, 4, 3, 4] := by
    decide
  have hfew : resolve definedInDeclared { declarations := true } inFunction Outline.root =
      [3, 3] := by decide
  have hdefined : resolve definedInDeclared (Mode.standard.union { definitions := true }) inFunction
      Outline.root = [3] := by decide
  obtain ⟨hflags, hdefinitions⟩ :=
    resolve_sublist_of_mode definedInDeclared inFunction hparts Outline.root
  refine ⟨hparts, hall, hfew, ?_, hdefined, ?_⟩
  · simpa only [hall, hfew] using hflags { declarations := true } .standard rfl rfl
  · simpa only [hall, hdefined] using hdefinitions .standard rfl

end Matching

end StructSearch

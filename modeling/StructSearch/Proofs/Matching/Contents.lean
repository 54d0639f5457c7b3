import StructSearch.Proofs.Matching.Agreement

/-!
# Required contents

A query can ask in two ways that a match has a match of another pattern inside. The content of an
entity is asked for together with its kind and its names; the operators `>` and `~` ask for it
afterwards, of every match of their left side. Reading `L { R }` takes the first way where `L` is a
single entity and the second where it is not. Both keep the same matches in the same order, because
asking for a content is a filter, and one filter after another is a filter by both.

Results:
* `resolve_foldl_constrain`, `satisfies_foldl_constrain`: what a list of required contents keeps.
* `foldl_constrain_alike`: the order of required contents does not matter.
* `opened_alike`: contents may be written as operators, at every depth of a pattern.
* `constrain_means_child`: the ways of asking for contents mean the same.
-/

namespace StructSearch.Matching

open Query Outline

section AnyEngine

variable [Regex.Engine]

/-- Two patterns mean the same: below every scope of every outline they list the same nodes in the
same order, and the same nodes satisfy them. -/
def Alike (p q : Pattern) : Prop :=
  ∀ (outline : Outline) (mode : Mode) (scope : NodeId),
    resolve outline mode p scope = resolve outline mode q scope ∧
      ∀ id, satisfies outline mode p id scope = satisfies outline mode q id scope

/-- Whether a node has a match of a pattern below it. -/
abbrev holds (outline : Outline) (mode : Mode) (id : NodeId) (inner : Pattern) : Bool :=
  finds outline mode inner id fun _ => true

/-! ## Contents as filters -/

section

variable (outline : Outline) (mode : Mode)

theorem containsAll_eq_all (contents : List Pattern) (id : NodeId) :
    containsAll outline mode contents id = contents.all (holds outline mode id) := by
  induction contents with
  | nil => rfl
  | cons content contents ih => rw [containsAll, ih, List.all_cons]

/-- Requiring a content keeps the matches that have it. -/
theorem resolve_constrain (left right : Pattern) (scope : NodeId) :
    resolve outline mode (left.constrain right) scope =
      (resolve outline mode left scope).filter fun id => holds outline mode id right := by
  cases left with
  | combine operator l r => rfl
  | entity entity qualifier contents =>
    rw [Pattern.constrain, resolve, resolve, List.filter_filter]
    apply List.filter_congr
    intro id _
    rw [containsAll_eq_all, containsAll_eq_all, List.all_append, List.all_cons, List.all_nil,
      Bool.and_true, ← Bool.and_assoc, Bool.and_comm]

theorem satisfies_constrain (left right : Pattern) (id scope : NodeId) :
    satisfies outline mode (left.constrain right) id scope =
      (satisfies outline mode left id scope && holds outline mode id right) := by
  cases left with
  | combine operator l r => rfl
  | entity entity qualifier contents =>
    rw [Pattern.constrain, satisfies, satisfies, containsAll_eq_all, containsAll_eq_all,
      List.all_append, List.all_cons, List.all_nil, Bool.and_true, ← Bool.and_assoc,
      ← Bool.and_assoc, ← Bool.and_assoc]

/-- A list of required contents keeps the matches that have all of them. -/
theorem resolve_foldl_constrain (left : Pattern) (scopes : List Pattern) (scope : NodeId) :
    resolve outline mode (scopes.foldl Pattern.constrain left) scope =
      (resolve outline mode left scope).filter fun id => scopes.all (holds outline mode id) := by
  induction scopes generalizing left with
  | nil => exact (List.filter_true _).symm
  | cons inner scopes ih =>
    rw [List.foldl_cons, ih, resolve_constrain, List.filter_filter]
    apply List.filter_congr
    intro id _
    rw [List.all_cons, Bool.and_comm]

theorem satisfies_foldl_constrain (left : Pattern) (scopes : List Pattern) (id scope : NodeId) :
    satisfies outline mode (scopes.foldl Pattern.constrain left) id scope =
      (satisfies outline mode left id scope && scopes.all (holds outline mode id)) := by
  induction scopes generalizing left with
  | nil => exact (Bool.and_true _).symm
  | cons inner scopes ih =>
    rw [List.foldl_cons, ih, satisfies_constrain, List.all_cons, Bool.and_assoc]

end

/-! ## Patterns that mean the same -/

/-- Whether `{ R }` becomes a content or an operator, it means what `>` means. -/
theorem constrain_alike (left right : Pattern) :
    Alike (left.constrain right) (.combine .child left right) := by
  intro outline mode scope
  constructor
  · rw [resolve_constrain, resolve]
  · intro id
    rw [satisfies_constrain, satisfies]

/-- The order of required contents does not matter. -/
theorem foldl_constrain_alike (left : Pattern) {scopes others : List Pattern}
    (h : scopes.Perm others) :
    Alike (scopes.foldl Pattern.constrain left) (others.foldl Pattern.constrain left) := by
  intro outline mode scope
  have hsame : ∀ id, scopes.all (holds outline mode id) = others.all (holds outline mode id) :=
    fun id => h.all_eq
  constructor
  · rw [resolve_foldl_constrain, resolve_foldl_constrain]
    exact List.filter_congr fun id _ => hsame id
  · intro id
    rw [satisfies_foldl_constrain, satisfies_foldl_constrain, hsame]

namespace Alike

theorem refl (p : Pattern) : Alike p p := fun _ _ _ => ⟨rfl, fun _ => rfl⟩

theorem symm {p q : Pattern} (h : Alike p q) : Alike q p := fun outline mode scope =>
  ⟨(h outline mode scope).1.symm, fun id => ((h outline mode scope).2 id).symm⟩

theorem trans {p q r : Pattern} (hpq : Alike p q) (hqr : Alike q r) : Alike p r :=
  fun outline mode scope => ⟨(hpq outline mode scope).1.trans (hqr outline mode scope).1,
    fun id => ((hpq outline mode scope).2 id).trans ((hqr outline mode scope).2 id)⟩

theorem finds {p q : Pattern} (h : Alike p q) (outline : Outline) (mode : Mode) (scope : NodeId)
    (test : NodeId → Bool) :
    Matching.finds outline mode p scope test = Matching.finds outline mode q scope test := by
  rw [finds_eq_any, finds_eq_any, (h outline mode scope).1]

/-- Operands may be replaced by patterns that mean the same. -/
theorem combine {left left' right right' : Pattern} (hl : Alike left left')
    (hr : Alike right right') (operator : Operator) :
    Alike (.combine operator left right) (.combine operator left' right') := by
  intro outline mode scope
  have hresolve : ∀ scope, resolve outline mode right scope = resolve outline mode right' scope :=
    fun scope => (hr outline mode scope).1
  have hsatisfies : ∀ id scope,
      satisfies outline mode right id scope = satisfies outline mode right' id scope :=
    fun id scope => (hr outline mode scope).2 id
  have hleft := fun id scope => (hl outline mode scope).2 id
  cases operator <;> constructor <;>
    simp only [resolve, satisfies, (hl outline mode scope).1, hleft, hresolve, hsatisfies,
      hr.finds outline mode, implies_true]

end Alike

/-! ## Contents at every depth -/

mutual

/-- The pattern with every content, and every constraint, written by the operator `>`. -/
def opened : Pattern → Pattern
  | .entity entity qualifier contents => openedOnto (.entity entity qualifier []) contents
  | .combine .constraint left right => .combine .child (opened left) (opened right)
  | .combine operator left right => .combine operator (opened left) (opened right)

/-- `left > R` for each `R` of a list, one after the other. -/
def openedOnto (left : Pattern) : List Pattern → Pattern
  | [] => left
  | content :: contents => openedOnto (.combine .child left (opened content)) contents

end

/-- A list of contents is the same as an operator for each. -/
theorem openedOnto_alike {contents : List Pattern}
    (h : ∀ content ∈ contents, Alike (opened content) content) :
    ∀ {left left' : Pattern}, Alike left left' →
      Alike (openedOnto left contents) (contents.foldl Pattern.constrain left') := by
  induction contents with
  | nil =>
    intro left left' hleft
    exact hleft
  | cons content contents ih =>
    intro left left' hleft
    have hcontent := h content List.mem_cons_self
    rw [openedOnto, List.foldl_cons]
    apply ih (fun other hother => h other (List.mem_cons_of_mem _ hother))
    exact (hleft.combine hcontent .child).trans (constrain_alike left' content).symm

theorem foldl_constrain_entity (entity : Entity) (qualifier : Qualifier)
    (contents added : List Pattern) :
    added.foldl Pattern.constrain (.entity entity qualifier contents) =
      .entity entity qualifier (contents ++ added) := by
  induction added generalizing contents with
  | nil => rw [List.foldl_nil, List.append_nil]
  | cons content added ih =>
    rw [List.foldl_cons, Pattern.constrain, ih, List.append_assoc, List.singleton_append]

/-- Writing contents as operators, at every depth, does not change what a pattern means. -/
theorem opened_alike (pattern : Pattern) : Alike (opened pattern) pattern := by
  induction pattern using Pattern.part_induction with
  | entity entity qualifier contents ih =>
    have hopened := openedOnto_alike ih (Alike.refl (.entity entity qualifier []))
    rw [foldl_constrain_entity, List.nil_append] at hopened
    rw [opened]
    exact hopened
  | combine operator left right ihl ihr =>
    cases operator with
    | constraint =>
      have hchild : Alike (.combine .child left right) (.combine .constraint left right) :=
        fun outline mode scope => ⟨by rw [resolve, resolve], fun id => by rw [satisfies, satisfies]⟩
      rw [opened]
      exact (ihl.combine ihr .child).trans hchild
    | and | or | child | parent | notChild | notParent =>
      rw [opened]
      · exact ihl.combine ihr _
      · intro h
        cases h

/-- `L { R }` lists the same nodes in the same order as `L > R`, and the same nodes satisfy it,
whether `R` becomes a content of an entity or the right side of an operator. So required contents
may be given in any order, and wherever a pattern stands inside another one its contents may be
written as operators. -/
theorem constrain_means_child (outline : Outline) (mode : Mode) (left right : Pattern)
    (scope : NodeId) :
    resolve outline mode (left.constrain right) scope =
        resolve outline mode (.combine .child left right) scope ∧
      (∀ id, satisfies outline mode (left.constrain right) id scope =
        satisfies outline mode (.combine .child left right) id scope) ∧
      (∀ scopes others : List Pattern, scopes.Perm others →
        Alike (scopes.foldl Pattern.constrain left) (others.foldl Pattern.constrain left)) ∧
      ∀ pattern, Alike (opened pattern) pattern := by
  obtain ⟨hresolve, hsatisfies⟩ := constrain_alike left right outline mode scope
  exact ⟨hresolve, hsatisfies, fun scopes others h => foldl_constrain_alike left h, opened_alike⟩

end AnyEngine

/-- Of two functions, one in the other, only the outer one has both a variable and a function
inside, in whichever order the two are asked for. -/
theorem constrain_means_child_nestedFunctions :
    let aFunction : Pattern := .entity (.func {}) .anywhere []
    let aVariable : Pattern := .entity (.var {}) .anywhere []
    [aVariable, aFunction].Perm [aFunction, aVariable] ∧
      resolve nestedFunctions .standard ([aVariable, aFunction].foldl Pattern.constrain aFunction)
        root = [1] ∧
      resolve nestedFunctions .standard ([aFunction, aVariable].foldl Pattern.constrain aFunction)
        root = [1] := by
  intro aFunction aVariable
  have hperm : [aVariable, aFunction].Perm [aFunction, aVariable] := .swap _ _ _
  have hlist : resolve nestedFunctions .standard
      ([aVariable, aFunction].foldl Pattern.constrain aFunction) root = [1] := by decide
  obtain ⟨-, -, hreorder, -⟩ :=
    constrain_means_child nestedFunctions .standard aFunction aVariable root
  refine ⟨hperm, hlist, ?_⟩
  rw [← (hreorder _ _ hperm nestedFunctions .standard root).1, hlist]

end StructSearch.Matching

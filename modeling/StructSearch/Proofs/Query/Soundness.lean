import Mathlib.Tactic
import StructSearch.Proofs.Query.TermSoundness

/-!
# What is read is derived

Whenever the reader of a level succeeds, the tokens that it took are the yield of a derivation of
that level, and what it returns is what the derivation stands for. The readers count their steps
down and are treated by induction on the steps; a reader of a tail extends every derivation of what
was read before it.

Results:
* `readsDerived`: whatever the number of steps, each reader reads what is derived.
* `ofTokens_sound`: a pattern is the pattern of a derivation of all tokens.
-/

namespace StructSearch.Query.Grammar

/-! ## Operators -/

theorem operator?_sound {tokens rest : List Token} {operator : Operator}
    (h : operator? tokens = .ok (some (operator, rest))) :
    ∃ loose : LooseOperator, terminals tokens = loose.yield ++ terminals rest ∧
      loose.operator = operator := by
  cases tokens with
  | nil => simp [operator?] at h
  | cons token tail =>
    rw [terminals_cons]
    simp only [operator?] at h
    split at h
    · next hkind =>
      simp only [Except.ok.injEq, Option.some.injEq, Prod.mk.injEq] at h
      obtain ⟨rfl, rfl⟩ := h
      exact ⟨.or, by rw [terminal_of_kind hkind (by decide)]; rfl, rfl⟩
    · next hkind =>
      simp only [Except.ok.injEq, Option.some.injEq, Prod.mk.injEq] at h
      obtain ⟨rfl, rfl⟩ := h
      exact ⟨.child, by rw [terminal_of_kind hkind (by decide)]; rfl, rfl⟩
    · next hkind =>
      simp only [Except.ok.injEq, Option.some.injEq, Prod.mk.injEq] at h
      obtain ⟨rfl, rfl⟩ := h
      exact ⟨.parent, by rw [terminal_of_kind hkind (by decide)]; rfl, rfl⟩
    · next hkind =>
      rw [terminal_of_kind hkind (by decide)]
      split_ifs at h with hright hleft
      · obtain ⟨angle, htail, hangle⟩ := startsWith_eq_true hright
        simp only [Except.ok.injEq, Option.some.injEq, Prod.mk.injEq] at h
        obtain ⟨rfl, rfl⟩ := h
        refine ⟨.notChild, ?_, rfl⟩
        rw [htail, terminals_cons, terminal_of_kind hangle (by decide)]
        rfl
      · obtain ⟨angle, htail, hangle⟩ := startsWith_eq_true hleft
        simp only [Except.ok.injEq, Option.some.injEq, Prod.mk.injEq] at h
        obtain ⟨rfl, rfl⟩ := h
        refine ⟨.notParent, ?_, rfl⟩
        rw [htail, terminals_cons, terminal_of_kind hangle (by decide)]
        rfl
    · simp at h

/-! ## Expressions -/

variable [Regex.Engine]

/-- The derivation writes what stands in front of `rest`, and stands for the pattern. -/
def Derivation.Reads {level : Level} (derivation : Derivation level) (tokens : List Token)
    (pattern : Pattern) (rest : List Token) : Prop :=
  terminals tokens = derivation.yield ++ terminals rest ∧ derivation.pattern? = some pattern

/-- The derivation of what was read so far can be extended by what stands in front of `rest`. -/
def Derivation.Extends {level : Level} (left : Derivation level) (tokens : List Token)
    (pattern : Pattern) (rest : List Token) : Prop :=
  ∃ derivation : Derivation level,
    left.yield ++ terminals tokens = derivation.yield ++ terminals rest ∧
      derivation.pattern? = some pattern

/-- With so many steps, what is read is derived. -/
structure ReadsDerived (steps : ℕ) : Prop where
  expression : ∀ {tokens pattern rest}, expression steps tokens = .ok (pattern, rest) →
    ∃ derivation : Derivation .expression, derivation.Reads tokens pattern rest
  expressionTail : ∀ (left : Derivation .expression) {first pattern tokens rest},
    left.pattern? = some first → expressionTail steps first tokens = .ok (pattern, rest) →
    left.Extends tokens pattern rest
  conjunction : ∀ {tokens pattern rest}, conjunction steps tokens = .ok (pattern, rest) →
    ∃ derivation : Derivation .conjunction, derivation.Reads tokens pattern rest
  conjunctionTail : ∀ (left : Derivation .conjunction) {first pattern tokens rest},
    left.pattern? = some first → conjunctionTail steps first tokens = .ok (pattern, rest) →
    left.Extends tokens pattern rest
  operand : ∀ {tokens pattern rest}, operand steps tokens = .ok (pattern, rest) →
    ∃ derivation : Derivation .operand, derivation.Reads tokens pattern rest
  operandTail : ∀ (left : Derivation .operand) {first pattern tokens rest},
    left.pattern? = some first → operandTail steps first tokens = .ok (pattern, rest) →
    left.Extends tokens pattern rest
  primary : ∀ {tokens pattern rest}, primary steps tokens = .ok (pattern, rest) →
    ∃ derivation : Derivation .primary, derivation.Reads tokens pattern rest

theorem Derivation.Extends.refl {level : Level} {left : Derivation level} {pattern : Pattern}
    (h : left.pattern? = some pattern) (tokens : List Token) :
    left.Extends tokens pattern tokens :=
  ⟨left, rfl, h⟩

/-- A longer derivation of what was read so far is as good. -/
theorem Derivation.Extends.of_yield {level : Level} {left middle : Derivation level}
    {tokens between rest : List Token} {pattern : Pattern}
    (hyield : left.yield ++ terminals tokens = middle.yield ++ terminals between)
    (h : middle.Extends between pattern rest) : left.Extends tokens pattern rest := by
  obtain ⟨derivation, hderivation, hpattern⟩ := h
  exact ⟨derivation, hyield.trans hderivation, hpattern⟩

/-- A first part and what extends it make up the whole. -/
theorem Derivation.Extends.reads {level : Level} {left : Derivation level}
    {tokens between rest : List Token} {pattern : Pattern}
    (hyield : terminals tokens = left.yield ++ terminals between)
    (h : left.Extends between pattern rest) :
    ∃ derivation : Derivation level, derivation.Reads tokens pattern rest := by
  obtain ⟨derivation, hderivation, hpattern⟩ := h
  exact ⟨derivation, hyield.trans hderivation, hpattern⟩

namespace ReadsDerived

variable {steps : ℕ} (ih : ReadsDerived steps)
include ih

theorem expression_succ {tokens rest : List Token} {pattern : Pattern}
    (h : Query.expression (steps + 1) tokens = .ok (pattern, rest)) :
    ∃ derivation : Derivation .expression, derivation.Reads tokens pattern rest := by
  simp only [Query.expression, bind_eq_ok_iff, Prod.exists] at h
  obtain ⟨_, _, hfirst, htail⟩ := h
  obtain ⟨first, hyield, hpattern⟩ := ih.conjunction hfirst
  exact (ih.expressionTail (.ofConjunction first) hpattern htail).reads hyield

theorem expressionTail_succ (left : Derivation .expression) {first pattern : Pattern}
    {tokens rest : List Token} (hleft : left.pattern? = some first)
    (h : Query.expressionTail (steps + 1) first tokens = .ok (pattern, rest)) :
    left.Extends tokens pattern rest := by
  obtain ⟨operator, hoperator, h⟩ := bind_eq_ok_iff.1 h
  rw [lift_eq_ok] at hoperator
  cases operator with
  | none =>
    simp only [Except.ok.injEq, Prod.mk.injEq] at h
    obtain ⟨rfl, rfl⟩ := h
    exact .refl hleft _
  | some found =>
    obtain ⟨operator, after⟩ := found
    simp only [bind_eq_ok_iff, Prod.exists] at h
    obtain ⟨_, _, hright, htail⟩ := h
    obtain ⟨loose, hyield, rfl⟩ := operator?_sound hoperator
    obtain ⟨right, hrightYield, hright⟩ := ih.conjunction hright
    refine .of_yield ?_ (ih.expressionTail (.binary left loose right) ?_ htail)
    · rw [hyield, hrightYield]
      simp [Derivation.yield]
    · simp [Derivation.pattern?, hleft, hright]

theorem conjunction_succ {tokens rest : List Token} {pattern : Pattern}
    (h : Query.conjunction (steps + 1) tokens = .ok (pattern, rest)) :
    ∃ derivation : Derivation .conjunction, derivation.Reads tokens pattern rest := by
  simp only [Query.conjunction, bind_eq_ok_iff, Prod.exists] at h
  obtain ⟨_, _, hfirst, htail⟩ := h
  obtain ⟨first, hyield, hpattern⟩ := ih.operand hfirst
  exact (ih.conjunctionTail (.ofOperand first) hpattern htail).reads hyield

theorem conjunctionTail_succ (left : Derivation .conjunction) {first pattern : Pattern}
    {tokens rest : List Token} (hleft : left.pattern? = some first)
    (h : Query.conjunctionTail (steps + 1) first tokens = .ok (pattern, rest)) :
    left.Extends tokens pattern rest := by
  simp only [Query.conjunctionTail] at h
  split_ifs at h with hand htilde
  · simp only [bind_eq_ok_iff, Prod.exists] at h
    obtain ⟨_, _, hright, htail⟩ := h
    obtain ⟨token, htokens, hkind⟩ := startsWith_eq_true hand
    obtain ⟨right, hyield, hright⟩ := ih.operand hright
    refine .of_yield ?_ (ih.conjunctionTail (.both left right) ?_ htail)
    · rw [htokens, terminals_cons, hyield, terminal_of_kind hkind (by decide)]
      simp [Derivation.yield]
    · simp [Derivation.pattern?, hleft, hright]
  · simp only [bind_eq_ok_iff, Prod.exists] at h
    obtain ⟨_, _, hright, htail⟩ := h
    obtain ⟨token, htokens, hkind⟩ := startsWith_eq_true htilde
    obtain ⟨right, hyield, hright⟩ := ih.operand hright
    refine .of_yield ?_ (ih.conjunctionTail (.constraint left right) ?_ htail)
    · rw [htokens, terminals_cons, hyield, terminal_of_kind hkind (by decide)]
      simp [Derivation.yield]
    · simp [Derivation.pattern?, hleft, hright]
  · simp only [Except.ok.injEq, Prod.mk.injEq] at h
    obtain ⟨rfl, rfl⟩ := h
    exact .refl hleft _

theorem operand_succ {tokens rest : List Token} {pattern : Pattern}
    (h : Query.operand (steps + 1) tokens = .ok (pattern, rest)) :
    ∃ derivation : Derivation .operand, derivation.Reads tokens pattern rest := by
  simp only [Query.operand, bind_eq_ok_iff, Prod.exists] at h
  obtain ⟨_, _, hfirst, htail⟩ := h
  obtain ⟨first, hyield, hpattern⟩ := ih.primary hfirst
  exact (ih.operandTail (.ofPrimary first) hpattern htail).reads hyield

theorem operandTail_succ (left : Derivation .operand) {first pattern : Pattern}
    {tokens rest : List Token} (hleft : left.pattern? = some first)
    (h : Query.operandTail (steps + 1) first tokens = .ok (pattern, rest)) :
    left.Extends tokens pattern rest := by
  cases tokens with
  | nil =>
    simp only [Query.operandTail, Except.ok.injEq, Prod.mk.injEq] at h
    obtain ⟨rfl, rfl⟩ := h
    exact .refl hleft _
  | cons token tail =>
    simp only [Query.operandTail] at h
    split at h
    · next hkind =>
      simp only [bind_eq_ok_iff, Prod.exists, lift_eq_ok] at h
      obtain ⟨word, _, hword, named, hnamed, htail⟩ := h
      obtain ⟨rfl, hdata⟩ := expect_sound hword
      obtain ⟨field, hfield, hnamed⟩ := bindName_eq_ok_iff.1 hnamed
      refine .of_yield ?_ (ih.operandTail (.name left word.text) ?_ htail)
      · rw [terminals_cons, terminals_cons, terminal_of_kind hkind (by decide),
          terminal_of_data hdata]
        simp [Derivation.yield]
      · simp [Derivation.pattern?, hleft, hfield, hnamed]
    · next hkind =>
      split at h
      · next word after hbinding =>
        obtain ⟨rfl, htyped, hdata, -⟩ := typeBinding?_eq_some_iff.1 hbinding
        simp only [bind_eq_ok_iff, lift_eq_ok, fieldOf_eq_ok_iff] at h
        obtain ⟨type, htype, htail⟩ := h
        rw [← isSome_bindType? type, Option.isSome_iff_exists] at htyped
        obtain ⟨typed, htyped⟩ := htyped
        rw [htyped, Option.getD_some] at htail
        refine .of_yield ?_ (ih.operandTail (.type left word.text) ?_ htail)
        · rw [terminals_cons, terminals_cons, terminal_of_kind hkind (by decide),
            terminal_of_data hdata]
          simp [Derivation.yield]
        · simp [Derivation.pattern?, hleft, htype, htyped]
      · simp only [Except.ok.injEq, Prod.mk.injEq] at h
        obtain ⟨rfl, rfl⟩ := h
        exact .refl hleft _
    · next hkind =>
      split_ifs at h with hclose
      · obtain ⟨closing, htokens, hclosing⟩ := startsWith_eq_true hclose
        refine .of_yield ?_ (ih.operandTail (.emptyScope left) hleft h)
        rw [terminals_cons, htokens, terminals_cons, terminal_of_kind hkind (by decide),
          terminal_of_kind hclosing (by decide)]
        simp [Derivation.yield]
      · simp only [bind_eq_ok_iff, Prod.exists, lift_eq_ok] at h
        obtain ⟨_, _, hread, closing, _, hexpect, htail⟩ := h
        obtain ⟨inner, hyield, hinner⟩ := ih.expression hread
        obtain ⟨rfl, hclosing⟩ := expect_sound hexpect
        refine .of_yield ?_ (ih.operandTail (.scope left inner) ?_ htail)
        · rw [terminals_cons, hyield, terminals_cons, terminal_of_kind hkind (by decide),
            terminal_of_kind hclosing (by decide)]
          simp [Derivation.yield]
        · simp [Derivation.pattern?, hleft, hinner]
    · simp only [Except.ok.injEq, Prod.mk.injEq] at h
      obtain ⟨rfl, rfl⟩ := h
      exact .refl hleft _

theorem primary_succ {tokens rest : List Token} {pattern : Pattern}
    (h : Query.primary (steps + 1) tokens = .ok (pattern, rest)) :
    ∃ derivation : Derivation .primary, derivation.Reads tokens pattern rest := by
  simp only [Query.primary] at h
  split_ifs at h with hopen
  · simp only [bind_eq_ok_iff, Prod.exists, lift_eq_ok, Except.ok.injEq, Prod.mk.injEq] at h
    obtain ⟨_, _, hread, closing, _, hexpect, rfl, rfl⟩ := h
    obtain ⟨opening, htokens, hkind⟩ := startsWith_eq_true hopen
    obtain ⟨inner, hyield, hinner⟩ := ih.expression hread
    obtain ⟨rfl, hclosing⟩ := expect_sound hexpect
    refine ⟨.group inner, ?_, hinner⟩
    rw [htokens, terminals_cons, hyield, terminals_cons, terminal_of_kind hkind (by decide),
      terminal_of_kind hclosing (by decide)]
    simp [Derivation.yield]
  · rw [lift_eq_ok] at h
    obtain ⟨term, hyield, hterm⟩ := term_sound h
    exact ⟨.ofTerm term, hyield, hterm⟩

end ReadsDerived

/-- What is read is derived, whatever the number of steps. -/
theorem readsDerived (steps : ℕ) : ReadsDerived steps := by
  induction steps with
  | zero =>
    constructor <;> intros <;>
      simp_all [expression, expressionTail, conjunction, conjunctionTail, operand, operandTail,
        primary]
  | succ steps ih =>
    exact {
      expression := ih.expression_succ
      expressionTail := ih.expressionTail_succ
      conjunction := ih.conjunction_succ
      conjunctionTail := ih.conjunctionTail_succ
      operand := ih.operand_succ
      operandTail := ih.operandTail_succ
      primary := ih.primary_succ }

/-- A pattern is the pattern of a derivation of all tokens. -/
theorem ofTokens_sound {tokens : List Token} {pattern : Pattern}
    (h : Pattern.ofTokens tokens = .ok pattern) :
    ∃ derivation : Derivation .expression,
      derivation.yield = terminals tokens ∧ derivation.pattern? = some pattern := by
  unfold Pattern.ofTokens at h
  split at h
  · next found hread =>
    simp only [Except.ok.injEq] at h
    obtain rfl := h
    obtain ⟨derivation, hyield, hpattern⟩ := (readsDerived _).expression hread
    exact ⟨derivation, by simpa using hyield.symm, hpattern⟩
  all_goals simp at h

end StructSearch.Query.Grammar

import Mathlib.Tactic
import StructSearch.Proofs.Query.Soundness

/-!
# Steps of a reading

The readers of nested expressions count their steps down. More steps never change a reading that
did not run out of them, and four steps for each token and four more are always enough: a step
either goes one level down, of which there are four, or a token was taken before it.

Results:
* `stepContinues`: a step more keeps what was read.
* `stepFinishes`: the steps that the levels and the tokens need are enough.
* `expression_ne_exhausted`: the steps that a pattern is read with do not run out.
* `expression_eq_ok`: what is read with any number of steps is read with these.
-/

namespace StructSearch.Query

/-! ## More steps -/

/-- `few` ran out of steps, or `more` is the same. -/
def Continues {α : Type} (few more : Except Stop α) : Prop :=
  few = .error .exhausted ∨ few = more

namespace Continues

variable {α β : Type}

theorem refl (x : Except Stop α) : Continues x x := Or.inr rfl

theorem trans {x y z : Except Stop α} (hxy : Continues x y) (hyz : Continues y z) :
    Continues x z := by
  obtain hx | rfl := hxy
  · exact Or.inl hx
  · exact hyz

theorem bind {x y : Except Stop α} {f g : α → Except Stop β} (hxy : Continues x y)
    (hfg : ∀ a, Continues (f a) (g a)) : Continues (x >>= f) (y >>= g) := by
  obtain rfl | rfl := hxy
  · exact Or.inl rfl
  · cases x with
    | error stop => exact Or.inr rfl
    | ok a => exact hfg a

end Continues

variable [Regex.Engine]

/-- With a step more, every reader continues what it did. -/
structure StepContinues (steps : ℕ) : Prop where
  expression : ∀ tokens, Continues (expression steps tokens) (expression (steps + 1) tokens)
  expressionTail : ∀ left tokens,
    Continues (expressionTail steps left tokens) (expressionTail (steps + 1) left tokens)
  conjunction : ∀ tokens, Continues (conjunction steps tokens) (conjunction (steps + 1) tokens)
  conjunctionTail : ∀ left tokens,
    Continues (conjunctionTail steps left tokens) (conjunctionTail (steps + 1) left tokens)
  operand : ∀ tokens, Continues (operand steps tokens) (operand (steps + 1) tokens)
  operandTail : ∀ left tokens,
    Continues (operandTail steps left tokens) (operandTail (steps + 1) left tokens)
  primary : ∀ tokens, Continues (primary steps tokens) (primary (steps + 1) tokens)

namespace StepContinues

variable {steps : ℕ} (ih : StepContinues steps)
include ih

theorem expressionTail_succ (left : Pattern) (tokens : List Token) :
    Continues (Query.expressionTail (steps + 1) left tokens)
      (Query.expressionTail (steps + 2) left tokens) := by
  rw [Query.expressionTail, Query.expressionTail]
  refine (Continues.refl _).bind ?_
  rintro (_ | ⟨operator, after⟩)
  · exact .refl _
  · exact (ih.conjunction _).bind fun _ => ih.expressionTail _ _

theorem conjunctionTail_succ (left : Pattern) (tokens : List Token) :
    Continues (Query.conjunctionTail (steps + 1) left tokens)
      (Query.conjunctionTail (steps + 2) left tokens) := by
  rw [Query.conjunctionTail, Query.conjunctionTail]
  split_ifs
  · exact (ih.operand _).bind fun _ => ih.conjunctionTail _ _
  · exact (ih.operand _).bind fun _ => ih.conjunctionTail _ _
  · exact .refl _

theorem operandTail_succ (left : Pattern) (tokens : List Token) :
    Continues (Query.operandTail (steps + 1) left tokens)
      (Query.operandTail (steps + 2) left tokens) := by
  cases tokens with
  | nil => exact .refl _
  | cons token tail =>
    rw [Query.operandTail, Query.operandTail]
    split
    · exact (Continues.refl _).bind fun _ => (Continues.refl _).bind fun _ => ih.operandTail _ _
    · split
      · exact (Continues.refl _).bind fun _ => ih.operandTail _ _
      · exact .refl _
    · split_ifs
      · exact ih.operandTail _ _
      · exact (ih.expression _).bind fun _ => (Continues.refl _).bind fun _ => ih.operandTail _ _
    · exact .refl _

theorem primary_succ (tokens : List Token) :
    Continues (Query.primary (steps + 1) tokens) (Query.primary (steps + 2) tokens) := by
  rw [Query.primary, Query.primary]
  split_ifs
  · exact (ih.expression _).bind fun _ => .refl _
  · exact .refl _

end StepContinues

/-- A step more continues every reading. -/
theorem stepContinues (steps : ℕ) : StepContinues steps := by
  induction steps with
  | zero => constructor <;> intros <;> exact Or.inl rfl
  | succ steps ih =>
    exact {
      expression := fun tokens => (ih.conjunction tokens).bind fun _ => ih.expressionTail _ _
      expressionTail := ih.expressionTail_succ
      conjunction := fun tokens => (ih.operand tokens).bind fun _ => ih.conjunctionTail _ _
      conjunctionTail := ih.conjunctionTail_succ
      operand := fun tokens => (ih.primary tokens).bind fun _ => ih.operandTail _ _
      operandTail := ih.operandTail_succ
      primary := ih.primary_succ }

omit [Regex.Engine] in
/-- What a step more continues is continued by any number of steps more. -/
theorem Continues.of_le {α : Type} {reader : ℕ → Except Stop α}
    (hstep : ∀ steps, Continues (reader steps) (reader (steps + 1))) {few more : ℕ}
    (hle : few ≤ more) : Continues (reader few) (reader more) := by
  induction more, hle using Nat.le_induction with
  | base => exact .refl _
  | succ more _ ih => exact ih.trans (hstep more)

omit [Regex.Engine] in
theorem Continues.eq_ok {α : Type} {few more : Except Stop α} {result : α}
    (h : Continues few more) (hfew : few = .ok result) : more = .ok result := by
  obtain hexhausted | heq := h
  · rw [hfew] at hexhausted
    cases hexhausted
  · rw [← heq, hfew]

/-! ## Enough steps -/

/-- Reading `x` does not run out of steps. -/
def Finishes {α : Type} (x : Except Stop α) : Prop := x ≠ .error .exhausted

namespace Finishes

omit [Regex.Engine] in
theorem lift {α : Type} (x : Except Error α) : Finishes (Stop.lift x) := by
  cases x <;> simp [Finishes, Stop.lift]

omit [Regex.Engine] in
theorem ok {α : Type} (a : α) : Finishes (.ok a) := by
  simp [Finishes]

omit [Regex.Engine] in
theorem bind {α β : Type} {x : Except Stop α} {f : α → Except Stop β} (hx : Finishes x)
    (hf : ∀ a, x = .ok a → Finishes (f a)) : Finishes (x >>= f) := by
  cases x with
  | error stop => exact fun h => hx (congrArg Except.error (Except.error.inj h))
  | ok a => exact hf a rfl

end Finishes

namespace Grammar

/-- What is derived takes at least one token. -/
theorem Derivation.Reads.length_lt {level : Level} {derivation : Derivation level}
    {tokens rest : List Token} {pattern : Pattern} (h : derivation.Reads tokens pattern rest) :
    rest.length < tokens.length := by
  have hlength := congrArg List.length h.1
  obtain ⟨first, tail, hyield, -⟩ := derivation.exists_yield_cons
  simp only [hyield, terminals, List.length_map, List.length_append, List.length_cons] at hlength
  omega

end Grammar

omit [Regex.Engine] in
theorem length_lt_of_operator?_eq {tokens rest : List Token} {operator : Operator}
    (h : operator? tokens = .ok (some (operator, rest))) : rest.length < tokens.length := by
  obtain ⟨loose, hyield, -⟩ := Grammar.operator?_sound h
  have hlength := congrArg List.length hyield
  have hpos : 0 < loose.yield.length := by
    cases loose <;> decide
  simp only [terminals, List.length_map, List.length_append] at hlength
  omega

/-- Each level needs one step more than the next, and each token four. -/
structure StepFinishes (steps : ℕ) : Prop where
  expression : ∀ tokens, 4 * tokens.length + 4 ≤ steps → Finishes (expression steps tokens)
  expressionTail : ∀ left tokens, 4 * tokens.length + 1 ≤ steps →
    Finishes (expressionTail steps left tokens)
  conjunction : ∀ tokens, 4 * tokens.length + 3 ≤ steps → Finishes (conjunction steps tokens)
  conjunctionTail : ∀ left tokens, 4 * tokens.length + 1 ≤ steps →
    Finishes (conjunctionTail steps left tokens)
  operand : ∀ tokens, 4 * tokens.length + 2 ≤ steps → Finishes (operand steps tokens)
  operandTail : ∀ left tokens, 4 * tokens.length + 1 ≤ steps →
    Finishes (operandTail steps left tokens)
  primary : ∀ tokens, 4 * tokens.length + 1 ≤ steps → Finishes (primary steps tokens)

namespace StepFinishes

variable {steps : ℕ} (ih : StepFinishes steps)
include ih

theorem expression_succ (tokens : List Token) (hsteps : 4 * tokens.length + 4 ≤ steps + 1) :
    Finishes (Query.expression (steps + 1) tokens) := by
  refine (ih.conjunction tokens (by omega)).bind ?_
  rintro ⟨pattern, rest⟩ hread
  obtain ⟨derivation, hreads⟩ := (Grammar.readsDerived steps).conjunction hread
  have hlt := hreads.length_lt
  exact ih.expressionTail _ _ (by omega)

theorem expressionTail_succ (left : Pattern) (tokens : List Token)
    (hsteps : 4 * tokens.length + 1 ≤ steps + 1) :
    Finishes (Query.expressionTail (steps + 1) left tokens) := by
  refine (Finishes.lift _).bind ?_
  rintro (_ | ⟨operator, after⟩) hoperator
  · exact .ok _
  · rw [lift_eq_ok] at hoperator
    have hafter := length_lt_of_operator?_eq hoperator
    refine (ih.conjunction _ (by omega)).bind ?_
    rintro ⟨pattern, rest⟩ hread
    obtain ⟨derivation, hreads⟩ := (Grammar.readsDerived steps).conjunction hread
    have hlt := hreads.length_lt
    exact ih.expressionTail _ _ (by omega)

theorem conjunction_succ (tokens : List Token) (hsteps : 4 * tokens.length + 3 ≤ steps + 1) :
    Finishes (Query.conjunction (steps + 1) tokens) := by
  refine (ih.operand tokens (by omega)).bind ?_
  rintro ⟨pattern, rest⟩ hread
  obtain ⟨derivation, hreads⟩ := (Grammar.readsDerived steps).operand hread
  have hlt := hreads.length_lt
  exact ih.conjunctionTail _ _ (by omega)

theorem conjunctionTail_succ (left : Pattern) (tokens : List Token)
    (hsteps : 4 * tokens.length + 1 ≤ steps + 1) :
    Finishes (Query.conjunctionTail (steps + 1) left tokens) := by
  have htail : ∀ kind, startsWith kind tokens = true → ∀ join : Pattern → Pattern,
      Finishes (Query.operand steps tokens.tail >>= fun read =>
        Query.conjunctionTail steps (join read.1) read.2) := by
    intro kind hstart join
    obtain ⟨token, htokens, -⟩ := startsWith_eq_true hstart
    have hlength := congrArg List.length htokens
    rw [List.length_cons] at hlength
    refine (ih.operand _ (by omega)).bind ?_
    rintro ⟨pattern, rest⟩ hread
    obtain ⟨derivation, hreads⟩ := (Grammar.readsDerived steps).operand hread
    have hlt := hreads.length_lt
    exact ih.conjunctionTail (join pattern) rest (by omega)
  rw [Query.conjunctionTail]
  split_ifs with hand htilde
  · exact htail _ hand _
  · exact htail _ htilde _
  · exact .ok _

theorem operand_succ (tokens : List Token) (hsteps : 4 * tokens.length + 2 ≤ steps + 1) :
    Finishes (Query.operand (steps + 1) tokens) := by
  refine (ih.primary tokens (by omega)).bind ?_
  rintro ⟨pattern, rest⟩ hread
  obtain ⟨derivation, hreads⟩ := (Grammar.readsDerived steps).primary hread
  have hlt := hreads.length_lt
  exact ih.operandTail _ _ (by omega)

theorem operandTail_succ (left : Pattern) (tokens : List Token)
    (hsteps : 4 * tokens.length + 1 ≤ steps + 1) :
    Finishes (Query.operandTail (steps + 1) left tokens) := by
  cases tokens with
  | nil => exact .ok _
  | cons token tail =>
    rw [List.length_cons] at hsteps
    rw [Query.operandTail]
    split
    · refine (Finishes.lift _).bind ?_
      rintro ⟨word, rest⟩ hword
      obtain ⟨rfl, -⟩ := expect_sound (lift_eq_ok.1 hword)
      rw [List.length_cons] at hsteps
      exact (Finishes.lift _).bind fun _ _ => ih.operandTail _ _ (by omega)
    · split
      · next word rest hbinding =>
        obtain ⟨rfl, -⟩ := Grammar.typeBinding?_eq_some_iff.1 hbinding
        rw [List.length_cons] at hsteps
        exact (Finishes.lift _).bind fun _ _ => ih.operandTail _ _ (by omega)
      · exact .ok _
    · split_ifs with hclose
      · refine ih.operandTail _ _ ?_
        rw [List.length_tail]
        omega
      · refine (ih.expression _ (by omega)).bind ?_
        rintro ⟨pattern, between⟩ hread
        obtain ⟨derivation, hreads⟩ := (Grammar.readsDerived steps).expression hread
        have hlt := hreads.length_lt
        refine (Finishes.lift _).bind ?_
        rintro ⟨closing, rest⟩ hclosing
        obtain ⟨rfl, -⟩ := expect_sound (lift_eq_ok.1 hclosing)
        rw [List.length_cons] at hlt
        exact ih.operandTail _ _ (by omega)
    · exact .ok _

theorem primary_succ (tokens : List Token) (hsteps : 4 * tokens.length + 1 ≤ steps + 1) :
    Finishes (Query.primary (steps + 1) tokens) := by
  rw [Query.primary]
  split_ifs with hopen
  · obtain ⟨token, htokens, -⟩ := startsWith_eq_true hopen
    have hlength := congrArg List.length htokens
    rw [List.length_cons] at hlength
    exact (ih.expression _ (by omega)).bind fun _ _ =>
      (Finishes.lift _).bind fun _ _ => .ok _
  · exact .lift _

end StepFinishes

/-- The steps that the levels and the tokens need are enough. -/
theorem stepFinishes (steps : ℕ) : StepFinishes steps := by
  induction steps with
  | zero => constructor <;> intros <;> omega
  | succ steps ih =>
    exact {
      expression := ih.expression_succ
      expressionTail := ih.expressionTail_succ
      conjunction := ih.conjunction_succ
      conjunctionTail := ih.conjunctionTail_succ
      operand := ih.operand_succ
      operandTail := ih.operandTail_succ
      primary := ih.primary_succ }

/-- The steps that a pattern is read with do not run out. -/
theorem expression_ne_exhausted (tokens : List Token) :
    expression (4 * tokens.length + 4) tokens ≠ .error .exhausted :=
  (stepFinishes _).expression tokens le_rfl

/-- What is read with any number of steps is what a pattern is read as. -/
theorem expression_eq_ok {steps : ℕ} {tokens : List Token} {result : Read Pattern}
    (h : expression steps tokens = .ok result) :
    expression (4 * tokens.length + 4) tokens = .ok result := by
  have hstep := fun steps => (stepContinues steps).expression tokens
  have hmore := (Continues.of_le hstep (le_max_left steps (4 * tokens.length + 4))).eq_ok h
  obtain hexhausted | henough :=
    Continues.of_le hstep (le_max_right steps (4 * tokens.length + 4))
  · exact absurd hexhausted (expression_ne_exhausted tokens)
  · rw [henough, hmore]

end StructSearch.Query

import Mathlib.Tactic
import StructSearch.Proofs.Query.WalkReading

/-!
# Parsing ends

A walk has two limits that the rules of the grammar do not know: how many expressions may stand
inside each other, and how many rounds a loop may make. Neither is ever met when a walk starts with
depth enough for the tokens ahead, since each expression inside another and each round of a loop has
a token of its own. So the walk over all tokens is the same for every such depth, and it ends with
what is read.

Results:
* `sameBelow_expression`: more depth than there are tokens changes nothing.
* `parse_ends_going_forwards`: over any tokens parsing ends, with what is read, and never moves back
  or beyond the tokens on the way.
-/

namespace StructSearch.Query.Walk

variable {tokens : List Token} {α β σ : Type} {depth : ℕ}

/-! ## Depth -/

/-- The walks are the same wherever fewer than `depth` tokens are ahead. -/
def SameBelow (depth : ℕ) (walk other : Walk tokens α) : Prop :=
  ∀ c : Cursor tokens, c.ahead.length < depth → walk c = other c

namespace SameBelow

theorem refl (walk : Walk tokens α) : SameBelow depth walk walk := fun _ _ => rfl

theorem mono {less : ℕ} {walk other : Walk tokens α} (h : SameBelow depth walk other)
    (hle : less ≤ depth) : SameBelow less walk other :=
  fun c hc => h c (hc.trans_le hle)

/-- Behind the tokens that the first part takes, fewer are ahead. -/
theorem bind {gain : α → ℕ} {walk other : Walk tokens α} {next further : α → Walk tokens β}
    (h : SameBelow depth walk other) (htakes : walk.Takes gain)
    (hnext : ∀ value, SameBelow (depth - gain value) (next value) (further value)) :
    SameBelow depth (walk >>= next) (other >>= further) := by
  intro c hc
  have hfirst : (other >>= further) c = (walk >>= further) c := by
    simp only [Bind.bind, EStateM.bind, h c hc]
  rw [hfirst]
  refine bind_apply_congr fun value c' hwalk => hnext value c' ?_
  have hlength := htakes.length_add_le hwalk
  omega

theorem look {next further : List Token → Walk tokens α}
    (h : ∀ ahead, SameBelow depth (next ahead) (further ahead)) :
    SameBelow depth (ahead >>= next) (ahead >>= further) :=
  fun c hc => h c.ahead c hc

theorem loop {round other : σ → Walk tokens (ForInStep σ)}
    (h : ∀ state, SameBelow depth (round state) (other state))
    (htakes : ∀ state, (round state).Takes continued) (state : σ) :
    SameBelow depth (Walk.loop round state) (Walk.loop other state) := by
  have hrounds : ∀ limit state,
      SameBelow depth (rounds round limit state) (rounds other limit state) := by
    intro limit
    induction limit with
    | zero => exact fun _ => .refl _
    | succ limit ih =>
      intro state
      refine (h state).bind (htakes state) ?_
      rintro (result | state)
      · exact .refl _
      · exact (ih state).mono (Nat.sub_le _ _)
  exact hrounds _ state

end SameBelow

variable [Regex.Engine]

section Nested

variable {nested other : Walk tokens Pattern} (hsame : SameBelow depth nested other)
  (hforwards : nested.Forwards)
include hsame hforwards

theorem sameBelow_scope : SameBelow (depth + 1) (scope nested) (scope other) := by
  refine (SameBelow.refl _).bind (advances_enter _) fun _ => ?_
  refine (SameBelow.refl _).bind (takes_eat _) ?_
  rintro (_ | closed)
  · exact hsame.bind hforwards fun _ => .refl _
  · exact .refl _

theorem sameBelow_primary : SameBelow (depth + 1) (primary nested) (primary other) := by
  refine (SameBelow.refl _).bind (takes_eat _) ?_
  rintro (_ | opened)
  · exact .refl _
  · exact hsame.bind hforwards fun _ => .refl _

theorem sameBelow_operandRound (pattern : Pattern) :
    SameBelow (depth + 1) (operandRound nested pattern) (operandRound other pattern) := by
  refine .look fun ahead => ?_
  split
  · exact .refl _
  · exact .refl _
  · exact (sameBelow_scope hsame hforwards).bind (advances_scope hforwards) fun _ => .refl _
  · exact .refl _

theorem sameBelow_operand : SameBelow (depth + 1) (operand nested) (operand other) :=
  (sameBelow_primary hsame hforwards).bind (advances_primary hforwards) fun pattern =>
    (SameBelow.loop (sameBelow_operandRound hsame hforwards) (takes_operandRound hforwards)
      pattern).mono (Nat.sub_le _ _)

theorem sameBelow_conjunctionRound (left : Pattern) :
    SameBelow (depth + 1) (conjunctionRound nested left) (conjunctionRound other left) := by
  have hright := (sameBelow_operand hsame hforwards).mono (Nat.sub_le (depth + 1) 1)
  refine (SameBelow.refl _).bind (takes_eat _) ?_
  rintro (_ | both)
  · refine (SameBelow.refl _).bind (takes_eat _) ?_
    rintro (_ | tilde)
    · exact .refl _
    · exact hright.bind (advances_operand hforwards) fun _ => .refl _
  · exact hright.bind (advances_operand hforwards) fun _ => .refl _

theorem sameBelow_conjunction :
    SameBelow (depth + 1) (conjunction nested) (conjunction other) :=
  (sameBelow_operand hsame hforwards).bind (advances_operand hforwards) fun left =>
    (SameBelow.loop (sameBelow_conjunctionRound hsame hforwards)
      (takes_conjunctionRound hforwards) left).mono (Nat.sub_le _ _)

theorem sameBelow_expressionRound (left : Pattern) :
    SameBelow (depth + 1) (expressionRound nested left) (expressionRound other left) := by
  refine (SameBelow.refl _).bind takes_operator ?_
  rintro (_ | operator)
  · exact .refl _
  · exact ((sameBelow_conjunction hsame hforwards).mono (Nat.sub_le _ _)).bind
      (advances_conjunction hforwards) fun _ => .refl _

end Nested

/-- Where fewer than `depth` tokens are ahead, more depth changes nothing. -/
theorem sameBelow_expression (depth : ℕ) :
    SameBelow depth (expression depth : Walk tokens Pattern) (expression (depth + 1)) := by
  induction depth with
  | zero => exact fun c hc => absurd hc (Nat.not_lt_zero _)
  | succ depth ih =>
    have hforwards : Forwards (expression depth : Walk tokens Pattern) :=
      (advances_expression depth).forwards
    exact (sameBelow_conjunction ih hforwards).bind (advances_conjunction hforwards) fun left =>
      (SameBelow.loop (sameBelow_expressionRound ih hforwards)
        (takes_expressionRound hforwards) left).mono (Nat.sub_le _ _)

theorem sameBelow_parse (depth : ℕ) :
    SameBelow depth (parse depth : Walk tokens Pattern) (parse (depth + 1)) :=
  (sameBelow_expression depth).bind (advances_expression depth) fun _ => .refl _

/-- One expression for each token and one more are all that can stand inside each other. -/
theorem parse_start_eq (tokens : List Token) (extra : ℕ) :
    (parse (tokens.length + 1 + extra) : Walk tokens Pattern) .start =
      parse (tokens.length + 1) .start := by
  induction extra with
  | zero => rfl
  | succ extra ih =>
    have hlength : (.start : Cursor tokens).ahead.length < tokens.length + 1 + extra := by
      rw [Cursor.length_ahead]
      omega
    exact (sameBelow_parse _ _ hlength).symm.trans ih

/-! ## All rules -/

/-- The walks of the rules do what their readers do. The walk for scopes has no reader of its own:
operands are read with their scopes. -/
structure Agreement (tokens : List Token) : Prop where
  expression : ∀ depth, ReadsNested depth (expression depth : Walk tokens Pattern)
  conjunction : ∀ depth steps (c : Cursor tokens), c.ahead.length ≤ depth →
    4 * c.ahead.length + 3 ≤ steps → (conjunction (Walk.expression depth)).ReadsFrom c Halt.ofStop
      (Query.conjunction steps c.ahead)
  operand : ∀ depth steps (c : Cursor tokens), c.ahead.length ≤ depth →
    4 * c.ahead.length + 2 ≤ steps → (operand (Walk.expression depth)).ReadsFrom c Halt.ofStop
      (Query.operand steps c.ahead)
  primary : ∀ depth steps (c : Cursor tokens), c.ahead.length ≤ depth →
    4 * c.ahead.length + 1 ≤ steps → (primary (Walk.expression depth)).ReadsFrom c Halt.ofStop
      (Query.primary steps c.ahead)
  term : Reads Halt.error Query.term (term : Walk tokens Pattern)
  unqualified : Reads Halt.error Query.unqualified (unqualified : Walk tokens Entity)
  namedClass : Reads Halt.error Query.namedClass (namedClass : Walk tokens Entity)
  structured : ∀ name (c : Cursor tokens), startsWith .colon c.ahead = true →
    (structured name).ReadsFrom c Halt.error
      (optionalName name >>= fun field => Query.structured field c.ahead.tail)
  typeName : Reads Halt.error Query.typeName (typeName : Walk tokens Field)
  parameter : Reads Halt.error Query.parameter (parameter : Walk tokens Parameter)
  parameterList : ∀ opening closing expected (c : Cursor tokens),
    startsWith opening c.ahead = true →
    (parameterList opening closing expected).ReadsFrom c Halt.error
      (Query.parameterList closing expected c.ahead.tail)
  sigilEntity : ∀ sigil,
    Reads Halt.error (Query.sigilEntity sigil) (sigilEntity sigil : Walk tokens Entity)
  optionalAttributes :
    Reads Halt.error Query.optionalAttributes (optionalAttributes : Walk tokens AttributeList)
  operator : Reads Halt.error operatorRead (operator : Walk tokens (Option Operator))
  expect : ∀ kind expected,
    Reads Halt.error (Query.expect kind expected) (expect kind expected : Walk tokens Token)

theorem agreement (tokens : List Token) : Agreement tokens where
  expression := readsNested_expression
  conjunction depth _ _ :=
    readsFrom_conjunction (advances_expression depth).forwards (readsNested_expression depth)
  operand depth _ _ :=
    readsFrom_operand (advances_expression depth).forwards (readsNested_expression depth)
  primary depth _ _ := readsFrom_primary (readsNested_expression depth)
  term := reads_term
  unqualified := reads_unqualified
  namedClass := reads_namedClass
  structured name _ := readsFrom_structured name
  typeName := reads_typeName
  parameter := reads_parameter
  parameterList _ _ _ _ := readsFrom_parameterList
  sigilEntity := reads_sigilEntity
  optionalAttributes := reads_optionalAttributes
  operator := reads_operator
  expect := reads_expect

/-- Over any tokens, parsing ends: behind the last token with the pattern that they write, or with
the error that reading them gives; more depth than one for each token changes nothing. The walks of
all rules do what their readers do. None of their moves goes back or beyond the tokens, also where
they fail, the rules take a token when they succeed, a sigil's entity and attributes apart, and so
does each round of a loop that goes on. -/
theorem parse_ends_going_forwards (tokens : List Token) :
    (parse (tokens.length + 1) : Walk tokens Pattern).ReadsFrom .start Halt.error
        (Pattern.ofTokens tokens >>= fun pattern => .ok (pattern, [])) ∧
      (∀ extra, (parse (tokens.length + 1 + extra) : Walk tokens Pattern) .start =
        parse (tokens.length + 1) .start) ∧
      Agreement tokens ∧ ∀ depth, Progress tokens depth :=
  ⟨readsFrom_parse (Nat.lt_succ_self _), parse_start_eq tokens, agreement tokens, progress tokens⟩

end StructSearch.Query.Walk

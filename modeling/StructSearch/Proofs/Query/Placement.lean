import Mathlib.Tactic
import StructSearch.Query.Parser

/-!
# Tokens in other places

The readers of patterns look at the kinds and the texts of tokens. Where a token stands is only
copied into errors. So every reader commutes with every change of places: what is read from moved
tokens is what is read from the tokens, with the rest of them and the offset of an error moved.

Tokens of the same kinds and texts are moved copies of one list, in which each token stands at its
own number. Their patterns are therefore equal, and their errors come from one error that points at
a number.

Results:
* `Move.commutes`, `Move.ofTokens`: reading commutes with moving.
* `ofTokens_eq_onto`: what tokens are read as, from their kinds, texts and places.
* `offset_lt_of_ofTokens_numbered`: an error points at a token.
-/

namespace StructSearch.Query

/-! ## Changed outcomes -/

/-- An outcome with its error and its value changed. -/
def changed {ε α β : Type} (onError : ε → ε) (onValue : α → β) : Except ε α → Except ε β
  | .error e => .error (onError e)
  | .ok a => .ok (onValue a)

section Changed

variable {ε α β : Type} {onError : ε → ε} {onValue : α → β}

@[simp] theorem changed_ok (a : α) :
    changed onError onValue (.ok a) = .ok (onValue a) := rfl

@[simp] theorem changed_error (e : ε) :
    changed onError onValue (.error e) = .error (onError e) := rfl

/-- A change of a step is carried through what follows it. -/
theorem changed_bind {γ δ : Type} {onResult : γ → δ} {x : Except ε α} {g : α → Except ε γ}
    {g' : β → Except ε δ} (h : ∀ a, g' (onValue a) = changed onError onResult (g a)) :
    changed onError onValue x >>= g' = changed onError onResult (x >>= g) := by
  cases x with
  | error e => rfl
  | ok a => exact h a

end Changed

/-- Other places for the bytes at which tokens start and stop. -/
structure Move where
  start : ℕ → ℕ
  stop : ℕ → ℕ

namespace Move

variable (move : Move)

/-- The token in its other place. -/
def token (token : Token) : Token :=
  { token with start := move.start token.start, stop := move.stop token.stop }

/-- The tokens in their other places. -/
def tokens (tokens : List Token) : List Token := tokens.map move.token

/-- The error, pointing at the other place. -/
def error : Error → Error
  | .lex offset fault => .lex (move.start offset) fault
  | .parse offset fault => .parse (move.start offset) fault
  | .ended expected => .ended expected
  | .regex source offset fault => .regex source (move.start offset) fault

/-- The outcome with an error that points at the other place. -/
def result {α : Type} (x : Except Error α) : Except Error α := changed move.error id x

/-- The part that is read, with the tokens after it in their other places. -/
def read {α : Type} (x : Except Error (Read α)) : Except Error (Read α) :=
  changed move.error (Prod.map id move.tokens) x

@[simp] theorem tokens_cons (token : Token) (rest : List Token) :
    move.tokens (token :: rest) = move.token token :: move.tokens rest := rfl

@[simp] theorem tail_tokens (tokens : List Token) :
    (move.tokens tokens).tail = move.tokens tokens.tail := by
  cases tokens <;> rfl

@[simp] theorem length_tokens (tokens : List Token) :
    (move.tokens tokens).length = tokens.length := List.length_map move.token

@[simp] theorem offset?_error (e : Error) :
    (move.error e).offset? = e.offset?.map move.start := by
  cases e <;> rfl

/-! ## Tokens and fields -/

@[simp] theorem unexpected (expected : Expected) (tokens : List Token) :
    Query.unexpected expected (move.tokens tokens) =
      move.error (Query.unexpected expected tokens) := by
  cases tokens <;> rfl

@[simp] theorem startsWith (kind : Token.Kind) (tokens : List Token) :
    Query.startsWith kind (move.tokens tokens) = Query.startsWith kind tokens := by
  cases tokens <;> rfl

theorem expect (kind : Token.Kind) (expected : Expected) (tokens : List Token) :
    Query.expect kind expected (move.tokens tokens) =
      changed move.error (Prod.map move.token move.tokens)
        (Query.expect kind expected tokens) := by
  cases tokens with
  | nil => rfl
  | cons token rest =>
    by_cases hkind : token.kind = kind
    · simp [Query.expect, hkind, Move.token]
    · simp [Query.expect, hkind, Move.token, Query.unexpected, Move.error]

variable [Regex.Engine]

theorem fieldAt (offset : ℕ) (text : String) :
    Query.fieldAt (move.start offset) text = move.result (Query.fieldAt offset text) := by
  unfold Query.fieldAt
  split <;> rfl

theorem fieldOf (token : Token) :
    Query.fieldOf (move.token token) = move.result (Query.fieldOf token) :=
  move.fieldAt token.start token.text

/-! ## Types and parameters -/

omit [Regex.Engine] in
theorem typeTail (text : String) (tokens : List Token) :
    Query.typeTail text (move.tokens tokens) =
      Prod.map id move.tokens (Query.typeTail text tokens) := by
  fun_induction Query.typeTail text tokens with
  | case1 text colons segment rest hkinds ih =>
    rw [← ih]
    simp only [tokens_cons]
    rw [Query.typeTail]
    exact if_pos hkinds
  | case2 text colons segment rest hkinds =>
    simp only [tokens_cons]
    rw [Query.typeTail]
    exact if_neg hkinds
  | case3 text tokens hshort =>
    match tokens with
    | [] => rfl
    | [_] => rfl
    | colons :: segment :: rest => exact absurd rfl (hshort colons segment rest)

theorem typeName (tokens : List Token) :
    Query.typeName (move.tokens tokens) = move.read (Query.typeName tokens) := by
  rw [Query.typeName, Query.typeName, move.expect]
  refine changed_bind fun ⟨first, rest⟩ => ?_
  simp only [Prod.map_apply, Move.token, move.typeTail, move.fieldAt]
  exact changed_bind fun field => rfl

theorem optionalType (tokens : List Token) :
    Query.optionalType (move.tokens tokens) = move.read (Query.optionalType tokens) := by
  unfold Query.optionalType
  rw [move.startsWith]
  split
  · exact move.typeName tokens
  · rfl

theorem parameter (tokens : List Token) :
    Query.parameter (move.tokens tokens) = move.read (Query.parameter tokens) := by
  cases tokens with
  | nil => rfl
  | cons token rest =>
    simp only [Query.parameter, tokens_cons, Move.token]
    split
    · rfl
    · rw [move.optionalType]
      exact changed_bind fun _ => rfl
    · rw [← Move.token, move.fieldOf]
      refine changed_bind fun name => ?_
      cases rest with
      | nil => rfl
      | cons colon rest =>
        simp only [tokens_cons, Move.token]
        split
        · rw [move.optionalType]
          exact changed_bind fun _ => rfl
        · rfl
    · rfl

/-- The entries after the first one, told by the token that follows it. -/
theorem parametersFrom_eq (closing : Token.Kind) (expected : Expected) (tokens : List Token) :
    Query.parametersFrom closing expected tokens =
      Query.parameter tokens >>= fun
        | (_, []) => .error (Query.unexpected expected [])
        | (entry, token :: rest) =>
          if token.kind = .comma then do
            let (entries, rest) ← Query.parametersFrom closing expected rest
            .ok (entry :: entries, rest)
          else if token.kind = closing then .ok ([entry], rest)
          else .error (Query.unexpected expected (token :: rest)) := by
  rw [Query.parametersFrom]
  split
  · next error hentry => rw [hentry]; rfl
  · next entry hentry => rw [hentry]; rfl
  · next entry token rest hentry => rw [hentry]; rfl

theorem parametersFrom (closing : Token.Kind) (expected : Expected) (tokens : List Token) :
    Query.parametersFrom closing expected (move.tokens tokens) =
      move.read (Query.parametersFrom closing expected tokens) := by
  fun_induction Query.parametersFrom closing expected tokens with
  | case1 tokens error hentry =>
    rw [parametersFrom_eq, move.parameter, hentry]
    rfl
  | case2 tokens entry hentry =>
    rw [parametersFrom_eq, move.parameter, hentry]
    rfl
  | case3 tokens entry token rest hentry hkind ih =>
    rw [parametersFrom_eq, move.parameter, hentry]
    refine (if_pos hkind).trans ?_
    rw [← Move.tokens, ih]
    exact changed_bind fun _ => rfl
  | case4 tokens entry token rest hentry hkind hclosing =>
    rw [parametersFrom_eq, move.parameter, hentry]
    exact (if_neg hkind).trans (if_pos hclosing)
  | case5 tokens entry token rest hentry hkind hclosing =>
    rw [parametersFrom_eq, move.parameter, hentry]
    exact (if_neg hkind).trans (if_neg hclosing)

theorem parameterList (closing : Token.Kind) (expected : Expected) (tokens : List Token) :
    Query.parameterList closing expected (move.tokens tokens) =
      move.read (Query.parameterList closing expected tokens) := by
  unfold Query.parameterList
  rw [move.startsWith, move.tail_tokens, move.parametersFrom]
  split <;> rfl

omit [Regex.Engine] in
theorem templateAhead (ofFunction : Bool) (tokens : List Token) :
    Query.templateAhead ofFunction (move.tokens tokens) =
      Query.templateAhead ofFunction tokens := by
  cases tokens with
  | nil => rfl
  | cons token rest =>
    have hdrop : (move.tokens rest).dropWhile isTemplateToken =
        move.tokens (rest.dropWhile isTemplateToken) := List.dropWhile_map
    simp only [Query.templateAhead, tokens_cons, hdrop]
    cases rest.dropWhile isTemplateToken with
    | nil => rfl
    | cons closing after => cases after <;> rfl

theorem optionalTemplate (ofFunction : Bool) (tokens : List Token) :
    Query.optionalTemplate ofFunction (move.tokens tokens) =
      move.read (Query.optionalTemplate ofFunction tokens) := by
  unfold Query.optionalTemplate
  rw [move.templateAhead, move.tail_tokens, move.parameterList]
  split
  · exact changed_bind fun _ => rfl
  · rfl

/-! ## Attributes -/

omit [Regex.Engine] in
theorem addAttribute (list : AttributeList) (token : Token) :
    list.add (move.token token) = move.result (list.add token) := by
  obtain ⟨kind, text, start, stop⟩ := token
  change list.add ⟨kind, text, move.start start, move.stop stop⟩ = _
  unfold AttributeList.add
  dsimp only
  split
  · rfl
  · split <;> rfl

omit [Regex.Engine] in
theorem attributesFrom (list : AttributeList) (tokens : List Token) :
    Query.attributesFrom list (move.tokens tokens) =
      move.read (Query.attributesFrom list tokens) := by
  induction list, tokens using Query.attributesFrom.induct with
  | case1 list => rfl
  | case2 list token rest hkind ih =>
    rw [tokens_cons, Query.attributesFrom, Query.attributesFrom, if_pos hkind]
    refine (if_pos hkind).trans ?_
    rw [move.addAttribute]
    refine changed_bind fun list => ?_
    cases rest with
    | nil => rfl
    | cons next rest =>
      simp only [id, tokens_cons, Move.token]
      split_ifs
      · exact ih list
      · rfl
      · rfl
  | case3 list token rest hkind =>
    rw [tokens_cons, Query.attributesFrom, Query.attributesFrom, if_neg hkind]
    exact if_neg hkind

omit [Regex.Engine] in
theorem optionalAttributes (tokens : List Token) :
    Query.optionalAttributes (move.tokens tokens) =
      move.read (Query.optionalAttributes tokens) := by
  unfold Query.optionalAttributes
  rw [move.startsWith, move.tail_tokens, move.startsWith, move.tail_tokens, move.attributesFrom]
  split
  · split <;> rfl
  · rfl

/-! ## Entities -/

theorem colonType (tokens : List Token) :
    Query.colonType (move.tokens tokens) = move.read (Query.colonType tokens) := by
  unfold Query.colonType
  rw [move.startsWith, move.tail_tokens, move.typeName]
  split <;> rfl

theorem sigilVariable (isParameter : Bool) (tokens : List Token) :
    Query.sigilVariable isParameter (move.tokens tokens) =
      move.read (Query.sigilVariable isParameter tokens) := by
  rw [Query.sigilVariable, Query.sigilVariable, move.colonType]
  refine changed_bind fun ⟨type, rest⟩ => ?_
  simp only [Prod.map_apply, id, move.optionalAttributes]
  exact changed_bind fun _ => rfl

theorem sigilFunction (tokens : List Token) :
    Query.sigilFunction (move.tokens tokens) = move.read (Query.sigilFunction tokens) := by
  rw [Query.sigilFunction, Query.sigilFunction, move.colonType]
  refine changed_bind fun ⟨type, rest⟩ => ?_
  simp only [Prod.map_apply, id, move.optionalTemplate]
  refine changed_bind fun ⟨template, rest⟩ => ?_
  simp only [Prod.map_apply, id, move.startsWith, move.tail_tokens, move.parameterList]
  split
  · refine changed_bind fun ⟨parameters, rest⟩ => ?_
    simp only [Prod.map_apply, id, move.optionalAttributes]
    exact changed_bind fun _ => rfl
  · change Query.optionalAttributes (move.tokens rest) >>= _ = _
    rw [move.optionalAttributes]
    exact changed_bind fun _ => rfl

theorem sigilEntity (sigil : Sigil) (tokens : List Token) :
    Query.sigilEntity sigil (move.tokens tokens) =
      move.read (Query.sigilEntity sigil tokens) := by
  cases sigil with
  | func => exact move.sigilFunction tokens
  | type =>
    simp only [Query.sigilEntity, move.optionalTemplate]
    exact changed_bind fun _ => rfl
  | var => exact move.sigilVariable false tokens
  | param => exact move.sigilVariable true tokens

theorem namedClass (tokens : List Token) :
    Query.namedClass (move.tokens tokens) = move.read (Query.namedClass tokens) := by
  rw [Query.namedClass, Query.namedClass, move.expect]
  refine changed_bind fun ⟨word, rest⟩ => ?_
  simp only [Prod.map_apply, move.fieldOf]
  refine changed_bind fun name => ?_
  simp only [id, move.optionalTemplate]
  exact changed_bind fun _ => rfl

theorem structured (name : Field) (tokens : List Token) :
    Query.structured name (move.tokens tokens) = move.read (Query.structured name tokens) := by
  rw [Query.structured, Query.structured, move.optionalType]
  refine changed_bind fun ⟨type, rest⟩ => ?_
  simp only [Prod.map_apply, id, move.optionalTemplate]
  refine changed_bind fun ⟨template, rest⟩ => ?_
  simp only [Prod.map_apply, id, move.startsWith, move.tail_tokens, move.parameterList,
    move.optionalAttributes]
  split
  · refine changed_bind fun ⟨parameters, rest⟩ => ?_
    simp only [Prod.map_apply, id, move.optionalAttributes]
    exact changed_bind fun _ => rfl
  · exact changed_bind fun _ => rfl

theorem unqualified (tokens : List Token) :
    Query.unqualified (move.tokens tokens) = move.read (Query.unqualified tokens) := by
  cases tokens with
  | nil => rfl
  | cons token rest =>
    simp only [Query.unqualified, tokens_cons, Move.token]
    split
    · exact move.sigilEntity _ rest
    · exact move.namedClass rest
    · exact move.structured .any rest
    · rw [← Move.token, move.fieldOf]
      refine changed_bind fun name => ?_
      simp only [id, move.startsWith, move.tail_tokens, move.structured]
      split <;> rfl
    · rfl

theorem qualifierChain (tokens : List Token) :
    Query.qualifierChain (move.tokens tokens) = move.read (Query.qualifierChain tokens) := by
  induction tokens using Query.qualifierChain.induct with
  | case1 scope colons rest hkinds ih =>
    rw [tokens_cons, tokens_cons, Query.qualifierChain, Query.qualifierChain, if_pos hkinds]
    refine (if_pos hkinds).trans ?_
    rw [move.fieldOf]
    refine changed_bind fun field => ?_
    rw [ih]
    exact changed_bind fun _ => rfl
  | case2 scope colons rest hkinds =>
    rw [tokens_cons, tokens_cons, Query.qualifierChain, Query.qualifierChain, if_neg hkinds]
    exact if_neg hkinds
  | case3 tokens hshort =>
    match tokens with
    | [] => rfl
    | [_] => rfl
    | scope :: colons :: rest => exact absurd rfl (hshort scope colons rest)

theorem term (tokens : List Token) :
    Query.term (move.tokens tokens) = move.read (Query.term tokens) := by
  have hfront : (if Query.startsWith .doubleColon tokens then move.tokens tokens.tail
      else move.tokens tokens) =
      move.tokens (if Query.startsWith .doubleColon tokens then tokens.tail else tokens) := by
    split <;> rfl
  simp only [Query.term, move.startsWith, move.tail_tokens]
  rw [hfront, move.qualifierChain]
  refine changed_bind fun ⟨chain, rest⟩ => ?_
  simp only [Prod.map_apply, id, move.unqualified]
  exact changed_bind fun _ => rfl

/-! ## Bindings and operators -/

theorem bindName (pattern : Pattern) (word : Token) (offset : ℕ) :
    Query.bindName pattern (move.token word) (move.start offset) =
      move.result (Query.bindName pattern word offset) := by
  rw [Query.bindName, Query.bindName, move.fieldOf]
  refine changed_bind fun field => ?_
  match pattern with
  | .entity (.func _) _ _ => rfl
  | .entity (.var _) _ _ => rfl
  | .entity (.record _) _ _ => rfl
  | .entity (.text _) _ _ => rfl
  | .combine .. => rfl

omit [Regex.Engine] in
theorem endsBinding (tokens : List Token) :
    Query.endsBinding (move.tokens tokens) = Query.endsBinding tokens := by
  cases tokens <;> rfl

theorem typeBinding? (pattern : Pattern) (tokens : List Token) :
    Query.typeBinding? pattern (move.tokens tokens) =
      (Query.typeBinding? pattern tokens).map (Prod.map move.token move.tokens) := by
  cases tokens with
  | nil => rfl
  | cons word rest =>
    simp only [Query.typeBinding?, tokens_cons, move.endsBinding, Move.token]
    split <;> rfl

omit [Regex.Engine] in
theorem operator? (tokens : List Token) :
    Query.operator? (move.tokens tokens) =
      changed move.error (Option.map (Prod.map id move.tokens)) (Query.operator? tokens) := by
  cases tokens with
  | nil => rfl
  | cons token rest =>
    simp only [Query.operator?, tokens_cons, move.startsWith, move.tail_tokens, move.unexpected,
      Move.token]
    split
    · rfl
    · rfl
    · rfl
    · split
      · rfl
      · split <;> rfl
    · rfl

/-! ## Expressions -/

/-- The reason, pointing at the other place. -/
def stopped : Stop → Stop
  | .error e => .error (move.error e)
  | .exhausted => .exhausted

/-- The part of an expression that is read, with the tokens after it in their other places. -/
def partly (x : Except Stop (Read Pattern)) : Except Stop (Read Pattern) :=
  changed move.stopped (Prod.map id move.tokens) x

omit [Regex.Engine] in
theorem lift_changed {α β : Type} (onValue : α → β) (x : Except Error α) :
    Stop.lift (changed move.error onValue x) = changed move.stopped onValue (Stop.lift x) := by
  cases x <;> rfl

/-- With a number of steps, every reader of expressions commutes with the move. -/
structure Commutes (steps : ℕ) : Prop where
  expression : ∀ tokens, Query.expression steps (move.tokens tokens) =
    move.partly (Query.expression steps tokens)
  expressionTail : ∀ left tokens, Query.expressionTail steps left (move.tokens tokens) =
    move.partly (Query.expressionTail steps left tokens)
  conjunction : ∀ tokens, Query.conjunction steps (move.tokens tokens) =
    move.partly (Query.conjunction steps tokens)
  conjunctionTail : ∀ left tokens, Query.conjunctionTail steps left (move.tokens tokens) =
    move.partly (Query.conjunctionTail steps left tokens)
  operand : ∀ tokens, Query.operand steps (move.tokens tokens) =
    move.partly (Query.operand steps tokens)
  operandTail : ∀ left tokens, Query.operandTail steps left (move.tokens tokens) =
    move.partly (Query.operandTail steps left tokens)
  primary : ∀ tokens, Query.primary steps (move.tokens tokens) =
    move.partly (Query.primary steps tokens)

namespace Commutes

variable {move : Move} {steps : ℕ} (ih : move.Commutes steps)
include ih

theorem expression_succ (tokens : List Token) :
    Query.expression (steps + 1) (move.tokens tokens) =
      move.partly (Query.expression (steps + 1) tokens) := by
  rw [Query.expression, Query.expression, ih.conjunction]
  exact changed_bind fun ⟨left, rest⟩ => ih.expressionTail left rest

theorem expressionTail_succ (left : Pattern) (tokens : List Token) :
    Query.expressionTail (steps + 1) left (move.tokens tokens) =
      move.partly (Query.expressionTail (steps + 1) left tokens) := by
  rw [Query.expressionTail, Query.expressionTail, move.operator?, move.lift_changed]
  refine changed_bind fun
    | none => rfl
    | some (operator, rest) => ?_
  simp only [Option.map_some, Prod.map_apply, id, ih.conjunction]
  exact changed_bind fun ⟨right, rest⟩ => ih.expressionTail _ rest

theorem conjunction_succ (tokens : List Token) :
    Query.conjunction (steps + 1) (move.tokens tokens) =
      move.partly (Query.conjunction (steps + 1) tokens) := by
  rw [Query.conjunction, Query.conjunction, ih.operand]
  exact changed_bind fun ⟨left, rest⟩ => ih.conjunctionTail left rest

theorem conjunctionTail_succ (left : Pattern) (tokens : List Token) :
    Query.conjunctionTail (steps + 1) left (move.tokens tokens) =
      move.partly (Query.conjunctionTail (steps + 1) left tokens) := by
  rw [Query.conjunctionTail, Query.conjunctionTail]
  simp only [move.startsWith, move.tail_tokens, ih.operand]
  split_ifs
  · exact changed_bind fun ⟨right, rest⟩ => ih.conjunctionTail _ rest
  · exact changed_bind fun ⟨right, rest⟩ => ih.conjunctionTail _ rest
  · rfl

theorem operand_succ (tokens : List Token) :
    Query.operand (steps + 1) (move.tokens tokens) =
      move.partly (Query.operand (steps + 1) tokens) := by
  rw [Query.operand, Query.operand, ih.primary]
  exact changed_bind fun ⟨pattern, rest⟩ => ih.operandTail pattern rest

theorem operandTail_succ (pattern : Pattern) (tokens : List Token) :
    Query.operandTail (steps + 1) pattern (move.tokens tokens) =
      move.partly (Query.operandTail (steps + 1) pattern tokens) := by
  cases tokens with
  | nil => rfl
  | cons token rest =>
    rw [tokens_cons, Query.operandTail, Query.operandTail]
    simp only [Move.token]
    split
    · rw [move.expect, move.lift_changed]
      refine changed_bind fun ⟨word, rest⟩ => ?_
      simp only [Prod.map_apply, move.bindName, Move.result, move.lift_changed]
      exact changed_bind fun pattern => ih.operandTail pattern rest
    · rw [move.typeBinding?]
      cases Query.typeBinding? pattern rest with
      | none => rfl
      | some binding =>
        simp only [Option.map_some, Prod.map_fst, Prod.map_snd, move.fieldOf, Move.result,
          move.lift_changed]
        exact changed_bind fun type => ih.operandTail _ _
    · simp only [move.startsWith, move.tail_tokens, ih.expression]
      split_ifs
      · exact ih.operandTail pattern rest.tail
      · refine changed_bind fun ⟨inner, rest⟩ => ?_
        simp only [Prod.map_apply, move.expect, move.lift_changed]
        exact changed_bind fun ⟨closing, rest⟩ => ih.operandTail _ rest
    · rfl

theorem primary_succ (tokens : List Token) :
    Query.primary (steps + 1) (move.tokens tokens) =
      move.partly (Query.primary (steps + 1) tokens) := by
  rw [Query.primary, Query.primary]
  simp only [move.startsWith, move.tail_tokens, ih.expression, move.term]
  split_ifs
  · refine changed_bind fun ⟨inner, rest⟩ => ?_
    simp only [Prod.map_apply, move.expect, move.lift_changed]
    exact changed_bind fun _ => rfl
  · exact move.lift_changed _ _

end Commutes

/-- The readers of expressions commute with every move. -/
theorem commutes (steps : ℕ) : move.Commutes steps := by
  induction steps with
  | zero => constructor <;> intros <;> rfl
  | succ steps ih =>
    exact {
      expression := ih.expression_succ
      expressionTail := ih.expressionTail_succ
      conjunction := ih.conjunction_succ
      conjunctionTail := ih.conjunctionTail_succ
      operand := ih.operand_succ
      operandTail := ih.operandTail_succ
      primary := ih.primary_succ }

/-- A pattern does not show where its tokens stood, and an error shows it in its offset alone. -/
theorem ofTokens (tokens : List Token) :
    Pattern.ofTokens (move.tokens tokens) = move.result (Pattern.ofTokens tokens) := by
  rw [Pattern.ofTokens, Pattern.ofTokens, move.length_tokens, (move.commutes _).expression]
  match Query.expression (4 * tokens.length + 4) tokens with
  | .ok (pattern, []) => rfl
  | .ok (pattern, token :: rest) => rfl
  | .error (.error error) => rfl
  | .error .exhausted => rfl

end Move

/-! ## Tokens at their numbers -/

/-- What the readers see of a token. -/
def Token.lexeme (token : Token) : Token.Kind × String := (token.kind, token.text)

/-- Tokens with these kinds and texts, each at its number. -/
def numbered (lexemes : List (Token.Kind × String)) : List Token :=
  lexemes.mapIdx fun i lexeme => ⟨lexeme.1, lexeme.2, i, i⟩

/-- The move from numbers to the places of tokens. -/
def Move.onto (tokens : List Token) : Move where
  start i := (tokens[i]?.map Token.start).getD 0
  stop i := (tokens[i]?.map Token.stop).getD 0

/-- Tokens are the numbered tokens in other places. -/
theorem Move.tokens_onto (tokens : List Token) :
    (Move.onto tokens).tokens (numbered (tokens.map Token.lexeme)) = tokens := by
  apply List.ext_getElem
  · simp [numbered]
  · intro i hi hi'
    simp [Move.tokens, Move.token, Move.onto, numbered, Token.lexeme, hi']

variable [Regex.Engine]

/-- What tokens are read as is what the numbered tokens are read as, with the number that an error
points at replaced by a place. -/
theorem ofTokens_eq_onto (tokens : List Token) :
    Pattern.ofTokens tokens =
      (Move.onto tokens).result (Pattern.ofTokens (numbered (tokens.map Token.lexeme))) := by
  rw [← Move.ofTokens, Move.tokens_onto]

/-- An error points at one of the tokens. -/
theorem offset_lt_of_ofTokens_numbered {lexemes : List (Token.Kind × String)} {e : Error}
    (h : Pattern.ofTokens (numbered lexemes) = .error e) :
    ∀ offset ∈ e.offset?, offset < lexemes.length := by
  -- a move that leaves the numbers of tokens alone leaves the error alone
  let move : Move := ⟨fun i => if i < lexemes.length then i else i + 1, id⟩
  have hstay : move.tokens (numbered lexemes) = numbered lexemes := by
    apply List.ext_getElem
    · simp
    · intro i hi hi'
      have hlt : i < lexemes.length := by simpa [numbered] using hi'
      simp [Move.tokens, Move.token, numbered, move, hlt]
  have hmoved := move.ofTokens (numbered lexemes)
  rw [hstay, h] at hmoved
  have herror : e = move.error e := Except.error.inj hmoved
  intro offset hoffset
  have hplace := congrArg Error.offset? herror
  rw [move.offset?_error, hoffset, Option.map_some, Option.some_inj] at hplace
  by_contra hout
  simp [move, hout] at hplace

end StructSearch.Query

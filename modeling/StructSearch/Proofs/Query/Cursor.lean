import Mathlib.Tactic
import StructSearch.Query.Parser

/-!
# Walking over the tokens

The readers of patterns take a list of tokens and return what they leave of it. A parser with a
position does the same by moving an index over tokens that stay as they are: it looks at what is
ahead, moves the index, by hand where it has seen enough, and repeats rounds of its loops. Here the
rules of the grammar are told in this way, with every position that is left kept on a trail, so that
the positions of a parser can be spoken of, also where it fails.

A rule that meets a nested expression takes the walk for it as a parameter. `expression` ties the
knot: it allows so many expressions inside each other. A loop allows one round for each token and
one more. A walk that asks for more is `exhausted`.

Definitions:
* `Cursor`, `Walk`: positions with their trail, and what moves them.
* `rounds`, `loop`: loops, given by one round.
* `expression`, `parse`: the walks for expressions and for whole patterns.
-/

namespace StructSearch.Query

/-- A place among the tokens: the index of the next token, and the indices that were left on the way
to it, the last one first. -/
structure Cursor (tokens : List Token) where
  pos : ℕ
  passed : List ℕ
  deriving Repr, DecidableEq

namespace Cursor

variable {tokens : List Token}

/-- The place before the first token. -/
def start : Cursor tokens := ⟨0, []⟩

/-- The tokens from the next one on. -/
def ahead (c : Cursor tokens) : List Token := tokens.drop c.pos

/-- The place `count` tokens on, whether or not there are so many. -/
def skip (c : Cursor tokens) (count : ℕ) : Cursor tokens := ⟨c.pos + count, c.pos :: c.passed⟩

end Cursor

/-- Why a walk stops short. -/
inductive Halt where
  /-- The tokens are no pattern. -/
  | error (error : Error)
  /-- A rule was entered without the token that opens it. -/
  | unopened (kind : Token.Kind)
  /-- Loops or expressions inside each other went on for too long. -/
  | exhausted
  deriving Repr, DecidableEq

/-- What is read by moving over the tokens. A walk that fails stays where it stopped. -/
abbrev Walk (tokens : List Token) : Type → Type := EStateM Halt (Cursor tokens)

variable [Regex.Engine]

namespace Walk

variable {tokens : List Token} {α σ : Type}

/-! ## Looking and moving -/

/-- The tokens from the next one on. -/
def ahead : Walk tokens (List Token) := do return (← get).ahead

/-- The sort of the token that stands `index` places behind the front. -/
def kindAt (index : ℕ) (ahead : List Token) : Option Token.Kind := ahead[index]?.map Token.kind

/-- Moves on, whatever is ahead. -/
def skip (count : ℕ) : Walk tokens Unit := modify (·.skip count)

/-- Takes the next token, if there is one. -/
def advance : Walk tokens (Option Token) := do
  match ← ahead with
  | [] => return none
  | token :: _ =>
    skip 1
    return some token

/-- Takes the next token if it is of a kind. -/
def eat (kind : Token.Kind) : Walk tokens (Option Token) := do
  if startsWith kind (← ahead) then advance else return none

/-- Fails where something else is expected. -/
def fail (expected : Expected) : Walk tokens α := do throw (.error (unexpected expected (← ahead)))

/-- Takes the next token, which must be of a kind. -/
def expect (kind : Token.Kind) (expected : Expected) : Walk tokens Token := do
  match ← eat kind with
  | some token => return token
  | none => fail expected

/-- Takes the token that opens a rule. -/
def enter (kind : Token.Kind) : Walk tokens Token := do
  match ← eat kind with
  | some token => return token
  | none => throw (.unopened kind)

/-- What needs no token. -/
def lift : Except Error α → Walk tokens α
  | .ok value => pure value
  | .error e => throw (.error e)

/-! ## Loops -/

/-- Repeats a round until it leaves the loop, at most `limit` times. -/
def rounds (round : σ → Walk tokens (ForInStep σ)) : ℕ → σ → Walk tokens σ
  | 0, _ => throw .exhausted
  | limit + 1, state => do
    match ← round state with
    | .done result => return result
    | .yield state => rounds round limit state

/-- A loop over the tokens. -/
def loop (round : σ → Walk tokens (ForInStep σ)) : σ → Walk tokens σ :=
  rounds round (tokens.length + 1)

/-! ## Types and parameters -/

/-- A segment `:: word` of a type name. -/
def typeRound (text : String) : Walk tokens (ForInStep String) := do
  let ahead ← ahead
  if startsWith .doubleColon ahead ∧ kindAt 1 ahead = some .data then
    skip 1
    match ← advance with
    | some segment => return .yield (text ++ "::" ++ segment.text)
    | none => return .yield text
  else return .done text

/-- A type name: words joined by `::`, read as one field. -/
def typeName : Walk tokens Field := do
  let first ← expect .data .typeName
  let text ← loop typeRound first.text
  lift (fieldAt first.start text)

/-- A type name, or any type if no word follows. -/
def optionalType : Walk tokens Field := do
  if startsWith .data (← ahead) then typeName else return .any

/-- The field of a name that may be missing. -/
def optionalName : Option Token → Except Error Field
  | some token => fieldOf token
  | none => .ok .any

/-- The type of an entry of a parameter list, which has one only behind a colon. -/
def entryType : Option Token → Walk tokens Field
  | some _ => optionalType
  | none => return .any

/-- An entry of a parameter list. -/
def parameter : Walk tokens Parameter := do
  match ← eat .ellipsis with
  | some _ => return .ellipsis
  | none =>
    let name ← eat .data
    let colon ← eat .colon
    if name.isNone ∧ colon.isNone then fail .parameter
    else
      let name ← lift (optionalName name)
      let type ← entryType colon
      return .typed name type

/-- An entry of a parameter list, and the comma or the closing delimiter behind it. -/
def parameterRound (closing : Token.Kind) (expected : Expected) (entries : List Parameter) :
    Walk tokens (ForInStep (List Parameter)) := do
  let entry ← parameter
  match ← eat .comma with
  | some _ => return .yield (entries ++ [entry])
  | none =>
    let _ ← expect closing expected
    return .done (entries ++ [entry])

/-- A parameter list between its delimiters. -/
def parameterList (opening closing : Token.Kind) (expected : Expected) :
    Walk tokens (List Parameter) := do
  let _ ← enter opening
  match ← eat closing with
  | some _ => return []
  | none => loop (parameterRound closing expected) []

/-- The parameters of a template. -/
def templateParameters : Walk tokens (List Parameter) :=
  parameterList .langle .rangle .commaOrAngle

/-- The parameters of a function. -/
def parameters : Walk tokens (List Parameter) := parameterList .lparen .rparen .commaOrParen

/-- The parameters of a function, or any parameters if there is no list. -/
def optionalParameters : Walk tokens (List Parameter) := do
  if startsWith .lparen (← ahead) then parameters else return [.ellipsis]

/-- A template parameter list, if one is ahead. -/
def optionalTemplate (ofFunction : Bool) : Walk tokens (Option (List Parameter)) := do
  if templateAhead ofFunction (← ahead) then
    let list ← templateParameters
    return some list
  else return none

/-! ## Attributes -/

/-- An attribute, and the comma or the bracket behind it. -/
def attributeRound (list : AttributeList) : Walk tokens (ForInStep AttributeList) := do
  let token ← expect .data .attributeName
  let list ← lift (list.add token)
  match ← eat .comma with
  | some _ => return .yield list
  | none =>
    let _ ← expect .rsquare .commaOrSquare
    return .done list

/-- The attributes between brackets, if there are any. -/
def optionalAttributes : Walk tokens AttributeList := do
  match ← eat .lsquare with
  | none => return {}
  | some _ =>
    match ← eat .rsquare with
    | some _ => return {}
    | none => loop attributeRound {}

/-! ## Entities -/

/-- A type after a colon, if there is one. -/
def colonType : Walk tokens Field := do
  match ← eat .colon with
  | some _ => typeName
  | none => return .any

/-- A variable or parameter behind its sigil. -/
def sigilVariable (isParameter : Bool) : Walk tokens Entity := do
  let type ← colonType
  let list ← optionalAttributes
  return .var { type, isParameter, attributes := list.names, isExpression := list.isExpression }

/-- A function behind its sigil. -/
def sigilFunction : Walk tokens Entity := do
  let returnType ← colonType
  let templateParameters ← optionalTemplate true
  let parameters ← optionalParameters
  let list ← optionalAttributes
  return .func {
    returnType, parameters, templateParameters
    attributes := list.names, isExpression := list.isExpression }

/-- An entity behind its sigil. -/
def sigilEntity : Sigil → Walk tokens Entity
  | .func => sigilFunction
  | .type => do
    let templateParameters ← optionalTemplate false
    return .record { templateParameters }
  | .var => sigilVariable false
  | .param => sigilVariable true

/-- A named class behind its `#`. -/
def namedClass : Walk tokens Entity := do
  let token ← expect .data .className
  let name ← lift (fieldOf token)
  let templateParameters ← optionalTemplate false
  return .record { name, templateParameters }

/-- A variable `name:type` or a function `name:type(parameters)` behind its name, if it has one. -/
def structured (name : Option Token) : Walk tokens Entity := do
  let _ ← enter .colon
  let name ← lift (optionalName name)
  let type ← optionalType
  let templateParameters ← optionalTemplate true
  if startsWith .lparen (← ahead) then
    let parameters ← parameters
    let list ← optionalAttributes
    return .func {
      name, returnType := type, parameters, templateParameters
      attributes := list.names, isExpression := list.isExpression }
  else
    let list ← optionalAttributes
    return .var { name, type, attributes := list.names, isExpression := list.isExpression }

/-- An entity without qualifiers. -/
def unqualified : Walk tokens Entity := do
  let ahead ← ahead
  match kindAt 0 ahead with
  | some (.sigil sigil) =>
    skip 1
    sigilEntity sigil
  | some .pound =>
    skip 1
    namedClass
  | some .colon => structured none
  | some .data =>
    if kindAt 1 ahead = some .colon then
      let name ← advance
      structured name
    else
      let word ← expect .data .pattern
      let field ← lift (fieldOf word)
      return .text field
  | _ => fail .pattern

/-- A qualifier `word ::` before an entity. -/
def qualifierRound (chain : List Field) : Walk tokens (ForInStep (List Field)) := do
  let ahead ← ahead
  if startsWith .data ahead ∧ kindAt 1 ahead = some .doubleColon then
    match ← advance with
    | some scope =>
      let field ← lift (fieldOf scope)
      skip 1
      return .yield (chain ++ [field])
    | none =>
      skip 1
      return .yield chain
  else return .done chain

/-- An entity with its qualifiers. -/
def term : Walk tokens Pattern := do
  let colons ← eat .doubleColon
  let chain ← loop qualifierRound []
  let entity ← unqualified
  let qualifier : Qualifier :=
    if !chain.isEmpty then .chain chain else if colons.isSome then .fileScope else .anywhere
  return .entity entity qualifier []

/-! ## Expressions -/

/-- The operator of the loosest level, if one is ahead. -/
def operator : Walk tokens (Option Operator) := do
  let ahead ← ahead
  match kindAt 0 ahead with
  | some .or =>
    skip 1
    return some .or
  | some .rangle =>
    skip 1
    return some .child
  | some .langle =>
    skip 1
    return some .parent
  | some .not =>
    if kindAt 1 ahead = some .rangle then
      skip 2
      return some .notChild
    else if kindAt 1 ahead = some .langle then
      skip 2
      return some .notParent
    else
      skip 1
      fail .angleAfterNot
  | _ => return none

section Nested

variable (nested : Walk tokens Pattern)

/-- What stands between braces, if anything does. -/
def scope : Walk tokens (Option Pattern) := do
  let _ ← enter .lcurly
  match ← eat .rcurly with
  | some _ => return none
  | none =>
    let inner ← nested
    let _ ← expect .rcurly .closingCurly
    return some inner

/-- A group between parentheses, or a term. -/
def primary : Walk tokens Pattern := do
  match ← eat .lparen with
  | some _ =>
    let inner ← nested
    let _ ← expect .rparen .closingParen
    return inner
  | none => term

/-- A binding or a scope behind an operand. -/
def operandRound (pattern : Pattern) : Walk tokens (ForInStep Pattern) := do
  let ahead ← ahead
  match kindAt 0 ahead with
  | some .equal =>
    let equal ← advance
    let word ← expect .data .nameAfterEqual
    let named ← lift (bindName pattern word (equal.elim 0 Token.start))
    return .yield named
  | some .tilde =>
    if (typeBinding? pattern ahead.tail).isSome then
      skip 1
      let word ← expect .data .typeAfterTilde
      let type ← lift (fieldOf word)
      return .yield ((bindType? pattern type).getD pattern)
    else return .done pattern
  | some .lcurly =>
    match ← scope nested with
    | some inner => return .yield (pattern.constrain inner)
    | none => return .yield pattern
  | _ => return .done pattern

/-- A primary with its bindings and scopes. -/
def operand : Walk tokens Pattern := do
  let pattern ← primary nested
  loop (operandRound nested) pattern

/-- An operator `&` or `~`, and the operand behind it. -/
def conjunctionRound (left : Pattern) : Walk tokens (ForInStep Pattern) := do
  match ← eat .and with
  | some _ =>
    let right ← operand nested
    return .yield (.combine .and left right)
  | none =>
    match ← eat .tilde with
    | some _ =>
      let right ← operand nested
      return .yield (left.constrain right)
    | none => return .done left

/-- Operands joined by `&` and `~`. -/
def conjunction : Walk tokens Pattern := do
  let left ← operand nested
  loop (conjunctionRound nested) left

/-- One of the loosest operators, and the conjunction behind it. -/
def expressionRound (left : Pattern) : Walk tokens (ForInStep Pattern) := do
  match ← operator with
  | some operator =>
    let right ← conjunction nested
    return .yield (.combine operator left right)
  | none => return .done left

end Nested

/-- Conjunctions joined by the loosest operators, with at most `depth` expressions inside each
other, this one included. -/
def expression : ℕ → Walk tokens Pattern
  | 0 => throw .exhausted
  | depth + 1 => do
    let left ← conjunction (expression depth)
    loop (expressionRound (expression depth)) left

/-- The pattern that all tokens write. -/
def parse (depth : ℕ) : Walk tokens Pattern := do
  let pattern ← expression depth
  match ← ahead with
  | [] => return pattern
  | _ :: _ => fail .operator

end Walk

end StructSearch.Query

import StructSearch.Query.Lexer
import StructSearch.Query.Pattern
import StructSearch.Text.Case

/-!
# Reading patterns

A pattern is read from its tokens by one function for each rule of the grammar, from the loosest
operators inwards: `expression` (`|`, `>`, `<`, `!>`, `!<`), `conjunction` (`&`, `~`), `operand`
(the bindings `= name` and `~ type` and the scopes `{ … }` after a primary), `primary` (a group or a
term) and `term` (an entity with its qualifiers). All binary operators associate to the left.

The functions that can meet a nested expression take the number of steps that they may still make;
`Pattern.ofTokens` gives four for each token and four more, which is enough.

This is the second stage of the compiler of queries. An error is placed at the start of the token
that is not expected, and says what is expected there; where the tokens run out it has no place.
-/

namespace StructSearch.Query

/-- A part of a pattern, read from the front of the tokens, and the tokens after it. -/
abbrev Read (α : Type) : Type := α × List Token

/-- The error at the front of `tokens`, where something else is expected: it names the kind of the
token that stands there, or says that the query ends. -/
def unexpected (expected : Expected) : List Token → Error
  | [] => .ended expected
  | token :: _ => .parse token.start (.unexpected expected token.kind)

/-- Whether the first token is of a kind. -/
def startsWith (kind : Token.Kind) : List Token → Bool
  | [] => false
  | token :: _ => decide (token.kind = kind)

/-- The first token, which must be of a kind, and the tokens after it. Otherwise the error says what
is expected. -/
def expect (kind : Token.Kind) (expected : Expected) (tokens : List Token) :
    Except Error (Read Token) :=
  match tokens with
  | [] => .error (unexpected expected tokens)
  | token :: rest =>
    if token.kind = kind then .ok (token, rest) else .error (unexpected expected tokens)

/-- The segments `:: word` of a type name, added to the text before them. A `::` without a word
behind it is left. -/
def typeTail (text : String) : List Token → String × List Token
  | colons :: segment :: rest =>
    if colons.kind = .doubleColon ∧ segment.kind = .data then
      typeTail (text ++ "::" ++ segment.text) rest
    else (text, colons :: segment :: rest)
  | tokens => (text, tokens)

theorem length_typeTail_le (text : String) (tokens : List Token) :
    (typeTail text tokens).2.length ≤ tokens.length := by
  fun_induction typeTail text tokens with
  | case1 text colons segment rest h ih => simp only [List.length_cons]; omega
  | case2 => simp
  | case3 => simp

variable [Regex.Engine]

/-- The field with a text that stands at byte `offset`. If the engine refuses the text, the error
holds the text and the words of the engine. -/
def fieldAt (offset : Nat) (text : String) : Except Error Field :=
  match Field.compile text with
  | .ok field => .ok field
  | .error detail => .error (.regex text offset detail)

/-- The field of a word. -/
def fieldOf (token : Token) : Except Error Field := fieldAt token.start token.text

/-! ## Types and parameters -/

/-- A type name: words joined by `::`, read as one field. The field has the joined text, without
white space, and an error in it is placed at the first word. -/
def typeName (tokens : List Token) : Except Error (Read Field) := do
  let (first, rest) ← expect .data .typeName tokens
  let (text, rest) := typeTail first.text rest
  let field ← fieldAt first.start text
  .ok (field, rest)

/-- A type name, or any type if no word follows. -/
def optionalType (tokens : List Token) : Except Error (Read Field) :=
  if startsWith .data tokens then typeName tokens else .ok (.any, tokens)

/-- An entry of a parameter list: `...`, `name`, `name:type`, `:type`, or with nothing on either
side of the colon, where what is missing accepts everything. -/
def parameter (tokens : List Token) : Except Error (Read Parameter) :=
  match tokens with
  | [] => .error (unexpected .parameter tokens)
  | token :: rest =>
    match token.kind with
    | .ellipsis => .ok (.ellipsis, rest)
    | .colon => do
      let (type, rest) ← optionalType rest
      .ok (.typed .any type, rest)
    | .data => do
      let name ← fieldOf token
      match rest with
      | [] => .ok (.typed name .any, [])
      | colon :: rest =>
        if colon.kind = .colon then
          let (type, rest) ← optionalType rest
          .ok (.typed name type, rest)
        else .ok (.typed name .any, colon :: rest)
    | _ => .error (unexpected .parameter tokens)

theorem length_lt_of_typeName_eq {tokens rest : List Token} {field : Field}
    (h : typeName tokens = .ok (field, rest)) : rest.length < tokens.length := by
  unfold typeName expect at h
  cases tokens with
  | nil => simp [bind, Except.bind] at h
  | cons token tail =>
    have hLe := length_typeTail_le token.text tail
    by_cases hKind : token.kind = .data
    · simp only [hKind, ↓reduceIte, bind, Except.bind] at h
      split at h
      · simp at h
      · simp only [Except.ok.injEq, Prod.mk.injEq] at h
        simp only [List.length_cons, ← h.2]
        omega
    · simp [hKind, bind, Except.bind] at h

theorem length_le_of_optionalType_eq {tokens rest : List Token} {field : Field}
    (h : optionalType tokens = .ok (field, rest)) : rest.length ≤ tokens.length := by
  unfold optionalType at h
  split at h
  · exact Nat.le_of_lt (length_lt_of_typeName_eq h)
  · simp_all

/-- An entry of a parameter list takes at least one token. -/
theorem length_lt_of_parameter_eq {tokens rest : List Token} {entry : Parameter}
    (h : parameter tokens = .ok (entry, rest)) : rest.length < tokens.length := by
  unfold parameter at h
  cases tokens with
  | nil => simp at h
  | cons token tail =>
    simp only [List.length_cons]
    simp only at h
    split at h
    · grind
    · simp only [bind, Except.bind] at h
      split at h
      · simp at h
      · next v hv =>
        have := length_le_of_optionalType_eq hv
        grind
    · simp only [bind, Except.bind] at h
      split at h
      · simp at h
      · split at h
        · grind
        · split at h
          · split at h
            · simp at h
            · next v hv =>
              have := length_le_of_optionalType_eq hv
              simp only [List.length_cons]
              grind
          · grind
    · simp at h

/-- The entries of a parameter list up to its closing delimiter, at least one. A comma must be
followed by another entry. -/
def parametersFrom (closing : Token.Kind) (expected : Expected) (tokens : List Token) :
    Except Error (Read (List Parameter)) :=
  match _h : parameter tokens with
  | .error error => .error error
  | .ok (_, []) => .error (unexpected expected [])
  | .ok (entry, token :: rest) =>
    if token.kind = .comma then do
      let (entries, rest) ← parametersFrom closing expected rest
      .ok (entry :: entries, rest)
    else if token.kind = closing then .ok ([entry], rest)
    else .error (unexpected expected (token :: rest))
termination_by tokens.length
decreasing_by
  have := length_lt_of_parameter_eq _h
  simp only [List.length_cons] at this
  omega

/-- A parameter list, read after its opening delimiter. The empty list asks for no parameters at
all. -/
def parameterList (closing : Token.Kind) (expected : Expected) (tokens : List Token) :
    Except Error (Read (List Parameter)) :=
  if startsWith closing tokens then .ok ([], tokens.tail)
  else parametersFrom closing expected tokens

/-- Whether a token can stand inside a template parameter list. -/
def isTemplateToken (token : Token) : Bool :=
  match token.kind with
  | .data | .colon | .comma | .ellipsis | .doubleColon => true
  | _ => false

/-- Whether a token can begin a pattern. -/
def startsOperand (token : Token) : Bool :=
  match token.kind with
  | .data | .sigil _ | .pound | .colon | .doubleColon | .lparen => true
  | _ => false

/-- Whether the tokens open a template parameter list rather than continue with the operator `<`.
The closing `>` must be reached through tokens of parameters alone. The list of a function is
followed by its parameters; the list of a class is not followed by an operand, which would make
`>` an operator. -/
def templateAhead (ofFunction : Bool) (tokens : List Token) : Bool :=
  match tokens with
  | [] => false
  | token :: rest =>
    if token.kind = .langle then
      match rest.dropWhile isTemplateToken with
      | [] => false
      | token :: after =>
        decide (token.kind = .rangle) &&
          if ofFunction then startsWith .lparen after
          else match after with
            | [] => true
            | token :: _ => !startsOperand token
    else false

/-- A template parameter list, if one is ahead. Without one the entity says nothing about template
parameters. -/
def optionalTemplate (ofFunction : Bool) (tokens : List Token) :
    Except Error (Read (Option (List Parameter))) :=
  if templateAhead ofFunction tokens then do
    let (parameters, rest) ← parameterList .rangle .commaOrAngle tokens.tail
    .ok (some parameters, rest)
  else .ok (none, tokens)

/-! ## Attributes -/

/-- The attributes that choose a member access. -/
def accessAttributes : List String := ["public", "protected", "private"]

/-- The attributes of an entity and whether they ask for expressions. -/
structure AttributeList where
  names : Attributes := .empty
  isExpression : Bool := false
  deriving Repr, DecidableEq, Inhabited

/-- The list with the attribute of a word added. Names are lower-cased, `expr` asks for
expressions, and at most one member access can be asked for. -/
def AttributeList.add (list : AttributeList) (token : Token) : Except Error AttributeList :=
  let name := Text.lowercase token.text
  if name = "expr" then .ok { list with isExpression := true }
  else
    let rival :=
      if accessAttributes.contains name then
        list.names.names.find? fun other => accessAttributes.contains other && other != name
      else none
    match rival with
    | some other => .error (.parse token.start (.accessConflict other name))
    | none => .ok { list with names := list.names.insert name }

/-- The attributes up to the closing bracket, at least one. A word that is not known is kept; it
asks for nothing. -/
def attributesFrom (list : AttributeList) : List Token → Except Error (Read AttributeList)
  | [] => .error (unexpected .attributeName [])
  | token :: rest =>
    if token.kind = .data then do
      let list ← list.add token
      match rest with
      | [] => .error (unexpected .commaOrSquare [])
      | next :: rest =>
        if next.kind = .comma then attributesFrom list rest
        else if next.kind = .rsquare then .ok (list, rest)
        else .error (unexpected .commaOrSquare (next :: rest))
    else .error (unexpected .attributeName (token :: rest))

/-- The attributes between brackets, if there are any. Empty brackets are the same as none. -/
def optionalAttributes (tokens : List Token) : Except Error (Read AttributeList) :=
  if startsWith .lsquare tokens then
    if startsWith .rsquare tokens.tail then .ok ({}, tokens.tail.tail)
    else attributesFrom {} tokens.tail
  else .ok ({}, tokens)

/-! ## Entities -/

/-- A type after a colon, if there is one. -/
def colonType (tokens : List Token) : Except Error (Read Field) :=
  if startsWith .colon tokens then typeName tokens.tail else .ok (.any, tokens)

/-- A variable or parameter, read after its sigil: the type after a colon and the attributes. Its
name can be bound afterwards. -/
def sigilVariable (isParameter : Bool) (tokens : List Token) : Except Error (Read Entity) := do
  let (type, tokens) ← colonType tokens
  let (list, tokens) ← optionalAttributes tokens
  .ok (.var {
    type, isParameter, attributes := list.names, isExpression := list.isExpression }, tokens)

/-- A function, read after its sigil: the result type after a colon, the template parameters, the
parameters and the attributes, all of which may be left out. Without a parameter list it takes any
parameters. -/
def sigilFunction (tokens : List Token) : Except Error (Read Entity) := do
  let (returnType, tokens) ← colonType tokens
  let (templateParameters, tokens) ← optionalTemplate true tokens
  let (parameters, tokens) ←
    if startsWith .lparen tokens then parameterList .rparen .commaOrParen tokens.tail
    else .ok ([.ellipsis], tokens)
  let (list, tokens) ← optionalAttributes tokens
  .ok (.func {
    returnType, parameters, templateParameters
    attributes := list.names, isExpression := list.isExpression }, tokens)

/-- An entity, read after its sigil. It has no name of its own there; a name can be bound behind it.
-/
def sigilEntity (sigil : Sigil) (tokens : List Token) : Except Error (Read Entity) :=
  match sigil with
  | .func => sigilFunction tokens
  | .type => do
    let (templateParameters, tokens) ← optionalTemplate false tokens
    .ok (.record { templateParameters }, tokens)
  | .var => sigilVariable false tokens
  | .param => sigilVariable true tokens

/-- A named class, read after its `#`. -/
def namedClass (tokens : List Token) : Except Error (Read Entity) := do
  let (token, tokens) ← expect .data .className tokens
  let name ← fieldOf token
  let (templateParameters, tokens) ← optionalTemplate false tokens
  .ok (.record { name, templateParameters }, tokens)

/-- A variable `name:type` or a function `name:type(parameters)`, read after its colon. What follows
the type tells which of the two it is. -/
def structured (name : Field) (tokens : List Token) : Except Error (Read Entity) := do
  let (type, tokens) ← optionalType tokens
  let (templateParameters, tokens) ← optionalTemplate true tokens
  if startsWith .lparen tokens then
    let (parameters, tokens) ← parameterList .rparen .commaOrParen tokens.tail
    let (list, tokens) ← optionalAttributes tokens
    .ok (.func {
      name, returnType := type, parameters, templateParameters
      attributes := list.names, isExpression := list.isExpression }, tokens)
  else
    let (list, tokens) ← optionalAttributes tokens
    .ok (.var { name, type, attributes := list.names, isExpression := list.isExpression }, tokens)

/-- An entity without qualifiers, told by its first token. A word that no colon follows accepts
everything with that spelling. -/
def unqualified (tokens : List Token) : Except Error (Read Entity) :=
  match tokens with
  | [] => .error (unexpected .pattern tokens)
  | token :: rest =>
    match token.kind with
    | .sigil sigil => sigilEntity sigil rest
    | .pound => namedClass rest
    | .colon => structured .any rest
    | .data => do
      let name ← fieldOf token
      if startsWith .colon rest then structured name rest.tail else .ok (.text name, rest)
    | _ => .error (unexpected .pattern tokens)

/-- The qualifiers `word ::` before an entity, as many as there are. A word that no double colon
follows is left for the entity. -/
def qualifierChain : List Token → Except Error (Read (List Field))
  | scope :: colons :: rest =>
    if scope.kind = .data ∧ colons.kind = .doubleColon then do
      let field ← fieldOf scope
      let (fields, rest) ← qualifierChain rest
      .ok (field :: fields, rest)
    else .ok ([], scope :: colons :: rest)
  | tokens => .ok ([], tokens)

/-- An entity with its qualifiers: scopes, or a leading `::` for the scope that is searched. A
leading `::` before scopes is read and says nothing more. -/
def term (tokens : List Token) : Except Error (Read Pattern) := do
  let fileScope := startsWith .doubleColon tokens
  let (chain, tokens) ← qualifierChain (if fileScope then tokens.tail else tokens)
  let qualifier : Qualifier :=
    if !chain.isEmpty then .chain chain else if fileScope then .fileScope else .anywhere
  let (entity, tokens) ← unqualified tokens
  .ok (.entity entity qualifier [], tokens)

/-! ## Bindings -/

/-- The pattern with the name of a word, whose equals sign stands at byte `offset`. A name that was
bound before is replaced; only a single entity has a name. -/
def bindName (pattern : Pattern) (token : Token) (offset : Nat) : Except Error Pattern := do
  let field ← fieldOf token
  match pattern with
  | .entity (.func shape) q cs => .ok (.entity (.func { shape with name := field }) q cs)
  | .entity (.var shape) q cs => .ok (.entity (.var { shape with name := field }) q cs)
  | .entity (.record shape) q cs => .ok (.entity (.record { shape with name := field }) q cs)
  | .entity (.text _) q cs => .ok (.entity (.text field) q cs)
  | .combine .. => .error (.parse offset .nameOnCombination)

/-- The entity with the type of a word, if it is a function or a variable. -/
def bindType? (pattern : Pattern) (type : Field) : Option Pattern :=
  match pattern with
  | .entity (.func shape) q cs => some (.entity (.func { shape with returnType := type }) q cs)
  | .entity (.var shape) q cs => some (.entity (.var { shape with type }) q cs)
  | _ => none

/-- Whether a pattern has a type that can be bound. -/
def isTyped (pattern : Pattern) : Bool :=
  match pattern with
  | .entity (.func _) _ _ | .entity (.var _) _ _ => true
  | _ => false

/-- Whether a word before the tokens stands alone: an operator, a closing delimiter or nothing
follows it. -/
def endsBinding : List Token → Bool
  | [] => true
  | token :: _ =>
    match token.kind with
    | .and | .or | .tilde | .rangle | .langle | .not | .equal | .rparen | .rcurly => true
    | _ => false

/-- The word of a type binding after `~`, with the tokens after it. The word must stand alone. -/
def typeBinding? (pattern : Pattern) (tokens : List Token) : Option (Token × List Token) :=
  match tokens with
  | [] => none
  | word :: rest =>
    if isTyped pattern && decide (word.kind = .data) && endsBinding rest then some (word, rest)
    else none

/-- The operator of the loosest level at the front of the tokens, if there is one. A `!` must be
followed by `>` or `<`. -/
def operator? (tokens : List Token) : Except Error (Option (Operator × List Token)) :=
  match tokens with
  | [] => .ok none
  | token :: rest =>
    match token.kind with
    | .or => .ok (some (.or, rest))
    | .rangle => .ok (some (.child, rest))
    | .langle => .ok (some (.parent, rest))
    | .not =>
      if startsWith .rangle rest then .ok (some (.notChild, rest.tail))
      else if startsWith .langle rest then .ok (some (.notParent, rest.tail))
      else .error (unexpected .angleAfterNot rest)
    | _ => .ok none

/-! ## Expressions -/

/-- Why reading an expression stops short. The second reason never arises with the bound that
`Pattern.ofTokens` gives. -/
inductive Stop where
  /-- The tokens are no pattern. -/
  | error (error : Error)
  /-- No step is left. -/
  | exhausted
  deriving Repr, DecidableEq, Inhabited

/-- A reading that needs no bound. -/
def Stop.lift {α : Type} : Except Error α → Except Stop α
  | .ok value => .ok value
  | .error e => .error (.error e)

mutual

/-- Conjunctions joined by the loosest operators, all of which are at one level and associate to the
left. -/
def expression : Nat → List Token → Except Stop (Read Pattern)
  | 0, _ => .error .exhausted
  | steps + 1, tokens => do
    let (left, tokens) ← conjunction steps tokens
    expressionTail steps left tokens

/-- The operators and conjunctions after the first one. What is read so far is the left side of the
next operator. -/
def expressionTail : Nat → Pattern → List Token → Except Stop (Read Pattern)
  | 0, _, _ => .error .exhausted
  | steps + 1, left, tokens => do
    match ← Stop.lift (operator? tokens) with
    | none => .ok (left, tokens)
    | some (operator, tokens) =>
      let (right, tokens) ← conjunction steps tokens
      expressionTail steps (.combine operator left right) tokens

/-- Operands joined by `&` and `~`, which bind more tightly and associate to the left as well. -/
def conjunction : Nat → List Token → Except Stop (Read Pattern)
  | 0, _ => .error .exhausted
  | steps + 1, tokens => do
    let (left, tokens) ← operand steps tokens
    conjunctionTail steps left tokens

/-- The operators `&` and `~` and the operands after the first one. A `~` that is no type binding
constrains what stands before it. -/
def conjunctionTail : Nat → Pattern → List Token → Except Stop (Read Pattern)
  | 0, _, _ => .error .exhausted
  | steps + 1, left, tokens =>
    if startsWith .and tokens then do
      let (right, tokens) ← operand steps tokens.tail
      conjunctionTail steps (.combine .and left right) tokens
    else if startsWith .tilde tokens then do
      let (right, tokens) ← operand steps tokens.tail
      conjunctionTail steps (left.constrain right) tokens
    else .ok (left, tokens)

/-- A primary with its bindings and scopes. -/
def operand : Nat → List Token → Except Stop (Read Pattern)
  | 0, _ => .error .exhausted
  | steps + 1, tokens => do
    let (pattern, tokens) ← primary steps tokens
    operandTail steps pattern tokens

/-- The bindings and scopes after a primary, in any order and number. Empty scopes say nothing. -/
def operandTail : Nat → Pattern → List Token → Except Stop (Read Pattern)
  | 0, _, _ => .error .exhausted
  | _ + 1, pattern, [] => .ok (pattern, [])
  | steps + 1, pattern, token :: rest =>
    match token.kind with
    | .equal => do
      let (word, rest) ← Stop.lift (expect .data .nameAfterEqual rest)
      let pattern ← Stop.lift (bindName pattern word token.start)
      operandTail steps pattern rest
    | .tilde =>
      match typeBinding? pattern rest with
      | some (word, rest) => do
        let type ← Stop.lift (fieldOf word)
        operandTail steps ((bindType? pattern type).getD pattern) rest
      | none => .ok (pattern, token :: rest)
    | .lcurly =>
      if startsWith .rcurly rest then operandTail steps pattern rest.tail
      else do
        let (inner, rest) ← expression steps rest
        let (_, rest) ← Stop.lift (expect .rcurly .closingCurly rest)
        operandTail steps (pattern.constrain inner) rest
    | _ => .ok (pattern, token :: rest)

/-- A group between parentheses, or a term. A group is the pattern inside it; the parentheses leave
no trace. -/
def primary : Nat → List Token → Except Stop (Read Pattern)
  | 0, _ => .error .exhausted
  | steps + 1, tokens =>
    if startsWith .lparen tokens then do
      let (inner, tokens) ← expression steps tokens.tail
      let (_, tokens) ← Stop.lift (expect .rparen .closingParen tokens)
      .ok (inner, tokens)
    else Stop.lift (term tokens)

end

namespace Pattern

/-- The pattern that a whole sequence of tokens writes. Tokens that are left over are an error at
the first of them. -/
def ofTokens (tokens : List Token) : Except Error Pattern :=
  match expression (4 * tokens.length + 4) tokens with
  | .ok (pattern, []) => .ok pattern
  | .ok (_, token :: rest) => .error (unexpected .operator (token :: rest))
  | .error (.error error) => .error error
  | .error .exhausted => .error (.ended .pattern)

/-- The pattern that a query writes. -/
def compile (query : String) : Except Error Pattern := do
  let tokens ← Token.scan query
  ofTokens tokens

end Pattern

end StructSearch.Query

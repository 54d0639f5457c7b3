import StructSearch.Query.Parser

/-!
# The grammar of patterns

The rules by which tokens write a pattern, without a word on how they are read:

```
expression  := conjunction (('|' | '>' | '<' | '!' '>' | '!' '<') conjunction)*
conjunction := operand (('&' | '~') operand)*
operand     := primary ('=' word | '~' word | '{' expression? '}')*
primary     := '(' expression ')' | term
term        := '::'? (word '::')* head
head        := '\F' (':' type)? template? parameters? attributes?
             | ('\V' | '\P') (':' type)? attributes?
             | '\T' template? | '#' word template?
             | word? ':' type? template? parameters attributes?
             | word? ':' type? attributes?
             | word
type        := word ('::' word)*
parameters  := '(' (entry (',' entry)*)? ')'
template    := '<' (entry (',' entry)*)? '>'
entry       := '...' | word | word? ':' type?
attributes  := '[' (word (',' word)*)? ']'
```

A derivation is a tree of these rules. Repetitions that join operands lean to the left, as the
operators do. `yield` lists the terminals that a derivation writes, and `pattern?` is the pattern
that it stands for: there is none if a field is no regular expression, if an attribute list asks
for two kinds of access, or if a name is given to a combination of patterns.
-/

namespace StructSearch.Query

variable [Regex.Engine]

/-- What the grammar sees of a token: the text of a word, and the kind of anything else. -/
inductive Terminal where
  | word (text : String)
  | mark (kind : Token.Kind)
  deriving Repr, DecidableEq

/-- What the grammar sees of a token. -/
def Token.terminal (token : Token) : Terminal :=
  if token.kind = .data then .word token.text else .mark token.kind

/-- What the grammar sees of a sequence of tokens. -/
def terminals (tokens : List Token) : List Terminal := tokens.map Token.terminal

namespace Grammar

/-- The field that a text writes, if it is a regular expression. -/
def field? (text : String) : Option Field := (Field.compile text).toOption

/-- A field that may be left out, and then accepts everything. -/
def orAny? {α : Type} (field? : α → Option Field) : Option α → Option Field
  | none => some .any
  | some part => field? part

/-- The terminals of a sequence of parts with commas between them. -/
def separated {α : Type} (yield : α → List Terminal) : List α → List Terminal
  | [] => []
  | [part] => yield part
  | part :: next :: rest => yield part ++ .mark .comma :: separated yield (next :: rest)

/-! ## Types and parameter lists -/

/-- Words joined by `::`. -/
structure TypeName where
  first : String
  segments : List String

namespace TypeName

/-- The terminals of a type name: its words with `::` between them. -/
def yield (type : TypeName) : List Terminal :=
  .word type.first :: type.segments.flatMap fun segment => [.mark .doubleColon, .word segment]

/-- The text of a type name, without white space. -/
def text (type : TypeName) : String := String.intercalate "::" (type.first :: type.segments)

/-- The field that a type name writes, if its text is a regular expression. -/
def field? (type : TypeName) : Option Field := Grammar.field? type.text

end TypeName

/-- An entry of a parameter list. -/
inductive Entry where
  | ellipsis
  | named (name : String)
  | typed (name : Option String) (type : Option TypeName)

namespace Entry

/-- The terminals of an entry. One with a type has a colon, which may stand at either end of it. -/
def yield : Entry → List Terminal
  | ellipsis => [.mark .ellipsis]
  | named name => [.word name]
  | typed name type =>
    name.elim [] (fun name => [.word name]) ++ .mark .colon :: type.elim [] TypeName.yield

/-- The parameter that an entry writes: what is left out accepts everything. -/
def parameter? : Entry → Option Parameter
  | ellipsis => some .ellipsis
  | named name => do
    let name ← Grammar.field? name
    some (.typed name .any)
  | typed name type => do
    let name ← orAny? Grammar.field? name
    let type ← orAny? TypeName.field? type
    some (.typed name type)

/-- The texts that are read as regular expressions. -/
def fieldTexts : Entry → List String
  | ellipsis => []
  | named name => [name]
  | typed name type => name.toList ++ type.toList.map TypeName.text

end Entry

/-- The terminals of entries between two delimiters. -/
def entriesYield (opening closing : Token.Kind) (entries : List Entry) : List Terminal :=
  .mark opening :: separated Entry.yield entries ++ [.mark closing]

/-- The terminals of a parameter list. -/
def parametersYield : List Entry → List Terminal := entriesYield .lparen .rparen

/-- The terminals of a template list. -/
def templateYield : List Entry → List Terminal := entriesYield .langle .rangle

/-- The parameters that a list writes. -/
def parameters? (entries : List Entry) : Option (List Parameter) := entries.mapM Entry.parameter?

/-- A list that may be left out. -/
def template? : Option (List Entry) → Option (Option (List Parameter))
  | none => some none
  | some entries => (parameters? entries).map some

/-! ## Attributes -/

/-- The terminals of an attribute list. -/
def attributesYield (words : List String) : List Terminal :=
  .mark .lsquare :: separated (fun word => [.word word]) words ++ [.mark .rsquare]

/-- No two names of a list ask for different kinds of access. -/
def OneAccess (names : List String) : Prop :=
  ∀ a ∈ names, ∀ b ∈ names, a ∈ accessAttributes → b ∈ accessAttributes → a = b

instance (names : List String) : Decidable (OneAccess names) :=
  inferInstanceAs (Decidable (∀ a ∈ names, ∀ b ∈ names, _ → _ → a = b))

/-- The attributes that words write: their lower-cased texts, where `expr` is no attribute but
asks for expressions. -/
def attributes? (words : Option (List String)) : Option AttributeList :=
  let names := (words.getD []).map Text.lowercase
  if OneAccess names then
    some {
      names := (names.filter (· ≠ "expr")).foldl Attributes.insert .empty
      isExpression := names.contains "expr" }
  else none

/-! ## Terms -/

/-- An entity without qualifiers. -/
inductive Head where
  /-- A function with a sigil. -/
  | sigilFunction (type : Option TypeName) (template parameters : Option (List Entry))
      (attributes : Option (List String))
  /-- A variable or parameter with a sigil. -/
  | sigilVariable (isParameter : Bool) (type : Option TypeName) (attributes : Option (List String))
  /-- A class with a sigil. -/
  | sigilClass (template : Option (List Entry))
  /-- A class with a name. -/
  | namedClass (name : String) (template : Option (List Entry))
  /-- A function as `name:type(parameters)`. -/
  | typedFunction (name : Option String) (type : Option TypeName)
      (template : Option (List Entry)) (parameters : List Entry)
      (attributes : Option (List String))
  /-- A variable as `name:type`. -/
  | typedVariable (name : Option String) (type : Option TypeName)
      (attributes : Option (List String))
  /-- Anything with a spelling. -/
  | search (text : String)

namespace Head

/-- The terminals of a type after a colon. -/
def colonYield (type : Option TypeName) : List Terminal :=
  type.elim [] fun type => .mark .colon :: type.yield

/-- The terminals of a head, in the order in which its parts must stand. -/
def yield : Head → List Terminal
  | sigilFunction type template parameters attributes =>
    .mark (.sigil .func) :: colonYield type ++ template.elim [] templateYield ++
      parameters.elim [] parametersYield ++ attributes.elim [] attributesYield
  | sigilVariable isParameter type attributes =>
    .mark (.sigil (if isParameter then .param else .var)) :: colonYield type ++
      attributes.elim [] attributesYield
  | sigilClass template => .mark (.sigil .type) :: template.elim [] templateYield
  | namedClass name template =>
    .mark .pound :: .word name :: template.elim [] templateYield
  | typedFunction name type template parameters attributes =>
    name.elim [] (fun name => [.word name]) ++ .mark .colon :: type.elim [] TypeName.yield ++
      template.elim [] templateYield ++ parametersYield parameters ++
      attributes.elim [] attributesYield
  | typedVariable name type attributes =>
    name.elim [] (fun name => [.word name]) ++ .mark .colon :: type.elim [] TypeName.yield ++
      attributes.elim [] attributesYield
  | search text => [.word text]

/-- The entity that a head writes. A function with a sigil and no list takes any parameters. -/
def entity? : Head → Option Entity
  | sigilFunction type template parameters attributes => do
    let returnType ← orAny? TypeName.field? type
    let templateParameters ← template? template
    let parameters ← parameters.elim (some [.ellipsis]) parameters?
    let list ← attributes? attributes
    some (.func {
      returnType, parameters, templateParameters
      attributes := list.names, isExpression := list.isExpression })
  | sigilVariable isParameter type attributes => do
    let type ← orAny? TypeName.field? type
    let list ← attributes? attributes
    some (.var {
      type, isParameter, attributes := list.names, isExpression := list.isExpression })
  | sigilClass template => do
    let templateParameters ← template? template
    some (.record { templateParameters })
  | namedClass name template => do
    let name ← field? name
    let templateParameters ← template? template
    some (.record { name, templateParameters })
  | typedFunction name type template parameters attributes => do
    let name ← orAny? field? name
    let returnType ← orAny? TypeName.field? type
    let templateParameters ← template? template
    let parameters ← parameters? parameters
    let list ← attributes? attributes
    some (.func {
      name, returnType, parameters, templateParameters
      attributes := list.names, isExpression := list.isExpression })
  | typedVariable name type attributes => do
    let name ← orAny? field? name
    let type ← orAny? TypeName.field? type
    let list ← attributes? attributes
    some (.var { name, type, attributes := list.names, isExpression := list.isExpression })
  | search text => do
    let field ← field? text
    some (.text field)

/-- The texts that are read as regular expressions. -/
def fieldTexts : Head → List String
  | sigilFunction type template parameters _ =>
    type.toList.map TypeName.text ++ (template.getD []).flatMap Entry.fieldTexts ++
      (parameters.getD []).flatMap Entry.fieldTexts
  | sigilVariable _ type _ => type.toList.map TypeName.text
  | sigilClass template => (template.getD []).flatMap Entry.fieldTexts
  | namedClass name template => name :: (template.getD []).flatMap Entry.fieldTexts
  | typedFunction name type template parameters _ =>
    name.toList ++ type.toList.map TypeName.text ++
      (template.getD []).flatMap Entry.fieldTexts ++ parameters.flatMap Entry.fieldTexts
  | typedVariable name type _ => name.toList ++ type.toList.map TypeName.text
  | search text => [text]

/-- The words of the attribute list, if there is one. -/
def attributeWords : Head → List String
  | sigilFunction _ _ _ attributes => attributes.getD []
  | sigilVariable _ _ attributes => attributes.getD []
  | typedFunction _ _ _ _ attributes => attributes.getD []
  | typedVariable _ _ attributes => attributes.getD []
  | sigilClass _ | namedClass _ _ | search _ => []

end Head

/-! ## Reading `<` -/

/-- Whether a terminal can stand inside a template parameter list. -/
def isTemplateTerminal : Terminal → Bool
  | .word _ => true
  | .mark kind => kind ∈ [.colon, .comma, .ellipsis, .doubleColon]

/-- Whether a terminal can begin a pattern. -/
def startsOperand : Terminal → Bool
  | .word _ => true
  | .mark (.sigil _) => true
  | .mark kind => kind ∈ [.pound, .colon, .doubleColon, .lparen]

/-- Whether the terminals open a template parameter list rather than continue with the operator
`<`: a `>` is reached through terminals of entries, and what follows it fits the list. -/
def opensTemplate (ofFunction : Bool) : List Terminal → Bool
  | .mark .langle :: tail =>
    match tail.dropWhile isTemplateTerminal with
    | .mark .rangle :: after =>
      if ofFunction then after.head? = some (.mark .lparen) else !after.head?.any startsOperand
    | _ => false
  | _ => false

/-- The looks ahead for a template list agree with a head that `rest` follows. -/
def Head.TemplateFits : Head → List Terminal → Prop
  | sigilFunction _ template parameters attributes, rest =>
    opensTemplate true (template.elim [] templateYield ++ (parameters.elim [] parametersYield ++
      (attributes.elim [] attributesYield ++ rest))) = template.isSome
  | sigilClass template, rest | namedClass _ template, rest =>
    opensTemplate false (template.elim [] templateYield ++ rest) = template.isSome
  | typedVariable _ _ attributes, rest =>
    opensTemplate true (attributes.elim [] attributesYield ++ rest) = false
  | sigilVariable .., _ | typedFunction .., _ | search _, _ => True

/-! ## Qualified terms -/

/-- A head with its qualifiers. -/
structure Term where
  fileScope : Bool
  scopes : List String
  head : Head

namespace Term

/-- The terminals of a term: a leading `::`, the scopes with one behind each, and the head. -/
def yield (term : Term) : List Terminal :=
  (if term.fileScope then [.mark .doubleColon] else []) ++
    term.scopes.flatMap (fun scope => [.word scope, .mark .doubleColon]) ++ term.head.yield

/-- The qualifier that a term writes: its scopes, else a leading `::`. -/
def qualifier? (term : Term) : Option Qualifier := do
  let fields ← term.scopes.mapM field?
  some (if fields ≠ [] then .chain fields
    else if term.fileScope then .fileScope else .anywhere)

/-- The pattern that a term writes, if all its texts are regular expressions: an entity in the
scopes that its qualifier names. -/
def pattern? (term : Term) : Option Pattern := do
  let qualifier ← term.qualifier?
  let entity ← term.head.entity?
  some (.entity entity qualifier [])

end Term

/-! ## Derivations -/

/-- The operators of the loosest level. -/
inductive LooseOperator where
  | or
  | child
  | parent
  | notChild
  | notParent
  deriving DecidableEq

namespace LooseOperator

/-- The terminals of an operator: one mark, or two for an operator with `!`. -/
def yield : LooseOperator → List Terminal
  | or => [.mark .or]
  | child => [.mark .rangle]
  | parent => [.mark .langle]
  | notChild => [.mark .not, .mark .rangle]
  | notParent => [.mark .not, .mark .langle]

/-- The operator of a pattern that an operator of the grammar stands for. -/
def operator : LooseOperator → Operator
  | or => .or
  | child => .child
  | parent => .parent
  | notChild => .notChild
  | notParent => .notParent

end LooseOperator

/-- The levels of nesting, from the loosest inwards. -/
inductive Level where
  | expression
  | conjunction
  | operand
  | primary
  deriving DecidableEq

/-- Derivations of each level. -/
inductive Derivation : Level → Type where
  /-- `head` with its qualifiers. -/
  | ofTerm (term : Term) : Derivation .primary
  /-- `( inner )` -/
  | group (inner : Derivation .expression) : Derivation .primary
  | ofPrimary (primary : Derivation .primary) : Derivation .operand
  /-- `left = word` -/
  | name (left : Derivation .operand) (word : String) : Derivation .operand
  /-- `left ~ word`, where the word is a type. -/
  | type (left : Derivation .operand) (word : String) : Derivation .operand
  /-- `left { }` -/
  | emptyScope (left : Derivation .operand) : Derivation .operand
  /-- `left { inner }` -/
  | scope (left : Derivation .operand) (inner : Derivation .expression) : Derivation .operand
  | ofOperand (operand : Derivation .operand) : Derivation .conjunction
  /-- `left & right` -/
  | both (left : Derivation .conjunction) (right : Derivation .operand) : Derivation .conjunction
  /-- `left ~ right` -/
  | constraint (left : Derivation .conjunction) (right : Derivation .operand) :
      Derivation .conjunction
  | ofConjunction (conjunction : Derivation .conjunction) : Derivation .expression
  /-- `left operator right` -/
  | binary (left : Derivation .expression) (operator : LooseOperator)
      (right : Derivation .conjunction) : Derivation .expression

/-- The entity of a pattern with a name; a combination has none. -/
def named? (pattern : Pattern) (name : Field) : Option Pattern :=
  match pattern with
  | .entity (.func shape) q cs => some (.entity (.func { shape with name }) q cs)
  | .entity (.var shape) q cs => some (.entity (.var { shape with name }) q cs)
  | .entity (.record shape) q cs => some (.entity (.record { shape with name }) q cs)
  | .entity (.text _) q cs => some (.entity (.text name) q cs)
  | .combine .. => none

namespace Derivation

/-- The terminals that a derivation writes, each rule its own in order. -/
def yield {level : Level} : Derivation level → List Terminal
  | ofTerm term => term.yield
  | group inner => .mark .lparen :: inner.yield ++ [.mark .rparen]
  | ofPrimary primary => primary.yield
  | name left word => left.yield ++ [.mark .equal, .word word]
  | type left word => left.yield ++ [.mark .tilde, .word word]
  | emptyScope left => left.yield ++ [.mark .lcurly, .mark .rcurly]
  | scope left inner => left.yield ++ .mark .lcurly :: inner.yield ++ [.mark .rcurly]
  | ofOperand operand => operand.yield
  | both left right => left.yield ++ .mark .and :: right.yield
  | constraint left right => left.yield ++ .mark .tilde :: right.yield
  | ofConjunction conjunction => conjunction.yield
  | binary left operator right => left.yield ++ operator.yield ++ right.yield

/-- The pattern that a derivation stands for. -/
def pattern? {level : Level} : Derivation level → Option Pattern
  | ofTerm term => term.pattern?
  | group inner => inner.pattern?
  | ofPrimary primary => primary.pattern?
  | name left word => do
    let pattern ← left.pattern?
    let field ← field? word
    named? pattern field
  | type left word => do
    let pattern ← left.pattern?
    let field ← field? word
    bindType? pattern field
  | emptyScope left => left.pattern?
  | scope left inner => do
    let pattern ← left.pattern?
    let content ← inner.pattern?
    some (pattern.constrain content)
  | ofOperand operand => operand.pattern?
  | both left right => do
    let pattern ← left.pattern?
    let other ← right.pattern?
    some (.combine .and pattern other)
  | constraint left right => do
    let pattern ← left.pattern?
    let content ← right.pattern?
    some (pattern.constrain content)
  | ofConjunction conjunction => conjunction.pattern?
  | binary left operator right => do
    let pattern ← left.pattern?
    let other ← right.pattern?
    some (.combine operator.operator pattern other)

end Derivation

/-! ## Conditions on derivations -/

/-- The places of a derivation that conditions speak of. -/
inductive Site where
  | term (term : Term)
  | name (left : Derivation .operand) (word : String)
  | type (left : Derivation .operand) (word : String)
  /-- An operand with all its bindings and scopes. -/
  | operand (operand : Derivation .operand)

namespace Site

/-- The texts that are read as regular expressions. -/
def fieldTexts : Site → List String
  | .term t => t.scopes ++ t.head.fieldTexts
  | name _ word | type _ word => [word]
  | operand _ => []

/-- The lower-cased words of an attribute list. -/
def attributeNames : Site → List String
  | .term t => t.head.attributeWords.map Text.lowercase
  | name .. | type .. | operand _ => []

end Site

/-- Whether a word before the terminals stands alone: an operator, a closing delimiter or nothing
follows it. -/
def standsAlone : List Terminal → Bool
  | [] => true
  | .mark kind :: _ =>
    kind ∈ [.and, .or, .tilde, .rangle, .langle, .not, .equal, .rparen, .rcurly]
  | .word _ :: _ => false

namespace Derivation

/-- The places of a derivation, each with the terminals that follow it, if `rest` follows the
derivation. -/
def sites {level : Level} : Derivation level → List Terminal → List (Site × List Terminal)
  | ofTerm term, rest => [(.term term, rest)]
  | group inner, rest => inner.sites (.mark .rparen :: rest)
  | ofPrimary primary, rest => primary.sites rest
  | name left word, rest =>
    (.name left word, rest) :: left.sites (.mark .equal :: .word word :: rest)
  | type left word, rest =>
    (.type left word, rest) :: left.sites (.mark .tilde :: .word word :: rest)
  | emptyScope left, rest => left.sites (.mark .lcurly :: .mark .rcurly :: rest)
  | scope left inner, rest =>
    left.sites (.mark .lcurly :: inner.yield ++ .mark .rcurly :: rest) ++
      inner.sites (.mark .rcurly :: rest)
  | ofOperand operand, rest => (.operand operand, rest) :: operand.sites rest
  | both left right, rest =>
    left.sites (.mark .and :: right.yield ++ rest) ++ (.operand right, rest) :: right.sites rest
  | constraint left right, rest =>
    left.sites (.mark .tilde :: right.yield ++ rest) ++ (.operand right, rest) :: right.sites rest
  | ofConjunction conjunction, rest => conjunction.sites rest
  | binary left operator right, rest =>
    left.sites (operator.yield ++ right.yield ++ rest) ++ right.sites rest

end Derivation

/-- Whether a derivation stands for a function or a variable. -/
def Derivation.isTyped {level : Level} (derivation : Derivation level) : Bool :=
  derivation.pattern?.any Query.isTyped

/-- Whether a tilde and a word after an operand are a type binding exactly when the operand stands
for a function or a variable and the word stands alone. -/
def tildeBinds : Site × List Terminal → Bool
  | (.type left _, rest) => left.isTyped && standsAlone rest
  | (.operand operand, .mark .tilde :: .word _ :: rest) => !(operand.isTyped && standsAlone rest)
  | _ => true

/-- Whether a name is given to an entity, not to a combination. -/
def namesEntity : Site → Bool
  | .name left _ => left.pattern?.all Pattern.isEntity
  | _ => true

/-- A `<` after a head opens a template list exactly when the head has one. -/
def templateFits : Site × List Terminal → Prop
  | (.term term, rest) => term.head.TemplateFits rest
  | _ => True

namespace Derivation

variable {level : Level} (derivation : Derivation level)

/-- Every field is a regular expression. -/
def FieldsCompile : Prop :=
  ∀ site ∈ derivation.sites [], ∀ text ∈ site.1.fieldTexts, (field? text).isSome = true

/-- No attribute list asks for two kinds of access. -/
def AccessAgrees : Prop :=
  ∀ site ∈ derivation.sites [], OneAccess site.1.attributeNames

/-- Names are given to entities only, never to combinations. -/
def NamesEntities : Prop :=
  ∀ site ∈ derivation.sites [], namesEntity site.1 = true

/-- Each tilde with a word after an operand is a type binding exactly when the operand stands for
a function or a variable and the word stands alone. -/
def TildesBind : Prop :=
  ∀ site ∈ derivation.sites [], tildeBinds site = true

instance : Decidable derivation.FieldsCompile :=
  inferInstanceAs (Decidable (∀ site ∈ derivation.sites [], ∀ text ∈ site.1.fieldTexts, _ = true))

instance : Decidable derivation.AccessAgrees :=
  inferInstanceAs (Decidable (∀ site ∈ derivation.sites [], OneAccess site.1.attributeNames))

instance : Decidable derivation.NamesEntities :=
  inferInstanceAs (Decidable (∀ site ∈ derivation.sites [], _ = true))

instance : Decidable derivation.TildesBind :=
  inferInstanceAs (Decidable (∀ site ∈ derivation.sites [], _ = true))

end Derivation

end Grammar

end StructSearch.Query

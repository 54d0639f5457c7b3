import StructSearch.Query.Token

/-!
# Errors of a query

Why a query is not a pattern, with the byte of the query that the error points at, and the wording
of each reason.

Errors come from three places: the reading of tokens, the reading of a pattern from them, and the
engine of regular expressions, whose own words are kept. Each of them has a message of its own form.
-/

namespace StructSearch.Query

/-- Why the text of a query is not a sequence of tokens. Everything else can be cut into tokens. -/
inductive LexFault where
  /-- A backslash without the letter of an entity; `found` is what follows it. -/
  | sigil (found : Option Char)
  /-- A slash that no other slash closes. -/
  | unterminated
  /-- Two slashes with nothing between them. -/
  | emptyLiteral
  deriving Repr, DecidableEq, Inhabited

/-- The fault in words. -/
def LexFault.describe : LexFault → String
  | sigil found =>
    "expected one of \\F, \\T, \\V, \\P but found '\\' followed by " ++
      match found with
      | some c => "'" ++ c.toString ++ "'"
      | none => "end of input"
  | unterminated => "unterminated '/' delimited data"
  | emptyLiteral => "empty '/' delimited data"

/-- What the grammar allows at a place of a query. Each rule that can be left without what it needs
has a text of its own for it. -/
inductive Expected where
  | pattern
  | operator
  | angleAfterNot
  | nameAfterEqual
  | typeAfterTilde
  | closingParen
  | closingCurly
  | className
  | typeName
  | parameter
  | commaOrParen
  | commaOrAngle
  | attributeName
  | commaOrSquare
  deriving Repr, DecidableEq, Inhabited

/-- What is allowed, in words. -/
def Expected.describe : Expected → String
  | pattern => "a pattern"
  | operator => "an operator"
  | angleAfterNot => "'>' or '<' after '!'"
  | nameAfterEqual => "a name after '='"
  | typeAfterTilde => "a type after '~'"
  | closingParen => "')'"
  | closingCurly => "'\x7d'"
  | className => "a class name after '#'"
  | typeName => "a type name"
  | parameter => "a parameter"
  | commaOrParen => "',' or ')'"
  | commaOrAngle => "',' or '>'"
  | attributeName => "an attribute name"
  | commaOrSquare => "',' or ']'"

/-- Why a sequence of tokens is not a pattern, apart from its end and from the texts of its fields.
-/
inductive ParseFault where
  /-- Another token stands where the grammar allows something else. -/
  | unexpected (expected : Expected) (found : Token.Kind)
  /-- Two different access attributes on one entity. -/
  | accessConflict (first second : String)
  /-- A name bound to a combination of patterns. -/
  | nameOnCombination
  deriving Repr, DecidableEq, Inhabited

/-- The fault in words. -/
def ParseFault.describe : ParseFault → String
  | unexpected expected found => "expected " ++ expected.describe ++ " but found " ++ found.describe
  | accessConflict first second =>
    "conflicting access attributes '" ++ first ++ "' and '" ++ second ++ "'"
  | nameOnCombination => "'=' must follow a single entity, not a combined pattern"

/-- Why a query is not a pattern. Reading stops at the first error, and all tokens are read before
any pattern is. -/
inductive Error where
  /-- The text at a byte offset is no token. -/
  | lex (offset : Nat) (fault : LexFault)
  /-- The token at a byte offset does not fit. -/
  | parse (offset : Nat) (fault : ParseFault)
  /-- The query ends where something is still expected. -/
  | ended (expected : Expected)
  /-- The field at a byte offset is no regular expression, as the engine says in its own words. -/
  | regex (source : String) (offset : Nat) (detail : String)
  deriving Repr, DecidableEq, Inhabited

namespace Error

/-- The message for a text that is no token. -/
def lexMessage (offset : Nat) (detail : String) : String :=
  "invalid pattern at offset " ++ toString offset ++ ": " ++ detail

/-- The message for a token that does not fit. -/
def parseMessage (offset : Nat) (detail : String) : String :=
  "unexpected token at offset " ++ toString offset ++ ": " ++ detail

/-- The message for a query that ends too early. -/
def endedMessage (detail : String) : String := "unexpected end of pattern: " ++ detail

/-- The message for a field that is no regular expression. -/
def regexMessage (source : String) (offset : Nat) (detail : String) : String :=
  "invalid regular expression '" ++ source ++ "' at offset " ++ toString offset ++ ": " ++ detail

/-- The error in words. -/
def message : Error → String
  | lex offset fault => lexMessage offset fault.describe
  | parse offset fault => parseMessage offset fault.describe
  | ended expected => endedMessage ("expected " ++ expected.describe)
  | regex source offset detail => regexMessage source offset detail

/-- The byte of the query that an error points at; none if the query ended too early. -/
def offset? : Error → Option Nat
  | lex offset _ => some offset
  | parse offset _ => some offset
  | ended _ => none
  | regex _ offset _ => some offset

end Error

end StructSearch.Query

/-!
# Tokens of a query

A query is a sequence of words, entity sigils and punctuation. A token keeps the bytes of the
query that it covers; the text of a word written between slashes leaves the slashes out.

Sorts of tokens know how messages name them, and punctuation of one character is told from the
character alone. Punctuation of several characters is left to the reading of tokens.
-/

namespace StructSearch.Query

/-- The letters after a backslash, one for each sort of entity that needs no name: functions,
classes, variables and parameters. -/
inductive Sigil where
  | func
  | type
  | var
  | param
  deriving Repr, DecidableEq, Inhabited

namespace Sigil

/-- The letter of a sigil. -/
def letter : Sigil → Char
  | func => 'F'
  | type => 'T'
  | var => 'V'
  | param => 'P'

/-- The sigil with a letter. Only capital letters are sigils. -/
def ofLetter? : Char → Option Sigil
  | 'F' => some func
  | 'T' => some type
  | 'V' => some var
  | 'P' => some param
  | _ => none

theorem ofLetter?_eq_some_iff {c : Char} {s : Sigil} : ofLetter? c = some s ↔ c = s.letter := by
  constructor
  · unfold ofLetter?
    split <;> simp_all <;> rintro rfl <;> rfl
  · rintro rfl
    cases s <;> rfl

end Sigil

namespace Token

/-- The sorts of tokens. Apart from words, a token is known by its sort alone. -/
inductive Kind where
  /-- A bare word, or a text between slashes. -/
  | data
  /-- A backslash and the letter of an entity. -/
  | sigil (sigil : Sigil)
  | tilde
  | and
  | or
  | lparen
  | rparen
  | equal
  | langle
  | rangle
  | not
  | colon
  | doubleColon
  | comma
  | ellipsis
  | pound
  | lcurly
  | rcurly
  | lsquare
  | rsquare
  deriving Repr, DecidableEq, Inhabited

/-- How messages name a sort of tokens. -/
def Kind.describe : Kind → String
  | data => "data"
  | sigil s => "'\\" ++ s.letter.toString ++ "'"
  | tilde => "'~'"
  | and => "'&'"
  | or => "'|'"
  | lparen => "'('"
  | rparen => "')'"
  | equal => "'='"
  | langle => "'<'"
  | rangle => "'>'"
  | not => "'!'"
  | colon => "':'"
  | doubleColon => "'::'"
  | comma => "','"
  | ellipsis => "'...'"
  | pound => "'#'"
  | lcurly => "'\x7b'"
  | rcurly => "'\x7d'"
  | lsquare => "'['"
  | rsquare => "']'"

/-- Every sort of tokens. -/
def Kind.all : List Kind := [
  data, sigil .func, sigil .type, sigil .var, sigil .param, tilde, and, or, lparen,
  rparen, equal, langle, rangle, not, colon, doubleColon, comma, ellipsis, pound, lcurly, rcurly,
  lsquare, rsquare]

/-- The sort with a name as written by `describe`. -/
def Kind.ofDescription? (text : String) : Option Kind := Kind.all.find? (·.describe == text)

/-- The sort of the punctuation that is a single character. -/
def Kind.ofPunctuation? : Char → Option Kind
  | '~' => some tilde
  | '&' => some and
  | '|' => some or
  | '(' => some lparen
  | ')' => some rparen
  | '=' => some equal
  | '<' => some langle
  | '>' => some rangle
  | '!' => some not
  | ':' => some colon
  | ',' => some comma
  | '#' => some pound
  | '{' => some lcurly
  | '}' => some rcurly
  | '[' => some lsquare
  | ']' => some rsquare
  | _ => none

end Token

/-- A token with the bytes from `start` up to `stop` of the query that it covers. The text of a word
between slashes is without them, so it is shorter than what the token covers. -/
structure Token where
  kind : Token.Kind
  text : String
  start : Nat
  stop : Nat
  deriving Repr, DecidableEq, Inhabited

end StructSearch.Query

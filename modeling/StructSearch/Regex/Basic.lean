import StructSearch.Regex.CharSet
import StructSearch.Regex.Engine

/-!
# Regular expressions

The program comes with an engine of its own, which reads, measures and runs the expressions
defined here: expressions over character sets and assertions. An expression keeps the shape in which
it was written: a sequence or a choice of more than two parts leans to the right, and its parts are
sequences or choices only inside a group.
-/

namespace StructSearch.Regex

/-- A condition on a place in the subject that reads no character: at its start or end, at the start
or end of a line, or with regard to the word characters on both sides. -/
inductive Anchor where
  | textStart
  | textEnd
  | lineStart
  | lineEnd
  | crlfLineStart
  | crlfLineEnd
  | wordBoundary
  | notWordBoundary
  | wordStart
  | wordEnd
  | wordStartHalf
  | wordEndHalf
  deriving Repr, DecidableEq, Inhabited

/-- A regular expression. Laziness and the numbers of groups say which match is preferred and what
is remembered of it, and have no part in what an expression matches. -/
inductive Expr where
  /-- The empty text. -/
  | empty
  /-- One character of a set. -/
  | one (set : CharSet)
  /-- The empty text at a place where the assertion holds. -/
  | look (anchor : Anchor)
  /-- The first expression followed by the second. -/
  | seq (first second : Expr)
  /-- One of two expressions. -/
  | either (left right : Expr)
  /-- At least `least` and, if given, at most `most` repetitions; a lazy one prefers fewer. -/
  | times (body : Expr) (least : Nat) (most : Option Nat) (isLazy : Bool)
  /-- An expression between parentheses, with its number if what it matches is remembered. -/
  | group (index : Option Nat) (body : Expr)
  deriving Repr, DecidableEq, Inhabited

/-- The reason in words. -/
def Fault.describe : Fault → String
  | groupUnclosed => "unclosed group"
  | groupUnopened => "unopened group"
  | groupName => "invalid group name"
  | groupNameTwice => "duplicate group name"
  | lookAround => "look-around is not supported"
  | flag => "invalid flags"
  | nothingToRepeat => "repetition operator missing expression"
  | repetitionCount => "invalid repetition count"
  | classUnclosed => "unclosed character class"
  | classRange => "invalid character class range"
  | classItem => "invalid escape in a character class"
  | escape => "unrecognized escape sequence"
  | unicodeClass => "Unicode class not found"
  | nesting => "expression nested too deeply"
  | size => "expression too large when compiled"

end StructSearch.Regex

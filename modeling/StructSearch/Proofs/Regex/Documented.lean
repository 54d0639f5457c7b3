import Mathlib.Data.Nat.Notation
import StructSearch.Regex.Engine

/-!
# What engines promise

The texts of fields are pasted into longer ones, so that what a field accepts depends on how an
engine reads a text inside another. This module states what the usual documentation of regular
expressions says about that, as laws that an engine may have. Each law is about one construct:
single characters, sequences, groups, comments, and parentheses that nothing opened.

An engine only tells whether an expression matches somewhere. The laws speak of the stretches of a
subject that an expression matches, from one place between its characters to another.

Results:
* `Engine.Documented`: the laws.
-/

namespace StructSearch.Regex

/-- A `#` stands in the last line of a text, so that its end may lie in a comment. -/
def HashInLastLine (text : List Char) : Prop :=
  ∃ front comment, text = front ++ '#' :: comment ∧ '\n' ∉ comment

namespace Engine

variable [Engine]

/-- The text of an expression that ends in a comment: a parenthesis behind it is not seen. -/
def EndsInComment (text : String) : Prop :=
  ∃ expr, read text = .ok expr ∧ read (text ++ ")") = .ok expr

/-- A text between the parentheses of a group that is not remembered. -/
def grouped (text : String) : String := "(?:" ++ text ++ ")"

/-- Two expressions that match the same stretches. -/
def Same (spans : Expr → String → ℕ → ℕ → Prop) (expr other : Expr) : Prop :=
  ∀ subject start stop, spans expr subject start stop ↔ spans other subject start stop

/-- An expression that matches what one expression matches, followed by what another matches. -/
def Follows (spans : Expr → String → ℕ → ℕ → Prop) (first second whole : Expr) : Prop :=
  ∀ subject start stop, spans whole subject start stop ↔
    ∃ place, spans first subject start place ∧ spans second subject place stop

/-- The laws of an engine whose expressions match the stretches of subjects that `spans` says. -/
structure Documented (spans : Expr → String → ℕ → ℕ → Prop) : Prop where
  /-- An expression matches if it matches a stretch anywhere in the subject. -/
  search : ∀ expr subject, isMatch expr subject = true ↔ ∃ start stop, spans expr subject start stop
  /-- A match does not go beyond the subject. -/
  inside : ∀ expr subject start stop, spans expr subject start stop → stop ≤ subject.length
  /-- `^` is the beginning of the subject. -/
  beginning : ∃ expr, read "^" = .ok expr ∧
    ∀ subject start stop, spans expr subject start stop ↔ start = 0 ∧ stop = 0
  /-- `.*` is any number of characters, so it matches no characters at any place. -/
  anything : ∃ expr, read ".*" = .ok expr ∧
    ∀ subject place, place ≤ subject.length → spans expr subject place place
  /-- `(?:x)` is a group that matches what `x` matches, unless its parenthesis is lost in a
  comment. -/
  group : ∀ text expr, read text = .ok expr → ¬EndsInComment text →
    ∃ other, read (grouped text) = .ok other ∧ Same spans other expr
  /-- `cx` is `c` followed by `x`, for a single character `c` that is an expression and not the
  mark of a choice, and a group `x`. -/
  sequence : ∀ c text first expr second, c ≠ '|' → read (String.singleton c) = .ok first →
    read text = .ok expr → ¬EndsInComment text → read (grouped text) = .ok second →
    ∃ whole, read (String.singleton c ++ grouped text) = .ok whole ∧
      Follows spans first second whole
  /-- A group that is opened behind such a character is closed, and what stands in it is an
  expression. -/
  closed : ∀ c rest first whole, c ≠ '|' → read (String.singleton c) = .ok first →
    read (String.singleton c ++ "(?:" ++ rest) = .ok whole →
    ∃ inner behind, rest = inner ++ ")" ++ behind ∧ (∃ expr, read inner = .ok expr) ∧
      ¬EndsInComment inner
  /-- A parenthesis behind an expression closes nothing, whatever comes after it, and is refused
  for that. -/
  unopened : ∀ text expr, read text = .ok expr → ¬EndsInComment text →
    ∀ behind, read (text ++ ")" ++ behind) = .error .groupUnopened
  /-- A comment starts with `#` and ends with its line. -/
  comment : ∀ text, EndsInComment text → HashInLastLine text.toList

end Engine

end StructSearch.Regex

/-!
# Engines of regular expressions

The fields of a pattern are regular expressions. The program does not read or run them itself: it
hands their texts to an engine, which it uses through the few operations below. Everything that is
built on fields, from the reading of a query to the search, is stated for an arbitrary engine.
-/

namespace StructSearch.Regex

/-- Why a text is not a regular expression: a reason that lies in its syntax or, for the last two,
a limit that the expression breaks. -/
inductive Fault where
  | groupUnclosed
  | groupUnopened
  | groupName
  | groupNameTwice
  | lookAround
  | flag
  | nothingToRepeat
  | repetitionCount
  | classUnclosed
  | classRange
  | classItem
  | escape
  | unicodeClass
  | nesting
  | size
  deriving Repr, DecidableEq, Inhabited

/-- What the program uses of an engine. An engine is a parameter of everything that depends on
one, and is found by its type, so that no pattern and no statement about patterns names it. -/
class Engine where
  /-- What a text is read as. -/
  Expr : Type
  /-- Expressions can be compared. -/
  decEqExpr : DecidableEq Expr
  /-- Reads a text as an expression, by its syntax alone. -/
  read : String → Except Fault Expr
  /-- The limit on nesting or on size that an expression breaks, if it breaks one. -/
  excess? : Expr → Option Fault
  /-- The words in which the engine refuses a text for a reason. -/
  describe : String → Fault → String
  /-- Whether an expression matches somewhere in a subject. -/
  isMatch : Expr → String → Bool

namespace Engine

variable [Engine]

instance : DecidableEq Expr := decEqExpr

/-- The expression with a text, which must be one by its syntax and break none of the limits. -/
def compile (text : String) : Except Fault Expr := do
  let expr ← read text
  match excess? expr with
  | some fault => .error fault
  | none => .ok expr

/-- Compiling succeeds exactly on the texts that can be read and keep to the limits. -/
theorem compile_eq_ok_iff {text : String} {expr : Expr} :
    compile text = .ok expr ↔ read text = .ok expr ∧ excess? expr = none := by
  unfold compile
  cases read text with
  | error fault => simp [bind, Except.bind]
  | ok found =>
    cases hexcess : excess? found with
    | some fault =>
      simp only [bind, Except.bind, hexcess, Except.ok.injEq, reduceCtorEq, false_iff, not_and]
      rintro rfl
      simp [hexcess]
    | none =>
      simp only [bind, Except.bind, hexcess, Except.ok.injEq]
      constructor
      · rintro rfl
        exact ⟨rfl, hexcess⟩
      · exact fun h => h.1

end Engine

end StructSearch.Regex

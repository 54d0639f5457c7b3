import StructSearch.Regex.Engine

/-!
# Fields

The names, types and texts of a pattern are regular expressions that must match from the start of
a spelling: `foo` accepts `foo` and `foobar`, and `foo$` only the first. The field `.*` stands for
"anything" and holds no expression.

The engine of regular expressions is a parameter. A field keeps its text beside what the engine made
of it, so that a pattern can be printed.
-/

namespace StructSearch.Query

/-- A field: its text in the query and the expression that it stands for, if it restricts
anything. -/
structure Field [Regex.Engine] where
  source : String
  expr : Option Regex.Engine.Expr
  deriving DecidableEq

namespace Field

variable [Regex.Engine]

/-- The text of the field that accepts everything. -/
def anySource : String := ".*"

/-- The field that accepts everything. -/
def any : Field := ⟨anySource, none⟩

instance : Inhabited Field := ⟨any⟩

instance : Repr Field := ⟨fun field => reprPrec field.source⟩

/-- Whether a field accepts everything. -/
def isAny (field : Field) : Bool := field.expr.isNone

/-- The text of an expression tied to the start of the subject. -/
def anchored (source : String) : String := "^(?:" ++ source ++ ")"

/-- The field with a text, or the words in which the engine refuses it. The text is put between
`^(?:` and `)` and compiled as one expression; it is not looked at on its own. The text that
accepts everything is not compiled at all. -/
def compile (source : String) : Except String Field :=
  if source = anySource then .ok any
  else match Regex.Engine.compile (anchored source) with
    | .ok expr => .ok ⟨source, some expr⟩
    | .error fault => .error (Regex.Engine.describe (anchored source) fault)

/-- Which fields texts are compiled to. A text has at most one, and the field keeps the text as it
was given. -/
theorem compile_eq_ok_iff {source : String} {field : Field} :
    compile source = .ok field ↔
      source = anySource ∧ field = any ∨
        source ≠ anySource ∧ ∃ expr, Regex.Engine.compile (anchored source) = .ok expr ∧
          field = ⟨source, some expr⟩ := by
  unfold compile
  split
  · next h => simp [h, eq_comm]
  · next h =>
    cases Regex.Engine.compile (anchored source) with
    | error fault => simp [h]
    | ok expr => simp [h, eq_comm]

/-- Whether a field accepts a spelling. -/
def accepts (field : Field) (subject : String) : Bool :=
  match field.expr with
  | none => true
  | some expr => Regex.Engine.isMatch expr subject

end Field

end StructSearch.Query

import StructSearch.Regex.Height
import StructSearch.Regex.Match
import StructSearch.Regex.Parser
import StructSearch.Regex.Size

/-!
# The engine of the program

The engine that the program runs with. An expression can be used if it is not nested too deeply and
does not ask for automata beyond the limit. It reads the usual syntax but for classes named after
properties of characters and for the matching of bytes.
-/

namespace StructSearch.Regex

/-- The height that an expression may have. -/
def maxHeight : Nat := 250

/-- The limit that an expression breaks, if it breaks one: that on its height is tested first. -/
def Expr.excess? (expr : Expr) : Option Fault :=
  if maxHeight < expr.height then some .nesting
  else if !expr.plan.fits then some .size
  else none

/-- The engine of the program. It describes a fault by the reason alone, without the text that it is
about. -/
instance builtin : Engine where
  Expr := Expr
  decEqExpr := inferInstance
  read text := Expr.parse text.toList
  excess? := Expr.excess?
  describe _ fault := fault.describe
  isMatch := Expr.isMatch

end StructSearch.Regex

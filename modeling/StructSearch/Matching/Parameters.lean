import StructSearch.Query.Pattern

/-!
# Parameter lists

The entries of a parameter list are compared with the actual parameters from left to right. After
an ellipsis, actual parameters that do not fit the next entry are skipped until one fits; that one
is taken and never reconsidered. Actual parameters may be left over only after a final ellipsis.

This is how functions, calls and templates are compared with the parameter lists of a pattern. There
is no search over assignments: every actual parameter is looked at once.
-/

namespace StructSearch.Matching

variable [Regex.Engine]

open Query

variable {α : Type}

/-- The actual parameters from the first that can be taken for an entry: after an ellipsis those
that do not fit are skipped. -/
def skipTo (accepts : Field → Field → α → Bool) (lenient : Bool) (name type : Field)
    (actual : List α) : List α :=
  if lenient then actual.dropWhile fun a => !accepts name type a else actual

/-- Whether the actual parameters fit the entries; `lenient` after an ellipsis. Each entry takes one
actual parameter and ends the leniency; several ellipses in a row are as good as one. -/
def parametersFitFrom (accepts : Field → Field → α → Bool) :
    Bool → List Parameter → List α → Bool
  | lenient, [], actual => lenient || actual.isEmpty
  | _, .ellipsis :: entries, actual => parametersFitFrom accepts true entries actual
  | lenient, .typed name type :: entries, actual =>
    match skipTo accepts lenient name type actual with
    | [] => false
    | a :: rest => accepts name type a && parametersFitFrom accepts false entries rest

/-- Whether the actual parameters fit the entries of a parameter list, given which actual
parameters the name and type of an entry accept. -/
def parametersFit (accepts : Field → Field → α → Bool) (entries : List Parameter)
    (actual : List α) : Bool :=
  parametersFitFrom accepts false entries actual

/-- A question whether an entry accepts an actual parameter, with its answer, as it is recorded for
a look at how the comparison went. -/
structure Trial (α : Type) where
  name : Field
  type : Field
  actual : α
  accepted : Bool

/-- The questions that are asked in turn to compare actual parameters with entries: one for each
that is skipped, one for the one that is taken. The first refusal without leniency ends them. -/
def trialsFrom (accepts : Field → Field → α → Bool) :
    Bool → List Parameter → List α → List (Trial α)
  | _, [], _ => []
  | _, .ellipsis :: entries, actual => trialsFrom accepts true entries actual
  | lenient, .typed name type :: entries, actual =>
    let skipped := if lenient then actual.takeWhile fun a => !accepts name type a else []
    let misses := skipped.map fun a => Trial.mk name type a false
    match skipTo accepts lenient name type actual with
    | [] => misses
    | a :: rest =>
      let accepted := accepts name type a
      misses ++ Trial.mk name type a accepted ::
        if accepted then trialsFrom accepts false entries rest else []

/-- The questions asked by `parametersFit`, in order. -/
def trials (accepts : Field → Field → α → Bool) (entries : List Parameter)
    (actual : List α) : List (Trial α) :=
  trialsFrom accepts false entries actual

end StructSearch.Matching

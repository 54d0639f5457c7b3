import StructSearch.Regex.Basic

/-!
# Height of an expression

The height counts the layers of an expression as it was written. Groups, repetitions, brackets and
operators between sets are a layer each. A sequence or a choice is one layer however many parts it
has, and so are the items of a class if there are several; a part that stands alone adds none.
-/

namespace StructSearch.Regex

/-- The height of a set; `inItems` says that it continues the items of a class, whose layer is
counted already. -/
def CharSet.heightFrom (inItems : Bool) : CharSet → Nat
  | ranges _ | digit | space | word => 0
  | union items item =>
    match items with
    | ranges [] => item.heightFrom false
    | _ => (if inItems then 0 else 1) + max (items.heightFrom true) (item.heightFrom false)
  | inter left right | diff left right | symmDiff left right =>
    1 + max (left.heightFrom false) (right.heightFrom false)
  | compl set | foldCase set => set.heightFrom false
  | bracket set => 1 + set.heightFrom false

/-- The height of a set. -/
def CharSet.height (set : CharSet) : Nat := set.heightFrom false

/-- The two ways of joining parts. -/
inductive Join where
  | sequence
  | choice
  deriving Repr, DecidableEq, Inhabited

/-- The height of an expression; `inside` says that it continues parts of that kind, whose layer
is counted already. -/
def Expr.heightFrom (inside : Option Join) : Expr → Nat
  | empty | look _ => 0
  | one set => set.height
  | seq first second =>
    (if inside = some .sequence then 0 else 1) +
      max (first.heightFrom none) (second.heightFrom (some .sequence))
  | either left right =>
    (if inside = some .choice then 0 else 1) +
      max (left.heightFrom none) (right.heightFrom (some .choice))
  | times body _ _ _ => 1 + body.heightFrom none
  | group _ body => 1 + body.heightFrom none

/-- The height of an expression. -/
def Expr.height (expr : Expr) : Nat := expr.heightFrom none

end StructSearch.Regex

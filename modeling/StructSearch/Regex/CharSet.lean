import StructSearch.Text.Blank
import StructSearch.Text.Case
import StructSearch.Text.Letters

/-!
# Character sets

The sets of characters that a regular expression can write: ranges, the classes of digits, white
space and word characters, the Boolean operations on sets, and the closure of a set under
differences of case.
-/

namespace StructSearch.Regex

/-- A set of characters as an expression, in the shape in which it was written. It is asked for its
members in matching, and for its intervals when an automaton is measured. -/
inductive CharSet where
  /-- The characters whose code points lie in one of the closed ranges. -/
  | ranges (list : List (Nat × Nat))
  /-- Decimal digits. -/
  | digit
  /-- White space. -/
  | space
  /-- Word characters. -/
  | word
  /-- Characters in one of two sets. -/
  | union (left right : CharSet)
  /-- Characters in both sets. -/
  | inter (left right : CharSet)
  /-- Characters in the first set and not in the second. -/
  | diff (left right : CharSet)
  /-- Characters in exactly one of two sets. -/
  | symmDiff (left right : CharSet)
  /-- Characters outside a set. -/
  | compl (set : CharSet)
  /-- Characters that differ from a member by case alone. -/
  | foldCase (set : CharSet)
  /-- A set written between brackets. -/
  | bracket (set : CharSet)
  deriving Repr, DecidableEq, Inhabited

namespace CharSet

/-- Membership of a character, by the structure of the set. -/
def contains : CharSet → Char → Bool
  | ranges list, c => Text.inRanges list c.toNat
  | digit, c => Text.isDecimalDigit c
  | space, c => Text.isBlank c
  | word, c => Text.isWordChar c
  | union s t, c => s.contains c || t.contains c
  | inter s t, c => s.contains c && t.contains c
  | diff s t, c => s.contains c && !t.contains c
  | symmDiff s t, c => s.contains c != t.contains c
  | compl s, c => !s.contains c
  | foldCase s, c => (Text.foldClass c).any fun d => s.contains d
  | bracket s, c => s.contains c

/-- The set without members. -/
def none : CharSet := ranges []

/-- The set of all characters. -/
def all : CharSet := compl none

/-- The set of one character. -/
def single (c : Char) : CharSet := ranges [(c.toNat, c.toNat)]

/-- The set of the characters of a list. -/
def ofChars (chars : List Char) : CharSet := ranges (chars.map fun c => (c.toNat, c.toNat))

/-- The ASCII class with a name such as `alpha`, as written between `[:` and `:]`. -/
def ascii? (name : String) : Option CharSet :=
  match name with
  | "alnum" => some (ranges [(48, 57), (65, 90), (97, 122)])
  | "alpha" => some (ranges [(65, 90), (97, 122)])
  | "ascii" => some (ranges [(0, 127)])
  | "blank" => some (ranges [(9, 9), (32, 32)])
  | "cntrl" => some (ranges [(0, 31), (127, 127)])
  | "digit" => some (ranges [(48, 57)])
  | "graph" => some (ranges [(33, 126)])
  | "lower" => some (ranges [(97, 122)])
  | "print" => some (ranges [(32, 126)])
  | "punct" => some (ranges [(33, 47), (58, 64), (91, 96), (123, 126)])
  | "space" => some (ranges [(9, 13), (32, 32)])
  | "upper" => some (ranges [(65, 90)])
  | "word" => some (ranges [(48, 57), (65, 90), (95, 95), (97, 122)])
  | "xdigit" => some (ranges [(48, 57), (65, 70), (97, 102)])
  | _ => .none

end CharSet

end StructSearch.Regex

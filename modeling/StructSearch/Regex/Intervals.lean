import StructSearch.Regex.CharSet

/-!
# Sets as intervals

Every set of characters is a list of intervals in increasing order with gaps between them.
Characters are numbered without the surrogates, so that the last one before the surrogates and the
first one after them are neighbours.
-/

namespace StructSearch.Regex

/-- The number of a code point when the surrogates are left out. -/
def rank (code : Nat) : Nat := if code < 0xD800 then code else code - 0x800

/-- The code point with a number. -/
def codeOfRank (rank : Nat) : Nat := if rank < 0xD800 then rank else rank + 0x800

/-- The number of the last character. -/
def lastRank : Nat := 0x10F7FF

/-- The interval from `low` to `high` and the intervals after it, which start no earlier, with
neighbours joined. -/
def joinFrom (low high : Nat) : List (Nat × Nat) → List (Nat × Nat)
  | [] => [(low, high)]
  | (l, h) :: rest =>
    if l ≤ high + 1 then joinFrom low (max high h) rest else (low, high) :: joinFrom l h rest

/-- The intervals in increasing order, with neighbours joined. -/
def canonical (intervals : List (Nat × Nat)) : List (Nat × Nat) :=
  match intervals.mergeSort fun a b => a.1 ≤ b.1 with
  | [] => []
  | (low, high) :: rest => joinFrom low high rest

/-- The characters from `next` on that lie outside the intervals. -/
def gapsFrom (next : Nat) : List (Nat × Nat) → List (Nat × Nat)
  | [] => if next ≤ lastRank then [(next, lastRank)] else []
  | (low, high) :: rest =>
    if next < low then (next, low - 1) :: gapsFrom (high + 1) rest else gapsFrom (high + 1) rest

/-- The characters outside the intervals. -/
def gaps (intervals : List (Nat × Nat)) : List (Nat × Nat) := gapsFrom 0 intervals

/-- The characters in both lists of intervals. -/
def overlap (left right : List (Nat × Nat)) : List (Nat × Nat) :=
  gaps (canonical (gaps left ++ gaps right))

/-- Every code point with a simple case folding, and that folding, as numbers of characters. -/
def foldPairs : List (Nat × Nat) :=
  Text.foldRuns.flatMap fun (low, high, stride, target) =>
    (List.range ((high - low) / stride + 1)).map fun k =>
      (rank (low + k * stride), rank (target + k * stride))

/-- The intervals with every character that differs from a member by case alone: first the
foldings of members are added, then everything that folds to a member. -/
def closeCase (intervals : List (Nat × Nat)) : List (Nat × Nat) :=
  let folded := foldPairs.filterMap fun (source, target) =>
    if Text.inRanges intervals source then some (target, target) else none
  let withFolded := canonical (intervals ++ folded)
  let sources := foldPairs.filterMap fun (source, target) =>
    if Text.inRanges withFolded target then some (source, source) else none
  canonical (withFolded ++ sources)

/-- The intervals of a set, as numbers of characters in increasing order. -/
def CharSet.intervals : CharSet → List (Nat × Nat)
  | ranges list => canonical (list.map fun (low, high) => (rank low, rank high))
  | digit => Text.decimalDigitRanges.map fun (low, high) => (rank low, rank high)
  | space => Text.blankRanges.map fun (low, high) => (rank low, rank high)
  | word => Text.wordRanges.map fun (low, high) => (rank low, rank high)
  | union left right => canonical (left.intervals ++ right.intervals)
  | inter left right => overlap left.intervals right.intervals
  | diff left right => overlap left.intervals (gaps right.intervals)
  | symmDiff left right =>
    let left := left.intervals
    let right := right.intervals
    canonical (overlap left (gaps right) ++ overlap right (gaps left))
  | compl set => gaps set.intervals
  | foldCase set => closeCase set.intervals
  | bracket set => set.intervals

/-- The ranges of code points of a set; a range that passes over the surrogates does not hold
them. -/
def CharSet.codeRanges (set : CharSet) : List (Nat × Nat) :=
  set.intervals.map fun (low, high) => (codeOfRank low, codeOfRank high)

end StructSearch.Regex

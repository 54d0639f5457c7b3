/-!
# Byte ranges

A range of code points falls into parts whose encodings all have one length and, byte by byte, run
through a range of values of their own: `é` to `ÿ` is the byte `0xC3` followed by `0xA9` to `0xBF`.
-/

namespace StructSearch.Regex

/-- The last code points that are encoded in one, two and three bytes. -/
def lastOfLength : List Nat := [0x7F, 0x7FF, 0xFFFF]

/-- The numbers of code points that differ in at most their last one, two and three bytes. -/
def blockSizes : List Nat := [64, 4096, 262144]

/-- Where to cut a range that does not lie in one block: behind the block of `low` if the range has
not all of it, else before the block of `high` if the range has not all of it. -/
def blockCut? (low high block : Nat) : Option Nat :=
  if low / block = high / block then none
  else if low % block ≠ 0 then some ((low / block + 1) * block - 1)
  else if high % block ≠ block - 1 then some (high / block * block - 1)
  else none

/-- The last code point of the first part of a range that is not a single part. -/
def cut? (low high : Nat) : Option Nat :=
  match lastOfLength.find? fun last => low ≤ last && last < high with
  | some last => some last
  | none => if high ≤ 0x7F then none else blockSizes.findSome? (blockCut? low high)

/-- The byte ranges of a part, from the first byte on. -/
def byteRangesOf (low high : Nat) : List (Nat × Nat) :=
  List.zip ((String.utf8EncodeChar (Char.ofNat low)).map UInt8.toNat)
    ((String.utf8EncodeChar (Char.ofNat high)).map UInt8.toNat)

/-- The parts of a range without surrogates, in increasing order. The range is cut as often as its
number of code points allows. -/
def partsWithin : Nat → Nat → Nat → List (List (Nat × Nat))
  | 0, _, _ => []
  | fuel + 1, low, high =>
    match cut? low high with
    | some last => partsWithin fuel low last ++ partsWithin fuel (last + 1) high
    | none => [byteRangesOf low high]

/-- The byte ranges of the parts of a range of code points, in increasing order. -/
def byteRanges (low high : Nat) : List (List (Nat × Nat)) :=
  if low < 0xD800 ∧ 0xDFFF < high then
    partsWithin (high - low + 1) low 0xD7FF ++ partsWithin (high - low + 1) 0xE000 high
  else partsWithin (high - low + 1) low high

end StructSearch.Regex

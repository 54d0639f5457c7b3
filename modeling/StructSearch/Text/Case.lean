import StructSearch.Text.Ranges
import StructSearch.Text.CaseTables

/-!
# Lower case and case folding

`lowercase` is the full lower-casing of Unicode: most characters map to one character, a capital I
with a dot above maps to two, and a capital sigma at the end of a word becomes a final sigma.
`foldClass` gives the characters that differ from a given one by case alone.
-/

namespace StructSearch.Text

/-- The image of `n` under the first run that covers it, if any. -/
def runImage? (runs : List (Nat × Nat × Nat × Nat)) (n : Nat) : Option Nat :=
  runs.findSome? fun (low, high, stride, target) =>
    if low ≤ n && n ≤ high && (n - low) % stride == 0 then some (target + (n - low)) else none

/-- The numbers that some run sends to `n`. -/
def runPreimages (runs : List (Nat × Nat × Nat × Nat)) (n : Nat) : List Nat :=
  runs.filterMap fun (low, high, stride, target) =>
    if target ≤ n && n - target ≤ high - low && (n - target) % stride == 0 then
      some (low + (n - target))
    else none

/-- The capital letter A to Z sent to its small letter, other characters to themselves. -/
def asciiLower (c : Char) : Char :=
  if 'A' ≤ c ∧ c ≤ 'Z' then Char.ofNat (c.toNat + 32) else c

/-- Lower-casing of a character to a single character. -/
def lowerChar (c : Char) : Char :=
  if c.toNat < 128 then asciiLower c
  else match runImage? lowercaseRuns c.toNat with
    | some n => Char.ofNat n
    | none => c

/-- Whether a character is passed over when looking for the cased neighbour of a sigma. -/
def isCaseIgnorable (c : Char) : Bool := inRanges caseIgnorableRanges c.toNat

/-- Whether the first character that is not case-ignorable exists and is cased. -/
def startsCased (text : List Char) : Bool :=
  match text.dropWhile isCaseIgnorable with
  | [] => false
  | c :: _ => inRanges casedRanges c.toNat

/-- Lower-casing of `text`, given the reversed text before it. Only for a sigma does the text around
it count. -/
def lowerFrom (before : List Char) : List Char → List Char
  | [] => []
  | c :: rest =>
    let image :=
      if c = 'Σ' then [if startsCased before && !startsCased rest then 'ς' else 'σ']
      else if c = 'İ' then ['i', Char.ofNat 0x307]
      else [lowerChar c]
    image ++ lowerFrom (c :: before) rest

/-- The full lower-casing of a text. -/
def lowercase (text : String) : String := String.ofList (lowerFrom [] text.toList)

/-- The text with the letters A to Z lower-cased. -/
def asciiLowercase (text : String) : String := String.ofList (text.toList.map asciiLower)

/-- The simple case folding of a code point. -/
def foldCode (n : Nat) : Nat := (runImage? foldRuns n).getD n

/-- The characters with the same simple case folding as `c`, itself included. -/
def foldClass (c : Char) : List Char :=
  let folded := foldCode c.toNat
  c :: (folded :: runPreimages foldRuns folded).map Char.ofNat

end StructSearch.Text

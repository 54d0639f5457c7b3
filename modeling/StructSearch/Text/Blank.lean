import StructSearch.Text.Ranges

/-!
# White space

Blank characters are those with the Unicode property White_Space. Blanks separate the words of a
text; `squeeze` writes the words of a text with one space between them.
-/

namespace StructSearch.Text

/-- The code points with the property White_Space. -/
def blankRanges : List (Nat × Nat) := [
  (9, 13), (32, 32), (133, 133), (160, 160), (5760, 5760), (8192, 8202), (8232, 8233),
  (8239, 8239), (8287, 8287), (12288, 12288)]

/-- Whether a character is white space. -/
def isBlank (c : Char) : Bool := inRanges blankRanges c.toNat

/-- The maximal runs of characters that are not blank, in order, with `word` (reversed) as the
start of the first one. -/
def wordsFrom (word : List Char) : List Char → List (List Char)
  | [] => if word.isEmpty then [] else [word.reverse]
  | c :: rest =>
    if isBlank c then
      if word.isEmpty then wordsFrom [] rest else word.reverse :: wordsFrom [] rest
    else wordsFrom (c :: word) rest

/-- The words of a text: its maximal runs of characters that are not blank. -/
def words (text : List Char) : List (List Char) := wordsFrom [] text

/-- The words of a text with one space between neighbours. -/
def squeeze (text : List Char) : String :=
  String.ofList (List.intercalate [' '] (words text))

/-- A text without its blanks at both ends. -/
def trim (text : List Char) : List Char :=
  ((text.dropWhile isBlank).reverse.dropWhile isBlank).reverse

end StructSearch.Text

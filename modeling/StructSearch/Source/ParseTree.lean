import StructSearch.Source.Construct
import StructSearch.Source.Position
import StructSearch.Text.Blank
import StructSearch.Text.Bytes

/-!
# Parse trees

The concrete tree that a parser of C or C++ builds: every node has the name of its construct, the
bytes that it covers, marks for syntax errors and, in its parent, a labelled part. Named nodes are
those of the grammar's constructs, as opposed to mere punctuation.

Parsing itself is not part of the library. A tree is what an outside parser gives, and nothing is
assumed of it here: labels and ranges may be anything. What a grammar guarantees about them is
stated where it is needed.
-/

namespace StructSearch.Source

/-- What a parse tree says about a node. All of it is given by the parser. -/
structure Label where
  /-- The name of the construct in the grammar. -/
  name : String
  isNamed : Bool
  /-- The node stands for text that does not parse. -/
  isError : Bool
  /-- The node was inserted to repair the parse. -/
  isMissing : Bool
  /-- This node or one below is an error or was inserted. -/
  hasError : Bool
  range : ByteRange
  /-- The part of its parent that the node is. -/
  part : Option Part
  deriving Repr, DecidableEq, Inhabited

/-- A parse tree. -/
inductive ParseTree where
  | node (label : Label) (children : List ParseTree)
  deriving Repr, Inhabited

namespace ParseTree

/-- The label of the top node. -/
def label : ParseTree → Label
  | node label _ => label

/-- The trees directly below the top node. -/
def children : ParseTree → List ParseTree
  | node _ children => children

/-- The construct of the top node. -/
def construct (tree : ParseTree) : Construct := Construct.ofName tree.label.name

/-- The bytes that a tree covers. -/
def range (tree : ParseTree) : ByteRange := tree.label.range

/-- The children that are constructs. -/
def namedChildren (tree : ParseTree) : List ParseTree := tree.children.filter (·.label.isNamed)

/-- The first child that is a part. A grammar may give several children of a node the same part. -/
def part? (tree : ParseTree) (part : Part) : Option ParseTree :=
  tree.children.find? (·.label.part == some part)

/-- All children that are a part. -/
def parts (tree : ParseTree) (part : Part) : List ParseTree :=
  tree.children.filter (·.label.part == some part)

/-- The trees without the first one that is a part. -/
def without (part : Part) (trees : List ParseTree) : List ParseTree :=
  trees.eraseP (·.label.part == some part)

/-- The first child that is a given construct. -/
def firstNamed? (tree : ParseTree) (construct : Construct) : Option ParseTree :=
  tree.namedChildren.find? (·.construct == construct)

/-- Whether some child, named or not, is a given construct. -/
def hasChild (tree : ParseTree) (construct : Construct) : Bool :=
  tree.children.any (·.construct == construct)

/-! ## Size -/

mutual

/-- The number of nodes of a tree. -/
def size : ParseTree → Nat
  | node _ children => 1 + sizeAll children

/-- The number of nodes of a list of trees. -/
def sizeAll : List ParseTree → Nat
  | [] => 0
  | tree :: rest => size tree + sizeAll rest

end

theorem sizeAll_append (ts us : List ParseTree) : sizeAll (ts ++ us) = sizeAll ts + sizeAll us := by
  induction ts with
  | nil => simp [sizeAll]
  | cons t ts ih => simp [sizeAll, ih, Nat.add_assoc]

theorem size_le_sizeAll {tree : ParseTree} {trees : List ParseTree} (h : tree ∈ trees) :
    tree.size ≤ sizeAll trees := by
  induction trees with
  | nil => simp at h
  | cons t ts ih =>
    rcases List.mem_cons.1 h with rfl | h
    · simp [sizeAll]
    · have := ih h
      simp only [sizeAll]
      omega

theorem sizeAll_filter_le (p : ParseTree → Bool) (trees : List ParseTree) :
    sizeAll (trees.filter p) ≤ sizeAll trees := by
  induction trees with
  | nil => simp
  | cons t ts ih =>
    rw [List.filter_cons]
    split
    · simp only [sizeAll]; omega
    · simp only [sizeAll]; omega

theorem size_eq (tree : ParseTree) : tree.size = 1 + sizeAll tree.children := by
  cases tree
  simp [size, children]

/-- A child is smaller than its parent. -/
theorem size_lt_of_mem_children {child tree : ParseTree} (h : child ∈ tree.children) :
    child.size < tree.size := by
  have := size_le_sizeAll h
  rw [size_eq tree]
  omega

theorem mem_children_of_part?_eq {tree child : ParseTree} {part : Part}
    (h : tree.part? part = some child) : child ∈ tree.children :=
  List.mem_of_find?_eq_some h

theorem size_lt_of_part?_eq {tree child : ParseTree} {part : Part}
    (h : tree.part? part = some child) : child.size < tree.size :=
  size_lt_of_mem_children (mem_children_of_part?_eq h)

/-- The constructs below a node are together smaller than the node. -/
theorem sizeAll_namedChildren_lt (tree : ParseTree) : sizeAll tree.namedChildren < tree.size := by
  have := sizeAll_filter_le (·.label.isNamed) tree.children
  rw [size_eq tree]
  exact Nat.lt_of_le_of_lt this (by omega)

/-! ## Places and texts -/

end ParseTree

/-- The lines before byte `bytes` of a text and the bytes of its line before it, counted on from
`row` and `column`. -/
def pointFrom (row column : Nat) : Nat → List Char → Nat × Nat
  | _, [] => (row, column)
  | bytes, c :: rest =>
    if bytes < c.utf8Size then (row, column + bytes)
    else if c = '\n' then pointFrom (row + 1) 0 (bytes - c.utf8Size) rest
    else pointFrom row (column + c.utf8Size) (bytes - c.utf8Size) rest

/-- The position of byte `offset` of a source: the lines before it and the bytes of its line before
it, each counted from one. -/
def positionAt (source : List Char) (offset : Nat) : Position :=
  let (row, column) := pointFrom 0 0 offset source
  Position.ofPoint row column

/-- The extent of a range of bytes. -/
def extentOf (source : List Char) (range : ByteRange) : Extent :=
  ⟨positionAt source range.start, positionAt source range.stop⟩

namespace ParseTree

/-- The text that a tree covers. It is empty if the range does not lie in the source or cuts a
character. -/
def text (source : List Char) (tree : ParseTree) : List Char :=
  (Text.slice? source tree.range.start tree.range.stop).getD []

/-- The text that a tree covers, with single spaces between its words. -/
def words (source : List Char) (tree : ParseTree) : String := Text.squeeze (tree.text source)

/-- The extent of a tree. -/
def extent (source : List Char) (tree : ParseTree) : Extent := extentOf source tree.range

/-- Whether the text that a tree covers is a keyword. -/
def isText (source : List Char) (tree : ParseTree) (keyword : String) : Bool :=
  tree.text source == keyword.toList

end ParseTree

end StructSearch.Source

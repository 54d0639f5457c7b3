/-!
# Positions in a source

Lines and columns are counted from one, columns in bytes. Extents are ordered by where they start,
then by where they end.

Both numbers of a position have a largest value, at which they stay in a source that is larger.
Bytes of a source are counted from zero and without bound.
-/

namespace StructSearch.Source

/-- A line and a column. -/
structure Position where
  line : Nat
  column : Nat
  deriving Repr, DecidableEq, Inhabited

namespace Position

/-- The largest line or column that a position can hold. -/
def limit : Nat := 4294967295

/-- The position of a point given by the lines and the bytes of its line before it. -/
def ofPoint (row column : Nat) : Position := ⟨min (row + 1) limit, min (column + 1) limit⟩

/-- The order of positions: by line, then by column. -/
def lt (p q : Position) : Prop := p.line < q.line ∨ p.line = q.line ∧ p.column < q.column

instance : LT Position := ⟨lt⟩

instance (p q : Position) : Decidable (p < q) :=
  inferInstanceAs (Decidable (p.line < q.line ∨ p.line = q.line ∧ p.column < q.column))

theorem lt_def {p q : Position} :
    p < q ↔ p.line < q.line ∨ p.line = q.line ∧ p.column < q.column := Iff.rfl

/-- A position as `line:column`. -/
def print (p : Position) : String := toString p.line ++ ":" ++ toString p.column

end Position

/-- The stretch of a source between two positions. -/
structure Extent where
  start : Position
  stop : Position
  deriving Repr, DecidableEq, Inhabited

namespace Extent

/-- The order of extents: by start, then by end. -/
def lt (e f : Extent) : Prop := e.start < f.start ∨ e.start = f.start ∧ e.stop < f.stop

instance : LT Extent := ⟨lt⟩

instance (e f : Extent) : Decidable (e < f) :=
  inferInstanceAs (Decidable (e.start < f.start ∨ e.start = f.start ∧ e.stop < f.stop))

theorem lt_def {e f : Extent} :
    e < f ↔ e.start < f.start ∨ e.start = f.start ∧ e.stop < f.stop := Iff.rfl

/-- An extent as `line:column-line:column`. -/
def print (e : Extent) : String := e.start.print ++ "-" ++ e.stop.print

/-- The extents in increasing order. -/
def sort (extents : List Extent) : List Extent :=
  extents.mergeSort fun e f => !decide (f < e)

end Extent

/-- The bytes of a source from `start` up to `stop`. -/
structure ByteRange where
  start : Nat
  stop : Nat
  deriving Repr, DecidableEq, Inhabited

end StructSearch.Source

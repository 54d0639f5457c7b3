import Mathlib.Data.List.DropRight
import Mathlib.Tactic
import StructSearch.Source.ParseTree

/-!
# Positions and byte offsets agree

A place in a source is given twice: by the bytes before it and by its line and column. Both are
read off the text before the place, its front: the line counts the newlines of the front, the
column the bytes of its last line. Along a source the front grows by characters, and each of them
moves the position forward: a newline to the next line, any other character to a later column of
the same line. So positions and offsets put places into the same order, as long as no line or
column is cut off at the limit.

Results:
* `positionAt_append`: the position of an offset from the text before it.
* `positionAt_lt_iff`, `positionAt_inj`: offsets and positions are ordered alike.
* `extentOf_lt_iff`, `extentOf_inj`: so are byte ranges and extents.
-/

namespace StructSearch.Source

open Text

/-! ## The text before a place -/

/-- What stands after the last newline of a text. -/
def lastLine (text : List Char) : List Char := text.rtakeWhile (· != '\n')

/-- The position at the end of a text with which a source begins. -/
def positionAfter (front : List Char) : Position :=
  ⟨front.count '\n' + 1, byteSize (lastLine front) + 1⟩

/-- The row and the column in bytes, counted from zero, after one more character. -/
def advance (point : ℕ × ℕ) (c : Char) : ℕ × ℕ :=
  if c = '\n' then (point.1 + 1, 0) else (point.1, point.2 + c.utf8Size)

theorem lastLine_concat (front : List Char) (c : Char) :
    lastLine (front ++ [c]) = if c = '\n' then [] else lastLine front ++ [c] := by
  unfold lastLine
  rw [List.rtakeWhile_concat]
  by_cases h : c = '\n' <;> simp [h]

theorem byteSize_lastLine_le (front : List Char) : byteSize (lastLine front) ≤ byteSize front := by
  obtain ⟨lines, hlines⟩ := List.rtakeWhile_suffix (· != '\n') front
  have hsize := congrArg byteSize hlines
  rw [byteSize_append] at hsize
  unfold lastLine
  omega

theorem count_newline_le (front : List Char) : front.count '\n' ≤ byteSize front := by
  induction front with
  | nil => exact le_rfl
  | cons c rest ih =>
    have hc := c.utf8Size_pos
    rw [List.count_cons, byteSize]
    split_ifs <;> omega

/-- The rest of the source has no influence on the point of an offset. -/
theorem pointFrom_append (row column : ℕ) (front back : List Char) :
    pointFrom row column (byteSize front) (front ++ back) =
      front.foldl advance (row, column) := by
  induction front generalizing row column with
  | nil =>
    cases back with
    | nil => rfl
    | cons c rest =>
      have hc := c.utf8Size_pos
      simp [pointFrom, byteSize, hc]
  | cons c rest ih =>
    have hle : ¬c.utf8Size + byteSize rest < c.utf8Size := by omega
    have hrest : c.utf8Size + byteSize rest - c.utf8Size = byteSize rest := by omega
    rw [List.cons_append, byteSize, pointFrom, if_neg hle, hrest, List.foldl_cons, ih, ih]
    by_cases h : c = '\n'
    · rw [if_pos h, advance, if_pos h]
    · rw [if_neg h, advance, if_neg h]

theorem foldl_advance (front : List Char) :
    front.foldl advance (0, 0) = (front.count '\n', byteSize (lastLine front)) := by
  induction front using List.reverseRecOn with
  | nil => rfl
  | append_singleton front c ih =>
    rw [List.foldl_append, ih, List.foldl_cons, List.foldl_nil, advance, lastLine_concat,
      List.count_append]
    by_cases h : c = '\n' <;> simp [h, byteSize]

/-- The position of an offset is that of the end of the text before it. -/
theorem positionAt_append {front back : List Char} (h : byteSize (front ++ back) < Position.limit) :
    positionAt (front ++ back) (byteSize front) = positionAfter front := by
  have hline := count_newline_le front
  have hcolumn := byteSize_lastLine_le front
  rw [byteSize_append] at h
  unfold positionAt Position.ofPoint positionAfter
  rw [pointFrom_append, foldl_advance]
  dsimp only
  rw [Nat.min_eq_left (by omega), Nat.min_eq_left (by omega)]

/-! ## The order of places -/

namespace Position

theorem lt_trans {p q r : Position} (h : p < q) (h' : q < r) : p < r := by
  rw [lt_def] at *
  omega

theorem lt_irrefl (p : Position) : ¬p < p := by
  rw [lt_def]
  omega

end Position

/-- A character moves the position forward. -/
theorem positionAfter_lt_concat (front : List Char) (c : Char) :
    positionAfter front < positionAfter (front ++ [c]) := by
  have hc := c.utf8Size_pos
  unfold positionAfter
  rw [Position.lt_def, lastLine_concat, List.count_append]
  by_cases h : c = '\n'
  · left
    simp [h]
  · right
    have hcount : [c].count '\n' = 0 := by simp [h]
    rw [if_neg h, hcount, byteSize_append, byteSize, byteSize]
    dsimp only
    omega

theorem positionAfter_lt_append (front : List Char) {text : List Char} (h : text ≠ []) :
    positionAfter front < positionAfter (front ++ text) := by
  induction text using List.reverseRecOn with
  | nil => exact absurd rfl h
  | append_singleton text c ih =>
    rw [← List.append_assoc]
    by_cases htext : text = []
    · rw [htext, List.append_nil]
      exact positionAfter_lt_concat front c
    · exact Position.lt_trans (ih htext) (positionAfter_lt_concat _ c)

/-- An offset between two characters of a source, or at one of its ends. -/
def IsBoundary (source : List Char) (offset : ℕ) : Prop :=
  ∃ front back, source = front ++ back ∧ byteSize front = offset

instance (source : List Char) (offset : ℕ) : Decidable (IsBoundary source offset) :=
  decidable_of_iff ((splitBytes? offset source).isSome = true) <| by
    simp only [Option.isSome_iff_exists, Prod.exists, splitBytes?_eq_some_iff, IsBoundary]

section Order

variable {source : List Char} {offset other : ℕ} (hsize : byteSize source < Position.limit)
include hsize

/-- A later place has a larger offset and a later position. -/
theorem positionAt_lt (h : IsBoundary source offset) (h' : IsBoundary source other)
    (hlt : offset < other) : positionAt source offset < positionAt source other := by
  obtain ⟨front, back, rfl, rfl⟩ := h
  obtain ⟨front', back', hsource, rfl⟩ := h'
  -- One front begins with the other one, which of them is told by their sizes.
  obtain ⟨text, rfl, rfl⟩ | ⟨text, rfl, rfl⟩ := List.append_eq_append_iff.1 hsource
  · have htext : text ≠ [] := by
      rintro rfl
      rw [List.append_nil] at hlt
      exact absurd hlt (Nat.lt_irrefl _)
    rw [positionAt_append hsize, ← List.append_assoc, positionAt_append (by simpa using hsize)]
    exact positionAfter_lt_append front htext
  · rw [byteSize_append] at hlt
    omega

theorem positionAt_lt_iff (h : IsBoundary source offset) (h' : IsBoundary source other) :
    positionAt source offset < positionAt source other ↔ offset < other := by
  refine ⟨fun hpos => ?_, positionAt_lt hsize h h'⟩
  by_contra hge
  obtain hgt | heq := Nat.lt_or_eq_of_le (Nat.le_of_not_lt hge)
  · exact Position.lt_irrefl _ (Position.lt_trans hpos (positionAt_lt hsize h' h hgt))
  · rw [heq] at hpos
    exact Position.lt_irrefl _ hpos

theorem positionAt_inj (h : IsBoundary source offset) (h' : IsBoundary source other) :
    positionAt source offset = positionAt source other ↔ offset = other := by
  refine ⟨fun hpos => ?_, fun heq => by rw [heq]⟩
  have hforward := positionAt_lt_iff hsize h h'
  have hbackward := positionAt_lt_iff hsize h' h
  rw [hpos] at hforward hbackward
  have hnot := Position.lt_irrefl (positionAt source other)
  rw [hforward] at hnot
  have hnot' : ¬other < offset := hbackward.not.1 (Position.lt_irrefl _)
  omega

end Order

/-! ## Ranges -/

/-- The order of ranges: by start, then by end. -/
def ByteRange.Precedes (r s : ByteRange) : Prop :=
  r.start < s.start ∨ r.start = s.start ∧ r.stop < s.stop

instance (r s : ByteRange) : Decidable (r.Precedes s) :=
  inferInstanceAs (Decidable (r.start < s.start ∨ r.start = s.start ∧ r.stop < s.stop))

/-- A range of whole characters of a source. -/
structure ByteRange.IsSlice (source : List Char) (range : ByteRange) : Prop where
  start_le_stop : range.start ≤ range.stop
  start : IsBoundary source range.start
  stop : IsBoundary source range.stop

instance (source : List Char) (range : ByteRange) : Decidable (range.IsSlice source) :=
  decidable_of_iff (range.start ≤ range.stop ∧ IsBoundary source range.start ∧
    IsBoundary source range.stop)
    ⟨fun h => ⟨h.1, h.2.1, h.2.2⟩, fun h => ⟨h.start_le_stop, h.start, h.stop⟩⟩

/-- Such a range cuts a text out of the source. -/
theorem ByteRange.IsSlice.exists_text {source : List Char} {range : ByteRange}
    (h : range.IsSlice source) :
    ∃ before text after, source = before ++ (text ++ after) ∧
      range = ⟨byteSize before, byteSize before + byteSize text⟩ := by
  obtain ⟨start, stop⟩ := range
  obtain ⟨hle, ⟨front, back, rfl, rfl⟩, front', back', hsource, hstop⟩ := h
  dsimp only at hle hstop
  obtain ⟨text, rfl, rfl⟩ | ⟨text, rfl, rfl⟩ := List.append_eq_append_iff.1 hsource
  · exact ⟨front, text, back', rfl, by rw [← hstop, byteSize_append]⟩
  · -- The stop is not before the start, so nothing stands between them.
    rw [byteSize_append] at hle
    refine ⟨front' ++ text, [], back, rfl, ?_⟩
    simp only [byteSize_append, byteSize, mk.injEq, true_and]
    omega

/-- The extent of such a range is from the position before to the position after its text. -/
theorem extentOf_append {before text after : List Char}
    (hsize : byteSize (before ++ (text ++ after)) < Position.limit) :
    extentOf (before ++ (text ++ after)) ⟨byteSize before, byteSize before + byteSize text⟩ =
      ⟨positionAfter before, positionAfter (before ++ text)⟩ := by
  have hstop : positionAt (before ++ (text ++ after)) (byteSize before + byteSize text) =
      positionAfter (before ++ text) := by
    rw [← byteSize_append, ← List.append_assoc]
    exact positionAt_append (by rwa [List.append_assoc])
  rw [extentOf, positionAt_append hsize, hstop]

section Extents

variable {source : List Char} {r s : ByteRange} (hsize : byteSize source < Position.limit)
  (hr : r.IsSlice source) (hs : s.IsSlice source)
include hsize hr hs

/-- Extents are ordered as their byte ranges are. -/
theorem extentOf_lt_iff : extentOf source r < extentOf source s ↔ r.Precedes s := by
  unfold extentOf ByteRange.Precedes
  rw [Extent.lt_def, positionAt_lt_iff hsize hr.start hs.start,
    positionAt_inj hsize hr.start hs.start, positionAt_lt_iff hsize hr.stop hs.stop]

theorem extentOf_inj : extentOf source r = extentOf source s ↔ r = s := by
  obtain ⟨start, stop⟩ := r
  obtain ⟨start', stop'⟩ := s
  unfold extentOf
  rw [Extent.mk.injEq, ByteRange.mk.injEq, positionAt_inj hsize hr.start hs.start,
    positionAt_inj hsize hr.stop hs.stop]

end Extents

end StructSearch.Source

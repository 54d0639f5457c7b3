/-!
# Byte offsets

Offsets into a text count the bytes of its UTF-8 encoding. `slice?` cuts a text at two offsets and
has no result when one of them falls inside a character or beyond the end.
-/

namespace StructSearch.Text

/-- The number of bytes that a text takes. -/
def byteSize : List Char → Nat
  | [] => 0
  | c :: rest => c.utf8Size + byteSize rest

@[simp] theorem byteSize_append (s t : List Char) :
    byteSize (s ++ t) = byteSize s + byteSize t := by
  induction s with
  | nil => simp [byteSize]
  | cons c s ih => simp [byteSize, ih, Nat.add_assoc]

/-- The text cut after `n` bytes, if that is between two characters. A text that is shorter cannot
be cut. -/
def splitBytes? : Nat → List Char → Option (List Char × List Char)
  | 0, text => some ([], text)
  | _ + 1, [] => none
  | n + 1, c :: rest =>
    if c.utf8Size ≤ n + 1 then
      (splitBytes? (n + 1 - c.utf8Size) rest).map fun (front, back) => (c :: front, back)
    else none

/-- Splitting gives the two parts of the text, the first of them of the asked size. -/
theorem splitBytes?_eq_some_iff {n : Nat} {text front back : List Char} :
    splitBytes? n text = some (front, back) ↔ text = front ++ back ∧ byteSize front = n := by
  induction text generalizing n front back with
  | nil =>
    cases front with
    | nil => cases n <;> simp [splitBytes?, byteSize, eq_comm]
    | cons d front => cases n <;> simp [splitBytes?]
  | cons c rest ih =>
    have hc : 0 < c.utf8Size := c.utf8Size_pos
    cases n with
    | zero =>
      cases front with
      | nil => simp [splitBytes?, byteSize, eq_comm]
      | cons d front =>
        have hd : 0 < d.utf8Size := d.utf8Size_pos
        simp only [splitBytes?, byteSize, Option.some.injEq, Prod.mk.injEq, List.nil_eq,
          reduceCtorEq, false_and, false_iff, not_and]
        omega
    | succ n =>
      cases front with
      | nil => simp [splitBytes?, byteSize]
      | cons d front => simp [splitBytes?, byteSize, ih]; grind

/-- The text between two byte offsets, if both are between characters of the text and in order. -/
def slice? (text : List Char) (start stop : Nat) : Option (List Char) := do
  let (_, back) ← splitBytes? start text
  if start ≤ stop then
    let (middle, _) ← splitBytes? (stop - start) back
    some middle
  else none

/-- A part of a text is cut out by the bytes before it and its own. -/
theorem slice?_append (before part after : List Char) :
    slice? (before ++ (part ++ after)) (byteSize before) (byteSize before + byteSize part) =
      some part := by
  have hback : splitBytes? (byteSize before) (before ++ (part ++ after)) =
      some (before, part ++ after) := splitBytes?_eq_some_iff.2 ⟨rfl, rfl⟩
  have hpart : splitBytes? (byteSize part) (part ++ after) = some (part, after) :=
    splitBytes?_eq_some_iff.2 ⟨rfl, rfl⟩
  simp [slice?, hback, hpart]

end StructSearch.Text

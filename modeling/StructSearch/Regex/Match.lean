import StructSearch.Regex.Basic

/-!
# Matching

The places of a subject of `n` characters are the numbers from `0` to `n`. An expression sends a
set of places to the set of places that it can reach from one of them; an expression matches a
subject if it reaches some place from any place at all. Places are kept as lists without
repetition, so the work is polynomial in the subject whatever the expression repeats.
-/

namespace StructSearch.Regex

/-- Whether the character before place `i` is a word character. -/
def wordBefore (subject : Array Char) (i : Nat) : Bool :=
  match i with
  | 0 => false
  | i + 1 => (subject[i]?).any Text.isWordChar

/-- Whether the character after place `i` is a word character. -/
def wordAfter (subject : Array Char) (i : Nat) : Bool := (subject[i]?).any Text.isWordChar

/-- The character before place `i`. -/
def charBefore? (subject : Array Char) (i : Nat) : Option Char :=
  match i with
  | 0 => none
  | i + 1 => subject[i]?

/-- Whether an assertion holds at place `i`. A carriage return and the line feed behind it are one
end of a line where both count. -/
def Anchor.holds (subject : Array Char) (i : Nat) : Anchor → Bool
  | textStart => i == 0
  | textEnd => i == subject.size
  | lineStart => i == 0 || charBefore? subject i == some '\n'
  | lineEnd => i == subject.size || subject[i]? == some '\n'
  | crlfLineStart =>
    i == 0 || charBefore? subject i == some '\n' ||
      (charBefore? subject i == some '\r' && subject[i]? != some '\n')
  | crlfLineEnd =>
    i == subject.size || subject[i]? == some '\r' ||
      (subject[i]? == some '\n' && charBefore? subject i != some '\r')
  | wordBoundary => wordBefore subject i != wordAfter subject i
  | notWordBoundary => wordBefore subject i == wordAfter subject i
  | wordStart => !wordBefore subject i && wordAfter subject i
  | wordEnd => wordBefore subject i && !wordAfter subject i
  | wordStartHalf => !wordBefore subject i
  | wordEndHalf => !wordAfter subject i

/-- The places of `more` that are not in `places`, after `places`. -/
def merge (places more : List Nat) : List Nat :=
  more.foldl (fun seen i => if seen.contains i then seen else seen ++ [i]) places

theorem mem_merge {places more : List Nat} {i : Nat} :
    i ∈ merge places more ↔ i ∈ places ∨ i ∈ more := by
  induction more generalizing places with
  | nil => simp [merge]
  | cons j more ih =>
    simp only [merge, List.foldl_cons, List.mem_cons] at ih ⊢
    rw [ih]
    by_cases h : j ∈ places
    · simp [h]; grind
    · simp [h]; grind

/-- `step` applied `count` times, stopping when nothing changes any more. -/
def power (step : List Nat → List Nat) : Nat → List Nat → List Nat
  | 0, places => places
  | count + 1, places =>
    let next := step places
    if next = places then places else power step count next

/-- The places reached by at most `rounds` applications of `step` to `frontier`, together with
those in `seen`; a round only goes on from places that are new. -/
def closure (step : List Nat → List Nat) : Nat → List Nat → List Nat → List Nat
  | 0, seen, _ => seen
  | rounds + 1, seen, frontier =>
    let fresh := (step frontier).filter fun i => !seen.contains i
    if fresh.isEmpty then seen else closure step rounds (merge seen fresh) fresh

namespace Expr

/-- The places that an expression reaches from one of the given places. A repetition is first made
as often as it must, and then goes on from places that are new. -/
def advance (subject : Array Char) : Expr → List Nat → List Nat
  | empty, places => places
  | one set, places =>
    places.filterMap fun i => if (subject[i]?).any set.contains then some (i + 1) else none
  | look anchor, places => places.filter fun i => anchor.holds subject i
  | seq first second, places => second.advance subject (first.advance subject places)
  | either left right, places => merge (left.advance subject places) (right.advance subject places)
  | group _ body, places => body.advance subject places
  | times body least most _, places =>
    let start := power (body.advance subject) least places
    let rounds := match most with
      | none => subject.size + 1
      | some most => min (most - least) (subject.size + 1)
    closure (body.advance subject) rounds start start

/-- Whether an expression matches somewhere in a subject. -/
def isMatch (expr : Expr) (subject : String) : Bool :=
  let chars := subject.toList.toArray
  !(expr.advance chars (List.range (chars.size + 1))).isEmpty

end Expr

end StructSearch.Regex

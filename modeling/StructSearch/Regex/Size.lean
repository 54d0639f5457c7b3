import Std.Data.HashMap
import StructSearch.Regex.ByteRanges
import StructSearch.Regex.Plan

/-!
# Size of an automaton

An expression is run by two automata over bytes, one that reads forwards and one that reads
backwards. This module counts their states and the bytes that they take, without building them:
a state takes a fixed number of bytes, and more for each arc or alternative that it leads to.

Counted repetitions copy what they repeat, so that a short expression may ask for a very large
automaton. Counting stops soon after the limit is passed.
-/

namespace StructSearch.Regex

/-- The number of bytes that an automaton may take. -/
def maxBytes : Nat := 10 * 1024 * 1024

/-- The states of an automaton and the bytes that they take. -/
structure Tally where
  states : Nat := 0
  bytes : Nat := 0
  deriving Repr, DecidableEq, Inhabited

namespace Tally

/-- One more state, with bytes of its own beside those that every state takes. -/
def add (tally : Tally) (extra : Nat) : Tally := ⟨tally.states + 1, tally.bytes + 32 + extra⟩

/-- A state that goes on to another or reads one range of bytes. -/
def addPlain (tally : Tally) : Tally := tally.add 0

/-- A state with an arc for each of `count` ranges of bytes. -/
def addArcs (tally : Tally) (count : Nat) : Tally := tally.add (8 * count)

/-- A state that goes on to one of `count` others. -/
def addUnion (tally : Tally) (count : Nat) : Tally := tally.add (4 * count)

/-- `count` states that read one range of bytes each. -/
def addBytes (tally : Tally) (count : Nat) : Tally :=
  ⟨tally.states + count, tally.bytes + 32 * count⟩

/-- `step` applied `count` times, or until the limit is passed. -/
def iterate (step : Tally → Tally) : Nat → Tally → Tally
  | 0, tally => tally
  | count + 1, tally => if maxBytes < tally.bytes then tally else iterate step count (step tally)

end Tally

/-! ## Shared states -/

/-- A table of recent states. A key has one slot and takes the place of the key that was there. -/
structure Recent where
  slots : Nat
  entries : Std.HashMap Nat (List Nat × Nat) := {}

namespace Recent

/-- The slot of a key. -/
def slot (table : Recent) (key : List Nat) : Nat :=
  let code := key.foldl (fun (code : UInt64) word => (code ^^^ word.toUInt64) * 1099511628211)
    14695981039346656037
  code.toNat % table.slots

/-- The state with a key, if the table still has it. -/
def find? (table : Recent) (key : List Nat) : Option Nat :=
  match table.entries[table.slot key]? with
  | some (other, state) => if other = key then some state else none
  | none => none

/-- The table after a state is remembered under a key. -/
def insert (table : Recent) (key : List Nat) (state : Nat) : Recent :=
  { table with entries := table.entries.insert (table.slot key) (key, state) }

end Recent

/-- The states counted so far and the recent ones among them. -/
structure Counter where
  tally : Tally
  recent : Recent

/-- The state with a key, which is counted unless it is a recent one. A state that was forgotten is
counted once more. -/
def Counter.intern (counter : Counter) (key : List Nat) (extra : Nat) : Nat × Counter :=
  match counter.recent.find? key with
  | some state => (state, counter)
  | none =>
    let state := counter.tally.states
    (state, ⟨counter.tally.add extra, counter.recent.insert key state⟩)

/-! ## Classes -/

/-- The directions in which an automaton reads. -/
inductive Direction where
  | forward
  | backward
  deriving Repr, DecidableEq, Inhabited

/-- The states that read the parts of a class from the first byte on, ending in `stop`. Parts that
start with the same bytes share an arc, and states with the same arcs are shared. The result is the
state in which reading starts. -/
def sharedStarts (stop : Nat) : Nat → List (List (Nat × Nat)) → Counter → Nat × Counter
  | 0, _, counter => (stop, counter)
  | fuel + 1, parts, counter =>
    if parts.all List.isEmpty then (stop, counter)
    else
      let arcs := parts.splitBy fun p q => p.head? == q.head?
      let (key, counter) := arcs.foldl (fun (key, counter) arc =>
        match arc.head?.bind List.head? with
        | some (low, high) =>
          let (next, counter) := sharedStarts stop fuel (arc.map List.tail) counter
          (key ++ [low, high, next], counter)
        | none => (key, counter)) (([] : List Nat), counter)
      counter.intern key (8 * arcs.length)

/-- A class read forwards. The encoding of a character has at most four bytes. -/
def Tally.addForward (tally : Tally) (parts : List (List (Nat × Nat))) : Tally :=
  let stop := tally.states
  (sharedStarts stop 5 parts ⟨tally.addPlain, { slots := 10000 }⟩).2.tally

/-- A class read backwards: one state with an alternative for each part, and the bytes of each part
from the last one on, where parts that start with the same bytes share the states that read them
last. -/
def Tally.addBackward (tally : Tally) (parts : List (List (Nat × Nat))) : Tally :=
  let tally := tally.addUnion parts.length
  let stop := tally.states
  let counter := parts.foldl (fun counter part =>
    (part.foldl (fun (next, counter) (low, high) =>
      Counter.intern counter [next, low, high] 0) (stop, counter)).2)
    (⟨tally.addPlain, { slots := 1000 }⟩ : Counter)
  counter.tally

/-- A class, given by its ranges of code points. -/
def Tally.addClass (direction : Direction) (ranges : List (Nat × Nat)) (tally : Tally) : Tally :=
  if ranges.all fun r => r.2 ≤ 0x7F then tally.addPlain.addArcs ranges.length
  else
    let parts := ranges.flatMap fun (low, high) => byteRanges low high
    match direction with
    | .forward => tally.addForward parts
    | .backward => tally.addBackward parts

/-! ## Choices between literals -/

/-- The bytes of a text. -/
def bytesOf (text : List Char) : List UInt8 := text.flatMap String.utf8EncodeChar

/-- The texts between the empty ones of a list, in order. There is one more segment than empty
texts. -/
def segments : List (List UInt8) → List (List (List UInt8))
  | [] => [[]]
  | [] :: texts => [] :: segments texts
  | text :: texts =>
    match segments texts with
    | [] => [[text]]
    | segment :: rest => (text :: segment) :: rest

/-- The states of a tree of texts that read the rest of them from some node on. The node has arcs
for the texts before its first end, then an end, then arcs for the texts up to its next end, and so
on; empty texts before all others are one end. -/
def Tally.addTree : Nat → List (List UInt8) → Tally → Tally
  | 0, _, tally => tally
  | fuel + 1, texts, tally =>
    let ends := if texts.head? == some [] then [[]] else []
    let segments := segments (ends ++ texts.dropWhile List.isEmpty)
    let tally := segments.foldl (fun tally segment =>
      let firsts := (segment.filterMap List.head?).eraseDups
      let tally := firsts.foldl (fun tally first =>
        let rests := (segment.filter (·.head? == some first)).map List.tail
        if rests.all List.isEmpty then tally else addTree fuel rests tally) tally
      if firsts.isEmpty then tally
      else if firsts.length = 1 then tally.addPlain
      else tally.addArcs firsts.length) tally
    tally.addUnion ((segments.filter (!·.isEmpty)).length + (segments.length - 1))

/-- The text of a literal. -/
def Plan.text? : Plan → Option (List Char)
  | literal text => some text
  | _ => none

/-- A choice between texts, as a tree. -/
def Tally.addTexts (direction : Direction) (texts : List (List Char)) (tally : Tally) : Tally :=
  let texts := texts.map fun text => match direction with
    | .forward => bytesOf text
    | .backward => (bytesOf text).reverse
  let longest := texts.foldl (fun n text => max n text.length) 0
  tally.addPlain.addTree (longest + 1) texts

/-! ## Plans -/

namespace Plan

mutual

/-- The states for a plan added to those counted so far. -/
def count (direction : Direction) : Plan → Tally → Tally
  | empty, tally => tally.addPlain
  | literal text, tally => tally.addBytes (bytesOf text).length
  | oneOf ranges, tally => tally.addClass direction ranges
  | look _, tally => tally.addPlain
  | concat parts, tally =>
    match direction with
    | .forward => countAll .forward parts tally
    | .backward => countFromLast .backward parts tally
  | choice branches, tally =>
    match branches.mapM text? with
    | some texts => tally.addTexts direction texts
    | none => countBranches direction branches.length 0 branches tally
  | times body least most _, tally =>
    let once := count direction body
    match least, most with
    | 0, some 1 => (once (tally.addUnion 2)).addPlain
    | 0, none =>
      if body.minLength.any (0 < ·) then once (tally.addUnion 2)
      else ((once tally).addUnion 2 |>.addUnion 2).addPlain
    | least, none => (Tally.iterate once least tally).addUnion 2
    | least, some most =>
      let start := if least = 0 then tally.addPlain else Tally.iterate once least tally
      if least = most then start
      else Tally.iterate (fun tally => once (tally.addUnion 2)) (most - least) start.addPlain
  | capture _ body, tally =>
    match direction with
    | .forward => (count .forward body tally.addPlain).addPlain
    | .backward => count .backward body tally
termination_by structural plan => plan

/-- The states for plans one after the other. -/
def countAll (direction : Direction) : List Plan → Tally → Tally
  | [], tally => tally
  | part :: parts, tally => countAll direction parts (count direction part tally)
termination_by structural parts => parts

/-- The states for plans one after the other, from the last one on. -/
def countFromLast (direction : Direction) : List Plan → Tally → Tally
  | [], tally => tally
  | part :: parts, tally => count direction part (countFromLast direction parts tally)
termination_by structural parts => parts

/-- The states for the branches of a choice between `total` branches of which `done` are counted.
The states in which they part and meet come after the first two. -/
def countBranches (direction : Direction) (total : Nat) : Nat → List Plan → Tally → Tally
  | _, [], tally => tally
  | done, branch :: branches, tally =>
    let tally := count direction branch tally
    let tally := if done = 1 then (tally.addUnion total).addPlain else tally
    countBranches direction total (done + 1) branches tally
termination_by structural _ branches => branches

end

/-- The states of the automaton for a plan. Unless the plan is tied to the end of the text at which
reading starts, bytes before a match are passed over; a match is remembered when reading
forwards. -/
def tally (direction : Direction) (plan : Plan) : Tally :=
  let isTied := match direction with
    | .forward => plan.startsText
    | .backward => plan.endsText
  let start : Tally :=
    if isTied then Tally.addPlain {} else ((Tally.addUnion {} 2).addPlain.addArcs 1)
  (Plan.count direction (.capture 0 plan) start).addPlain

/-- Whether the automata for a plan keep to the limit. -/
def fits (plan : Plan) : Bool :=
  (plan.tally .backward).bytes ≤ maxBytes && (plan.tally .forward).bytes ≤ maxBytes

end Plan

end StructSearch.Regex

import StructSearch.Regex.Basic
import StructSearch.Regex.Intervals

/-!
# Plans

A plan is an expression prepared for an automaton. Neighbouring characters of a sequence are one
literal, nested sequences and nested choices are flat, a choice between single characters or
between classes is a class, and repetitions that say nothing are gone. `Expr.plan` prepares an
expression with the constructors of this module, each of which keeps these rules.
-/

namespace StructSearch.Regex

/-- An expression prepared for an automaton. The constructors of this module build plans only in the
form that the cases describe. -/
inductive Plan where
  /-- The empty text. -/
  | empty
  /-- A text, of at least one character. -/
  | literal (text : List Char)
  /-- One character of the ranges of code points. -/
  | oneOf (ranges : List (Nat × Nat))
  /-- An assertion. -/
  | look (anchor : Anchor)
  /-- At least two parts after each other. -/
  | concat (parts : List Plan)
  /-- One of at least two branches. -/
  | choice (branches : List Plan)
  /-- At least `least` and, if given, at most `most` repetitions. -/
  | times (body : Plan) (least : Nat) (most : Option Nat) (isLazy : Bool)
  /-- A remembered group. -/
  | capture (index : Nat) (body : Plan)
  deriving Repr, Inhabited

namespace Plan

mutual

/-- Whether two plans are the same, in structure and not only in what they match. -/
def same : Plan → Plan → Bool
  | empty, empty => true
  | literal s, literal t => s == t
  | oneOf s, oneOf t => s == t
  | look a, look b => a == b
  | concat ps, concat qs => sameAll ps qs
  | choice ps, choice qs => sameAll ps qs
  | times p l m z, times q l' m' z' => same p q && l == l' && m == m' && z == z'
  | capture i p, capture j q => i == j && same p q
  | _, _ => false

/-- Whether two lists hold the same plans in the same order. -/
def sameAll : List Plan → List Plan → Bool
  | [], [] => true
  | p :: ps, q :: qs => same p q && sameAll ps qs
  | _, _ => false

end

/-! ## Lengths of matches -/

mutual

/-- The fewest bytes that a plan matches; there is none if it matches nothing at all. -/
def minLength : Plan → Option Nat
  | empty | look _ => some 0
  | literal text => some (text.map Char.utf8Size).sum
  | oneOf ranges => ranges.head?.map fun r => (Char.ofNat r.1).utf8Size
  | concat parts => sumMinLength parts
  | choice branches => leastMinLength branches
  | times body least _ _ => (minLength body).map (· * least)
  | capture _ body => minLength body

/-- The fewest bytes that the plans match one after the other. -/
def sumMinLength : List Plan → Option Nat
  | [] => some 0
  | part :: parts =>
    match minLength part, sumMinLength parts with
    | some n, some m => some (n + m)
    | _, _ => none

/-- The fewest bytes that one of the plans matches, if each matches something. -/
def leastMinLength : List Plan → Option Nat
  | [] => none
  | [branch] => minLength branch
  | branch :: branches =>
    match minLength branch, leastMinLength branches with
    | some n, some m => some (min n m)
    | _, _ => none

end

mutual

/-- Whether a plan matches the empty text alone. -/
def readsNothing : Plan → Bool
  | empty | look _ => true
  | literal _ | oneOf _ => false
  | concat parts => allReadNothing parts
  | choice branches => allReadNothing branches
  | times body _ most _ => most.isSome && readsNothing body
  | capture _ body => readsNothing body

/-- Whether each of the plans matches the empty text alone. -/
def allReadNothing : List Plan → Bool
  | [] => true
  | part :: parts => readsNothing part && allReadNothing parts

end

/-! ## Sequences -/

/-- The parts of a plan in a sequence. -/
def parts : Plan → List Plan
  | empty => []
  | concat parts => parts
  | plan => [plan]

/-- A part put before the parts of a sequence; two literals become one. -/
def consPart (part : Plan) (parts : List Plan) : List Plan :=
  match part, parts with
  | literal s, literal t :: parts => literal (s ++ t) :: parts
  | part, parts => part :: parts

/-- A sequence of parts, unless there is at most one. -/
def ofParts : List Plan → Plan
  | [] => empty
  | [part] => part
  | parts => concat parts

/-- One plan after the other. -/
def append (first second : Plan) : Plan := ofParts (first.parts.foldr consPart second.parts)

/-- The plans one after the other. -/
def concatOf (plans : List Plan) : Plan := plans.foldr append empty

/-! ## Choices -/

/-- One character of a set given by its ranges. -/
def classOf (ranges : List (Nat × Nat)) : Plan :=
  match ranges with
  | [(low, high)] => if low = high then literal [Char.ofNat low] else oneOf ranges
  | ranges => oneOf ranges

/-- One character of several sets given by their ranges. -/
def unionOf (sets : List (List (Nat × Nat))) : Plan :=
  classOf (CharSet.ranges sets.flatten).codeRanges

/-- The character of a literal of one character. -/
def singleChar? : Plan → Option Char
  | literal [c] => some c
  | _ => none

/-- The ranges of a class. -/
def classRanges? : Plan → Option (List (Nat × Nat))
  | oneOf ranges => some ranges
  | _ => none

/-- The branches of a plan in a choice. -/
def branches : Plan → List Plan
  | choice branches => branches
  | plan => [plan]

/-- A choice between plans, flat, and a class if all branches are single characters or all are
classes. -/
def joinBranches (plans : List Plan) : Plan :=
  match plans.flatMap branches with
  | [branch] => branch
  | flat =>
    match flat.mapM singleChar?, flat.mapM classRanges? with
    | some chars, _ => unionOf (chars.map fun c => [(c.toNat, c.toNat)])
    | none, some sets => unionOf sets
    | none, none => choice flat

/-- The parts of a sequence of several parts. -/
def sequence? : Plan → Option (List Plan)
  | concat parts => some parts
  | _ => none

/-- The longest list with which both lists start. -/
def commonStart : List Plan → List Plan → List Plan
  | p :: ps, q :: qs => if same p q then p :: commonStart ps qs else []
  | _, _ => []

/-- The parts with which all branches start, if all are sequences and start alike, and what is left
of each branch after them. -/
def commonStart? (branches : List Plan) : Option (List Plan × List Plan) :=
  match branches.mapM sequence? with
  | some (first :: others) =>
    match others.foldl commonStart first with
    | [] => none
    | start => some (start, (first :: others).map fun parts => concatOf (parts.drop start.length))
  | _ => none

/-- A choice between plans; what all branches start with stands before it. -/
def choiceOf (plans : List Plan) : Plan :=
  match joinBranches plans with
  | choice branches =>
    match commonStart? branches with
    | some (start, rests) => concatOf (start ++ [joinBranches rests])
    | none => choice branches
  | plan => plan

/-! ## Repetitions -/

/-- A repeated plan. A plan that matches the empty text alone is repeated at most once. -/
def timesOf (body : Plan) (least : Nat) (most : Option Nat) (isLazy : Bool) : Plan :=
  let (least, most) :=
    if body.readsNothing then (min least 1, some (min (most.getD 1) 1)) else (least, most)
  if most = some 0 then empty
  else if least = 1 ∧ most = some 1 then body
  else times body least most isLazy

/-! ## Anchors -/

mutual

/-- Whether every match starts at the start of the text. -/
def startsText : Plan → Bool
  | look .textStart => true
  | concat parts => someStartsText parts
  | choice branches => allStartText branches
  | times body least _ _ => least != 0 && startsText body
  | capture _ body => startsText body
  | _ => false

/-- Whether one of the parts up to the first that reads characters starts the text. -/
def someStartsText : List Plan → Bool
  | [] => false
  | part :: parts => startsText part || (readsNothing part && someStartsText parts)

/-- Whether every match of each plan starts at the start of the text. -/
def allStartText : List Plan → Bool
  | [] => true
  | branch :: branches => startsText branch && allStartText branches

end

mutual

/-- Whether every match ends at the end of the text. -/
def endsText : Plan → Bool
  | look .textEnd => true
  | concat parts => someEndsText parts
  | choice branches => allEndText branches
  | times body least _ _ => least != 0 && endsText body
  | capture _ body => endsText body
  | _ => false

/-- Whether one of the parts from the last that reads characters on ends the text. -/
def someEndsText : List Plan → Bool
  | [] => false
  | part :: parts => someEndsText parts || (allReadNothing parts && endsText part)

/-- Whether every match of each plan ends at the end of the text. -/
def allEndText : List Plan → Bool
  | [] => true
  | branch :: branches => endsText branch && allEndText branches

end

end Plan

/-- The choice between the plans of branches; a single branch is no choice. -/
def Plan.ofBranches : List Plan → Plan
  | [plan] => plan
  | plans => choiceOf plans

/-- The plans of the branches of an expression, one if it is no choice. -/
def Expr.branchPlans : Expr → List Plan
  | empty => [.empty]
  | one set => [.classOf set.codeRanges]
  | look anchor => [.look anchor]
  | seq first second =>
    [(Plan.ofBranches first.branchPlans).append (.ofBranches second.branchPlans)]
  | either left right => .ofBranches left.branchPlans :: right.branchPlans
  | times body least most isLazy => [.timesOf (.ofBranches body.branchPlans) least most isLazy]
  | group none body => [.ofBranches body.branchPlans]
  | group (some index) body => [.capture index (.ofBranches body.branchPlans)]

/-- An expression prepared for an automaton. -/
def Expr.plan (expr : Expr) : Plan := .ofBranches expr.branchPlans

end StructSearch.Regex

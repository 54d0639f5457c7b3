import StructSearch.Regex.Basic

/-!
# Reading regular expressions

`Expr.parse` reads the text of an expression. Flags set inside a group, as in `(?i)`, hold from
there to the end of that group, across its alternatives; in extended mode (`x`) white space and
comments are skipped.

An open parenthesis starts a nested reading of its group, which hands back the text after it. Each
step reads at least one character, so the length of the text bounds the number of steps.

Two parts of the usual syntax are left out, and a text that uses them is refused: classes named
after properties of characters, as in `\p{Greek}`, and the mode `(?-u)` that matches bytes.
-/

namespace StructSearch.Regex

/-- The flags in force at a place of an expression. At the start none is set. -/
structure Flags where
  ignoreCase : Bool := false
  multiLine : Bool := false
  dotAll : Bool := false
  crlf : Bool := false
  extended : Bool := false
  /-- Exchanges the meanings of plain and lazy repetitions. -/
  swapLazy : Bool := false
  deriving Repr, DecidableEq, Inhabited

/-- The text after white space and, if `inComment`, after the rest of the current comment. -/
def skipComments (inComment : Bool) : List Char → List Char
  | [] => []
  | c :: rest =>
    if inComment then skipComments (c != '\n') rest
    else if Text.isBlank c then skipComments false rest
    else if c == '#' then skipComments true rest
    else c :: rest

theorem length_skipComments_le (inComment : Bool) (text : List Char) :
    (skipComments inComment text).length ≤ text.length := by
  induction text generalizing inComment with
  | nil => simp [skipComments]
  | cons c rest ih =>
    simp only [skipComments, List.length_cons]
    split
    · exact Nat.le_succ_of_le (ih _)
    · split
      · exact Nat.le_succ_of_le (ih _)
      · split
        · exact Nat.le_succ_of_le (ih _)
        · simp

/-- The text after what extended mode ignores. -/
def skip (extended : Bool) (text : List Char) : List Char :=
  if extended then skipComments false text else text

theorem length_skip_le (extended : Bool) (text : List Char) :
    (skip extended text).length ≤ text.length := by
  unfold skip
  split
  · exact length_skipComments_le _ _
  · exact Nat.le_refl _

/-! ## Numbers -/

/-- The value of a hexadecimal digit. -/
def hexValue? (c : Char) : Option Nat :=
  if c.isDigit then some (c.toNat - 48)
  else if 'a' ≤ c ∧ c ≤ 'f' then some (c.toNat - 87)
  else if 'A' ≤ c ∧ c ≤ 'F' then some (c.toNat - 55)
  else none

/-- The character with a code point, if there is one. -/
def charOfCode? (code : Nat) : Option Char :=
  if code.isValidChar then some (Char.ofNat code) else none

/-- Exactly `count` hexadecimal digits, with what extended mode ignores after each; `value` is the
number read so far. -/
def fixedHex (extended : Bool) : Nat → Nat → List Char → Except Fault (Nat × List Char)
  | 0, value, text => .ok (value, text)
  | _ + 1, _, [] => .error .escape
  | count + 1, value, c :: rest =>
    match hexValue? c with
    | some digit => fixedHex extended count (16 * value + digit) (skip extended rest)
    | none => .error .escape

/-- Hexadecimal digits up to a closing brace, at least one; `value` is the number read so far, if
any. -/
def bracedHex (extended : Bool) (value : Option Nat) (text : List Char) :
    Except Fault (Nat × List Char) :=
  match text with
  | [] => .error .escape
  | '}' :: rest =>
    match value with
    | some value => .ok (value, skip extended rest)
    | none => .error .escape
  | c :: rest =>
    match hexValue? c with
    | some digit => bracedHex extended (some (16 * value.getD 0 + digit)) (skip extended rest)
    | none => .error .escape
termination_by text.length
decreasing_by exact Nat.lt_succ_of_le (length_skip_le _ _)

/-- The digits of a hexadecimal escape: `count` of them, or any number in braces. -/
def hexDigits (extended : Bool) (count : Nat) : List Char → Except Fault (Nat × List Char)
  | '{' :: rest => bracedHex extended none (skip extended rest)
  | text => fixedHex extended count 0 text

/-- The character of a hexadecimal escape of `count` digits or in braces. The number must be that of
a character. -/
def hexEscape (extended : Bool) (count : Nat) (text : List Char) :
    Except Fault (Char × List Char) := do
  let (code, rest) ← hexDigits extended count (skip extended text)
  match charOfCode? code with
  | some c => .ok (c, rest)
  | none => .error .escape

/-- Decimal digits; `value` is the number read so far, if any. -/
def digitsFrom (extended : Bool) (value : Option Nat) (text : List Char) :
    Option Nat × List Char :=
  match text with
  | [] => (value, [])
  | c :: rest =>
    if c.isDigit then
      digitsFrom extended (some (10 * value.getD 0 + (c.toNat - 48))) (skip extended rest)
    else (value, c :: rest)
termination_by text.length
decreasing_by exact Nat.lt_succ_of_le (length_skip_le _ _)

/-- The largest number that a counted repetition can write. -/
def maxCount : Nat := 4294967295

/-- The number of a counted repetition, if one was `found` and it is not too large, and the text
after the white space behind it. -/
def countOf (extended : Bool) (found : Option Nat × List Char) : Except Fault (Nat × List Char) :=
  match found with
  | (some value, rest) =>
    if value ≤ maxCount then .ok (value, skip extended (rest.dropWhile Text.isBlank))
    else .error .repetitionCount
  | (none, _) => .error .repetitionCount

/-- A number of a counted repetition, with white space around it. -/
def decimal (extended : Bool) (text : List Char) : Except Fault (Nat × List Char) :=
  countOf extended (digitsFrom extended none (text.dropWhile Text.isBlank))

/-- The upper bound of a counted repetition and its closing brace. The bounds must be in order. -/
def countsUpTo (extended : Bool) (least : Nat) (text : List Char) :
    Except Fault ((Nat × Option Nat) × List Char) := do
  let (most, text) ← decimal extended text
  match text with
  | '}' :: rest =>
    if least ≤ most then .ok ((least, some most), rest) else .error .repetitionCount
  | _ => .error .repetitionCount

/-- The bounds of a counted repetition, read after its comma: the upper one may be missing. -/
def countsFrom (extended : Bool) (least : Nat) :
    List Char → Except Fault ((Nat × Option Nat) × List Char)
  | '}' :: rest => .ok ((least, none), rest)
  | text => countsUpTo extended least text

/-- The bounds of a counted repetition, read after its opening brace and what is skipped there, up
to its closing brace. -/
def counts (extended : Bool) (text : List Char) :
    Except Fault ((Nat × Option Nat) × List Char) := do
  let (least, text) ← decimal extended text
  match text with
  | '}' :: rest => .ok ((least, some least), rest)
  | ',' :: rest => countsFrom extended least (skip extended rest)
  | _ => .error .repetitionCount

/-! ## Escapes -/

/-- What an escape stands for. -/
inductive Primitive where
  | literal (c : Char)
  | set (set : CharSet)
  | anchor (anchor : Anchor)
  deriving Repr, DecidableEq

/-- The characters with a meaning of their own, which a backslash makes literal. -/
def metaChars : List Char :=
  ['\\', '.', '+', '*', '?', '(', ')', '|', '[', ']', '{', '}', '^', '$', '#', '&', '-', '~']

/-- Whether a backslash before the character stands for the character itself. -/
def isEscapable (c : Char) : Bool :=
  metaChars.contains c || (c.toNat < 128 && !c.isAlphanum && c != '<' && c != '>')

/-- The letters and hyphens at the start of a text, and the text after them. In extended mode they
may be apart. -/
def boundaryName (extended : Bool) (text : List Char) : List Char × List Char :=
  match text with
  | [] => ([], [])
  | c :: rest =>
    if c.isAlpha || c == '-' then
      let (name, rest) := boundaryName extended (skip extended rest)
      (c :: name, rest)
    else ([], c :: rest)
termination_by text.length
decreasing_by exact Nat.lt_succ_of_le (length_skip_le _ _)

/-- The word boundary with a name: the start or the end of a word, or one side of it alone. -/
def boundary? (name : List Char) : Option Anchor :=
  match String.ofList name with
  | "start" => some .wordStart
  | "end" => some .wordEnd
  | "start-half" => some .wordStartHalf
  | "end-half" => some .wordEndHalf
  | _ => none

/-- The word boundary whose name, if there is one, and the text after it were `found` behind the
brace at the start of a text. Where no name follows the brace, the brace is left for a counted
repetition. -/
def namedBoundary (text : List Char) (found : List Char × List Char) :
    Except Fault (Anchor × List Char) :=
  match found with
  | (_, []) => .error .escape
  | ([], _ :: _) => .ok (.wordBoundary, text)
  | (name, '}' :: rest) =>
    match boundary? name with
    | some anchor => .ok (anchor, rest)
    | none => .error .escape
  | _ => .error .escape

/-- The word boundary of `\b`, read after the escape, with its name if it has one as in
`\b{start}`. -/
def wordBoundary (extended : Bool) (text : List Char) : Except Fault (Anchor × List Char) :=
  match text with
  | '{' :: rest => namedBoundary ('{' :: rest) (boundaryName extended (skip extended rest))
  | text => .ok (.wordBoundary, text)

/-- An escape, read after its backslash: a character by its number or letter, a class, an assertion,
or a character that would have a meaning of its own. -/
def escape (extended : Bool) (text : List Char) : Except Fault (Primitive × List Char) :=
  match text with
  | [] => .error .escape
  | c :: rest =>
    match c with
    | 'x' => do let (c, rest) ← hexEscape extended 2 rest; .ok (.literal c, rest)
    | 'u' => do let (c, rest) ← hexEscape extended 4 rest; .ok (.literal c, rest)
    | 'U' => do let (c, rest) ← hexEscape extended 8 rest; .ok (.literal c, rest)
    | 'd' => .ok (.set .digit, rest)
    | 'D' => .ok (.set (.compl .digit), rest)
    | 's' => .ok (.set .space, rest)
    | 'S' => .ok (.set (.compl .space), rest)
    | 'w' => .ok (.set .word, rest)
    | 'W' => .ok (.set (.compl .word), rest)
    | 'a' => .ok (.literal '\x07', rest)
    | 'f' => .ok (.literal '\x0c', rest)
    | 't' => .ok (.literal '\t', rest)
    | 'n' => .ok (.literal '\n', rest)
    | 'r' => .ok (.literal '\r', rest)
    | 'v' => .ok (.literal '\x0b', rest)
    | 'A' => .ok (.anchor .textStart, rest)
    | 'z' => .ok (.anchor .textEnd, rest)
    | 'b' => do
      let (anchor, rest) ← wordBoundary extended rest
      .ok (.anchor anchor, rest)
    | 'B' => .ok (.anchor .notWordBoundary, rest)
    | '<' => .ok (.anchor .wordStart, rest)
    | '>' => .ok (.anchor .wordEnd, rest)
    | 'p' | 'P' => .error .unicodeClass
    | c => if isEscapable c then .ok (.literal c, rest) else .error .escape

/-! ## Character classes -/

/-- A set under the flags: closed under case if case is ignored. -/
def Flags.fold (flags : Flags) (set : CharSet) : CharSet :=
  if flags.ignoreCase then .foldCase set else set

/-- The operators between the parts of a class. -/
inductive SetOp where
  | inter
  | diff
  | symmDiff
  deriving Repr, DecidableEq

/-- The sets joined by an operator that waits for its right side. Case is ignored on both sides
before they are joined. -/
def SetOp.join (flags : Flags) (pending : Option (SetOp × CharSet)) (right : CharSet) : CharSet :=
  match pending with
  | none => right
  | some (.inter, left) => .inter (flags.fold left) (flags.fold right)
  | some (.diff, left) => .diff (flags.fold left) (flags.fold right)
  | some (.symmDiff, left) => .symmDiff (flags.fold left) (flags.fold right)

/-- The name of an ASCII class such as `[:alpha:]`, read up to its last bracket. If it is no such
name the brackets are those of a class inside the class. -/
def asciiNamed? (flags : Flags) (negated : Bool) (text : List Char) :
    Option (CharSet × List Char) :=
  match text.takeWhile (· != ':'), text.dropWhile (· != ':') with
  | name, ':' :: ']' :: rest =>
    (CharSet.ascii? (String.ofList name)).map fun set =>
      (if negated then .compl (flags.fold set) else flags.fold set, rest)
  | _, _ => none

/-- An ASCII class such as `[:alpha:]` or `[:^alpha:]`, read after its first bracket. -/
def asciiClass? (flags : Flags) : List Char → Option (CharSet × List Char)
  | ':' :: '^' :: rest => asciiNamed? flags true rest
  | ':' :: rest => asciiNamed? flags false rest
  | _ => none

/-- A character or escape inside a class. An escape there cannot be an assertion. -/
def classItem (extended : Bool) (text : List Char) : Except Fault (Primitive × List Char) :=
  match text with
  | [] => .error .classUnclosed
  | '\\' :: rest => do
    let (item, rest) ← escape extended rest
    match item with
    | .anchor _ => .error .classItem
    | item => .ok (item, rest)
  | c :: rest => .ok (.literal c, rest)

/-- The first character that is neither white space nor the mark of a comment, if one is left. -/
def firstWritten? (inComment : Bool) : List Char → Option Char
  | [] => none
  | c :: rest =>
    if Text.isBlank c then firstWritten? inComment rest
    else if c == '#' && !inComment then firstWritten? true rest
    else some c

/-- The character after a hyphen, by which a range is told from a hyphen that stands for itself.
In extended mode white space is passed over, and so is the mark of a comment, but not the comment
itself. -/
def afterHyphen? (extended : Bool) (text : List Char) : Option Char :=
  if extended then (firstWritten? false text).or text.head? else text.head?

/-- The set that an item of a class stands for by itself. -/
def Primitive.alone : Primitive → Except Fault CharSet
  | literal c => .ok (.single c)
  | .set chars => .ok chars
  | anchor _ => .error .classItem

/-- The set from one item of a class to another. -/
def Primitive.upTo : Primitive → Primitive → Except Fault CharSet
  | literal low, literal high =>
    if low ≤ high then .ok (.ranges [(low.toNat, high.toNat)]) else .error .classRange
  | _, _ => .error .classRange

/-- The rest of a range, read after its hyphen. -/
def rangeTo (extended : Bool) (first : Primitive) (text : List Char) :
    Except Fault (CharSet × List Char) := do
  let (last, rest) ← classItem extended (skip extended text)
  let set ← first.upTo last
  .ok (set, rest)

/-- A range or a single item of a class, read after its first item. A hyphen is left where it
stands for itself. -/
def rangeFrom (extended : Bool) (first : Primitive) : List Char → Except Fault (CharSet × List Char)
  | '-' :: rest =>
    if afterHyphen? extended rest = some ']' ∨ afterHyphen? extended rest = some '-' then
      first.alone >>= fun set => .ok (set, '-' :: rest)
    else rangeTo extended first rest
  | text => first.alone >>= fun set => .ok (set, text)

/-- A character, an escape or a range inside a class. -/
def classRange (extended : Bool) (text : List Char) : Except Fault (CharSet × List Char) := do
  let (first, text) ← classItem extended text
  rangeFrom extended first (skip extended text)

/-- The hyphens at the start of a class, which stand for themselves, added to the set, and the text
after them. -/
def leadingHyphens (extended : Bool) (set : CharSet) (text : List Char) : CharSet × List Char :=
  match text with
  | '-' :: rest => leadingHyphens extended (.union set (.single '-')) (skip extended rest)
  | text => (set, text)
termination_by text.length
decreasing_by exact Nat.lt_succ_of_le (length_skip_le _ _)

/-- Whether a class is negated, and the text after its caret. -/
def classCaret (extended : Bool) : List Char → Bool × List Char
  | '^' :: rest => (true, skip extended rest)
  | text => (false, text)

/-- The hyphens or the closing bracket that stand for themselves at the start of a class. -/
def classStart (extended : Bool) : List Char → CharSet × List Char
  | ']' :: rest => (.single ']', skip extended rest)
  | text => leadingHyphens extended .none text

/-- The start of a class, after its bracket: whether it is negated, the hyphens or the closing
bracket that stand for themselves there, and the text after them. -/
def classOpen (extended : Bool) (text : List Char) : (Bool × CharSet) × List Char :=
  let (negated, text) := classCaret extended (skip extended text)
  let (set, text) := classStart extended text
  ((negated, set), text)

/-- The operator that a character writes when it stands twice. -/
def SetOp.ofChar? : Char → Option SetOp
  | '&' => some .inter
  | '-' => some .diff
  | '~' => some .symmDiff
  | _ => none

/-- The operator at the start of a text, and the text after it. -/
def setOperator? : List Char → Option (SetOp × List Char)
  | c :: d :: rest => if c = d then (SetOp.ofChar? c).map (·, rest) else none
  | _ => none

/-- A class up to its closing bracket: `set` holds the items read so far and `pending` the left
side of the last operator. -/
def classBody (flags : Flags) (negated : Bool) :
    Nat → CharSet → Option (SetOp × CharSet) → List Char → Except Fault (CharSet × List Char)
  | 0, _, _, _ => .error .classUnclosed
  | fuel + 1, set, pending, text =>
    match skip flags.extended text with
    | [] => .error .classUnclosed
    | ']' :: rest =>
      let whole := flags.fold (SetOp.join flags pending set)
      .ok (.bracket (if negated then .compl whole else whole), rest)
    | '[' :: rest =>
      match asciiClass? flags rest with
      | some (item, rest) => classBody flags negated fuel (.union set item) pending rest
      | none => do
        let ((innerNegated, start), rest) := classOpen flags.extended rest
        let (item, rest) ← classBody flags innerNegated fuel start none rest
        classBody flags negated fuel (.union set item) pending rest
    | text =>
      match setOperator? text with
      | some (operator, rest) =>
        classBody flags negated fuel .none (some (operator, SetOp.join flags pending set)) rest
      | none => do
        let (item, rest) ← classRange flags.extended text
        classBody flags negated fuel (.union set item) pending rest

/-- A bracketed class, read after its opening bracket. -/
def bracketed (flags : Flags) (text : List Char) : Except Fault (CharSet × List Char) :=
  let ((negated, start), rest) := classOpen flags.extended text
  classBody flags negated (text.length + 1) start none rest

/-! ## Groups -/

/-- Sets or clears the flag with a letter. Expressions are over characters, so that `u` is always
set and cannot be cleared. -/
def Flags.set? (flags : Flags) (letter : Char) (value : Bool) : Option Flags :=
  match letter with
  | 'i' => some { flags with ignoreCase := value }
  | 'm' => some { flags with multiLine := value }
  | 's' => some { flags with dotAll := value }
  | 'R' => some { flags with crlf := value }
  | 'x' => some { flags with extended := value }
  | 'U' => some { flags with swapLazy := value }
  | 'u' => if value then some flags else none
  | _ => none

/-- The flags written after `(?`, up to a colon or a closing parenthesis: `seen` lists the letters
read so far, `value` is false after a hyphen and `dangling` right after one. -/
def flagList (flags : Flags) (seen : List Char) (value dangling : Bool) :
    List Char → Except Fault ((Flags × Bool) × List Char)
  | [] => .error .flag
  | ':' :: rest => if dangling then .error .flag else .ok ((flags, true), rest)
  | ')' :: rest =>
    if dangling then .error .flag
    else if seen.isEmpty then .error .nothingToRepeat
    else .ok ((flags, false), rest)
  | '-' :: rest => if value then flagList flags ('-' :: seen) false true rest else .error .flag
  | c :: rest =>
    if seen.contains c then .error .flag
    else match flags.set? c value with
      | some flags => flagList flags (c :: seen) value false rest
      | none => .error .flag

/-- How a parenthesis opens: a group, which may be remembered, or flags that are no group at all. -/
inductive GroupHead where
  /-- A group that is not remembered, and its flags. -/
  | plain (flags : Flags)
  /-- A group that is remembered, and its name. -/
  | capture (name : Option (List Char))
  /-- Flags for the rest of the enclosing group. -/
  | directive (flags : Flags)
  deriving Repr, DecidableEq

/-- Whether a character may stand in the name of a group. -/
def isNameChar (first : Bool) (c : Char) : Bool :=
  if first then c == '_' || Text.isAlphabetic c
  else c == '_' || c == '.' || c == '[' || c == ']' || Text.isAlphanumeric c

/-- Whether a text can be the name of a group. -/
def isGroupName : List Char → Bool
  | [] => false
  | c :: name => isNameChar true c && name.all (isNameChar false)

/-- The name of a group, read up to `>`. It starts with a letter or an underscore. -/
def groupName (text : List Char) : Except Fault (List Char × List Char) :=
  match text.dropWhile (· != '>') with
  | '>' :: rest =>
    if isGroupName (text.takeWhile (· != '>')) then .ok (text.takeWhile (· != '>'), rest)
    else .error .groupName
  | _ => .error .groupName

/-- The start of a group with a name, read after `?<` or `?P<`. -/
def namedHead (text : List Char) : Except Fault (GroupHead × List Char) := do
  let (name, rest) ← groupName text
  .ok (.capture (some name), rest)

/-- The start of a group after `?<`: it has a name, as looking behind is not supported. -/
def angleHead : List Char → Except Fault (GroupHead × List Char)
  | '=' :: _ => .error .lookAround
  | '!' :: _ => .error .lookAround
  | text => namedHead text

/-- The start of a group with flags, read after its question mark. -/
def flaggedHead (flags : Flags) (text : List Char) : Except Fault (GroupHead × List Char) := do
  let ((inner, opens), rest) ← flagList flags [] true false text
  .ok (if opens then .plain inner else .directive inner, rest)

/-- The start of a group, read after its question mark: a name, or flags. Looking ahead or behind is
refused. -/
def markHead (flags : Flags) : List Char → Except Fault (GroupHead × List Char)
  | '=' :: _ => .error .lookAround
  | '!' :: _ => .error .lookAround
  | '<' :: rest => angleHead rest
  | 'P' :: '<' :: rest => namedHead rest
  | text => flaggedHead flags text

/-- The start of a group, read after its parenthesis and what is skipped there. -/
def groupHead (flags : Flags) : List Char → Except Fault (GroupHead × List Char)
  | '?' :: rest => markHead flags rest
  | text => .ok (.capture none, text)

/-! ## Expressions -/

/-- A part of a sequence: an expression, or flags, which cannot be repeated. -/
inductive Item where
  | atom (expr : Expr)
  | directive
  deriving Repr, DecidableEq

/-- What an item matches; flags match the empty text. -/
def Item.expr : Item → Expr
  | atom expr => expr
  | directive => .empty

/-- The sequence of the items, given in reverse. -/
def sequenceOf (items : List Item) : Expr :=
  match items with
  | [] => .empty
  | last :: items => items.foldl (fun tail item => .seq item.expr tail) last.expr

/-- The choice between the branches, given in reverse, and a last one. -/
def choiceOf (branches : List Expr) (last : Expr) : Expr :=
  branches.foldl (fun right left => .either left right) last

/-- The items after the last one is repeated. -/
def repeatLast (items : List Item) (least : Nat) (most : Option Nat) (isLazy : Bool) :
    Except Fault (List Item) :=
  match items with
  | .atom expr :: items => .ok (.atom (.times expr least most isLazy) :: items)
  | _ => .error .nothingToRepeat

/-- Whether a repetition is lazy, by the mark that may follow it, and the text after the mark. -/
def lazyMark (flags : Flags) : List Char → Bool × List Char
  | '?' :: rest => (!flags.swapLazy, rest)
  | text => (flags.swapLazy, text)

/-- The expression for a literal character. -/
def Flags.literal (flags : Flags) (c : Char) : Expr := .one (flags.fold (.single c))

/-- The expression for a dot. -/
def Flags.dot (flags : Flags) : Expr :=
  if flags.dotAll then .one .all
  else if flags.crlf then .one (.compl (.ofChars ['\r', '\n']))
  else .one (.compl (.single '\n'))

/-- The assertion for `^`. -/
def Flags.caret (flags : Flags) : Anchor :=
  if flags.multiLine then if flags.crlf then .crlfLineStart else .lineStart else .textStart

/-- The assertion for `$`. -/
def Flags.dollar (flags : Flags) : Anchor :=
  if flags.multiLine then if flags.crlf then .crlfLineEnd else .lineEnd else .textEnd

/-- The expression for an escape. -/
def Primitive.expr (flags : Flags) : Primitive → Expr
  | .literal c => flags.literal c
  | .set chars => .one chars
  | .anchor condition => .look condition

/-- An expression up to the end of the text or to a closing parenthesis, which stays in the text:
`branches` holds the alternatives before the current one, `items` what the current one has so far
and `groups` the names, if any, of the remembered groups opened so far. -/
def alternatives : Nat → Flags → List (Option (List Char)) → List Expr → List Item →
    List Char → Except Fault ((Expr × List (Option (List Char))) × List Char)
  | 0, _, _, _, _, _ => .error .groupUnclosed
  | fuel + 1, flags, groups, branches, items, text =>
    match skip flags.extended text with
    | [] => .ok ((choiceOf branches (sequenceOf items), groups), [])
    | ')' :: rest => .ok ((choiceOf branches (sequenceOf items), groups), ')' :: rest)
    | '|' :: rest => alternatives fuel flags groups (sequenceOf items :: branches) [] rest
    | '(' :: rest => do
      let (head, rest) ← groupHead flags (skip flags.extended rest)
      match head with
      | .directive inner => alternatives fuel inner groups branches (.directive :: items) rest
      | .plain inner =>
        let ((expr, groups), rest) ← alternatives fuel inner groups [] [] rest
        match rest with
        | ')' :: rest =>
          alternatives fuel flags groups branches (.atom (.group none expr) :: items) rest
        | _ => .error .groupUnclosed
      | .capture name =>
        let index := groups.length
        let groups ←
          if name.isSome && groups.contains name then .error .groupNameTwice
          else .ok (name :: groups)
        let ((expr, groups), rest) ← alternatives fuel flags groups [] [] rest
        match rest with
        | ')' :: rest =>
          alternatives fuel flags groups branches (.atom (.group (some index) expr) :: items) rest
        | _ => .error .groupUnclosed
    | '[' :: rest => do
      let (set, rest) ← bracketed flags rest
      alternatives fuel flags groups branches (.atom (.one set) :: items) rest
    | '?' :: rest => do
      let (isLazy, rest) := lazyMark flags rest
      let items ← repeatLast items 0 (some 1) isLazy
      alternatives fuel flags groups branches items rest
    | '*' :: rest => do
      let (isLazy, rest) := lazyMark flags rest
      let items ← repeatLast items 0 none isLazy
      alternatives fuel flags groups branches items rest
    | '+' :: rest => do
      let (isLazy, rest) := lazyMark flags rest
      let items ← repeatLast items 1 none isLazy
      alternatives fuel flags groups branches items rest
    | '{' :: rest => do
      let ((least, most), rest) ← counts flags.extended (skip flags.extended rest)
      let (isLazy, rest) := lazyMark flags (skip flags.extended rest)
      let items ← repeatLast items least most isLazy
      alternatives fuel flags groups branches items rest
    | '\\' :: rest => do
      let (primitive, rest) ← escape flags.extended rest
      alternatives fuel flags groups branches (.atom (primitive.expr flags) :: items) rest
    | '.' :: rest => alternatives fuel flags groups branches (.atom flags.dot :: items) rest
    | '^' :: rest =>
      alternatives fuel flags groups branches (.atom (.look flags.caret) :: items) rest
    | '$' :: rest =>
      alternatives fuel flags groups branches (.atom (.look flags.dollar) :: items) rest
    | c :: rest => alternatives fuel flags groups branches (.atom (flags.literal c) :: items) rest

/-- Reads a whole text as an expression. -/
def Expr.parse (text : List Char) : Except Fault Expr := do
  let ((expr, _), rest) ← alternatives (text.length + 1) {} [] [] [] text
  match rest with
  | [] => .ok expr
  | _ => .error .groupUnopened

end StructSearch.Regex

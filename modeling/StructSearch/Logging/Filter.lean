import StructSearch.Logging.Level
import StructSearch.Text.Blank
import StructSearch.Text.Bytes
import StructSearch.Text.Letters

/-!
# Filters of a log

A filter is a list of directives with commas between them. A directive is a level for every event,
or a target with a level for the events of that target; a target alone lets all of its events
through.

The program leaves filters to the logging library that it uses. This module stands for the part of
the syntax of that library that names targets and levels, which is what the settings of the program
are made of; directives for spans and for the values of fields are left out and refused.
-/

namespace StructSearch.Logging

/-- Which events of a target a log lets through. -/
structure Directive where
  /-- The target; none for the events of every target. -/
  target : Option String
  level : Level
  deriving Repr, DecidableEq, Inhabited

namespace Directive

/-- Whether a directive can start with a character. -/
def isStart (c : Char) : Bool := Text.isAlphanumeric c || c == '-' || c == ':' || c == '_'

/-- A directive without an equals sign: a level, or else a target. -/
def ofWord (text : List Char) : Directive :=
  match Level.ofText? text with
  | some level => ⟨none, level⟩
  | none => ⟨some (String.ofList text), .trace⟩

/-- The level after the equals sign; none written lets everything through. -/
def levelAfter? (text : List Char) : Option Level :=
  if text.isEmpty then some .trace else Level.ofText? text

/-- The directive that a text writes. White space around it is passed over when the equals sign is
looked for, but the text is cut at that many bytes from its own start. A text that starts with a
bracket, as the directive `[span]=info` for the events of a span does, is refused here, although the
logging library reads it. -/
def ofText? (text : List Char) : Option Directive :=
  match Text.trim text with
  | [] => none
  | c :: rest =>
    if !isStart c then none
    else if !rest.contains '=' then some (ofWord text)
    else do
      let front := c :: rest.takeWhile (· != '=')
      let (target, after) ← Text.splitBytes? (Text.byteSize front) text
      let level ← levelAfter? (after.drop 1)
      some ⟨some (String.ofList target), level⟩

end Directive

/-- The pieces of a text between commas, empty ones included. A text without a comma is one piece.
-/
def splitCommas : List Char → List (List Char)
  | [] => [[]]
  | ',' :: rest => [] :: splitCommas rest
  | c :: rest =>
    match splitCommas rest with
    | [] => [[c]]
    | piece :: pieces => (c :: piece) :: pieces

/-- The directives of a filter; empty pieces do not count. -/
def Filter.ofText? (text : String) : Option (List Directive) :=
  ((splitCommas text.toList).filter (!·.isEmpty)).mapM Directive.ofText?

end StructSearch.Logging

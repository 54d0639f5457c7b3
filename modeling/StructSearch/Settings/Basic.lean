import StructSearch.Logging.Format
import StructSearch.Matching.Mode
import StructSearch.Settings.Json
import StructSearch.Source.Language

/-!
# Settings

What a search can be told beside its query, and how a JSON document says it. Every setting has a
standard value, so the empty document gives the standard settings.

A document is refused as a whole if it has a field of another name, or a value of the wrong sort for
a field. A document that is read may still ask for a mode that reports nothing; that is found when
the search starts.
-/

namespace StructSearch

open Source Settings

/-- Which nodes a search reports. -/
structure ModeSettings where
  declarations : Bool := true
  expressions : Bool := true
  definitionsOnly : Bool := false
  deriving Repr, DecidableEq, Inhabited

/-- What is logged, and how. -/
structure LogSettings where
  filter : String := "info"
  format : Logging.Format := .json
  deriving Repr, DecidableEq, Inhabited

/-- The settings of a search. Each has a standard value, which stands where a document is silent. -/
structure SearchSettings where
  /-- The language of every file; by default each file tells its own. -/
  language : Option Language := none
  mode : ModeSettings := {}
  /-- Whether files with syntax faults are rejected. -/
  rejectFaults : Bool := false
  logging : LogSettings := {}
  deriving Repr, DecidableEq, Inhabited

/-! ## Reading -/

namespace Settings

/-- The value of a field, or a standard one if the field is absent. -/
def fieldOr {α : Type} (standard : α) (read : Json → Option α) : Option Json → Option α
  | none => some standard
  | some json => read json

/-- The language with exactly this name. -/
def languageNamed? (name : String) : Option Language := Language.all.find? (·.name == name)

/-- A language, or null for none. Only the names of the languages stand for them here, not their
extensions. -/
def language? : Json → Option (Option Language)
  | .null => some none
  | json => (json.choice?.bind languageNamed?).map some

end Settings

/-- The mode settings that a JSON value gives. By default declarations and expressions are reported,
whether definitions or not. -/
def ModeSettings.ofJson? (json : Json) : Option ModeSettings :=
  match json.fields? ["declarations", "expressions", "definitions_only"] with
  | some [declarations, expressions, definitionsOnly] => do
    let declarations ← fieldOr true Json.toBool? declarations
    let expressions ← fieldOr true Json.toBool? expressions
    let definitionsOnly ← fieldOr false Json.toBool? definitionsOnly
    some { declarations, expressions, definitionsOnly }
  | _ => none

/-- The log settings that a JSON value gives. The filter is not looked at here; whether it can be
read is found when the log is set up. -/
def LogSettings.ofJson? (json : Json) : Option LogSettings :=
  match json.fields? ["filter", "format"] with
  | some [filter, format] => do
    let filter ← fieldOr "info" Json.toText? filter
    let format ← fieldOr .json (fun json => json.choice?.bind Logging.Format.ofName?) format
    some { filter, format }
  | _ => none

namespace SearchSettings

/-- The settings that a JSON value gives. -/
def ofJson? (json : Json) : Option SearchSettings :=
  match json.fields? ["language", "mode", "reject_syntax_errors", "logging"] with
  | some [language, mode, rejectFaults, logging] => do
    let language ← fieldOr none language? language
    let mode ← fieldOr {} ModeSettings.ofJson? mode
    let rejectFaults ← fieldOr false Json.toBool? rejectFaults
    let logging ← fieldOr {} LogSettings.ofJson? logging
    some { language, mode, rejectFaults, logging }
  | _ => none

/-- The settings that a document gives. -/
def ofText? (text : String) : Option SearchSettings := (Json.ofText? text).bind ofJson?

/-! ## Meaning -/

/-- Why settings cannot be used. -/
inductive Fault where
  /-- Neither declarations nor expressions would be reported. -/
  | noMatchKinds
  deriving Repr, DecidableEq, Inhabited

/-- The fault in words. -/
def Fault.message : Fault → String
  | noMatchKinds => "at least one of declarations or expressions must be enabled"

/-- The mode of a search with these settings. One that would report nothing is refused; definitions
count as declarations in this. -/
def matchMode (settings : SearchSettings) : Except Fault Mode :=
  let mode : Mode :=
    ⟨settings.mode.declarations, settings.mode.expressions, settings.mode.definitionsOnly⟩
  if mode.includesDeclarations || mode.includesExpressions then .ok mode
  else .error .noMatchKinds

end SearchSettings

end StructSearch

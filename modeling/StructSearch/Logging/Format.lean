import StructSearch.Text.Case

/-!
# Formats of a log

How the lines of a log are written.
-/

namespace StructSearch.Logging

/-- How the lines of a log are written. -/
inductive Format where
  /-- Each event as a JSON object. -/
  | json
  /-- Each event as a line of text. -/
  | compact
  deriving Repr, DecidableEq, Inhabited

namespace Format

/-- The name of a format. -/
def name : Format → String
  | json => "json"
  | compact => "compact"

/-- The format with exactly this name. -/
def ofName? : String → Option Format
  | "json" => some json
  | "compact" => some compact
  | _ => none

/-- The format that a text names, in any case of the letters A to Z. -/
def ofText? (text : String) : Option Format := ofName? (Text.asciiLowercase text)

/-- The message for a text that names no format. -/
def unknownMessage : String := "Matching variant not found"

end Format

end StructSearch.Logging

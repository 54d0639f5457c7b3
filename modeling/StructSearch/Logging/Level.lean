import StructSearch.Text.Case

/-!
# Levels of a log

How serious an event is, and how a text names the events that a log lets through.
-/

namespace StructSearch.Logging

/-- How serious an event is; as the level of a filter, the least serious events that it lets
through. -/
inductive Level where
  /-- As the level of a filter: no event at all. -/
  | off
  | error
  | warn
  | info
  | debug
  | trace
  deriving Repr, DecidableEq, Inhabited

namespace Level

/-- The name of a level in capitals. -/
def name : Level → String
  | off => "OFF"
  | error => "ERROR"
  | warn => "WARN"
  | info => "INFO"
  | debug => "DEBUG"
  | trace => "TRACE"

/-- The level with a number. The numbers go up with what a filter lets through, from nothing to
everything. -/
def ofNat? : Nat → Option Level
  | 0 => some off
  | 1 => some error
  | 2 => some warn
  | 3 => some info
  | 4 => some debug
  | 5 => some trace
  | _ => none

/-- The number that a text of digits writes, with an optional plus sign. Leading zeros do not count,
and there is no limit on the digits. -/
def number? (text : List Char) : Option Nat :=
  let digits := match text with
    | '+' :: rest => rest
    | _ => text
  if digits.isEmpty || !digits.all Char.isDigit then none
  else some (digits.foldl (fun n c => 10 * n + (c.toNat - '0'.toNat)) 0)

/-- The level that a text names by its number, or by its name in any case. A number without a level
is no name either. -/
def ofText? (text : List Char) : Option Level :=
  match number? text with
  | some n => ofNat? n
  | none =>
    match Text.asciiLowercase (String.ofList text) with
    | "off" => some off
    | "error" => some error
    | "warn" => some warn
    | "info" => some info
    | "debug" => some debug
    | "trace" => some trace
    | _ => none

end Level

end StructSearch.Logging

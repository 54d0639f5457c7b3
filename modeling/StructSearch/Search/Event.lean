import StructSearch.Logging.Level
import StructSearch.Matching.Mode
import StructSearch.Source.Error

/-!
# Events of a search

What a search reports to the log while it runs.

An event carries what its line of the log is made of: a level, the part of the program that it comes
from, a message that is always the same, and details by name. Events are values here; writing them
is left to the log.
-/

namespace StructSearch.Search

open Source

/-- Something that happens during a search: in reading a source, in compiling the query, or in
searching a file. -/
inductive Event where
  /-- A source holds syntax faults. -/
  | faultsFound (path : String) (count : Nat)
  /-- The outline of a source was built. -/
  | outlined (path : String) (language : Language) (nodes : Nat)
  /-- The query is a pattern. -/
  | compiled (query : String) (mode : Mode)
  /-- A file was searched. -/
  | searched (path : String) (matched : Nat)
  /-- A file cannot be searched. -/
  | skipped (path : String) (error : Source.Error)
  deriving Repr, DecidableEq, Inhabited

/-- A detail of an event. -/
inductive Event.Detail where
  | text (value : String)
  | number (value : Nat)
  deriving Repr, DecidableEq, Inhabited

namespace Event

/-- How serious an event is. -/
def level : Event → Logging.Level
  | skipped .. => .warn
  | _ => .debug

/-- The part of the program that an event comes from, as log filters name it. -/
def target : Event → String
  | faultsFound .. | outlined .. => "sas_syntax::provider"
  | compiled .. | searched .. | skipped .. => "sas-engine::search"

/-- An event in words. -/
def message : Event → String
  | faultsFound .. => "syntax errors in source"
  | outlined .. => "lowered source tree"
  | compiled .. => "compiled pattern"
  | searched .. => "searched file"
  | skipped .. => "skipping file"

/-- The details of an event by name, in the order in which they are written. -/
def details : Event → List (String × Detail)
  | faultsFound path count => [("path", .text path), ("count", .number count)]
  | outlined path language nodes =>
    [("path", .text path), ("language", .text language.name), ("nodes", .number nodes)]
  | compiled query mode => [("query", .text query), ("mode", .text mode.print)]
  | searched path matched => [("path", .text path), ("matches", .number matched)]
  | skipped path error => [("path", .text path), ("error", .text error.message)]

end Event

end StructSearch.Search

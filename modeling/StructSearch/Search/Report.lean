import StructSearch.Matching.Finding
import StructSearch.Query.Parser
import StructSearch.Regex.Builtin
import StructSearch.Search.Reader
import StructSearch.Settings.Basic

/-!
# Reports of a search

`search` compiles a query and searches files for it. A file that cannot be searched is noted in the
report and does not stop the search.

Like everything built on fields, a search is defined for any engine of regular expressions. This
module brings the engine of the program into scope, with which a search runs where no other one is
given.
-/

namespace StructSearch.Search

variable [Regex.Engine]

open Query Source Matching

/-- What a search found in one file, or why the file was skipped. The matches are in the order of
the source. -/
structure FileOutcome where
  path : String
  result : Except Source.Error (List Finding)

/-- What a search found, file by file. -/
structure Report where
  outcomes : List FileOutcome

namespace Report

/-- The matches of all files, in the order in which the files were searched. Skipped files have
none. -/
def findings (report : Report) : List Finding :=
  report.outcomes.flatMap fun outcome =>
    match outcome.result with
    | .ok found => found
    | .error _ => []

/-- The files that were skipped, with the reasons, in the order in which they were to be searched.
-/
def failures (report : Report) : List (String × Source.Error) :=
  report.outcomes.filterMap fun outcome =>
    match outcome.result with
    | .ok _ => none
    | .error error => some (outcome.path, error)

/-- Whether every file was searched. -/
def isComplete (report : Report) : Bool :=
  report.outcomes.all fun outcome =>
    match outcome.result with
    | .ok _ => true
    | .error _ => false

end Report

/-- Why a search does not start. What is wrong with a single file is not among the reasons. -/
inductive Error where
  | pattern (error : Query.Error)
  | settings (fault : SearchSettings.Fault)
  deriving Repr, DecidableEq, Inhabited

namespace Error

/-- The message for a query that is no pattern. -/
def patternMessage (detail : String) : String := "invalid pattern: " ++ detail

/-- The message for settings that cannot be used. -/
def settingsMessage (detail : String) : String := "invalid configuration: " ++ detail

/-- The error in words. -/
def message : Error → String
  | pattern error => patternMessage error.message
  | settings fault => settingsMessage fault.message

end Error

/-- The reader of a search with settings. -/
def Reader.ofSettings (settings : SearchSettings) : Reader :=
  ⟨settings.language, settings.rejectFaults⟩

/-- Searches a source for a pattern. The path tells the language, and is what the matches are
reported under; nothing is read from it. -/
def searchSource (reader : Reader) (parse : Parser) (mode : Mode) (pattern : Pattern)
    (path source : String) : Except Source.Error (List Finding) × List Event :=
  let (result, events) := reader.outline parse path source
  (result.map fun outline => collect outline (some path) mode pattern, events)

/-- Searches a file for a pattern. That it was searched, or skipped and why, is the last of its
events. -/
def searchFile (reader : Reader) (parse : Parser) (store : FileStore) (mode : Mode)
    (pattern : Pattern) (path : String) : FileOutcome × List Event :=
  match reader.outlineFile parse store path with
  | (.error error, events) => (⟨path, .error error⟩, events ++ [.skipped path error])
  | (.ok outline, events) =>
    let found := collect outline (some path) mode pattern
    (⟨path, .ok found⟩, events ++ [.searched path found.length])

/-- Searches files one after the other. A file that is named twice is searched twice. -/
def searchFiles (reader : Reader) (parse : Parser) (store : FileStore) (mode : Mode)
    (pattern : Pattern) (paths : List String) : Report × List Event :=
  let outcomes := paths.map (searchFile reader parse store mode pattern)
  (⟨outcomes.map (·.1)⟩, outcomes.flatMap (·.2))

/-- Searches files for a query. The query is checked before the settings, and both before any file
is read. -/
def search (parse : Parser) (store : FileStore) (settings : SearchSettings) (query : String)
    (paths : List String) : Except Error (Report × List Event) :=
  match Pattern.compile query with
  | .error error => .error (.pattern error)
  | .ok pattern =>
    match settings.matchMode with
    | .error fault => .error (.settings fault)
    | .ok mode =>
      let (report, events) :=
        searchFiles (Reader.ofSettings settings) parse store mode pattern paths
      .ok (report, .compiled query mode :: events)

end StructSearch.Search

import StructSearch.Logging.Filter
import StructSearch.Settings.Basic

/-!
# Setting up the log

A program has one log. The first successful setup installs it; later ones change nothing, whatever
their settings.
-/

namespace StructSearch.Logging

/-- Why the log cannot be set up. In both cases the place of the log is left as it was. -/
inductive SetupFault where
  /-- The filter is not a list of directives. -/
  | filter
  /-- Another log is in place. -/
  | occupied
  deriving Repr, DecidableEq, Inhabited

/-- What is in place where the log of the program goes. There is one such place for the whole
program. -/
inductive Place where
  | empty
  /-- The log that a setup installed. -/
  | ours
  /-- A log from elsewhere. -/
  | foreign
  deriving Repr, DecidableEq, Inhabited

/-- Sets up the log. If that of the program is in place nothing else is looked at; otherwise a bad
filter counts before an occupied place. -/
def setUp (settings : LogSettings) : Place → Except SetupFault Place
  | .ours => .ok .ours
  | .empty => if (Filter.ofText? settings.filter).isSome then .ok .ours else .error .filter
  | .foreign => if (Filter.ofText? settings.filter).isSome then .error .occupied else .error .filter

end StructSearch.Logging

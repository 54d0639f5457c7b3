import StructSearch.Source.Files

/-!
# Errors of a source

Why a file cannot be searched, with the wording of each reason.

These are the reasons for which a search skips a file and goes on. Messages name the path or the
language that they are about, as the user gave it.
-/

namespace StructSearch.Source

/-- Why a file cannot be searched. Each reason ends the search of that file alone. -/
inductive Error where
  /-- No parser for the language. -/
  | parserInit (language : Language) (detail : String)
  /-- No language has the extension. -/
  | unsupportedExtension (extension : String)
  /-- The path has no extension. -/
  | unknownLanguage (path : String)
  | read (path : String) (fault : ReadFault)
  /-- The content is not UTF-8. -/
  | invalidEncoding (path : String)
  /-- The parser gives no tree. -/
  | parse (language : Language) (detail : String)
  /-- The source holds syntax faults and these are rejected. -/
  | faulty (path : String) (count line column : Nat)
  deriving Repr, DecidableEq, Inhabited

/-- The error in words. -/
def Error.message : Error → String
  | parserInit language detail =>
    "failed to initialise parser for " ++ language.name ++ ": " ++ detail
  | unsupportedExtension extension => "unsupported file extension: " ++ extension
  | unknownLanguage path => "could not determine language for path: " ++ path
  | read path fault => "failed to read " ++ path ++ ": " ++ fault.describe
  | invalidEncoding path => path ++ " is not valid UTF-8"
  | parse language detail => "failed to parse " ++ language.name ++ ": " ++ detail
  | faulty path count line column =>
    path ++ " has " ++ toString count ++ " syntax error(s), first at " ++ toString line ++ ":" ++
      toString column

end StructSearch.Source

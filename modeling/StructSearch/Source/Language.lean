import StructSearch.Text.Blank
import StructSearch.Text.Case

/-!
# Languages and paths

The languages that can be searched, and how a path tells its language by its extension.

Headers count as C++, since their extensions do not tell the two languages apart.
-/

namespace StructSearch.Source

/-- A language that can be searched. -/
inductive Language where
  | c
  | cpp
  deriving Repr, DecidableEq, Inhabited

namespace Language

/-- The name of a language. -/
def name : Language → String
  | c => "c"
  | cpp => "cpp"

/-- The name of a language as a proper name. -/
def title : Language → String
  | c => "C"
  | cpp => "Cpp"

/-- Every language. -/
def all : List Language := [c, cpp]

/-- The language of files with an extension, in any case of the letters A to Z. The extension is
given without its dot. -/
def ofExtension? (extension : String) : Option Language :=
  match Text.asciiLowercase extension with
  | "c" => some c
  | "cc" | "cpp" | "cxx" | "c++" | "h" | "hh" | "hpp" | "hxx" | "h++" | "inl" => some cpp
  | _ => none

/-- A text that names no language, trimmed and with its letters A to Z lower-cased. -/
structure Unknown where
  input : String
  deriving Repr, DecidableEq, Inhabited

/-- The message for a text that names no language. -/
def Unknown.message (unknown : Unknown) : String :=
  "unsupported language: '" ++ unknown.input ++ "'"

/-- The language that a text names, with white space around it and in any case. -/
def ofName (text : String) : Except Unknown Language :=
  match Text.asciiLowercase (String.ofList (Text.trim text.toList)) with
  | "c" => .ok c
  | "cpp" | "c++" | "cxx" => .ok cpp
  | other => .error ⟨other⟩

end Language

/-! ## Paths -/

/-- The pieces of a text between slashes, empty ones included. -/
def splitSlashes : List Char → List (List Char)
  | [] => [[]]
  | '/' :: rest => [] :: splitSlashes rest
  | c :: rest =>
    match splitSlashes rest with
    | [] => [[c]]
    | piece :: pieces => (c :: piece) :: pieces

/-- The components of a path; empty ones and single dots do not count. -/
def pathComponents (path : String) : List (List Char) :=
  (splitSlashes path.toList).filter fun piece => piece != [] && piece != ['.']

/-- The text after the last dot of a name, unless the name has no dot, starts with its only one
or goes to the parent. -/
def nameExtension? (name : List Char) : Option (List Char) :=
  if name = ['.', '.'] then none
  else
    let after := (name.reverse.takeWhile (· != '.')).reverse
    match name.reverse.dropWhile (· != '.') with
    | [] => none
    | [_] => none
    | _ :: _ :: _ => some after

/-- The extension of the last component of a path. -/
def pathExtension? (path : String) : Option String :=
  ((pathComponents path).getLast?.bind nameExtension?).map String.ofList

/-- The language that a path tells by its extension. -/
def Language.ofPath? (path : String) : Option Language :=
  (pathExtension? path).bind Language.ofExtension?

end StructSearch.Source

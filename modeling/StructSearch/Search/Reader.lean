import StructSearch.Outline.OfParseTree
import StructSearch.Search.Event
import StructSearch.Source.SyntaxFault

/-!
# Readers of sources

A reader builds the outline of a source: it decides the language, has the source parsed, and
rejects or tolerates syntax faults. The parser itself is given from outside.

This is the part of the program between a file and its outline. It finds the first reason why a file
has no outline: the file cannot be read, its bytes are no text, its language is not known, the
parser gives no tree, or the tree has faults and these are not tolerated.
-/

namespace StructSearch.Search

open Source

/-- A parser of sources: the tree of a text in a language, if it builds one. -/
abbrev Parser : Type := Language → String → Option ParseTree

/-- How sources are read. A reader keeps nothing between sources. -/
structure Reader where
  /-- The language of every source; by default the path of each one tells it. -/
  language : Option Language := none
  /-- Whether sources with syntax faults are rejected. -/
  rejectFaults : Bool := false
  deriving Repr, DecidableEq, Inhabited

namespace Reader

/-- The settings of a reader in words. -/
def print (reader : Reader) : String :=
  let language := match reader.language with
    | some language => "Some(" ++ language.title ++ ")"
    | none => "None"
  "TreeSitterProvider \x7b language: " ++ language ++ ", reject_syntax_errors: " ++
    (if reader.rejectFaults then "true" else "false") ++ ", .. \x7d"

/-- The language of the source at a path: the one that is fixed for all sources, or else the one
that the extension of the path stands for. -/
def languageFor (reader : Reader) (path : String) : Except Error Language :=
  match reader.language with
  | some language => .ok language
  | none =>
    match pathExtension? path with
    | none => .error (.unknownLanguage path)
    | some extension =>
      match Language.ofExtension? extension with
      | some language => .ok language
      | none => .error (.unsupportedExtension extension)

/-- The error for a source with syntax faults, which points at the first of them. -/
def faultyError (path : String) (faults : List SyntaxFault) : Error :=
  match faults with
  | [] => .faulty path 0 0 0
  | first :: _ => .faulty path faults.length first.position.line first.position.column

/-- The outline of a source whose tree is known, or the error if the reader rejects it. -/
def outlineOf (reader : Reader) (path source : String) (tree : ParseTree) :
    Except Error Outline :=
  if tree.hasFaults && reader.rejectFaults then
    .error (faultyError path (tree.faults source.toList))
  else .ok (Outline.ofParseTree source path tree)

/-- The event for the faults of a tree, if it has any. -/
def faultEvents (path source : String) (tree : ParseTree) : List Event :=
  if tree.hasFaults then [.faultsFound path (tree.faults source.toList).length] else []

/-- The outline of a source, with the events on the way. Faults are reported also if the source is
rejected for them. -/
def outline (reader : Reader) (parse : Parser) (path source : String) :
    Except Error Outline × List Event :=
  match reader.languageFor path with
  | .error error => (.error error, [])
  | .ok language =>
    match parse language source with
    | none => (.error (.parse language "parsing failed"), [])
    | some tree =>
      match reader.outlineOf path source tree with
      | .error error => (.error error, faultEvents path source tree)
      | .ok outline =>
        (.ok outline, faultEvents path source tree ++ [.outlined path language outline.size])

/-- The outline of a file, which is read before its language is decided. So a file that cannot be
read is reported as that, whatever its extension. -/
def outlineFile (reader : Reader) (parse : Parser) (store : FileStore) (path : String) :
    Except Error Outline × List Event :=
  match store.read path with
  | .error fault => (.error (.read path fault), [])
  | .ok bytes =>
    match String.fromUTF8? bytes with
    | none => (.error (.invalidEncoding path), [])
    | some source => reader.outline parse path source

end Reader

/-- A parser for a language in words. -/
def showParser (language : Language) : String :=
  "Parser \x7b language: " ++ language.title ++ ", .. \x7d"

end StructSearch.Search

import StructSearch.Source.Language

/-!
# Files

A directory tree as a list of files and directories, and what reading a path in it gives.

A search reads files only through this module, so that it depends on nothing but the list that it is
given. Paths are read as on a system with one root, and the directory of the program is that root.
-/

namespace StructSearch.Source

/-- Why a path cannot be read. -/
inductive ReadFault where
  | notFound
  | isDirectory
  | notDirectory
  /-- Another reason, in the words of the system. -/
  | other (text : String)
  deriving Repr, DecidableEq, Inhabited

/-- The reason in the words of the system. -/
def ReadFault.describe : ReadFault → String
  | notFound => "No such file or directory (os error 2)"
  | isDirectory => "Is a directory (os error 21)"
  | notDirectory => "Not a directory (os error 20)"
  | other text => text

/-- What stands at a path. -/
inductive Entry where
  | file (bytes : ByteArray)
  | directory
  deriving Inhabited

/-- Files and directories by the components of their paths. The directories above an entry exist
with it. -/
structure FileStore where
  entries : List (List (List Char) × Entry)
  deriving Inhabited

namespace FileStore

/-- What stands at a path, given by its components: an entry of its own, or a directory above one.
-/
def entry? (store : FileStore) (components : List (List Char)) : Option Entry :=
  match store.entries.find? (·.1 == components) with
  | some (_, entry) => some entry
  | none =>
    if store.entries.any fun (other, _) => components.isPrefixOf other then some .directory
    else none

/-- The content of the file at `components` below the directory `above`. A file on the way is not a
directory that could be entered. -/
def readFrom (store : FileStore) (above : List (List Char)) :
    List (List Char) → Except ReadFault ByteArray
  | [] => .error .isDirectory
  | name :: rest =>
    match store.entry? (above ++ [name]) with
    | none => .error .notFound
    | some .directory => store.readFrom (above ++ [name]) rest
    | some (.file bytes) => if rest.isEmpty then .ok bytes else .error .notDirectory

/-- Whether a path asks for a directory by a slash or a dot at its end. -/
def namesDirectory (path : String) : Bool :=
  match (splitSlashes path.toList).getLast? with
  | some last => last == [] || last == ['.']
  | none => false

/-- The content of the file at a path. A path that ends as one of a directory cannot be read even if
a file stands there. -/
def read (store : FileStore) (path : String) : Except ReadFault ByteArray :=
  if path.isEmpty then .error .notFound
  else
    match store.readFrom [] (pathComponents path) with
    | .ok bytes => if namesDirectory path then .error .notDirectory else .ok bytes
    | .error fault => .error fault

end FileStore

end StructSearch.Source

import StructSearch.Query.Pattern

/-!
# The text of a pattern

`Pattern.print` writes a pattern as a query. Every field stands between slashes and every
combination between parentheses, so that reading the text gives the pattern back, as long as no
field holds a slash.

Names of attributes stand without slashes, so that one that is no bare word of a query is not read
back either.
-/

namespace StructSearch.Query

variable [Regex.Engine]

/-- A field between slashes. -/
def Field.print (field : Field) : String := "/" ++ field.source ++ "/"

/-- A qualifier, as it stands before its entity. -/
def Qualifier.print : Qualifier → String
  | anywhere => ""
  | fileScope => "::"
  | chain scopes => String.join (scopes.map fun scope => scope.print ++ "::")

/-- An entry of a parameter list. -/
def Parameter.print : Parameter → String
  | ellipsis => "..."
  | typed name type =>
    (if name.isAny then "" else name.print) ++ ":" ++ (if type.isAny then "" else type.print)

/-- A parameter list between two delimiters. -/
def printParameters (opening closing : String) (parameters : List Parameter) : String :=
  opening ++ String.intercalate ", " (parameters.map Parameter.print) ++ closing

/-- A template parameter list, if there is one. -/
def printTemplate : Option (List Parameter) → String
  | none => ""
  | some parameters => printParameters "<" ">" parameters

/-- The attributes between brackets, the mark of expressions first. -/
def printAttributes (attributes : Attributes) (isExpression : Bool) : String :=
  let names := (if isExpression then ["expr"] else []) ++ attributes.names
  if names.isEmpty then "" else "[" ++ String.intercalate ", " names ++ "]"

/-- A type after a colon, unless it is any type. -/
def printType (type : Field) : String := if type.isAny then "" else ":" ++ type.print

/-- A name after an equals sign, unless it is any name. -/
def printName (name : Field) : String := if name.isAny then "" else " = " ++ name.print

/-- An entity without its qualifier and contents: the sigil or the class name, then type, lists and
attributes in the order in which they are read, and the bound name last. -/
def Entity.print : Entity → String
  | func shape =>
    "\\F" ++ printType shape.returnType ++ printTemplate shape.templateParameters ++
      printParameters "(" ")" shape.parameters ++
      printAttributes shape.attributes shape.isExpression ++ printName shape.name
  | var shape =>
    (if shape.isParameter then "\\P" else "\\V") ++ printType shape.type ++
      printAttributes shape.attributes shape.isExpression ++ printName shape.name
  | record shape =>
    (if shape.name.isAny then "\\T" else "#" ++ shape.name.print) ++
      printTemplate shape.templateParameters
  | text field => field.print

namespace Pattern

mutual

/-- The text of a pattern. -/
def print : Pattern → String
  | entity e qualifier contents => qualifier.print ++ e.print ++ printContents contents
  | combine operator left right =>
    "(" ++ print left ++ " " ++ operator.symbol ++ " " ++ print right ++ ")"

/-- The contents of an entity, each between braces. -/
def printContents : List Pattern → String
  | [] => ""
  | content :: rest => " \x7b " ++ print content ++ " \x7d" ++ printContents rest

end

end Pattern

end StructSearch.Query

/-!
# Modes

A mode says which nodes the entities of a pattern may match: declarations, expressions, or of the
declarations only the definitions.
-/

namespace StructSearch

/-- The flags of a mode. -/
structure Mode where
  declarations : Bool := false
  expressions : Bool := false
  definitions : Bool := false
  deriving Repr, DecidableEq

namespace Mode

/-- No flag: functions, variables and classes match nothing. A text entity does not ask for the
kind of a node and is accepted in every mode, also in this one. -/
def none : Mode := {}

/-- Declarations and expressions. -/
def standard : Mode := { declarations := true, expressions := true }

instance : Inhabited Mode := ⟨standard⟩

/-- The flags of both modes. -/
def union (m n : Mode) : Mode :=
  ⟨m.declarations || n.declarations, m.expressions || n.expressions,
    m.definitions || n.definitions⟩

/-- Whether every flag of `n` is set in `m`. -/
def contains (m n : Mode) : Bool :=
  (m.declarations || !n.declarations) && (m.expressions || !n.expressions) &&
    (m.definitions || !n.definitions)

/-- Whether declarations match; asking for definitions asks for declarations. -/
def includesDeclarations (m : Mode) : Bool := m.declarations || m.definitions

/-- Whether expressions match. -/
def includesExpressions (m : Mode) : Bool := m.expressions

/-- Whether every match must be a definition. -/
def definitionsOnly (m : Mode) : Bool := m.definitions

/-- The flags of a mode by name. -/
def print (m : Mode) : String :=
  let names := (if m.declarations then ["DECLARATIONS"] else []) ++
    (if m.expressions then ["EXPRESSIONS"] else []) ++
    (if m.definitions then ["DEFINITIONS"] else [])
  "MatchMode(" ++ (if names.isEmpty then "NONE" else String.intercalate " | " names) ++ ")"

end Mode

end StructSearch

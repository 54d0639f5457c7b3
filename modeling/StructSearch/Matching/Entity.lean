import StructSearch.Matching.Mode
import StructSearch.Matching.Parameters
import StructSearch.Outline.Walk

/-!
# Entities

Whether a single node is what an entity asks for: its kind under the mode, its name, types,
parameters, template parameters and attributes. Where the node stands and what it contains is not
asked here.

This is the part of the search engine that looks at one node. The expressions of the fields are
tested against the spellings and types that the outline records.
-/

namespace StructSearch.Matching

variable [Regex.Engine]

open Query

/-- Whether a node has an attribute: a mark of its declaration or its access. Names that are no
attributes are not refused; they hold of every node. -/
def attributeHolds (info : NodeInfo) (name : String) : Bool :=
  match name with
  | "virtual" => info.isVirtual
  | "static" => info.isStatic
  | "const" => info.isConst
  | other =>
    match Access.ofKeyword? other with
    | some access => info.access == access
    | none => true

/-- Whether a node has all attributes. -/
def attributesHold (info : NodeInfo) (attributes : Attributes) : Bool :=
  attributes.names.all (attributeHolds info)

/-- Whether a kind is allowed by the mode. An entity that asks for expressions admits no
declaration. -/
def kindAllowed (isDeclaration isExpression entityIsExpression : Bool) (mode : Mode) : Bool :=
  (isDeclaration && !entityIsExpression && mode.includesDeclarations) ||
    (isExpression && mode.includesExpressions)

/-- Whether a node is an actual parameter of an allowed kind with a name and a type. A number that
is not in use is none. -/
def parameterFits (outline : Outline) (allowed : Kind → Bool) (name type : Field) (id : NodeId) :
    Bool :=
  match outline.info? id with
  | none => false
  | some info => allowed info.kind && name.accepts info.spelling && type.accepts info.type

/-- Whether the template parameters of a node fit. Without a list they always do, also those of a
node that is no template; the empty list asks for none. -/
def templateFits (outline : Outline) (entries : Option (List Parameter)) (id : NodeId) : Bool :=
  match entries with
  | none => true
  | some entries =>
    parametersFit (parameterFits outline Kind.isTemplateParameter) entries
      (outline.templateParameters id)

/-- The kinds of the parameters of a node: expressions for a call, declarations otherwise. -/
def parameterKinds (kind : Kind) : Kind → Bool :=
  if kind = .callExpr then Kind.isExpression else Kind.isParameter

/-- Whether a node is a function, or a call, of a shape: the kind, the name, the result type, the
parameters, the template parameters and the attributes are all as asked for. -/
def functionFits (outline : Outline) (mode : Mode) (shape : FunctionShape) (id : NodeId)
    (info : NodeInfo) : Bool :=
  kindAllowed info.kind.isFunctionDeclaration (info.kind == .callExpr) shape.isExpression mode &&
    shape.name.accepts info.spelling && shape.returnType.accepts info.result &&
    parametersFit (parameterFits outline (parameterKinds info.kind)) shape.parameters
      (outline.arguments id) &&
    templateFits outline shape.templateParameters id && attributesHold info shape.attributes

/-- Whether the mode allows a node for a variable of a shape. -/
def variableAllowed (mode : Mode) (shape : VariableShape) (kind : Kind) : Bool :=
  if shape.isParameter then kind.isParameter && mode.includesDeclarations
  else kindAllowed kind.isVariableDeclaration kind.isVariableReference shape.isExpression mode

/-- Whether a node is a variable, or a reference, of a shape: the kind, the name, the type and the
attributes are all as asked for. -/
def variableFits (mode : Mode) (shape : VariableShape) (info : NodeInfo) : Bool :=
  variableAllowed mode shape info.kind && shape.name.accepts info.spelling &&
    shape.type.accepts info.type && attributesHold info shape.attributes

/-- Whether a node is a class of a shape. Classes are declarations, whatever else the mode asks for.
-/
def classFits (outline : Outline) (mode : Mode) (shape : ClassShape) (id : NodeId)
    (info : NodeInfo) : Bool :=
  info.kind.isClass && mode.includesDeclarations && shape.name.accepts info.spelling &&
    templateFits outline shape.templateParameters id

/-- Whether a node is what an entity asks for. A text entity accepts any kind of node in any mode. A
mode for definitions only rejects every node that is none, of whatever kind. -/
def entityFits (outline : Outline) (mode : Mode) (entity : Entity) (id : NodeId) : Bool :=
  match outline.info? id with
  | none => false
  | some info =>
    (match entity with
      | .func shape => functionFits outline mode shape id info
      | .var shape => variableFits mode shape info
      | .record shape => classFits outline mode shape id info
      | .text field => field.accepts info.spelling) &&
    (!mode.definitionsOnly || info.isDefinition)

end StructSearch.Matching

/-!
# Kinds of nodes

The declarations and expressions of C and C++ that an outline distinguishes, and the groups of
kinds that patterns ask for.

Kinds are the vocabulary that the building of outlines and the search engine share: the former gives
each node one, and the latter asks for groups of them.
-/

namespace StructSearch

/-- What a node of an outline is. The last four are expressions, and everything before them is a
declaration or the file. -/
inductive Kind where
  /-- A whole file. -/
  | fileUnit
  | namespaceDecl
  | classDecl
  | structDecl
  | unionDecl
  /-- A template of a class, structure or union. -/
  | classTemplate
  | enumDecl
  | enumConstant
  | typedefDecl
  | aliasDecl
  /-- A function outside of classes. -/
  | functionDecl
  | functionTemplate
  /-- A member function. -/
  | method
  | ctor
  | dtor
  | varDecl
  /-- A data member. -/
  | fieldDecl
  | paramDecl
  | templateTypeParam
  | templateValueParam
  | templateTemplateParam
  | callExpr
  /-- A name that refers to a declaration. -/
  | declRef
  /-- A member taken from an object or a pointer. -/
  | memberRef
  /-- An expression of another form. -/
  | otherExpr
  deriving Repr, DecidableEq, Inhabited

/-- The access of a class member. Nodes that are no members have none. -/
inductive Access where
  | none
  | isPublic
  | isProtected
  | isPrivate
  deriving Repr, DecidableEq, Inhabited

namespace Access

/-- The access with a keyword. -/
def ofKeyword? : String → Option Access
  | "public" => some isPublic
  | "protected" => some isProtected
  | "private" => some isPrivate
  | _ => Option.none

/-- The keyword of an access, empty for nodes that are no members. -/
def keyword : Access → String
  | none => ""
  | isPublic => "public"
  | isProtected => "protected"
  | isPrivate => "private"

end Access

namespace Kind

/-- The name under which a kind is reported, as in the printed form of a match. -/
def name : Kind → String
  | fileUnit => "TranslationUnit"
  | namespaceDecl => "Namespace"
  | classDecl => "ClassDecl"
  | structDecl => "StructDecl"
  | unionDecl => "UnionDecl"
  | classTemplate => "ClassTemplate"
  | enumDecl => "EnumDecl"
  | enumConstant => "EnumConstantDecl"
  | typedefDecl => "TypedefDecl"
  | aliasDecl => "TypeAliasDecl"
  | functionDecl => "FunctionDecl"
  | functionTemplate => "FunctionTemplate"
  | method => "CxxMethod"
  | ctor => "Constructor"
  | dtor => "Destructor"
  | varDecl => "VarDecl"
  | fieldDecl => "FieldDecl"
  | paramDecl => "ParmDecl"
  | templateTypeParam => "TemplateTypeParameter"
  | templateValueParam => "TemplateNonTypeParameter"
  | templateTemplateParam => "TemplateTemplateParameter"
  | callExpr => "CallExpr"
  | declRef => "DeclRefExpr"
  | memberRef => "MemberRefExpr"
  | otherExpr => "UnexposedExpr"

/-- Every kind. -/
def all : List Kind := [
  fileUnit, namespaceDecl, classDecl, structDecl, unionDecl, classTemplate, enumDecl,
  enumConstant, typedefDecl, aliasDecl, functionDecl, functionTemplate, method, ctor, dtor,
  varDecl, fieldDecl, paramDecl, templateTypeParam, templateValueParam, templateTemplateParam,
  callExpr, declRef, memberRef, otherExpr]

/-- The kind with a name. -/
def ofName? (name : String) : Option Kind := all.find? (·.name == name)

/-- Expressions. -/
def isExpression : Kind → Bool
  | callExpr | declRef | memberRef | otherExpr => true
  | _ => false

/-- Parameters of templates. -/
def isTemplateParameter : Kind → Bool
  | templateTypeParam | templateValueParam | templateTemplateParam => true
  | _ => false

/-- Classes as patterns understand them. -/
def isClass : Kind → Bool
  | classDecl | structDecl | classTemplate => true
  | _ => false

/-- The kinds that a qualifier can name. -/
def isScope : Kind → Bool
  | namespaceDecl | classDecl | structDecl | classTemplate => true
  | _ => false

/-- Declarations of functions of every sort. -/
def isFunctionDeclaration : Kind → Bool
  | functionDecl | method | functionTemplate | ctor | dtor => true
  | _ => false

/-- Declarations of variables and data members. -/
def isVariableDeclaration : Kind → Bool
  | varDecl | fieldDecl => true
  | _ => false

/-- Expressions that refer to variables and data members. -/
def isVariableReference : Kind → Bool
  | declRef | memberRef => true
  | _ => false

/-- Declarations of function parameters. -/
def isParameter : Kind → Bool
  | paramDecl => true
  | _ => false

end Kind

end StructSearch

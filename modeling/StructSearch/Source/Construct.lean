/-!
# Constructs of C and C++

The grammar of C and C++ names the node of every construct. `Construct` lists those that have a
meaning for an outline; all others are alike. `Part` lists the parts of a construct that the
grammar labels and that an outline asks for.
-/

namespace StructSearch.Source

/-- A construct of the grammar. -/
inductive Construct where
  -- declarations
  | namespaceDefinition
  | nestedNamespaceSpecifier
  | classSpecifier
  | structSpecifier
  | unionSpecifier
  | enumSpecifier
  | enumerator
  | templateDeclaration
  | functionDefinition
  | declaration
  | fieldDeclaration
  | typeDefinition
  | aliasDeclaration
  | accessSpecifier
  | fieldInitializerList
  -- parameters
  | parameterDeclaration
  | optionalParameterDeclaration
  | variadicParameterDeclaration
  | typeParameterDeclaration
  | variadicTypeParameterDeclaration
  | optionalTypeParameterDeclaration
  | templateTemplateParameterDeclaration
  -- declarators
  | initDeclarator
  | pointerDeclarator
  | abstractPointerDeclarator
  | referenceDeclarator
  | abstractReferenceDeclarator
  | arrayDeclarator
  | abstractArrayDeclarator
  | parenthesizedDeclarator
  | functionDeclarator
  | abstractFunctionDeclarator
  -- names, types and specifiers
  | identifier
  | qualifiedIdentifier
  | templateFunction
  | templateMethod
  | templateType
  | qualifiedTypeIdentifier
  | typeIdentifier
  | destructorName
  | typeQualifier
  | storageClassSpecifier
  | virtualKeyword
  | virtualFunctionSpecifier
  -- expressions and literals
  | callExpression
  | fieldExpression
  | numberLiteral
  | stringLiteral
  | concatenatedString
  | rawStringLiteral
  | charLiteral
  | trueLiteral
  | falseLiteral
  | nullLiteral
  | nullptrLiteral
  -- statements and conditional compilation
  | compoundStatement
  | preprocIf
  | preprocIfdef
  | preprocElif
  | preprocElifdef
  -- without meaning for an outline
  | comment
  | preprocInclude
  | preprocDef
  | preprocFunctionDef
  | preprocCall
  | typeDescriptor
  | friendDeclaration
  | usingDeclaration
  | namespaceAliasDefinition
  | attributeDeclaration
  | attributeSpecifier
  | staticAssertDeclaration
  | conceptDefinition
  /-- Any other construct. -/
  | other
  deriving Repr, DecidableEq, Inhabited

namespace Construct

/-- The constructs with their names in the grammar. -/
def names : List (String × Construct) := [
  ("namespace_definition", namespaceDefinition),
  ("nested_namespace_specifier", nestedNamespaceSpecifier),
  ("class_specifier", classSpecifier),
  ("struct_specifier", structSpecifier),
  ("union_specifier", unionSpecifier),
  ("enum_specifier", enumSpecifier),
  ("enumerator", enumerator),
  ("template_declaration", templateDeclaration),
  ("function_definition", functionDefinition),
  ("declaration", declaration),
  ("field_declaration", fieldDeclaration),
  ("type_definition", typeDefinition),
  ("alias_declaration", aliasDeclaration),
  ("access_specifier", accessSpecifier),
  ("field_initializer_list", fieldInitializerList),
  ("parameter_declaration", parameterDeclaration),
  ("optional_parameter_declaration", optionalParameterDeclaration),
  ("variadic_parameter_declaration", variadicParameterDeclaration),
  ("type_parameter_declaration", typeParameterDeclaration),
  ("variadic_type_parameter_declaration", variadicTypeParameterDeclaration),
  ("optional_type_parameter_declaration", optionalTypeParameterDeclaration),
  ("template_template_parameter_declaration", templateTemplateParameterDeclaration),
  ("init_declarator", initDeclarator),
  ("pointer_declarator", pointerDeclarator),
  ("abstract_pointer_declarator", abstractPointerDeclarator),
  ("reference_declarator", referenceDeclarator),
  ("abstract_reference_declarator", abstractReferenceDeclarator),
  ("array_declarator", arrayDeclarator),
  ("abstract_array_declarator", abstractArrayDeclarator),
  ("parenthesized_declarator", parenthesizedDeclarator),
  ("function_declarator", functionDeclarator),
  ("abstract_function_declarator", abstractFunctionDeclarator),
  ("identifier", identifier),
  ("qualified_identifier", qualifiedIdentifier),
  ("template_function", templateFunction),
  ("template_method", templateMethod),
  ("template_type", templateType),
  ("qualified_type_identifier", qualifiedTypeIdentifier),
  ("type_identifier", typeIdentifier),
  ("destructor_name", destructorName),
  ("type_qualifier", typeQualifier),
  ("storage_class_specifier", storageClassSpecifier),
  ("virtual", virtualKeyword),
  ("virtual_function_specifier", virtualFunctionSpecifier),
  ("call_expression", callExpression),
  ("field_expression", fieldExpression),
  ("number_literal", numberLiteral),
  ("string_literal", stringLiteral),
  ("concatenated_string", concatenatedString),
  ("raw_string_literal", rawStringLiteral),
  ("char_literal", charLiteral),
  ("true", trueLiteral),
  ("false", falseLiteral),
  ("null", nullLiteral),
  ("nullptr", nullptrLiteral),
  ("compound_statement", compoundStatement),
  ("preproc_if", preprocIf),
  ("preproc_ifdef", preprocIfdef),
  ("preproc_elif", preprocElif),
  ("preproc_elifdef", preprocElifdef),
  ("comment", comment),
  ("preproc_include", preprocInclude),
  ("preproc_def", preprocDef),
  ("preproc_function_def", preprocFunctionDef),
  ("preproc_call", preprocCall),
  ("type_descriptor", typeDescriptor),
  ("friend_declaration", friendDeclaration),
  ("using_declaration", usingDeclaration),
  ("namespace_alias_definition", namespaceAliasDefinition),
  ("attribute_declaration", attributeDeclaration),
  ("attribute_specifier", attributeSpecifier),
  ("static_assert_declaration", staticAssertDeclaration),
  ("concept_definition", conceptDefinition)]

/-- The construct with a name of the grammar. -/
def ofName (name : String) : Construct := (names.lookup name).getD other

/-- Whether a construct is left out of an outline with everything inside it. So names in type
descriptors, in directives and in declarations such as `using` are no references. -/
def isIgnored : Construct → Bool
  | comment | preprocInclude | preprocDef | preprocFunctionDef | preprocCall | typeDescriptor
  | friendDeclaration | usingDeclaration | namespaceAliasDefinition | attributeDeclaration
  | attributeSpecifier | staticAssertDeclaration | conceptDefinition | stringLiteral
  | rawStringLiteral | charLiteral => true
  | _ => false

/-- Whether an outline has a rule for a construct. The rule may build no node, as that of a label
does not. -/
def isOutlined : Construct → Bool
  | namespaceDefinition | classSpecifier | structSpecifier | unionSpecifier | enumSpecifier
  | templateDeclaration | functionDefinition | declaration | fieldDeclaration | typeDefinition
  | aliasDeclaration | accessSpecifier | callExpression | identifier | qualifiedIdentifier
  | fieldExpression | compoundStatement | preprocIf | preprocIfdef | preprocElif
  | preprocElifdef => true
  | _ => false

/-- Whether an outline looks through a construct: what is inside stands in its place. -/
def isTransparent (construct : Construct) : Bool :=
  !construct.isOutlined && !construct.isIgnored

/-- Classes, structures, unions and enumerations. -/
def isTypeSpecifier : Construct → Bool
  | classSpecifier | structSpecifier | unionSpecifier | enumSpecifier => true
  | _ => false

/-- Declarations of parameters, of functions or of templates. -/
def isParameter : Construct → Bool
  | parameterDeclaration | optionalParameterDeclaration | variadicParameterDeclaration => true
  | _ => false

end Construct

/-- A labelled part of a construct. A child has at most one label. -/
inductive Part where
  | name
  | body
  | condition
  | parameters
  | declarator
  | type
  | value
  | defaultValue
  | size
  | scope
  | function
  | arguments
  | argument
  | field
  deriving Repr, DecidableEq, Inhabited

/-- The part with a label of the grammar. Other labels of the grammar are not asked for, and are no
parts. -/
def Part.ofLabel? : String → Option Part
  | "name" => some name
  | "body" => some body
  | "condition" => some condition
  | "parameters" => some parameters
  | "declarator" => some declarator
  | "type" => some type
  | "value" => some value
  | "default_value" => some defaultValue
  | "size" => some size
  | "scope" => some scope
  | "function" => some function
  | "arguments" => some arguments
  | "argument" => some argument
  | "field" => some field
  | _ => none

end StructSearch.Source

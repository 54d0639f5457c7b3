import StructSearch.Outline.Rules.Declarations
import StructSearch.Outline.Rules.Expressions
import StructSearch.Outline.Rules.Templates

/-!
# Rules of constructs

Which rule builds which construct. Constructs without a rule are ignored with everything inside
them, or looked through: what is inside stands in their place.

Everything that the program knows about the grammar of the parser is in this table and in the rules
that it names.
-/

namespace StructSearch

open Source

namespace Rules

/-- The rule of a tree's construct: builds the nodes of the tree below `parent`, and gives the main
node that it made, if any. -/
def rule (source : List Char) (build : Recursion) (role : Role) (tree : ParseTree)
    (parent : NodeId) : Build (Option NodeId) :=
  match tree.construct with
  | .namespaceDefinition => namespaceRule source build tree parent
  | .classSpecifier | .structSpecifier | .unionSpecifier => recordRule source build none tree parent
  | .enumSpecifier => enumRule source build none tree parent
  | .templateDeclaration => templateRule source build tree parent
  | .functionDefinition => functionDefinitionRule source build tree parent
  | .declaration | .fieldDeclaration => declarationRule source build tree parent
  | .typeDefinition => typedefRule source build tree parent
  | .aliasDeclaration => aliasRule source tree parent
  | .accessSpecifier => do accessLabel source tree; return none
  | .callExpression => do return some (← callRule source build role tree parent)
  | .identifier | .qualifiedIdentifier => do return some (← referenceRule source role tree parent)
  | .fieldExpression => do return some (← memberRule source build role tree parent)
  | .compoundStatement => do Build.inBlock (children build tree parent); return none
  | .preprocIf | .preprocIfdef | .preprocElif | .preprocElifdef => do
    branch build tree parent
    return none
  | construct => do
    if construct.isTransparent then children build tree parent
    return none

end Rules

end StructSearch

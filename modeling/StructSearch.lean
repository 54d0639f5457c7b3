import StructSearch.Text.Blank
import StructSearch.Text.Letters
import StructSearch.Text.Case
import StructSearch.Text.Quoted
import StructSearch.Text.Bytes
import StructSearch.Regex.Engine
import StructSearch.Regex.Parser
import StructSearch.Regex.Match
import StructSearch.Regex.Height
import StructSearch.Regex.Intervals
import StructSearch.Regex.ByteRanges
import StructSearch.Regex.Plan
import StructSearch.Regex.Size
import StructSearch.Regex.Builtin
import StructSearch.Query.Token
import StructSearch.Query.Error
import StructSearch.Query.Lexer
import StructSearch.Query.Field
import StructSearch.Query.Pattern
import StructSearch.Query.Printer
import StructSearch.Query.Parser
import StructSearch.Source.Position
import StructSearch.Outline.Kind
import StructSearch.Outline.Basic
import StructSearch.Outline.Walk
import StructSearch.Outline.Display
import StructSearch.Matching.Mode
import StructSearch.Matching.Parameters
import StructSearch.Matching.Entity
import StructSearch.Matching.Scope
import StructSearch.Matching.Resolve
import StructSearch.Matching.Finding
import StructSearch.Source.Construct
import StructSearch.Source.ParseTree
import StructSearch.Source.SyntaxFault
import StructSearch.Source.Language
import StructSearch.Source.Files
import StructSearch.Source.Error
import StructSearch.Outline.Names
import StructSearch.Outline.Declarator
import StructSearch.Outline.Draft
import StructSearch.Outline.Rules.Sequence
import StructSearch.Outline.Rules.Types
import StructSearch.Outline.Rules.Declarations
import StructSearch.Outline.Rules.Templates
import StructSearch.Outline.Rules.Expressions
import StructSearch.Outline.Rules
import StructSearch.Outline.Inference
import StructSearch.Outline.OfParseTree
import StructSearch.Logging.Level
import StructSearch.Logging.Format
import StructSearch.Logging.Filter
import StructSearch.Settings.Json
import StructSearch.Settings.Basic
import StructSearch.Logging.Setup
import StructSearch.Search.Event
import StructSearch.Search.Reader
import StructSearch.Search.Report
import StructSearch.Proofs.Outline.Links
import StructSearch.Proofs.Matching.Agreement
import StructSearch.Proofs.Matching.Findings
import StructSearch.Proofs.Query.Grammar
import StructSearch.Proofs.Query.Soundness
import StructSearch.Proofs.Query.Steps
import StructSearch.Proofs.Query.Completeness
import StructSearch.Proofs.Query.Agreement
import StructSearch.Proofs.Query.Scanning
import StructSearch.Proofs.Query.Invariant
import StructSearch.Proofs.Query.Printing
import StructSearch.Proofs.Query.RoundTrip
import StructSearch.Proofs.Outline.Growth
import StructSearch.Proofs.Source.Subtrees
import StructSearch.Proofs.Outline.RuleGrowth
import StructSearch.Proofs.Outline.Typing
import StructSearch.Proofs.Outline.CallTypes
import StructSearch.Proofs.Outline.Ranges
import StructSearch.Proofs.Source.Calls
import StructSearch.Proofs.Outline.CallBudget
import StructSearch.Proofs.Outline.Calls
import StructSearch.Proofs.Outline.Forest
import StructSearch.Proofs.Matching.Preorder
import StructSearch.Proofs.Matching.Parameters
import StructSearch.Proofs.Matching.Modes
import StructSearch.Proofs.Matching.Operators
import StructSearch.Proofs.Query.Placement
import StructSearch.Proofs.Query.Spacing
import StructSearch.Proofs.Outline.Mentions
import StructSearch.Proofs.Outline.RuleMentions
import StructSearch.Proofs.Outline.References
import StructSearch.Proofs.Matching.Contents
import StructSearch.Proofs.Query.Lossless
import StructSearch.Proofs.Query.TermRefusals
import StructSearch.Proofs.Query.Refusals
import StructSearch.Proofs.Search.Faults
import StructSearch.Proofs.Outline.Definitions
import StructSearch.Proofs.Outline.Templates
import StructSearch.Proofs.Outline.Labels
import StructSearch.Proofs.Source.Positions
import StructSearch.Proofs.Outline.Members
import StructSearch.Proofs.Outline.Access
import StructSearch.Proofs.Outline.Places
import StructSearch.Proofs.Outline.Constness
import StructSearch.Proofs.Outline.TypeSpellings
import StructSearch.Proofs.Outline.Namespaces
import StructSearch.Proofs.Outline.Enumerators
import StructSearch.Proofs.Outline.SourceOrder
import StructSearch.Proofs.Outline.Inference
import StructSearch.Proofs.Query.Structure
import StructSearch.Proofs.Regex.Matching
import StructSearch.Proofs.Regex.Documented
import StructSearch.Proofs.Regex.Followed
import StructSearch.Proofs.Regex.FollowedClasses
import StructSearch.Proofs.Regex.FollowedGroups
import StructSearch.Proofs.Regex.BuiltinLaws
import StructSearch.Proofs.Query.Anchoring
import StructSearch.Proofs.Query.Cursor
import StructSearch.Proofs.Query.Progress
import StructSearch.Proofs.Query.WalkReading
import StructSearch.Proofs.Query.Termination

import Untranslated.Text.Basic
import Untranslated.Text.Blank
import Untranslated.Text.CharSet
import Untranslated.Syntax.Identifier
import Untranslated.Syntax.Module
import Untranslated.Syntax.Cursor
import Untranslated.Syntax.Escape
import Untranslated.Syntax.Entity
import Untranslated.Syntax.Token
import Untranslated.Syntax.Parser.Basic
import Untranslated.Syntax.Parser.Patterns
import Untranslated.Syntax.Parser.Types
import Untranslated.Syntax.Parser.Literals
import Untranslated.Syntax.Parser.Markup
import Untranslated.Syntax.Parser.Functions
import Untranslated.Syntax.Parser.Expressions
import Untranslated.Syntax.Parser.Statements
import Untranslated.Syntax.Parser.Items
import Untranslated.Syntax.Parser
import Untranslated.Tree.Basic
import Untranslated.Tree.Lowering
import Untranslated.Pattern.Category
import Untranslated.Pattern.Script
import Untranslated.Pattern.Property
import Untranslated.Pattern.Fold
import Untranslated.Pattern.CharClass
import Untranslated.Pattern.Regex
import Untranslated.Pattern.Regex.Size
import Untranslated.Pattern.Regex.Parser
import Untranslated.Text.LineIndex
import Untranslated.Edit.Basic
import Untranslated.Edit.Apply
import Untranslated.Edit.Hunk
import Untranslated.Rule.Wrapper
import Untranslated.Rule.Options
import Untranslated.Rule.Detection
import Untranslated.Rule.Finding
import Untranslated.Files.Path
import Untranslated.Pattern.Glob
import Untranslated.Json.Reader
import Untranslated.Config.Basic
import Untranslated.Config.Format
import Untranslated.Files.Folder
import Untranslated.Files.Expansion
import Untranslated.Files.Scan
import Untranslated.Text.Width
import Untranslated.Report.Issue
import Untranslated.Report.Style
import Untranslated.Report.Layout
import Untranslated.Report.Wording
import Untranslated.Config.Lookup
import Untranslated.Command.Arguments
import Untranslated.Command.Analysis
import Untranslated.Command.Run
import Untranslated.Main
import Untranslated.Proofs.Slices
import Untranslated.Proofs.Splicing
import Untranslated.Proofs.Findings
import Untranslated.Proofs.Lossless
import Untranslated.Proofs.Lines
import Untranslated.Proofs.EditGroups
import Untranslated.Proofs.Preview
import Untranslated.Proofs.Exchange
import Untranslated.Proofs.Detection
import Untranslated.Proofs.Convergence
import Untranslated.Proofs.Criterion
import Untranslated.Proofs.ImportInsertion
import Untranslated.Proofs.ImportKept
import Untranslated.Proofs.Escapes
import Untranslated.Proofs.Quotation
import Untranslated.Proofs.Escaping
import Untranslated.Proofs.LineBreaks
import Untranslated.Proofs.Searching
import Untranslated.Proofs.ByteOrderMark
import Untranslated.Proofs.Parentheses
import Untranslated.Proofs.Preorder
import Untranslated.Proofs.Children
import Untranslated.Proofs.Places.Parsers
import Untranslated.Proofs.Places.Nodes
import Untranslated.Proofs.DocumentOrder
import Untranslated.Proofs.Paths
import Untranslated.Proofs.Folders
import Untranslated.Proofs.Scanning
import Untranslated.Proofs.Resolution
import Untranslated.Proofs.Contents
import Untranslated.Proofs.Applying
import Untranslated.Proofs.Patterns
import Untranslated.Proofs.Expansion
import Untranslated.Proofs.Bases
import Untranslated.Proofs.Roots
import Untranslated.Proofs.Relocation
import Untranslated.Proofs.Tokens
import Untranslated.Proofs.Following
import Untranslated.Proofs.Operands
import Untranslated.Proofs.Scripts
import Untranslated.Proofs.ImportStatement
import Untranslated.Proofs.ScriptExchange
import Untranslated.Proofs.SegmentEnds
import Untranslated.Proofs.References
import Untranslated.Proofs.MarkupText
import Untranslated.Proofs.AttributeValues
import Untranslated.Proofs.Acceptance
import Untranslated.Proofs.TrimmedRanges
import Untranslated.Proofs.Bindings
import Untranslated.Proofs.Positions
import Untranslated.Proofs.Excerpts
import Untranslated.Proofs.Climbing
import Untranslated.Proofs.Flattening
import Untranslated.Proofs.Construction
import Untranslated.Proofs.ReportOrder
import Untranslated.Proofs.ReportedText
import Untranslated.Proofs.Faithfulness

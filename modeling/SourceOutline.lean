import SourceOutline.Assistant
import SourceOutline.Command.Arguments
import SourceOutline.Command.Basic
import SourceOutline.Command.FileTree
import SourceOutline.Command.Report
import SourceOutline.Command.Run
import SourceOutline.Decimal.Reading
import SourceOutline.Decimal.Shortest
import SourceOutline.Decimal.Style
import SourceOutline.Declaration
import SourceOutline.Failure
import SourceOutline.Grammar.Annotation
import SourceOutline.Grammar.Brackets
import SourceOutline.Grammar.CasePattern
import SourceOutline.Grammar.DottedName
import SourceOutline.Grammar.Expression
import SourceOutline.Grammar.Interpolation
import SourceOutline.Grammar.Layout
import SourceOutline.Grammar.Literal
import SourceOutline.Grammar.Operand
import SourceOutline.Grammar.Quoted
import SourceOutline.Grammar.Reader
import SourceOutline.Grammar.SimpleStatement
import SourceOutline.Grammar.Source
import SourceOutline.Grammar.Statement
import SourceOutline.Grammar.Token
import SourceOutline.Grammar.Tree
import SourceOutline.Graph.Dot
import SourceOutline.Graph.Parent
import SourceOutline.Graph.TextTree
import SourceOutline.Json.Basic
import SourceOutline.Json.Reader
import SourceOutline.Json.Shape
import SourceOutline.Json.Writer
import SourceOutline.Language.Basic
import SourceOutline.Language.Signature
import SourceOutline.Library
import SourceOutline.Log
import SourceOutline.Main
import SourceOutline.Model.Completion
import SourceOutline.Model.Health
import SourceOutline.Model.Provider
import SourceOutline.Model.Request
import SourceOutline.Outline.ByLine
import SourceOutline.Outline.ByTree
import SourceOutline.Outline.DocComment
import SourceOutline.Outline.Parameters
import SourceOutline.Outline.Strategy
import SourceOutline.Outline.Table
import SourceOutline.Pattern.Basic
import SourceOutline.Pattern.CharClass
import SourceOutline.Pattern.Search
import SourceOutline.Prompt
import SourceOutline.Proofs.Graph.Dot
import SourceOutline.Proofs.Graph.Forest
import SourceOutline.Proofs.Graph.NodeName
import SourceOutline.Proofs.Graph.Parent
import SourceOutline.Proofs.Graph.SyntacticNesting
import SourceOutline.Proofs.Graph.TextTree
import SourceOutline.Proofs.Outline.Nesting
import SourceOutline.Proofs.Outline.Offers
import SourceOutline.Proofs.Outline.Scope
import SourceOutline.Proofs.Text.Lines
import SourceOutline.Settings.Basic
import SourceOutline.Settings.Environment
import SourceOutline.Settings.Exchange
import SourceOutline.Settings.Layers
import SourceOutline.Settings.Printer
import SourceOutline.Snapshot.Basic
import SourceOutline.Snapshot.Exchange
import SourceOutline.Text.Blank
import SourceOutline.Text.CodePoint
import SourceOutline.Text.Identifier
import SourceOutline.Text.Lines
import SourceOutline.Text.Printable
import SourceOutline.Text.Quoted
import SourceOutline.Text.Search
import SourceOutline.Text.Utf8
import SourceOutline.Text.WordChar
import SourceOutline.Toml.Document
import SourceOutline.Toml.Node
import SourceOutline.Toml.Quoted
import SourceOutline.Toml.Scalar
import SourceOutline.Toml.Statement
import SourceOutline.Toml.Value
import SourceOutline.Url.Basic
import SourceOutline.Url.Host
import SourceOutline.Url.Percent
import SourceOutline.Url.Punycode
import SourceOutline.Proofs.Grammar.Rows
import SourceOutline.Proofs.Outline.Definitions
import SourceOutline.Proofs.Outline.Laminar
import SourceOutline.Proofs.Grammar.Layout
import SourceOutline.Proofs.Grammar.Reading
import SourceOutline.Proofs.Grammar.ExpressionRows
import SourceOutline.Proofs.Grammar.StatementRows
import SourceOutline.Proofs.Snapshot.Spans
import SourceOutline.Proofs.Assistant.Buffer
import SourceOutline.Proofs.Assistant.Enhancement
import SourceOutline.Proofs.Assistant.Rounds
import SourceOutline.Proofs.Json.Grammar
import SourceOutline.Proofs.Json.Reading
import SourceOutline.Proofs.Json.Writing
import SourceOutline.Proofs.Snapshot.Exchange
import SourceOutline.Proofs.Text.Trim
import SourceOutline.Proofs.Model.Completion
import SourceOutline.Proofs.Model.Secrecy
import SourceOutline.Proofs.Outline.Locality
import SourceOutline.Proofs.Pattern.Backtracking
import SourceOutline.Proofs.Pattern.Ink
import SourceOutline.Proofs.Outline.BlankLines
import SourceOutline.Proofs.Pattern.LineEnd
import SourceOutline.Proofs.Text.CodeLines
import SourceOutline.Proofs.Text.Search
import SourceOutline.Proofs.Outline.LineEndings
import SourceOutline.Proofs.Toml.Keys
import SourceOutline.Proofs.Settings.Layers
import SourceOutline.Proofs.Command.Settings
import SourceOutline.Proofs.Language.Signature
import SourceOutline.Proofs.Outline.Libraries
import SourceOutline.Proofs.Outline.Windows
import SourceOutline.Proofs.Snapshot.Summaries
import SourceOutline.Proofs.Grammar.Escapes
import SourceOutline.Proofs.Outline.ParameterText
import SourceOutline.Proofs.Outline.LineComments
import SourceOutline.Proofs.Outline.ParameterNames
import SourceOutline.Proofs.Graph.ParentRule
import SourceOutline.Proofs.Graph.DotReading
import SourceOutline.Proofs.Prompt.Fence
import SourceOutline.Proofs.Assistant.Replies
import SourceOutline.Proofs.Model.Health
import SourceOutline.Proofs.Outline.Imports
import SourceOutline.Proofs.Prompt.Blocks
import SourceOutline.Proofs.Language.Extension
import SourceOutline.Proofs.Command.Listing
import SourceOutline.Proofs.Outline.ParameterParts
import SourceOutline.Proofs.Outline.ListedNames
import SourceOutline.Proofs.Library.Names
import SourceOutline.Proofs.Text.Slices
import SourceOutline.Proofs.Snapshot.Drawing

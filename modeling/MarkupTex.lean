import MarkupTex.Check
import MarkupTex.Check.Report
import MarkupTex.Color
import MarkupTex.Color.Names
import MarkupTex.CommandLine
import MarkupTex.Convert.Blocks
import MarkupTex.Convert.Elements
import MarkupTex.Convert.Formatting
import MarkupTex.Convert.Images
import MarkupTex.Convert.Inline
import MarkupTex.Convert.Run
import MarkupTex.Convert.State
import MarkupTex.Convert.Tables
import MarkupTex.Decimal
import MarkupTex.Document.Basic
import MarkupTex.Document.Blocks
import MarkupTex.Document.Grid
import MarkupTex.Document.Scan
import MarkupTex.Document.Tag
import MarkupTex.Document.Walk
import MarkupTex.Domain
import MarkupTex.Domain.Direction
import MarkupTex.Domain.Joining
import MarkupTex.Domain.Mapping
import MarkupTex.Domain.MappingTable
import MarkupTex.Domain.Marks
import MarkupTex.Domain.Punycode
import MarkupTex.Fault
import MarkupTex.Html.Attributes
import MarkupTex.Html.Content
import MarkupTex.Html.Markup
import MarkupTex.Html.Reference
import MarkupTex.Html.ReferenceTable
import MarkupTex.Html.Token
import MarkupTex.Html.Tree
import MarkupTex.Image.Options
import MarkupTex.Image.Resolver
import MarkupTex.Image.Source
import MarkupTex.Latex.Buffer
import MarkupTex.Latex.Commands
import MarkupTex.Latex.Escape
import MarkupTex.Length
import MarkupTex.Main
import MarkupTex.Proofs.Convert.Actions
import MarkupTex.Proofs.Convert.Arguments
import MarkupTex.Proofs.Convert.Blocks
import MarkupTex.Proofs.Convert.Closing
import MarkupTex.Proofs.Convert.Elements
import MarkupTex.Proofs.Convert.Formatting
import MarkupTex.Proofs.Convert.Images
import MarkupTex.Proofs.Convert.Inline
import MarkupTex.Proofs.Convert.Opening
import MarkupTex.Proofs.Convert.Output
import MarkupTex.Proofs.Convert.Restoration
import MarkupTex.Proofs.Convert.Tables
import MarkupTex.Proofs.Convert.Tokens
import MarkupTex.Proofs.Convert.Verbatim
import MarkupTex.Proofs.Convert.Yields
import MarkupTex.Proofs.Document.Traversal
import MarkupTex.Proofs.Latex.ControlSequence
import MarkupTex.Proofs.Latex.Inline
import MarkupTex.Proofs.Latex.Nesting
import MarkupTex.Proofs.Latex.Token
import MarkupTex.Proofs.Latex.Values
import MarkupTex.Proofs.Latex.Writing
import MarkupTex.Proofs.Style.Storage
import MarkupTex.Style.Arena
import MarkupTex.Style.Basic
import MarkupTex.Style.Cascade
import MarkupTex.Style.Declarations
import MarkupTex.Style.Kinds
import MarkupTex.Text.Blank
import MarkupTex.Text.Canonical
import MarkupTex.Text.CanonicalTables
import MarkupTex.Text.CodeTable
import MarkupTex.Text.Numeral
import MarkupTex.Text.Search
import MarkupTex.Url
import MarkupTex.Url.Address
import MarkupTex.Url.Authority
import MarkupTex.Url.FilePath
import MarkupTex.Proofs.Document.Calls
import MarkupTex.Proofs.Style.Cascade
import MarkupTex.Proofs.Document.Cascade
import MarkupTex.Proofs.Check.Coverage
import MarkupTex.Proofs.Check.Prediction
import MarkupTex.Proofs.Convert.Causes
import MarkupTex.Proofs.Convert.Effects
import MarkupTex.Proofs.Convert.Lasting
import MarkupTex.Proofs.Convert.Leaving
import MarkupTex.Proofs.Convert.Loss
import MarkupTex.Proofs.Convert.Outcome
import MarkupTex.Proofs.Convert.Place
import MarkupTex.Proofs.Convert.Suppression
import MarkupTex.Proofs.Document.Agreement
import MarkupTex.Proofs.Document.Levels
import MarkupTex.Proofs.Document.Moments
import MarkupTex.Proofs.Text.Trim
import MarkupTex.Proofs.Convert.Added
import MarkupTex.Proofs.Convert.Brackets
import MarkupTex.Proofs.Convert.Emphasis
import MarkupTex.Proofs.Convert.Floats
import MarkupTex.Proofs.Convert.Form
import MarkupTex.Proofs.Convert.Handlers
import MarkupTex.Proofs.Convert.Moves
import MarkupTex.Proofs.Convert.Styled
import MarkupTex.Proofs.Convert.Terms
import MarkupTex.Proofs.Convert.Texts
import MarkupTex.Proofs.Convert.Wishes
import MarkupTex.Proofs.Document.Ancestry
import MarkupTex.Proofs.Latex.Depth
import MarkupTex.Proofs.Latex.Occurrence
import MarkupTex.Proofs.Latex.Quiet
import MarkupTex.Proofs.Style.Kinds
import MarkupTex.Proofs.Document.Appending
import MarkupTex.Proofs.Style.Ledger
import MarkupTex.Proofs.Convert.Numbering
import MarkupTex.Proofs.Convert.Tabular
import MarkupTex.Proofs.Style.Composition
import MarkupTex.Proofs.Latex.Bytes
import MarkupTex.Proofs.Latex.Escaping
import MarkupTex.Proofs.Document.Search
import MarkupTex.Proofs.Document.Rows
import MarkupTex.Proofs.Document.Cells
import MarkupTex.Proofs.Convert.Lists
import MarkupTex.Proofs.Convert.GridImages
import MarkupTex.Proofs.Convert.Separators
import MarkupTex.Proofs.Convert.CurrentTable
import MarkupTex.Proofs.Convert.Columns
import MarkupTex.Proofs.Style.Cutting
import MarkupTex.Proofs.Style.Setting
import MarkupTex.Proofs.Convert.Division
import MarkupTex.Proofs.Text.Search
import MarkupTex.Proofs.Color.Notations
import MarkupTex.Proofs.Style.Background
import MarkupTex.Proofs.Color.Digits
import MarkupTex.Proofs.Latex.Growth
import MarkupTex.Proofs.Document.Width
import MarkupTex.Proofs.Convert.References
import MarkupTex.Proofs.CommandLine.Comments
import MarkupTex.Proofs.Text.Numeral
import MarkupTex.Proofs.Document.Colspan
import MarkupTex.Proofs.Document.Copy
import MarkupTex.Proofs.Convert.Bookkeeping
import MarkupTex.Proofs.Convert.Unknown
import MarkupTex.Proofs.Latex.Breaks
import MarkupTex.Proofs.Document.Contents
import MarkupTex.Proofs.Document.Scanning
import MarkupTex.Proofs.Convert.Blockless
import MarkupTex.Proofs.Convert.RowMark

import PortableSql.Command.Line
import PortableSql.Command.Run
import PortableSql.Fault
import PortableSql.Macro.Library
import PortableSql.Macro.Moment
import PortableSql.Main
import PortableSql.Model.Call
import PortableSql.Model.Replacement
import PortableSql.Number.Double
import PortableSql.Number.Numeral
import PortableSql.Number.Shortest
import PortableSql.Project.Migration
import PortableSql.Project.Path
import PortableSql.Project.Scan
import PortableSql.Project.Settings
import PortableSql.Project.Tree
import PortableSql.Proofs.Command.Course
import PortableSql.Proofs.Command.Migration
import PortableSql.Proofs.Command.Sequence
import PortableSql.Proofs.Command.Stages
import PortableSql.Proofs.Computation
import PortableSql.Proofs.Macro.Definition
import PortableSql.Proofs.Macro.Expansion
import PortableSql.Proofs.Macro.Reading
import PortableSql.Proofs.Model.Argument
import PortableSql.Proofs.Model.Boundary
import PortableSql.Proofs.Model.Call
import PortableSql.Proofs.Model.Displacement
import PortableSql.Proofs.Model.Insertion
import PortableSql.Proofs.Model.Markup
import PortableSql.Proofs.Model.Masking
import PortableSql.Proofs.Model.Nesting
import PortableSql.Proofs.Model.Once
import PortableSql.Proofs.Model.Outcome
import PortableSql.Proofs.Model.Pieces
import PortableSql.Proofs.Model.Precedence
import PortableSql.Proofs.Model.Recognition
import PortableSql.Proofs.Model.Replaced
import PortableSql.Proofs.Model.Spelling
import PortableSql.Proofs.Model.Splicing
import PortableSql.Proofs.Project.Adapters
import PortableSql.Proofs.Project.Attempt
import PortableSql.Proofs.Project.Conversion
import PortableSql.Proofs.Project.Counting
import PortableSql.Proofs.Project.Frame
import PortableSql.Proofs.Project.Isolation
import PortableSql.Proofs.Project.LineEnds
import PortableSql.Proofs.Project.Masking
import PortableSql.Proofs.Project.Once
import PortableSql.Proofs.Project.Order
import PortableSql.Proofs.Project.Overlap
import PortableSql.Proofs.Project.Parts
import PortableSql.Proofs.Project.Places
import PortableSql.Proofs.Project.Prediction
import PortableSql.Proofs.Project.Repetition
import PortableSql.Proofs.Project.Scan
import PortableSql.Proofs.Project.Shape
import PortableSql.Proofs.Project.Visits
import PortableSql.Proofs.Report.Printing
import PortableSql.Proofs.Sorting
import PortableSql.Proofs.Sql.Differences
import PortableSql.Proofs.Sql.Traversal
import PortableSql.Proofs.Template.FirstTag
import PortableSql.Proofs.Template.Grouping
import PortableSql.Proofs.Template.Literal
import PortableSql.Proofs.Template.Plain
import PortableSql.Proofs.Template.Reading
import PortableSql.Proofs.Template.Symbol
import PortableSql.Proofs.Template.Tags
import PortableSql.Proofs.Text.Ascii
import PortableSql.Proofs.Text.Brace
import PortableSql.Proofs.Text.Case
import PortableSql.Proofs.Text.Lines
import PortableSql.Proofs.Text.Search
import PortableSql.Report.Colour
import PortableSql.Report.Emoji
import PortableSql.Report.EmojiNames
import PortableSql.Report.Literal.Expression
import PortableSql.Report.Literal.Grammar
import PortableSql.Report.Literal.Pattern
import PortableSql.Report.Literal.Quotation
import PortableSql.Report.Literal.Reader
import PortableSql.Report.Literal.Term
import PortableSql.Report.Literal.Token
import PortableSql.Report.Markup
import PortableSql.Report.Style
import PortableSql.Report.Table
import PortableSql.Report.Wrap
import PortableSql.Sorting
import PortableSql.Sql.Engine
import PortableSql.Sql.Node
import PortableSql.Sql.Recording
import PortableSql.Sql.RecordingFormat
import PortableSql.Template.Lexer
import PortableSql.Template.Region
import PortableSql.Template.Token
import PortableSql.Text.Basic
import PortableSql.Text.Blank
import PortableSql.Text.Case
import PortableSql.Text.CaseTable
import PortableSql.Text.CharacterName
import PortableSql.Text.CodeRange
import PortableSql.Text.Digit
import PortableSql.Text.Digits
import PortableSql.Text.Encoding
import PortableSql.Text.Escape
import PortableSql.Text.Name.Aliases
import PortableSql.Text.Name.Alphabets
import PortableSql.Text.Name.Ancient
import PortableSql.Text.Name.EastAsia
import PortableSql.Text.Name.Hieroglyphs
import PortableSql.Text.Name.Notations
import PortableSql.Text.Name.Pictographs
import PortableSql.Text.Name.Syllabics
import PortableSql.Text.Name.Symbols
import PortableSql.Text.Quoted
import PortableSql.Text.Width
import PortableSql.Text.Word
import PortableSql.Value.Basic
import PortableSql.Value.Kind
import PortableSql.Value.Shown
import PortableSql.Yaml.Binary
import PortableSql.Yaml.Block
import PortableSql.Yaml.Cell
import PortableSql.Yaml.Character
import PortableSql.Yaml.Document
import PortableSql.Yaml.Fault
import PortableSql.Yaml.Merge
import PortableSql.Yaml.Node
import PortableSql.Yaml.Number
import PortableSql.Yaml.Plain
import PortableSql.Yaml.Quoted
import PortableSql.Yaml.Stream
import PortableSql.Yaml.Tag
import PortableSql.Yaml.Timestamp
import PortableSql.Yaml.Token
import PortableSql.Yaml.Tokens

import JavaLex.Charset.Alphanumeric
import JavaLex.Charset.Blank
import JavaLex.Charset.Digit
import JavaLex.Charset.Extending
import JavaLex.Charset.Identifier
import JavaLex.Charset.Ranges
import JavaLex.Charset.Spelling
import JavaLex.Charset.Unprintable
import JavaLex.Charset.XidContinue
import JavaLex.Charset.XidStart
import JavaLex.Error
import JavaLex.Files
import JavaLex.Lexeme
import JavaLex.Literal.Accumulate
import JavaLex.Literal.Numeral
import JavaLex.Literal.Quoted
import JavaLex.Literal.Reader
import JavaLex.Literal.Rounding
import JavaLex.Literal.Window
import JavaLex.Main
import JavaLex.Names
import JavaLex.Report.Diagnostic
import JavaLex.Report.Listing
import JavaLex.Report.Style
import JavaLex.Scanner
import JavaLex.Scanner.Pending
import JavaLex.Scanner.Round
import JavaLex.Shell.Arguments
import JavaLex.Shell.Command
import JavaLex.Shell.Completion
import JavaLex.Shell.Highlight
import JavaLex.Shell.Invocation
import JavaLex.Shell.LineEditor
import JavaLex.Shell.OpenInput
import JavaLex.Shell.Session
import JavaLex.Source.Buffer
import JavaLex.Source.Cell
import JavaLex.Source.Cursor
import JavaLex.Source.Escape
import JavaLex.Source.LineMap
import JavaLex.Source.LineSearch
import JavaLex.Source.Mark
import JavaLex.Source.Position
import JavaLex.Source.Text
import JavaLex.Source.Unit
import JavaLex.Stream
import JavaLex.SymbolTable
import JavaLex.Token.Basic
import JavaLex.Token.Keyword
import JavaLex.Token.Kind
import JavaLex.Token.Literal
import JavaLex.Token.Munch
import JavaLex.Token.Operator
import JavaLex.Token.Reserved
import JavaLex.Proofs.Escape.Spelling
import JavaLex.Proofs.Escape.Translation
import JavaLex.Proofs.Place.Line
import JavaLex.Proofs.Place.Offset
import JavaLex.Proofs.Place.Cursor
import JavaLex.Proofs.Scan.Lexeme
import JavaLex.Proofs.Scan.Run
import JavaLex.Proofs.Scan.Place
import JavaLex.Proofs.Scan.Tiling
import JavaLex.Proofs.Escape.OffsetMap
import JavaLex.Proofs.Front.Numeral
import JavaLex.Proofs.Front.Quoted
import JavaLex.Proofs.Front.Lexeme
import JavaLex.Proofs.Front.LineEnd
import JavaLex.Proofs.Scan.Rescan
import JavaLex.Proofs.Scan.Extent
import JavaLex.Proofs.Scan.Calls
import JavaLex.Proofs.Scan.Errors
import JavaLex.Proofs.Scan.Sentinel
import JavaLex.Proofs.Scan.Escapes
import JavaLex.Proofs.Scan.Pending
import JavaLex.Proofs.Escape.Respelling
import JavaLex.Proofs.Scan.Transparency
import JavaLex.Proofs.Scan.Comments
import JavaLex.Proofs.Scan.Encoding
import JavaLex.Proofs.Scan.Stream
import JavaLex.Proofs.Scan.Frame
import JavaLex.Proofs.Scan.Append
import JavaLex.Proofs.Escape.Writing
import JavaLex.Proofs.Scan.WellFormed
import JavaLex.Proofs.Shell.OpenInput
import JavaLex.Proofs.Shell.Submission
import JavaLex.Proofs.Shell.Turn
import JavaLex.Proofs.Report.Caret
import JavaLex.Proofs.Shell.Highlight
import JavaLex.Proofs.Scan.Underscore
import JavaLex.Proofs.Front.Takes
import JavaLex.Proofs.Literal.Nearest
import JavaLex.Proofs.Literal.Rounding
import JavaLex.Proofs.Literal.Window
import JavaLex.Proofs.Literal.HexFloat
import JavaLex.Proofs.Literal.Grammar
import JavaLex.Proofs.Literal.NumberParts
import JavaLex.Proofs.Literal.Number
import JavaLex.Proofs.Literal.Digits
import JavaLex.Proofs.Literal.DecimalFloat
import JavaLex.Proofs.Literal.Integer
import JavaLex.Proofs.Literal.Sequence
import JavaLex.Proofs.Literal.StringLiteral
import JavaLex.Proofs.Front.Comment
import JavaLex.Proofs.Front.Munch
import JavaLex.Proofs.Literal.CharacterLiteral
import JavaLex.Proofs.Escape.Run
import JavaLex.Proofs.Scan.Recovery
import JavaLex.Proofs.Scan.Progress
import JavaLex.Proofs.Front.Compound
import JavaLex.Proofs.Scan.Split
import JavaLex.Proofs.Place.LineSearch
import JavaLex.Proofs.Place.Partition
import JavaLex.Proofs.Shell.Completion
import JavaLex.Proofs.Shell.WordList
import JavaLex.Proofs.Report.Spelling
import JavaLex.Proofs.Report.Listing
import JavaLex.Proofs.Escape.Provenance

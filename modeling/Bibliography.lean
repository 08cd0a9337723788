import Bibliography.Block
import Bibliography.Block.Check
import Bibliography.Block.Fields
import Bibliography.Collation
import Bibliography.Collection
import Bibliography.CommandLine.Arguments
import Bibliography.CommandLine.Invocation
import Bibliography.CommandLine.Run
import Bibliography.Console.Appearance
import Bibliography.Console.Emoji
import Bibliography.Console.EmojiTable
import Bibliography.Console.Literal
import Bibliography.Console.Markup
import Bibliography.Console.Report
import Bibliography.Console.Table
import Bibliography.Console.Wrap
import Bibliography.Datum.Basic
import Bibliography.Datum.Written
import Bibliography.Decimal.Nearest
import Bibliography.Decimal.Shortest
import Bibliography.Delimiter
import Bibliography.Directory
import Bibliography.Document
import Bibliography.Entry
import Bibliography.Event
import Bibliography.Failure
import Bibliography.Layout.Basic
import Bibliography.Layout.FieldOrder
import Bibliography.Layout.Render
import Bibliography.Layout.Tab
import Bibliography.Notice
import Bibliography.Order.Compare
import Bibliography.Order.Sort
import Bibliography.Reading
import Bibliography.Reading.File
import Bibliography.Settings.Basic
import Bibliography.Settings.File
import Bibliography.Settings.Options
import Bibliography.Text.BaseLetterTable
import Bibliography.Text.BaseLetters
import Bibliography.Text.Blank
import Bibliography.Text.CaseTable
import Bibliography.Text.CharTable
import Bibliography.Text.DigitTable
import Bibliography.Text.HiddenTable
import Bibliography.Text.LetterCase
import Bibliography.Text.Lines
import Bibliography.Text.Numeral
import Bibliography.Text.Quoted
import Bibliography.Text.Utf8
import Bibliography.Text.WidthTable
import Bibliography.Text.WordTable
import Bibliography.Yaml.Load
import Bibliography.Yaml.Node
import Bibliography.Yaml.Scalar
import Bibliography.Yaml.Token
import Bibliography.Main
import Bibliography.Proofs.Blanks
import Bibliography.Proofs.Nesting
import Bibliography.Proofs.Segmentation
import Bibliography.Proofs.FieldReading
import Bibliography.Proofs.FieldOrder
import Bibliography.Proofs.Indentation
import Bibliography.Proofs.BlockItems
import Bibliography.Proofs.CheckBlanks
import Bibliography.Proofs.CheckMachine
import Bibliography.Proofs.CheckVerdict
import Bibliography.Proofs.EntryBlock
import Bibliography.Proofs.EntryTexts
import Bibliography.Proofs.Reformatting
import Bibliography.Proofs.SourceCoverage
import Bibliography.Proofs.ReadBack
import Bibliography.Proofs.ItemOrder
import Bibliography.Proofs.QuotedTexts
import Bibliography.Proofs.OpenBlocks
import Bibliography.Proofs.SortedTexts
import Bibliography.Proofs.CommentedTexts
import Bibliography.Proofs.WrittenDocuments
import Bibliography.Proofs.DelimiterOrder
import Bibliography.Proofs.UpperNames
import Bibliography.Proofs.CitationKeys
import Bibliography.Proofs.ResolvedOptions
import Bibliography.Proofs.Precedence
import Bibliography.Proofs.CheckedRuns
import Bibliography.Proofs.JoinedTexts
import Bibliography.Proofs.SortRanks
import Bibliography.Proofs.MarkedDuplicates
import Bibliography.Proofs.FieldGrammar
import Bibliography.Proofs.EntryDelimiters
import Bibliography.Proofs.TieRuns
import Bibliography.Proofs.WrittenEntries
import Bibliography.Proofs.LayoutColumns
import Bibliography.Proofs.CollationLevels
import Bibliography.Proofs.TabSpecifications
import Bibliography.Proofs.FailureChains
import Bibliography.Proofs.NormalIndentation
import Bibliography.Proofs.ClosingPositions

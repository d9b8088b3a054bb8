import YamlStyle.Config.Basic
import YamlStyle.Config.Decode
import YamlStyle.Config.Error
import YamlStyle.Decimal.Shortest
import YamlStyle.Decode.Codec
import YamlStyle.Decode.Error
import YamlStyle.Decode.Schema
import YamlStyle.Diagnostic
import YamlStyle.Document
import YamlStyle.Json.Basic
import YamlStyle.Json.Number
import YamlStyle.Json.Reader
import YamlStyle.Json.Writer
import YamlStyle.KeyPattern
import YamlStyle.Line
import YamlStyle.Linter
import YamlStyle.Mark
import YamlStyle.Nesting
import YamlStyle.Pattern.Bracket
import YamlStyle.Pattern.CharSet
import YamlStyle.Pattern.Escape
import YamlStyle.Pattern.Flags
import YamlStyle.Pattern.Reader
import YamlStyle.Pattern.Regex
import YamlStyle.Pattern.Standard
import YamlStyle.Proofs.Abort
import YamlStyle.Proofs.AliasColons
import YamlStyle.Proofs.Balance
import YamlStyle.Proofs.BlankRuns
import YamlStyle.Proofs.Brackets
import YamlStyle.Proofs.ByteOrder
import YamlStyle.Proofs.Checked
import YamlStyle.Proofs.ConfigGrammar
import YamlStyle.Proofs.Conventions
import YamlStyle.Proofs.Dispatch
import YamlStyle.Proofs.Faultless
import YamlStyle.Proofs.FieldGrammar
import YamlStyle.Proofs.Frames
import YamlStyle.Proofs.Gaps
import YamlStyle.Proofs.KeyPasses
import YamlStyle.Proofs.LineBreaks
import YamlStyle.Proofs.LineContents
import YamlStyle.Proofs.LineFaults
import YamlStyle.Proofs.LineScan
import YamlStyle.Proofs.Lines
import YamlStyle.Proofs.Looser
import YamlStyle.Proofs.Marks
import YamlStyle.Proofs.MeasuredGaps
import YamlStyle.Proofs.Members
import YamlStyle.Proofs.MisplacedKeys
import YamlStyle.Proofs.OptionGrammar
import YamlStyle.Proofs.OptionTables
import YamlStyle.Proofs.Passes
import YamlStyle.Proofs.Pointing
import YamlStyle.Proofs.Positions
import YamlStyle.Proofs.Refusals
import YamlStyle.Proofs.Registrations
import YamlStyle.Proofs.RepeatedKeys
import YamlStyle.Proofs.ReportOrder
import YamlStyle.Proofs.Resolution
import YamlStyle.Proofs.RunReports
import YamlStyle.Proofs.SettingGrammar
import YamlStyle.Proofs.SettingMeaning
import YamlStyle.Proofs.SiblingKeys
import YamlStyle.Proofs.StableSort
import YamlStyle.Proofs.StreamDocuments
import YamlStyle.Proofs.StreamEnd
import YamlStyle.Proofs.SwitchOff
import YamlStyle.Proofs.Terminated
import YamlStyle.Proofs.TerminatorBytes
import YamlStyle.Proofs.TokenFaults
import YamlStyle.Proofs.Updates
import YamlStyle.Proofs.Walks
import YamlStyle.Proofs.WrittenOptions
import YamlStyle.Registry
import YamlStyle.Rule.Basic
import YamlStyle.Rule.BlankLines
import YamlStyle.Rule.Keys
import YamlStyle.Rule.LineContent
import YamlStyle.Rule.Markers
import YamlStyle.Rule.Spacing
import YamlStyle.Rule.Terminators
import YamlStyle.Rule.Values
import YamlStyle.Severity
import YamlStyle.Text.Basic
import YamlStyle.Text.Digits
import YamlStyle.Text.Order
import YamlStyle.Text.Quoted
import YamlStyle.Token
import YamlStyle.Unicode.Alphabetic
import YamlStyle.Unicode.CaseFolding
import YamlStyle.Unicode.DecimalDigit
import YamlStyle.Unicode.GraphemeExtend
import YamlStyle.Unicode.OtherNumber
import YamlStyle.Unicode.Ranges
import YamlStyle.Unicode.Unprintable
import YamlStyle.Unicode.WhiteSpace
import YamlStyle.Unicode.Word

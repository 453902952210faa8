import ReceiptTemplate.Binary64.Basic
import ReceiptTemplate.Binary64.Shortest
import ReceiptTemplate.Binary64.Text
import ReceiptTemplate.Calendar.Date
import ReceiptTemplate.Calendar.Format
import ReceiptTemplate.Calendar.Moment
import ReceiptTemplate.Calendar.Names
import ReceiptTemplate.Calendar.Pattern
import ReceiptTemplate.Calendar.Week
import ReceiptTemplate.CommandLine.Files
import ReceiptTemplate.CommandLine.Program
import ReceiptTemplate.CommandLine.Usage
import ReceiptTemplate.Context.Basic
import ReceiptTemplate.Context.Reference
import ReceiptTemplate.Decimal.Arithmetic
import ReceiptTemplate.Decimal.Basic
import ReceiptTemplate.Decimal.Rounding
import ReceiptTemplate.Decimal.Text
import ReceiptTemplate.Engine.Basic
import ReceiptTemplate.Engine.Cache
import ReceiptTemplate.Engine.Notes
import ReceiptTemplate.Engine.Settings
import ReceiptTemplate.Engine.Template
import ReceiptTemplate.Entries
import ReceiptTemplate.Expr.Basic
import ReceiptTemplate.Expr.ConstructorText
import ReceiptTemplate.Expr.Evaluate
import ReceiptTemplate.Expr.FilterCall
import ReceiptTemplate.Expr.ParseError
import ReceiptTemplate.Expr.Parser
import ReceiptTemplate.Expr.Path
import ReceiptTemplate.Expr.Token
import ReceiptTemplate.Filter.Arguments
import ReceiptTemplate.Filter.Basic
import ReceiptTemplate.Filter.Currency
import ReceiptTemplate.Filter.Number
import ReceiptTemplate.Filter.Registry
import ReceiptTemplate.Filter.Standard
import ReceiptTemplate.Filter.Text
import ReceiptTemplate.JsonTree
import ReceiptTemplate.Locale.Basic
import ReceiptTemplate.Locale.DecimalPattern
import ReceiptTemplate.Locale.NumberSymbols
import ReceiptTemplate.Locale.Tag
import ReceiptTemplate.Main
import ReceiptTemplate.Number.Format
import ReceiptTemplate.Number.Pattern
import ReceiptTemplate.Number.Strict
import ReceiptTemplate.Proofs.Binary64.Range
import ReceiptTemplate.Proofs.Context.Cells
import ReceiptTemplate.Proofs.Context.PathWalk
import ReceiptTemplate.Proofs.Context.StepRun
import ReceiptTemplate.Proofs.Decimal.CorrectRounding
import ReceiptTemplate.Proofs.Decimal.Fitting
import ReceiptTemplate.Proofs.Decimal.HalfEven
import ReceiptTemplate.Proofs.Decimal.Order
import ReceiptTemplate.Proofs.Decimal.PlainText
import ReceiptTemplate.Proofs.Decimal.Rounding
import ReceiptTemplate.Proofs.Decimal.Value
import ReceiptTemplate.Proofs.Engine.Alike
import ReceiptTemplate.Proofs.Engine.CacheAnswer
import ReceiptTemplate.Proofs.Engine.CacheRun
import ReceiptTemplate.Proofs.Engine.EmbeddedSource
import ReceiptTemplate.Proofs.Engine.History
import ReceiptTemplate.Proofs.Engine.NumberSources
import ReceiptTemplate.Proofs.Engine.TemplateText
import ReceiptTemplate.Proofs.Expr.ArithmeticValue
import ReceiptTemplate.Proofs.Expr.BarePath
import ReceiptTemplate.Proofs.Expr.Built
import ReceiptTemplate.Proofs.Expr.CallText
import ReceiptTemplate.Proofs.Expr.ChainedComparison
import ReceiptTemplate.Proofs.Expr.DepthLimit
import ReceiptTemplate.Proofs.Expr.Derivation
import ReceiptTemplate.Proofs.Expr.Evaluation
import ReceiptTemplate.Proofs.Expr.FailingOperator
import ReceiptTemplate.Proofs.Expr.FaultPlace
import ReceiptTemplate.Proofs.Expr.FilteredPath
import ReceiptTemplate.Proofs.Expr.Followed
import ReceiptTemplate.Proofs.Expr.Grouping
import ReceiptTemplate.Proofs.Expr.Limits
import ReceiptTemplate.Proofs.Expr.LogicalChain
import ReceiptTemplate.Proofs.Expr.MemberName
import ReceiptTemplate.Proofs.Expr.Mentioned
import ReceiptTemplate.Proofs.Expr.NumberText
import ReceiptTemplate.Proofs.Expr.OperandEnd
import ReceiptTemplate.Proofs.Expr.OuterBlanks
import ReceiptTemplate.Proofs.Expr.OuterOperators
import ReceiptTemplate.Proofs.Expr.ParserStep
import ReceiptTemplate.Proofs.Expr.PathSegments
import ReceiptTemplate.Proofs.Expr.PathText
import ReceiptTemplate.Proofs.Expr.QuotedText
import ReceiptTemplate.Proofs.Expr.ReadBack
import ReceiptTemplate.Proofs.Expr.Scanning
import ReceiptTemplate.Proofs.Expr.TextAfter
import ReceiptTemplate.Proofs.Expr.TokenTiling
import ReceiptTemplate.Proofs.Expr.TrailingBlanks
import ReceiptTemplate.Proofs.Expr.Word
import ReceiptTemplate.Proofs.Expr.Written
import ReceiptTemplate.Proofs.Filter.Acceptance
import ReceiptTemplate.Proofs.Filter.ExactPlaces
import ReceiptTemplate.Proofs.Filter.FixedPlaces
import ReceiptTemplate.Proofs.Filter.FormatAgreement
import ReceiptTemplate.Proofs.Filter.FormatText
import ReceiptTemplate.Proofs.Filter.NumberFilters
import ReceiptTemplate.Proofs.Filter.RegistryRun
import ReceiptTemplate.Proofs.Filter.Truncation
import ReceiptTemplate.Proofs.Number.Affixes
import ReceiptTemplate.Proofs.Number.FixedText
import ReceiptTemplate.Proofs.Number.ImproperText
import ReceiptTemplate.Proofs.Number.Notation
import ReceiptTemplate.Proofs.Number.PointText
import ReceiptTemplate.Proofs.Number.ProperText
import ReceiptTemplate.Proofs.Number.ShownValue
import ReceiptTemplate.Proofs.Number.StrictReading
import ReceiptTemplate.Proofs.Number.Writable
import ReceiptTemplate.Proofs.Number.WrittenText
import ReceiptTemplate.Proofs.Property.EnumNames
import ReceiptTemplate.Proofs.Property.FiniteFloat
import ReceiptTemplate.Proofs.Property.Lifecycle
import ReceiptTemplate.Proofs.Property.LocaleRoundTrip
import ReceiptTemplate.Proofs.Property.Materializing
import ReceiptTemplate.Proofs.Property.Reading
import ReceiptTemplate.Proofs.Property.WholeNumber
import ReceiptTemplate.Proofs.Text.DigitKeys
import ReceiptTemplate.Proofs.Text.Digits
import ReceiptTemplate.Proofs.Text.IntegerText
import ReceiptTemplate.Proofs.Value.Comparison
import ReceiptTemplate.Proofs.Value.Conversion
import ReceiptTemplate.Proofs.Value.Equality
import ReceiptTemplate.Proofs.Value.PropertyLookup
import ReceiptTemplate.Property.Basic
import ReceiptTemplate.Property.Shape
import ReceiptTemplate.Text.Basic
import ReceiptTemplate.Text.Case
import ReceiptTemplate.Text.Constructor
import ReceiptTemplate.Text.Integer
import ReceiptTemplate.Text.Quoted
import ReceiptTemplate.Text.Similarity
import ReceiptTemplate.Unicode.Blank
import ReceiptTemplate.Unicode.CaseContext
import ReceiptTemplate.Unicode.CaseMap
import ReceiptTemplate.Unicode.DecimalDigit
import ReceiptTemplate.Unicode.Printable
import ReceiptTemplate.Unicode.Range
import ReceiptTemplate.Value.Basic
import ReceiptTemplate.Value.ConstructorText
import ReceiptTemplate.Value.Datum
import ReceiptTemplate.Value.Display
import ReceiptTemplate.Value.Lookup
import ReceiptTemplate.Yaml.Cursor
import ReceiptTemplate.Yaml.Fault
import ReceiptTemplate.Yaml.Node
import ReceiptTemplate.Yaml.NodeData
import ReceiptTemplate.Yaml.NodeProperty
import ReceiptTemplate.Yaml.ScalarKind
import ReceiptTemplate.Yaml.ScalarText
import ReceiptTemplate.Yaml.Token
import ReceiptTemplate.Yaml.TokenStream

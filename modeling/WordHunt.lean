import WordHunt.Catalogue.Address
import WordHunt.Catalogue.Harvest
import WordHunt.Clues.Basic
import WordHunt.Clues.Line
import WordHunt.Clues.Printer
import WordHunt.Clues.Reader
import WordHunt.Command.Arguments
import WordHunt.Command.Perform
import WordHunt.Command.Surroundings
import WordHunt.Command.Verbosity
import WordHunt.Decimal.Layout
import WordHunt.Decimal.Nearest
import WordHunt.Decimal.Reading
import WordHunt.Decimal.Shortest
import WordHunt.Decimal.Single
import WordHunt.Description
import WordHunt.Dictionary.Lookup
import WordHunt.Dictionary.Verdicts
import WordHunt.Duration
import WordHunt.Exchange.Client
import WordHunt.Exchange.Clock
import WordHunt.Exchange.Dialogue
import WordHunt.Exchange.Message
import WordHunt.Exchange.Retry
import WordHunt.Exchange.Target
import WordHunt.Failure
import WordHunt.Hunt.Basic
import WordHunt.Hunt.Report
import WordHunt.Ini.Basic
import WordHunt.Ini.Reader
import WordHunt.Json.Basic
import WordHunt.Json.Reader
import WordHunt.Json.Token
import WordHunt.Json.Tree
import WordHunt.Json.Writer
import WordHunt.Json5.Reader
import WordHunt.Json5.Token
import WordHunt.Main
import WordHunt.Page.Basic
import WordHunt.Page.Markup
import WordHunt.Page.NextLink
import WordHunt.Page.Words
import WordHunt.Program
import WordHunt.Proofs.Blame
import WordHunt.Proofs.Catalogue.Chain
import WordHunt.Proofs.Catalogue.Distinct
import WordHunt.Proofs.Catalogue.Ending
import WordHunt.Proofs.Catalogue.Template
import WordHunt.Proofs.Catalogue.Words
import WordHunt.Proofs.Clues.AnyOrder
import WordHunt.Proofs.Clues.Bounds
import WordHunt.Proofs.Clues.Canonical
import WordHunt.Proofs.Clues.Counting
import WordHunt.Proofs.Clues.Forms
import WordHunt.Proofs.Clues.Growth
import WordHunt.Proofs.Clues.Layout
import WordHunt.Proofs.Clues.Meaning
import WordHunt.Proofs.Clues.Order
import WordHunt.Proofs.Command.Compiling
import WordHunt.Proofs.Command.Filtering
import WordHunt.Proofs.Command.Hunting
import WordHunt.Proofs.Dictionary.Ledger
import WordHunt.Proofs.Dictionary.Session
import WordHunt.Proofs.Duration
import WordHunt.Proofs.Exchange.Attempts
import WordHunt.Proofs.Exchange.Backoff
import WordHunt.Proofs.Exchange.Composition
import WordHunt.Proofs.Exchange.Deadline
import WordHunt.Proofs.Exchange.Delayed
import WordHunt.Proofs.Exchange.Exchanges
import WordHunt.Proofs.Exchange.Explanation
import WordHunt.Proofs.Exchange.Late
import WordHunt.Proofs.Exchange.Sending
import WordHunt.Proofs.Exchange.Series
import WordHunt.Proofs.Exchange.Veiled
import WordHunt.Proofs.Hunt.Composition
import WordHunt.Proofs.Hunt.Consulting
import WordHunt.Proofs.Hunt.InVain
import WordHunt.Proofs.Hunt.Key
import WordHunt.Proofs.Hunt.Late
import WordHunt.Proofs.Hunt.LookUp
import WordHunt.Proofs.Hunt.Memory
import WordHunt.Proofs.Hunt.Offline
import WordHunt.Proofs.Hunt.Pacing
import WordHunt.Proofs.Hunt.Phases
import WordHunt.Proofs.Hunt.Posts
import WordHunt.Proofs.Hunt.Printed
import WordHunt.Proofs.Hunt.Report
import WordHunt.Proofs.Hunt.Setbacks
import WordHunt.Proofs.Hunt.Tasks
import WordHunt.Proofs.Json.Numbers
import WordHunt.Proofs.Json.RoundTrip
import WordHunt.Proofs.Json.Strings
import WordHunt.Proofs.Json.Structure
import WordHunt.Proofs.Page.Document
import WordHunt.Proofs.Page.Links
import WordHunt.Proofs.Page.Markup
import WordHunt.Proofs.Page.Sheet
import WordHunt.Proofs.Page.Tagged
import WordHunt.Proofs.Page.Words
import WordHunt.Proofs.Rescreening
import WordHunt.Proofs.Screening
import WordHunt.Proofs.Scribe.Completion
import WordHunt.Proofs.Scribe.Prompt
import WordHunt.Proofs.Settings.Layers
import WordHunt.Proofs.Settings.Leaf
import WordHunt.Proofs.Settings.Tree
import WordHunt.Proofs.Sorting
import WordHunt.Proofs.Text.AnyCase
import WordHunt.Proofs.Text.Blank
import WordHunt.Proofs.Text.Capitals
import WordHunt.Proofs.Text.Lines
import WordHunt.Proofs.Text.Numeral
import WordHunt.Proofs.Text.Runs
import WordHunt.Proofs.Text.Scan
import WordHunt.Proofs.Text.UpperAgain
import WordHunt.Proofs.Text.UpperCase
import WordHunt.Proofs.WordList
import WordHunt.Ron.Reader
import WordHunt.Ron.Token
import WordHunt.Screening
import WordHunt.Scribe.Basic
import WordHunt.Scribe.Completion
import WordHunt.Scribe.Prompt
import WordHunt.Settings.Basic
import WordHunt.Settings.Conversion
import WordHunt.Settings.Document
import WordHunt.Settings.Environment
import WordHunt.Settings.Format
import WordHunt.Settings.Hunter
import WordHunt.Settings.Loading
import WordHunt.Settings.Path
import WordHunt.Settings.Value
import WordHunt.Text.Blank
import WordHunt.Text.Case
import WordHunt.Text.Case.Context
import WordHunt.Text.Case.Lower
import WordHunt.Text.Case.Shift
import WordHunt.Text.Case.Upper
import WordHunt.Text.CodeRange
import WordHunt.Text.DecimalDigit
import WordHunt.Text.HexDigit
import WordHunt.Text.Identifier
import WordHunt.Text.Letter
import WordHunt.Text.Line
import WordHunt.Text.Mark
import WordHunt.Text.Numeral
import WordHunt.Text.Printable
import WordHunt.Text.Quoted
import WordHunt.Text.Scan
import WordHunt.Text.Utf8
import WordHunt.Text.WordChar
import WordHunt.Toml.Basic
import WordHunt.Toml.Moment
import WordHunt.Toml.Outline
import WordHunt.Toml.Reader
import WordHunt.Toml.Scalar
import WordHunt.Toml.Token
import WordHunt.Yaml.Basic
import WordHunt.Yaml.Block
import WordHunt.Yaml.Cursor
import WordHunt.Yaml.Reader
import WordHunt.Yaml.Scalar
import WordHunt.Yaml.Tag
import WordHunt.Yaml.Token

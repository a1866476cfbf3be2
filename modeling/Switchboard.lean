import Switchboard.Bot.CommandLine
import Switchboard.Bot.Commands
import Switchboard.Call.Basic
import Switchboard.Call.Handler
import Switchboard.Call.Parameter
import Switchboard.Callback.Basic
import Switchboard.Callback.Directory
import Switchboard.Callback.Reference
import Switchboard.Dispatch.Dispatcher
import Switchboard.Dispatch.Invocation
import Switchboard.Dispatch.Run
import Switchboard.Dispatch.Schedule
import Switchboard.Dispatch.Subscriptions
import Switchboard.Exchange
import Switchboard.File.Path
import Switchboard.File.Tree
import Switchboard.Json.Basic
import Switchboard.Json.Loose
import Switchboard.Json.Overlay
import Switchboard.Json.Printer
import Switchboard.Json.Reader
import Switchboard.Json.Shape
import Switchboard.Logging.Directive
import Switchboard.Logging.Plan
import Switchboard.Notice.Basic
import Switchboard.Notice.Level
import Switchboard.Number.Basic
import Switchboard.Number.Binary64
import Switchboard.Number.Layout
import Switchboard.Number.Literal
import Switchboard.Number.Shortest
import Switchboard.Pattern.Basic
import Switchboard.Pattern.Cache
import Switchboard.Pattern.Matching
import Switchboard.Payload.Basic
import Switchboard.Payload.Path
import Switchboard.Proofs.Cache
import Switchboard.Proofs.Course
import Switchboard.Proofs.DispatchOrder
import Switchboard.Proofs.Exploration
import Switchboard.Proofs.Front
import Switchboard.Proofs.Ledger
import Switchboard.Proofs.Splits
import Switchboard.Proofs.StableOrder
import Switchboard.Proofs.TemplateExpression
import Switchboard.Proofs.TemplateMatch
import Switchboard.Proofs.TemplateSource
import Switchboard.Proofs.Ways
import Switchboard.Regex.Class
import Switchboard.Regex.Parser
import Switchboard.Regex.Search
import Switchboard.Regex.Syntax
import Switchboard.Settings.Basic
import Switchboard.Settings.Inline
import Switchboard.Settings.Profile
import Switchboard.Settings.Sources
import Switchboard.Settings.Validation
import Switchboard.Settings.Variables
import Switchboard.Template.Delimited
import Switchboard.Template.Expansion
import Switchboard.Template.Expression
import Switchboard.Text.Age
import Switchboard.Text.Blank
import Switchboard.Text.CaseChange
import Switchboard.Text.CaseFold
import Switchboard.Text.Category
import Switchboard.Text.CodePoints
import Switchboard.Text.Lowercase
import Switchboard.Text.Property
import Switchboard.Text.Quoted
import Switchboard.Text.Script
import Switchboard.Text.ScriptExtension
import Switchboard.Text.Segment
import Switchboard.Toml.Reader
import Switchboard.Toml.Table
import Switchboard.Main
import Switchboard.Proofs.Turns
import Switchboard.Proofs.Failure
import Switchboard.Proofs.Policies
import Switchboard.Proofs.ValidSettings
import Switchboard.Proofs.Findings
import Switchboard.Proofs.NullFree
import Switchboard.Proofs.Leaves
import Switchboard.Proofs.Overrides
import Switchboard.Proofs.Precedence
import Switchboard.Proofs.LateResolution
import Switchboard.Proofs.MemberOrder
import Switchboard.Proofs.Lines
import Switchboard.Proofs.FoundWays
import Switchboard.Proofs.Continued
import Switchboard.Proofs.Anchors
import Switchboard.Proofs.Segments
import Switchboard.Proofs.Settled
import Switchboard.Proofs.Groups
import Switchboard.Proofs.RequiredTexts
import Switchboard.Proofs.Separators
import Switchboard.Proofs.AsWritten
import Switchboard.Proofs.Coverage
import Switchboard.Proofs.QuotedTexts
import Switchboard.Proofs.Enclosed
import Switchboard.Proofs.FrontFlags
import Switchboard.Proofs.AnchorModifier
import Switchboard.Proofs.Delimiters
import Switchboard.Proofs.ModifierSets
import Switchboard.Proofs.PathMatches
import Switchboard.Proofs.WellFormed
import Switchboard.Proofs.LooseEquality
import Switchboard.Proofs.Positions
import Switchboard.Proofs.Called
import Switchboard.Proofs.Stopping
import Switchboard.Proofs.LiteralGrammar
import Switchboard.Proofs.Trimming
import Switchboard.Proofs.NumberTexts
import Switchboard.Proofs.Taking
import Switchboard.Proofs.NearestDouble
import Switchboard.Proofs.NumberIntegers
import Switchboard.Proofs.TextIntegers
import Switchboard.Proofs.Buckets
import Switchboard.Proofs.Directories
import Switchboard.Proofs.LosslessOverrides
import Switchboard.Proofs.Routing
import Switchboard.Proofs.NumericTexts
import Switchboard.Proofs.NamesInUse
import Switchboard.Proofs.Searches
import Switchboard.Proofs.UserDirectory

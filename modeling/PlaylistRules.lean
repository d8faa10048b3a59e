import PlaylistRules.Account
import PlaylistRules.Batch
import PlaylistRules.Calendar.Date
import PlaylistRules.Calendar.Instant
import PlaylistRules.Catalog
import PlaylistRules.Chance
import PlaylistRules.CommandLine.Answer
import PlaylistRules.CommandLine.Arguments
import PlaylistRules.CommandLine.Expressions
import PlaylistRules.CommandLine.Fault
import PlaylistRules.CommandLine.Invocation
import PlaylistRules.CommandLine.Level
import PlaylistRules.CommandLine.Rules
import PlaylistRules.CommandLine.Settings
import PlaylistRules.CommandLine.Usage
import PlaylistRules.Config
import PlaylistRules.Environment
import PlaylistRules.Filter.Basic
import PlaylistRules.Filter.Encoding
import PlaylistRules.Filter.Evaluation
import PlaylistRules.Filter.FormatError
import PlaylistRules.Filter.Grouping
import PlaylistRules.Filter.Leaf
import PlaylistRules.Filter.Parser
import PlaylistRules.Filter.Printer
import PlaylistRules.Json.Basic
import PlaylistRules.Json.Decoding
import PlaylistRules.Json.Printer
import PlaylistRules.Json.Reader
import PlaylistRules.Log.Directive
import PlaylistRules.Log.Line
import PlaylistRules.Log.Pattern
import PlaylistRules.Log.Verbosity
import PlaylistRules.LogEvent
import PlaylistRules.Main
import PlaylistRules.NameSet
import PlaylistRules.Number.Binary64
import PlaylistRules.Number.Layout
import PlaylistRules.Number.Numeral
import PlaylistRules.Number.Shortest
import PlaylistRules.Playlist
import PlaylistRules.Program
import PlaylistRules.Proofs.Alignment
import PlaylistRules.Proofs.Anchoring
import PlaylistRules.Proofs.Answers
import PlaylistRules.Proofs.Assignments
import PlaylistRules.Proofs.AtomicSaves
import PlaylistRules.Proofs.Balance
import PlaylistRules.Proofs.Blank
import PlaylistRules.Proofs.Canonical
import PlaylistRules.Proofs.CatalogJson
import PlaylistRules.Proofs.Chain
import PlaylistRules.Proofs.Colors
import PlaylistRules.Proofs.Columns
import PlaylistRules.Proofs.Commands
import PlaylistRules.Proofs.Comparisons
import PlaylistRules.Proofs.ConcurrentSaves
import PlaylistRules.Proofs.ConfigFiles
import PlaylistRules.Proofs.ConfigText
import PlaylistRules.Proofs.CutPositions
import PlaylistRules.Proofs.Cuts
import PlaylistRules.Proofs.Dates
import PlaylistRules.Proofs.Decoded
import PlaylistRules.Proofs.Descent
import PlaylistRules.Proofs.Digits
import PlaylistRules.Proofs.Disks
import PlaylistRules.Proofs.Envelope
import PlaylistRules.Proofs.Factoring
import PlaylistRules.Proofs.FilterJson
import PlaylistRules.Proofs.FirstClosing
import PlaylistRules.Proofs.FoldedViews
import PlaylistRules.Proofs.Growth
import PlaylistRules.Proofs.Instants
import PlaylistRules.Proofs.Isolation
import PlaylistRules.Proofs.JsonData
import PlaylistRules.Proofs.JsonNumbers
import PlaylistRules.Proofs.JsonText
import PlaylistRules.Proofs.Landmarks
import PlaylistRules.Proofs.Legible
import PlaylistRules.Proofs.Lineages
import PlaylistRules.Proofs.Lookups
import PlaylistRules.Proofs.Nearest
import PlaylistRules.Proofs.Nesting
import PlaylistRules.Proofs.Origins
import PlaylistRules.Proofs.Outcomes
import PlaylistRules.Proofs.Outlines
import PlaylistRules.Proofs.Overlay
import PlaylistRules.Proofs.Painting
import PlaylistRules.Proofs.Parents
import PlaylistRules.Proofs.ParsedJson
import PlaylistRules.Proofs.Places
import PlaylistRules.Proofs.PlaylistFolders
import PlaylistRules.Proofs.Previews
import PlaylistRules.Proofs.Ratings
import PlaylistRules.Proofs.Reading
import PlaylistRules.Proofs.Refusals
import PlaylistRules.Proofs.RoundTrip
import PlaylistRules.Proofs.Rounding
import PlaylistRules.Proofs.RuleHistories
import PlaylistRules.Proofs.RuleMaps
import PlaylistRules.Proofs.RuleSets
import PlaylistRules.Proofs.Saves
import PlaylistRules.Proofs.Sessions
import PlaylistRules.Proofs.Shape
import PlaylistRules.Proofs.SharedNames
import PlaylistRules.Proofs.Slices
import PlaylistRules.Proofs.Sorting
import PlaylistRules.Proofs.Subpieces
import PlaylistRules.Proofs.Thresholds
import PlaylistRules.Proofs.TomlText
import PlaylistRules.Proofs.Union
import PlaylistRules.Proofs.Unwrapping
import PlaylistRules.Proofs.Visits
import PlaylistRules.Proofs.WatchStates
import PlaylistRules.Proofs.WellFormed
import PlaylistRules.Proofs.Written
import PlaylistRules.Record
import PlaylistRules.Report.Cell
import PlaylistRules.Report.Items
import PlaylistRules.Report.Outline
import PlaylistRules.Report.Rules
import PlaylistRules.Report.Runs
import PlaylistRules.Rule
import PlaylistRules.RuleSet
import PlaylistRules.Selection
import PlaylistRules.SortKey
import PlaylistRules.Storage.CatalogFile
import PlaylistRules.Storage.ConfigFile
import PlaylistRules.Storage.Disk
import PlaylistRules.Storage.Path
import PlaylistRules.Storage.PlaylistFolder
import PlaylistRules.Storage.RuleFile
import PlaylistRules.Storage.Task
import PlaylistRules.Text.Alphanumeric
import PlaylistRules.Text.Blank
import PlaylistRules.Text.CaseTable
import PlaylistRules.Text.Column
import PlaylistRules.Text.Distance
import PlaylistRules.Text.Hexadecimal
import PlaylistRules.Text.Hidden
import PlaylistRules.Text.LetterCase
import PlaylistRules.Text.Paint
import PlaylistRules.Text.Quotation
import PlaylistRules.Text.Ranges
import PlaylistRules.Toml.Basic
import PlaylistRules.Toml.DateTime
import PlaylistRules.Toml.Printer
import PlaylistRules.Toml.Reader

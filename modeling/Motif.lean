import Motif.Analysis
import Motif.Candidate
import Motif.Catalog
import Motif.Channel
import Motif.Confidence
import Motif.Correlation
import Motif.Date
import Motif.Decimal.Numeral
import Motif.Decimal.Shortest
import Motif.Decimal.Style
import Motif.Document.Basic
import Motif.Document.Record
import Motif.Engine
import Motif.Event
import Motif.Features
import Motif.Feed
import Motif.Form.Analysis
import Motif.Form.Event
import Motif.Form.Fragment
import Motif.Form.Integration
import Motif.Form.Manifest
import Motif.Form.Pattern
import Motif.Form.Report
import Motif.Fragment
import Motif.History
import Motif.Integration.Basic
import Motif.Integration.Call
import Motif.Integration.Calls
import Motif.Integration.Run
import Motif.Json.Basic
import Motif.Json.Decode
import Motif.Json.Printer
import Motif.Json.Reader
import Motif.Lexical.Anomaly
import Motif.Lexical.Prediction
import Motif.Lexical.Purpose
import Motif.Lexical.Review
import Motif.Main
import Motif.Manifest.Basic
import Motif.Manifest.Document
import Motif.Manifest.Loading
import Motif.Manifest.Override
import Motif.Manifest.Validation
import Motif.Matching
import Motif.Novelty.Basic
import Motif.Novelty.Rules
import Motif.Ordered.Dictionary
import Motif.Ordered.WordSet
import Motif.Pattern
import Motif.Program.Arguments
import Motif.Program.Command
import Motif.Program.Host
import Motif.Program.Path
import Motif.Program.Run
import Motif.Program.Session
import Motif.Program.World
import Motif.Proofs.Agreement
import Motif.Proofs.AnomalyLines
import Motif.Proofs.Arms
import Motif.Proofs.Bookkeeping
import Motif.Proofs.Bounds
import Motif.Proofs.CandidateCap
import Motif.Proofs.CatalogCap
import Motif.Proofs.CatalogChanges
import Motif.Proofs.CodeSets
import Motif.Proofs.CommitAtomicity
import Motif.Proofs.Commuting
import Motif.Proofs.ConfidenceFloor
import Motif.Proofs.CorrelationTable
import Motif.Proofs.Course
import Motif.Proofs.Double.Arithmetic
import Motif.Proofs.Double.Mean
import Motif.Proofs.Double.Nearest
import Motif.Proofs.Double.Order
import Motif.Proofs.Double.Parts
import Motif.Proofs.Double.Quotient
import Motif.Proofs.Double.Rounding
import Motif.Proofs.Double.Scaling
import Motif.Proofs.Double.Shortest
import Motif.Proofs.Double.Sum
import Motif.Proofs.EventLog
import Motif.Proofs.Exchange
import Motif.Proofs.Fallbacks
import Motif.Proofs.FileRuns
import Motif.Proofs.Files
import Motif.Proofs.Findings
import Motif.Proofs.Health
import Motif.Proofs.IntegratedConfidence
import Motif.Proofs.Interleaving
import Motif.Proofs.Isolation
import Motif.Proofs.JoinedFeatures
import Motif.Proofs.KeywordVotes
import Motif.Proofs.Labels
import Motif.Proofs.Learning
import Motif.Proofs.Ledger
import Motif.Proofs.LowerCase
import Motif.Proofs.Nesting
import Motif.Proofs.Neutrality
import Motif.Proofs.NovelConfidence
import Motif.Proofs.Overlap
import Motif.Proofs.PartialManifests
import Motif.Proofs.Promotion
import Motif.Proofs.Ranking
import Motif.Proofs.Recognition
import Motif.Proofs.Regex.Search
import Motif.Proofs.Regex.Ways
import Motif.Proofs.Registration
import Motif.Proofs.Retention
import Motif.Proofs.Routes
import Motif.Proofs.Scoring
import Motif.Proofs.Serving
import Motif.Proofs.SingleWriter
import Motif.Proofs.Spelling
import Motif.Proofs.Stamps
import Motif.Proofs.Stops
import Motif.Proofs.StrongestProposals
import Motif.Proofs.Subscription
import Motif.Proofs.Tokens
import Motif.Proofs.Undisturbed
import Motif.Proofs.Validations
import Motif.Proofs.Verbatim
import Motif.Proofs.WatchlistChanges
import Motif.Proofs.Window
import Motif.Proofs.Wire.Atoms
import Motif.Proofs.Wire.Digits
import Motif.Proofs.Wire.Forms
import Motif.Proofs.Wire.Numerals
import Motif.Proofs.Wire.Pruned
import Motif.Proofs.Wire.Records
import Motif.Proofs.Wire.RoundTrip
import Motif.Proofs.Wire.Text
import Motif.Regex.Basic
import Motif.Regex.Search
import Motif.Report
import Motif.Sequence
import Motif.Service
import Motif.Settings
import Motif.Text.Blank
import Motif.Text.CodeSet
import Motif.Text.Letter
import Motif.Text.Line
import Motif.Text.LowerCase
import Motif.Text.Part
import Motif.Text.Visible
import Motif.Timestamp
import Motif.Timestamp.Reader
import Motif.Uuid
import Motif.Watchlist
import Motif.Yaml.Block
import Motif.Yaml.Char
import Motif.Yaml.Decode
import Motif.Yaml.Event
import Motif.Yaml.Node
import Motif.Yaml.Place
import Motif.Yaml.Plain
import Motif.Yaml.Printer
import Motif.Yaml.Quoted
import Motif.Yaml.Scalar
import Motif.Yaml.Stream
import Motif.Yaml.Tag
import Motif.Yaml.Token

import PageSweep.Cli
import PageSweep.Main
import PageSweep.Metrics.Exporter
import PageSweep.Scenario.Plan
import PageSweep.Service.Target
import PageSweep.Service.Walk
import PageSweep.Transport.InProcess
import PageSweep.Transport.Script
import PageSweep.Proofs.Catalog
import PageSweep.Proofs.Text.Numeral
import PageSweep.Proofs.Text.Pieces
import PageSweep.Proofs.Text.Utf8
import PageSweep.Proofs.Url.Form
import PageSweep.Proofs.Json.RoundTrip
import PageSweep.Proofs.Metrics.Registry
import PageSweep.Proofs.Sweep.Chain
import PageSweep.Proofs.Service.Cursor
import PageSweep.Proofs.Service.Query
import PageSweep.Proofs.Service.Page
import PageSweep.Proofs.Service.Delivery
import PageSweep.Proofs.Sweep.Dataset
import PageSweep.Proofs.Interleaving
import PageSweep.Proofs.Flow.Series
import PageSweep.Proofs.Flow.Calls
import PageSweep.Proofs.Flow.Isolation
import PageSweep.Proofs.Flow.Turns
import PageSweep.Proofs.Flow.Outcome
import PageSweep.Proofs.Bench.Users
import PageSweep.Proofs.Bench.Accounts
import PageSweep.Proofs.Bench.Turns
import PageSweep.Proofs.Bench.Run
import PageSweep.Proofs.Decimal.Comparison
import PageSweep.Proofs.Decimal.Rounding
import PageSweep.Proofs.Decimal.Amount
import PageSweep.Proofs.Stats.Order
import PageSweep.Proofs.Metrics.Kind
import PageSweep.Proofs.Report.Collect
import PageSweep.Proofs.Metrics.Export
import PageSweep.Proofs.Metrics.Race
import PageSweep.Proofs.Metrics.Exporter
import PageSweep.Proofs.Text.Order
import PageSweep.Proofs.Metrics.Store
import PageSweep.Proofs.Report.Entries
import PageSweep.Proofs.Report.Outline
import PageSweep.Proofs.Report.Summable
import PageSweep.Proofs.Metrics.Session
import PageSweep.Proofs.Service.Answer
import PageSweep.Proofs.Service.Walk
import PageSweep.Proofs.Service.Log
import PageSweep.Proofs.Page.Query
import PageSweep.Proofs.Options.Precedence
import PageSweep.Proofs.Scenario.Exact
import PageSweep.Proofs.Scenario.Crew
import PageSweep.Proofs.Scenario.Schedule
import PageSweep.Proofs.Scenario.Turns
import PageSweep.Proofs.Scenario.Constant
import PageSweep.Proofs.Scenario.Deadline
import PageSweep.Proofs.Json.Grammar
import PageSweep.Proofs.Service.Bounds
import PageSweep.Proofs.Json.Lexeme
import PageSweep.Proofs.Json.Recognition
import PageSweep.Proofs.Json.Whole
import PageSweep.Proofs.Page.Continuation
import PageSweep.Proofs.Page.Structured
import PageSweep.Proofs.Page.Truncation
import PageSweep.Proofs.Decimal.Error
import PageSweep.Proofs.Decimal.Printed
import PageSweep.Proofs.Decimal.Whole
import PageSweep.Proofs.Scenario.Start
import PageSweep.Proofs.Service.Acceptance
import PageSweep.Proofs.Stats.Exact
import PageSweep.Proofs.Stats.Figures
import PageSweep.Proofs.Stats.Reading
import PageSweep.Proofs.Stats.Scaling
import PageSweep.Proofs.Stats.Latency
import PageSweep.Proofs.Text.Digits
import PageSweep.Proofs.Time.Calendar
import PageSweep.Proofs.Time.Span
import PageSweep.Proofs.Time.Stamp
import PageSweep.Proofs.Time.Window
import PageSweep.Proofs.Transport.Calls
import PageSweep.Proofs.Url.Endpoint

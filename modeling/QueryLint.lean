import QueryLint.Benchmark
import QueryLint.Json.Writer
import QueryLint.Pattern.Matches
import QueryLint.Proofs.Catalog.Bounded
import QueryLint.Proofs.Catalog.Context
import QueryLint.Proofs.Catalog.Findings
import QueryLint.Proofs.Catalog.Gaps
import QueryLint.Proofs.Catalog.Kinds
import QueryLint.Proofs.Catalog.Layout
import QueryLint.Proofs.Catalog.Matching
import QueryLint.Proofs.Catalog.Rendering
import QueryLint.Proofs.Catalog.Summary
import QueryLint.Proofs.Failure.Messages
import QueryLint.Proofs.Json.Reading
import QueryLint.Proofs.Json.Sendable
import QueryLint.Proofs.Metrics.Average
import QueryLint.Proofs.Metrics.Bookkeeping
import QueryLint.Proofs.Pattern.Choice
import QueryLint.Proofs.Pattern.Correspondence
import QueryLint.Proofs.Pattern.Embedding
import QueryLint.Proofs.Pattern.Gaps
import QueryLint.Proofs.Pattern.Greedy
import QueryLint.Proofs.Pattern.Matches
import QueryLint.Proofs.Pattern.Occurrences
import QueryLint.Proofs.Pattern.Scan
import QueryLint.Proofs.Pattern.Thinning
import QueryLint.Proofs.Pattern.Trials
import QueryLint.Proofs.Pattern.Variants
import QueryLint.Proofs.Pattern.Window
import QueryLint.Proofs.Schema.Checks
import QueryLint.Proofs.Schema.RoundTrip
import QueryLint.Proofs.Service.Access
import QueryLint.Proofs.Service.Answers
import QueryLint.Proofs.Service.Budget
import QueryLint.Proofs.Service.Diagnostics
import QueryLint.Proofs.Service.Errors
import QueryLint.Proofs.Service.Handling
import QueryLint.Proofs.Service.Length
import QueryLint.Proofs.Service.Missing
import QueryLint.Proofs.Service.OnDemand
import QueryLint.Proofs.Service.Reachable
import QueryLint.Proofs.Service.Scans
import QueryLint.Proofs.Session.Accounting
import QueryLint.Proofs.Session.EventLines
import QueryLint.Proofs.Session.Independence
import QueryLint.Proofs.Session.Publishing
import QueryLint.Proofs.Settings.LanguageIds
import QueryLint.Proofs.Text.Lines
import QueryLint.Proofs.Workspace.History
import QueryLint.Proofs.Workspace.Ranges
import QueryLint.Service.Step

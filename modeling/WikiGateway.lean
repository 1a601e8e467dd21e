import WikiGateway.Text.Encoding
import WikiGateway.Json.Reader
import WikiGateway.Json.Access
import WikiGateway.Settings
import WikiGateway.Limits
import WikiGateway.Logging
import WikiGateway.Query.Evaluation
import WikiGateway.Source.Table
import WikiGateway.Ledger.Statistics
import WikiGateway.Path
import WikiGateway.Cache.Memory
import WikiGateway.Cache.Shared
import WikiGateway.Client.Content
import WikiGateway.Telemetry.Saving
import WikiGateway.Telemetry.Schedule
import WikiGateway.Telemetry.Location
import WikiGateway.Gateway.Basic
import WikiGateway.Http.Lifecycle
import WikiGateway.Instant.Number
import WikiGateway.Instant.Exact
import WikiGateway.Proofs.Action
import WikiGateway.Proofs.Attempt
import WikiGateway.Proofs.Links
import WikiGateway.Proofs.Table
import WikiGateway.Proofs.Path.Discovery
import WikiGateway.Proofs.Path.Trace
import WikiGateway.Proofs.Path.Search
import WikiGateway.Proofs.Path.Shortest
import WikiGateway.Proofs.Query.Grammar
import WikiGateway.Proofs.Query.Reading
import WikiGateway.Proofs.Query.Derivation
import WikiGateway.Proofs.Query.Acceptance
import WikiGateway.Proofs.Cache.NewestFirst
import WikiGateway.Proofs.Cache.Memory
import WikiGateway.Proofs.Telemetry.Decoding
import WikiGateway.Proofs.Telemetry.Loading
import WikiGateway.Proofs.Cache.Server
import WikiGateway.Proofs.Cache.Shared
import WikiGateway.Proofs.Cache.Mirror
import WikiGateway.Proofs.Cache.Alike
import WikiGateway.Proofs.Named
import WikiGateway.Proofs.Query.Selection
import WikiGateway.Proofs.Query.Meaning
import WikiGateway.Proofs.Json.Numbers
import WikiGateway.Proofs.Json.Strings
import WikiGateway.Proofs.Json.Values
import WikiGateway.Proofs.Ledger.Changes
import WikiGateway.Proofs.Ledger.History
import WikiGateway.Proofs.Telemetry.RoundTrip
import WikiGateway.Proofs.Cache.Truthful
import WikiGateway.Proofs.Gateway.History
import WikiGateway.Proofs.Gateway.Pages
import WikiGateway.Proofs.Decimal.Rounding
import WikiGateway.Proofs.Decimal.Bits
import WikiGateway.Proofs.Decimal.Nearest
import WikiGateway.Proofs.Decimal.Shortest
import WikiGateway.Proofs.Decimal.Text
import WikiGateway.Proofs.Gateway.Counts
import WikiGateway.Proofs.Cache.Listed
import WikiGateway.Proofs.Decimal.Order
import WikiGateway.Proofs.Ledger.Windows
import WikiGateway.Proofs.Ledger.PeakLoad
import WikiGateway.Proofs.Gateway.PeakLoad
import WikiGateway.Proofs.Neighbourhood
import WikiGateway.Proofs.Gateway.Distances
import WikiGateway.Proofs.Query.Lexing
import WikiGateway.Proofs.Query.Printing
import WikiGateway.Proofs.Query.Layout
import WikiGateway.Proofs.Query.Places
import WikiGateway.Proofs.Query.Refusal
import WikiGateway.Proofs.Json.Words
import WikiGateway.Proofs.Telemetry.Saving
import WikiGateway.Proofs.Client.Shapes
import WikiGateway.Proofs.Client.Answers
import WikiGateway.Proofs.Client.Gathering
import WikiGateway.Proofs.Client.Errors
import WikiGateway.Proofs.Telemetry.Replacing
import WikiGateway.Proofs.Ledger.Clock
import WikiGateway.Proofs.Ledger.Bursts
import WikiGateway.Proofs.Http.Parameters
import WikiGateway.Proofs.Http.Orders
import WikiGateway.Proofs.Http.Traces
import WikiGateway.Proofs.Watched
import WikiGateway.Proofs.Path.Fetches
import WikiGateway.Proofs.Path.Deadline
import WikiGateway.Proofs.Gateway.Surroundings
import WikiGateway.Proofs.Cache.ReadBack
import WikiGateway.Proofs.Query.Inquiring
import WikiGateway.Proofs.Query.Remembering
import WikiGateway.Proofs.Query.Authors
import WikiGateway.Proofs.Query.Regrouping
import WikiGateway.Proofs.Ledger.Ranking
import WikiGateway.Proofs.Budget.Deadline
import WikiGateway.Proofs.Ledger.Recent
import WikiGateway.Proofs.Client.Continuation
import WikiGateway.Proofs.Decimal.Difference
import WikiGateway.Proofs.Query.Rephrasing
import WikiGateway.Proofs.Query.Variation
import WikiGateway.Proofs.Budget.Clock
import WikiGateway.Proofs.Path.Steps
import WikiGateway.Proofs.Path.Reconstruction
import WikiGateway.Proofs.Query.Cursor
import WikiGateway.Proofs.Query.Descent

import ApiConsole.Main
import ApiConsole.Transport
import ApiConsole.Proofs.Run.LastWrite
import ApiConsole.Proofs.Traffic
import ApiConsole.Proofs.Run.Traffic
import ApiConsole.Proofs.Prompt.Lines
import ApiConsole.Proofs.Prompt.Fires
import ApiConsole.Proofs.Composition
import ApiConsole.Proofs.Reach
import ApiConsole.Proofs.Prompt.Setting
import ApiConsole.Proofs.Concurrent
import ApiConsole.Proofs.Delays
import ApiConsole.Proofs.Prompt.Sequential
import ApiConsole.Proofs.Template
import ApiConsole.Proofs.Catalog.Contents
import ApiConsole.Proofs.Catalog.Loading
import ApiConsole.Proofs.Catalog.Documents
import ApiConsole.Proofs.Json.Search
import ApiConsole.Proofs.Batch.Reports
import ApiConsole.Proofs.CommandLine.Overrides
import ApiConsole.Proofs.Extraction.OnePass
import ApiConsole.Proofs.Extraction.Orders
import ApiConsole.Proofs.Url.Edges
import ApiConsole.Proofs.Url.Origin
import ApiConsole.Proofs.BaseUrl
import ApiConsole.Proofs.Extraction.Integers
import ApiConsole.Proofs.Json.Acceptance
import ApiConsole.Proofs.RoundTrip
import ApiConsole.Proofs.Preview
import ApiConsole.Proofs.Catalog.Errors
import ApiConsole.Proofs.Filling
import ApiConsole.Proofs.Prompt.Grammar
import ApiConsole.Proofs.Prompt.AtOnce
import ApiConsole.Proofs.Prompt.Idle
import ApiConsole.Proofs.Template.Faults
import ApiConsole.Proofs.Unknown
import ApiConsole.Proofs.Output
import ApiConsole.Proofs.Text.Order
import ApiConsole.Proofs.Settings

import FlowGraph.Keyed
import FlowGraph.Time
import FlowGraph.Net.AddressReader
import FlowGraph.Net.Endpoint
import FlowGraph.Decimal.Shortest
import FlowGraph.Text.Quoted
import FlowGraph.Json.Scan.Documents
import FlowGraph.Json.Row
import FlowGraph.Json.Tagged
import FlowGraph.Traffic.Table
import FlowGraph.Flows.Indicator
import FlowGraph.Entity.Directory
import FlowGraph.Form.Flows
import FlowGraph.Form.Entity
import FlowGraph.Form.Request
import FlowGraph.Engine
import FlowGraph.Cycle
import FlowGraph.Main
import FlowGraph.Session.Feed
import FlowGraph.Proofs.Keyed
import FlowGraph.Proofs.Time
import FlowGraph.Proofs.Traffic.Merge
import FlowGraph.Proofs.Engine.Publication
import FlowGraph.Proofs.Traffic.History
import FlowGraph.Proofs.Engine.Registry
import FlowGraph.Proofs.Session.Framing
import FlowGraph.Proofs.Session.Reading
import FlowGraph.Proofs.Session.Reporting
import FlowGraph.Proofs.Engine.Interleaving
import FlowGraph.Proofs.Entity.Grouping
import FlowGraph.Proofs.Entity.Directory
import FlowGraph.Proofs.Session.Reconnecting
import FlowGraph.Proofs.Json.Reading
import FlowGraph.Proofs.Json.Whole
import FlowGraph.Proofs.Json.Row
import FlowGraph.Proofs.Form.Batch
import FlowGraph.Proofs.Form.Closing
import FlowGraph.Proofs.Engine.Generations
import FlowGraph.Proofs.Engine.Lifecycle
import FlowGraph.Proofs.Session.Feeding
import FlowGraph.Proofs.Json.Writing
import FlowGraph.Proofs.Net.Address
import FlowGraph.Proofs.Form.Net
import FlowGraph.Proofs.Form.Request
import FlowGraph.Proofs.Engine.Accounting
import FlowGraph.Proofs.Traffic.Skew
import FlowGraph.Proofs.Form.Arranging
import FlowGraph.Proofs.Engine.Reordering
import FlowGraph.Proofs.Engine.Interference
import FlowGraph.Proofs.Journal.Sink
import FlowGraph.Proofs.Form.Entity
import FlowGraph.Proofs.Traffic.Naming

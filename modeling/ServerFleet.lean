import ServerFleet.Main
import ServerFleet.Store.Memory
import ServerFleet.Proofs.Agreement
import ServerFleet.Proofs.Locality
import ServerFleet.Proofs.Ledger
import ServerFleet.Proofs.Plan
import ServerFleet.Proofs.Following
import ServerFleet.Proofs.Dispatching
import ServerFleet.Proofs.Operations
import ServerFleet.Proofs.Calls
import ServerFleet.Proofs.Staff
import ServerFleet.Proofs.Transitions
import ServerFleet.Proofs.Handle
import ServerFleet.Proofs.Escalation
import ServerFleet.Proofs.Orphans
import ServerFleet.Proofs.Exchanges
import ServerFleet.Proofs.Verdicts
import ServerFleet.Proofs.CommandLines
import ServerFleet.Proofs.Assignments
import ServerFleet.Proofs.Dealings
import ServerFleet.Proofs.Encoding
import ServerFleet.Proofs.Directories
import ServerFleet.Proofs.Inference
import ServerFleet.Proofs.Mirrors
import ServerFleet.Proofs.Contexts
import ServerFleet.Proofs.Loading
import ServerFleet.Proofs.Launches
import ServerFleet.Proofs.Queries
import ServerFleet.Proofs.FanOut
import ServerFleet.Proofs.Batches
import ServerFleet.Proofs.ThisMachine
import ServerFleet.Proofs.Acceptance
import ServerFleet.Proofs.Places
import ServerFleet.Proofs.Shelves
import ServerFleet.Proofs.WriteBacks
import ServerFleet.Proofs.Defaults
import ServerFleet.Proofs.Bounds
import ServerFleet.Proofs.Waits
import ServerFleet.Proofs.Layers
import ServerFleet.Proofs.Guard
import ServerFleet.Proofs.Slots
import ServerFleet.Proofs.Tellings
import ServerFleet.Proofs.Callbacks
import ServerFleet.Proofs.Discovery
import ServerFleet.Proofs.HostCalls
import ServerFleet.Proofs.Handlers
import ServerFleet.Proofs.Normalization
import ServerFleet.Proofs.Totals
import ServerFleet.Proofs.Labels

import KeyCluster.Files.Tree
import KeyCluster.Main
import KeyCluster.Proofs.Cluster.Members
import KeyCluster.Proofs.Failure.Action
import KeyCluster.Proofs.Failure.Result
import KeyCluster.Proofs.Cluster.Endpoint
import KeyCluster.Proofs.Cluster.Report
import KeyCluster.Proofs.Cluster.Steps
import KeyCluster.Proofs.Cluster.Dialogue
import KeyCluster.Proofs.Cluster.Trace
import KeyCluster.Proofs.Cluster.Calls
import KeyCluster.Proofs.Cluster.Breakage
import KeyCluster.Proofs.Cluster.FailStop
import KeyCluster.Proofs.Cluster.Clusters
import KeyCluster.Proofs.Cluster.Fleet
import KeyCluster.Proofs.Cluster.Convergence
import KeyCluster.Proofs.Cluster.Answers
import KeyCluster.Proofs.Cluster.Settlement
import KeyCluster.Proofs.Http.Exchange
import KeyCluster.Proofs.Http.Failover
import KeyCluster.Proofs.Http.Timeline
import KeyCluster.Proofs.Http.Attempt
import KeyCluster.Proofs.Http.Wire
import KeyCluster.Proofs.Http.Cancellation
import KeyCluster.Proofs.Config.Containment
import KeyCluster.Proofs.Http.Containment
import KeyCluster.Proofs.Number.Parts
import KeyCluster.Proofs.Value.Order
import KeyCluster.Proofs.Cluster.Following
import KeyCluster.Proofs.Config.Validity
import KeyCluster.Proofs.Http.TimeLimits
import KeyCluster.Proofs.Http.Acts
import KeyCluster.Proofs.Command.Ending
import KeyCluster.Proofs.Http.Opening
import KeyCluster.Proofs.Http.Readiness
import KeyCluster.Proofs.Log.Setup
import KeyCluster.Proofs.Command.Startup
import KeyCluster.Proofs.Cluster.Reliance
import KeyCluster.Proofs.Http.Shape
import KeyCluster.Proofs.Cluster.Search
import KeyCluster.Proofs.Http.Decision
import KeyCluster.Proofs.Text.Words
import KeyCluster.Proofs.Config.Expansion
import KeyCluster.Proofs.Config.Endpoints
import KeyCluster.Proofs.Value.Fields
import KeyCluster.Proofs.Yaml.Keys
import KeyCluster.Proofs.Config.Sections
import KeyCluster.Proofs.Config.Acceptance
import KeyCluster.Proofs.Failure.Agreement
import KeyCluster.Proofs.Cluster.Agreement
import KeyCluster.Proofs.Cluster.Spelling
import KeyCluster.Proofs.Cluster.Reordering
import KeyCluster.Proofs.Http.Routine
import KeyCluster.Proofs.Http.Transparency
import KeyCluster.Proofs.Http.Trust
import KeyCluster.Proofs.Config.Grammar
import KeyCluster.Proofs.Config.Replacement
import KeyCluster.Proofs.Config.Dependence
import KeyCluster.Proofs.Config.Concatenation
import KeyCluster.Proofs.Http.Naming
import KeyCluster.Proofs.Text.Runs
import KeyCluster.Proofs.Config.Splitting
import KeyCluster.Proofs.Config.Building
import KeyCluster.Proofs.Value.Overlay
import KeyCluster.Proofs.Json.Pairs
import KeyCluster.Proofs.Json.Scalars
import KeyCluster.Proofs.Json.Ascii
import KeyCluster.Proofs.Json.RoundTrip
import KeyCluster.Proofs.Log.Decoding
import KeyCluster.Proofs.Log.Interference
import KeyCluster.Proofs.Cluster.Narration
import KeyCluster.Proofs.Cluster.Listing
import KeyCluster.Proofs.Http.Construction
import KeyCluster.Proofs.Context.Lapse

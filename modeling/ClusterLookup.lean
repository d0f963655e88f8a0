import ClusterLookup.Main
import ClusterLookup.Cluster.Script
import ClusterLookup.Proofs.Confinement
import ClusterLookup.Proofs.Selector.RoundTrip
import ClusterLookup.Proofs.Transparency
import ClusterLookup.Proofs.Stability
import ClusterLookup.Proofs.Sensitivity
import ClusterLookup.Proofs.Absence
import ClusterLookup.Proofs.Adapter
import ClusterLookup.Proofs.Escapes
import ClusterLookup.Proofs.Indistinguishable
import ClusterLookup.Proofs.Noninterference
import ClusterLookup.Proofs.Provenance
import ClusterLookup.Proofs.Questions
import ClusterLookup.Proofs.Agreement
import ClusterLookup.Proofs.Precedence
import ClusterLookup.Proofs.Wire
import ClusterLookup.Proofs.Missing
import ClusterLookup.Proofs.Requests
import ClusterLookup.Proofs.Isolation
import ClusterLookup.Proofs.Paths
import ClusterLookup.Proofs.Bodies
import ClusterLookup.Proofs.Counters
import ClusterLookup.Proofs.Listing
import ClusterLookup.Proofs.Wrapping
import ClusterLookup.Proofs.Restriction
import ClusterLookup.Proofs.Document.Reader
import ClusterLookup.Proofs.Document.RoundTrip
import ClusterLookup.Proofs.CommandLine
import ClusterLookup.Proofs.ApiVersions
import ClusterLookup.Proofs.FirstEntries
import ClusterLookup.Proofs.ListAnswers
import ClusterLookup.Proofs.Selector.Refusals
import ClusterLookup.Proofs.Summaries

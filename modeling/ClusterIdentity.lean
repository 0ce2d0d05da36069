import ClusterIdentity.Json.Reader
import ClusterIdentity.Json.Writer
import ClusterIdentity.Simulation.Session
import ClusterIdentity.Proofs.Claim.Absence
import ClusterIdentity.Proofs.Claim.Guarding
import ClusterIdentity.Proofs.Dynamo.Refinement
import ClusterIdentity.Proofs.Lock.Exclusion
import ClusterIdentity.Proofs.Lock.Leftovers
import ClusterIdentity.Proofs.Lock.OwnEntries
import ClusterIdentity.Proofs.Lock.Deciding
import ClusterIdentity.Proofs.Claim.Reporting
import ClusterIdentity.Proofs.Claim.WellFormed
import ClusterIdentity.Proofs.Identity.RoundTrip
import ClusterIdentity.Proofs.Identity.Decoding
import ClusterIdentity.Proofs.Lock.Effects
import ClusterIdentity.Proofs.Claim.Effects
import ClusterIdentity.Proofs.Claim.InTurn
import ClusterIdentity.Proofs.Claim.LifeCycle
import ClusterIdentity.Proofs.Claim.Lookups
import ClusterIdentity.Proofs.Dynamo.Paging
import ClusterIdentity.Proofs.Dynamo.Batching
import ClusterIdentity.Proofs.Dynamo.Filters
import ClusterIdentity.Proofs.Claim.Retrying
import ClusterIdentity.Proofs.Lock.Lockstep
import ClusterIdentity.Proofs.Claim.SharedTable
import ClusterIdentity.Proofs.Claim.Settings
import ClusterIdentity.Proofs.Identity.Json
import ClusterIdentity.Proofs.Lock.Transitions
import ClusterIdentity.Proofs.Dynamo.WriteRequests

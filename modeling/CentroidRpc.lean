import CentroidRpc.Message.Catalog
import CentroidRpc.Number.FixedPlaces
import CentroidRpc.Service.Network
import CentroidRpc.Service.Scripted
import CentroidRpc.Proofs.Outcome
import CentroidRpc.Proofs.Interleaving
import CentroidRpc.Proofs.Dict
import CentroidRpc.Proofs.Wire.Overlay
import CentroidRpc.Proofs.Wire.Takes
import CentroidRpc.Proofs.Wire.Writing
import CentroidRpc.Proofs.Wire.Merging
import CentroidRpc.Proofs.Store.Change
import CentroidRpc.Proofs.Store.Presence
import CentroidRpc.Proofs.Store.Batch
import CentroidRpc.Proofs.Store.Refusal
import CentroidRpc.Proofs.Wire.RoundTrip
import CentroidRpc.Proofs.Store.Integrity
import CentroidRpc.Proofs.Store.GeneratedId
import CentroidRpc.Proofs.Concurrently
import CentroidRpc.Proofs.Lifecycle
import CentroidRpc.Proofs.Wire.Exact
import CentroidRpc.Proofs.Wire.Appending
import CentroidRpc.Proofs.Arguments
import CentroidRpc.Proofs.Subjects
import CentroidRpc.Proofs.Store.Served
import CentroidRpc.Proofs.Store.Verdict
import CentroidRpc.Proofs.Told
import CentroidRpc.Proofs.Truthful
import CentroidRpc.Proofs.Store.Centroids
import CentroidRpc.Proofs.Store.Vectors
import CentroidRpc.Proofs.Store.Marks
import CentroidRpc.Proofs.Store.Freshness
import CentroidRpc.Proofs.Wire.Spelling
import CentroidRpc.Proofs.Wire.Undeclared
import CentroidRpc.Proofs.Wire.Newer
import CentroidRpc.Proofs.NewerService
import CentroidRpc.Proofs.Store.Listings
import CentroidRpc.Proofs.Store.Stored
import CentroidRpc.Proofs.RealVectors
import CentroidRpc.Proofs.Store.Scores
import CentroidRpc.Proofs.Store.Bounded
import CentroidRpc.Proofs.Similarities
import CentroidRpc.Proofs.Wire.Truncated
import CentroidRpc.Proofs.Store.Paging
import CentroidRpc.Proofs.Store.Apart
import CentroidRpc.Proofs.Store.Repeating
import CentroidRpc.Proofs.Store.Undoing
import CentroidRpc.Proofs.Environment
import CentroidRpc.Proofs.Store.SameMembers
import CentroidRpc.Proofs.Authority
import CentroidRpc.Proofs.Clients
import CentroidRpc.Proofs.Languages
import CentroidRpc.Proofs.NewIds
import CentroidRpc.Proofs.Wire.Packed
import CentroidRpc.Proofs.JoinAnswers
import CentroidRpc.Proofs.Reopening
import CentroidRpc.Proofs.Wire.Nesting
import CentroidRpc.Proofs.Json.Grammar
import CentroidRpc.Proofs.Json.Scanning
import CentroidRpc.Proofs.Store.Metadata

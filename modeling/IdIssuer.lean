import IdIssuer.Main
import IdIssuer.Runs
import IdIssuer.Session.Batch
import IdIssuer.Proofs.Buffer.Sound
import IdIssuer.Proofs.Pool.Move
import IdIssuer.Proofs.Pool.Played
import IdIssuer.Proofs.Pool.Deed
import IdIssuer.Proofs.Pool.Sound
import IdIssuer.Proofs.Session.Moves
import IdIssuer.Proofs.Buffer.Holdings
import IdIssuer.Proofs.Pool.Ownership
import IdIssuer.Proofs.Session.Uniqueness
import IdIssuer.Proofs.Buffer.Rise
import IdIssuer.Proofs.Pool.Order
import IdIssuer.Proofs.Session.Monotonicity
import IdIssuer.Proofs.Buffer.Serving
import IdIssuer.Proofs.Pool.Serving
import IdIssuer.Proofs.Session.Serving
import IdIssuer.Proofs.Buffer.Counter
import IdIssuer.Proofs.Buffer.Flight
import IdIssuer.Proofs.Pool.Flight
import IdIssuer.Proofs.Pool.Counter
import IdIssuer.Proofs.Allocator
import IdIssuer.Proofs.Session.Deeds
import IdIssuer.Proofs.Session.Allocators
import IdIssuer.Proofs.Session.Client
import IdIssuer.Proofs.Session.Counter
import IdIssuer.Proofs.Buffer.Conservation
import IdIssuer.Proofs.Pool.Conservation
import IdIssuer.Proofs.Session.Conservation
import IdIssuer.Proofs.Session.Flight
import IdIssuer.Proofs.Buffer.Isolation
import IdIssuer.Proofs.Pool.Isolation
import IdIssuer.Proofs.Session.Isolation
import IdIssuer.Proofs.Buffer.Failure
import IdIssuer.Proofs.Session.Failure
import IdIssuer.Proofs.Store.Tiling
import IdIssuer.Proofs.Buffer.Poison
import IdIssuer.Proofs.Pool.Poison
import IdIssuer.Proofs.Session.Poison
import IdIssuer.Proofs.Allocator.Opening
import IdIssuer.Proofs.Session.Holders
import IdIssuer.Proofs.Session.Containment
import IdIssuer.Proofs.Session.Lifetime
import IdIssuer.Proofs.Buffer.Trigger
import IdIssuer.Proofs.Session.Trigger
import IdIssuer.Proofs.Buffer.Pace
import IdIssuer.Proofs.Pool.Pace
import IdIssuer.Proofs.Session.Reservations
import IdIssuer.Proofs.Buffer.Stock
import IdIssuer.Proofs.Pool.Stock
import IdIssuer.Proofs.Session.Outage
import IdIssuer.Proofs.Trial.Books
import IdIssuer.Proofs.Trial.Plan
import IdIssuer.Proofs.Trial.Start
import IdIssuer.Proofs.Trial.Work
import IdIssuer.Proofs.Trial.Collect
import IdIssuer.Proofs.Trial.Outcome
import IdIssuer.Proofs.Buffer.Coherence
import IdIssuer.Proofs.Segment.Exhaustion
import IdIssuer.Proofs.Trial.Validation
import IdIssuer.Proofs.Pool.Coherence
import IdIssuer.Proofs.Session.Coherence

import MultipathFabric.Atomicity
import MultipathFabric.Attempts
import MultipathFabric.Awaiting
import MultipathFabric.Capacity
import MultipathFabric.RejectionOrder
import MultipathFabric.Counters
import MultipathFabric.Delivery
import MultipathFabric.Durability
import MultipathFabric.ExpectedGenerations
import MultipathFabric.Invalidation
import MultipathFabric.Lineage
import MultipathFabric.MemberGenerations
import MultipathFabric.Provenance
import MultipathFabric.Pruning
import MultipathFabric.PublicationOrder
import MultipathFabric.Registrations
import MultipathFabric.StoreCorruption
import MultipathFabric.ResponseIsolation
import MultipathFabric.TransitionTables
import MultipathFabric.Framing
import MultipathFabric.Announcements
import MultipathFabric.SemanticState
import MultipathFabric.SetRevalidation
import MultipathFabric.IdleChanges
import MultipathFabric.Diff
import MultipathFabric.Rendering
import MultipathFabric.Fingerprints
import MultipathFabric.ResponseDecoder
import MultipathFabric.ResponseRoundTrip
import MultipathFabric.Decimals
import MultipathFabric.Validity
import MultipathFabric.DigestSeparation
import MultipathFabric.Library.ByteCursor
import MultipathFabric.Library.ReadScript
import MultipathFabric.WireSafety
import MultipathFabric.StoreSafety
import MultipathFabric.DecoderSafety
import MultipathFabric.WellFormedRuns
import MultipathFabric.ResponseCodec
import MultipathFabric.MembershipTracking
import MultipathFabric.Idempotence
import MultipathFabric.FreshIdentities
import MultipathFabric.Integrity
import MultipathFabric.CrashSafety
import MultipathFabric.SessionLoop
import MultipathFabric.SessionAgreement
import MultipathFabric.PathAuthorityRaces
import MultipathFabric.Tickets
import MultipathFabric.MemberLineage

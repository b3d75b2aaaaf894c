import TrafficService.Lib.Lts
import TrafficService.Database
import TrafficService.Capacity
import TrafficService.NoOverbooking
import TrafficService.Recovery
import TrafficService.Convergence
import TrafficService.Cancellation
import TrafficService.OutcomeEvents
import TrafficService.Service
import TrafficService.Admission
import TrafficService.BrokerOutage
import TrafficService.GoodBookings
import TrafficService.Conservation
import TrafficService.Verification
import TrafficService.Announcements
import TrafficService.CacheCoherence
import TrafficService.CacheFirst
import TrafficService.StaleCache
import TrafficService.WholeCalls
import TrafficService.SegmentLock
import TrafficService.PeerEndpoint
import TrafficService.PeerCapacity
import TrafficService.PoisonMessages
import TrafficService.RecordAgreement
import TrafficService.CapacityReport
import TrafficService.Registration
import TrafficService.UserReplication
import TrafficService.Compensation
import TrafficService.EmailClaims
import TrafficService.PlateMatching
import TrafficService.DepartureOffsets
import TrafficService.ReconciliationPass
import TrafficService.Lib.Walks
import TrafficService.ShortestPath
import TrafficService.SequentialBooking
import TrafficService.SagaAtomicity
import TrafficService.PeerCompensation
import TrafficService.Lib.RowPositions
import TrafficService.EventConsumers
import TrafficService.Dashboard
import TrafficService.FreshCount
import TrafficService.SagaRefinement
import TrafficService.Lib.Utf8
import TrafficService.RegistrationCall
import TrafficService.RegistrationRefinement
import TrafficService.VerificationWindow
import TrafficService.RegionalBacking
import TrafficService.Lib.Counters
import TrafficService.RateLimiter
import TrafficService.OrphanTransactions
import TrafficService.Lib.FirstMinimum
import TrafficService.Lib.Sweeps
import TrafficService.PreferredPath
import TrafficService.Lib.BinaryFloat
import TrafficService.RouteResolution
import TrafficService.Lib.FixedWindow
import TrafficService.RateLimiterWindows
import TrafficService.PeerExchange
import TrafficService.ReservedOnce
import TrafficService.Lib.AppendOnly
import TrafficService.History
import TrafficService.RoutePreview
import TrafficService.BookJourney
import TrafficService.Sessions
import TrafficService.Journeys
import TrafficService.RouteLengths
import TrafficService.AuthContext

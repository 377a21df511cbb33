import Qmedia.Library.MachineRun
import Qmedia.Library.FirstWriter
import Qmedia.Library.GroupCounter
import Qmedia.Library.ThreadPool
import Qmedia.Library.Registry
import Qmedia.Library.FindOrAllocate
import Qmedia.Model.Name
import Qmedia.Model.ThirdParty
import Qmedia.Model.QSFrameContext
import Qmedia.Model.Reference
import Qmedia.Model.SubscriptionDelegate
import Qmedia.Model.PublicationDelegate
import Qmedia.Model.Manifest
import Qmedia.Model.Controller
import Qmedia.Model.ControllerThreads
import Qmedia.Analysis.CallEffects
import Qmedia.Analysis.EpochLock
import Qmedia.Analysis.KeyProvenance
import Qmedia.Analysis.DelegateContext
import Qmedia.Analysis.RejectedObjects
import Qmedia.Analysis.PublishedNames
import Qmedia.Analysis.RoundTrip
import Qmedia.Analysis.ManifestHalves
import Qmedia.Analysis.ManifestDecoding
import Qmedia.Analysis.ExpiryBounds
import Qmedia.Analysis.Announcements
import Qmedia.Analysis.PublisherRefinement
import Qmedia.Analysis.SubscriptionOwners
import Qmedia.Analysis.UninterruptedCalls
import Qmedia.Analysis.SubscribedRegistry
import Qmedia.Analysis.SequentialSubscriptions
import Qmedia.Analysis.StartStopAgreement
import Qmedia.Analysis.NamespaceIsolation
import Qmedia.Analysis.RestartedPublication
import Qmedia.Analysis.NamespaceMembership
import Qmedia.Analysis.PublicationSeparation
import Qmedia.Analysis.SessionHistory
import Qmedia.Analysis.NullPointers
import Qmedia.Analysis.LiveSubscriptions
import Qmedia.Analysis.AllocatedDelegates
import Qmedia.Analysis.SubscriptionBookkeeping
import Qmedia.Analysis.ManifestPublications
import Qmedia.Analysis.ManifestSubscriptions
import Qmedia.Analysis.FaithfulDecoding
import Qmedia.Analysis.ManifestEquality
import Qmedia.Library.ConsecutiveSums
import Qmedia.Analysis.LossStatistics
import Qmedia.Analysis.PerfectStream
import Qmedia.Analysis.StrayObjects
import Qmedia.Analysis.RelayRouting
import Qmedia.Model.Arrivals
import Qmedia.Model.Conference
import Qmedia.Analysis.Interoperability
import Qmedia.Analysis.ConferenceIntegrity
import Qmedia.Analysis.ConferenceDelivery
import Qmedia.Library.ClaimedWork
import Qmedia.Model.InterleavedCalls
import Qmedia.Analysis.CriticalSections
import Qmedia.Analysis.InterleavedPublications
import Qmedia.Analysis.AllocationOwners
import Qmedia.Library.Slots
import Qmedia.Analysis.SubscriberRefinement
import Qmedia.Analysis.ConcurrentManifests
import Qmedia.Analysis.EpochRotation
import Qmedia.Analysis.Reports
import Qmedia.Analysis.ManifestTexts
import Qmedia.Library.Tallies
import Qmedia.Analysis.HandedCopies
import Qmedia.Analysis.AnnouncedFirst

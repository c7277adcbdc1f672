import TrackAnywhere.Verified.Checked
import TrackAnywhere.Verified.Run
import TrackAnywhere.Verified.KeyedSum
import TrackAnywhere.Verified.OrderedLog
import TrackAnywhere.Verified.Transaction
import TrackAnywhere.Verified.ChainedLog
import TrackAnywhere.Verified.ExactlyOnce
import TrackAnywhere.Verified.UniqueReading
import TrackAnywhere.Verified.KeyedRows
import TrackAnywhere.Verified.Commuting
import TrackAnywhere.Ports.Primitives
import TrackAnywhere.Ports.Events
import TrackAnywhere.Ports.CanonicalJson
import TrackAnywhere.Ports.CanonicalReading
import TrackAnywhere.Ports.EventHash
import TrackAnywhere.Ports.HashPreimage
import TrackAnywhere.Ports.SyncTables
import TrackAnywhere.Ports.JournalAppliers
import TrackAnywhere.Ports.SynchronousProjector
import TrackAnywhere.Ports.SyncEffects
import TrackAnywhere.Ports.JournalHistory
import TrackAnywhere.Ports.AccountBalances
import TrackAnywhere.Ports.MonthlySummary
import TrackAnywhere.Ports.DirtyPeriods
import TrackAnywhere.Ports.IncrementalReplay
import TrackAnywhere.Ports.ProjectionTables
import TrackAnywhere.Ports.ReplayedRows
import TrackAnywhere.Ports.ProjectionWorker
import TrackAnywhere.Ports.ProjectionInterleaving
import TrackAnywhere.Ports.ProjectionCommits
import TrackAnywhere.Ports.ProjectionSafety
import TrackAnywhere.Ports.ReversalChains
import TrackAnywhere.Ports.SummaryReversals
import TrackAnywhere.Ports.SummaryMoves
import TrackAnywhere.Ports.LotAllocations
import TrackAnywhere.Ports.LotDisposals
import TrackAnywhere.Ports.LotProjection
import TrackAnywhere.Ports.EventStore
import TrackAnywhere.Ports.ReverseTransaction
import TrackAnywhere.Ports.CardRefunds
import TrackAnywhere.Ports.EventVerification
import TrackAnywhere.Ports.AppendedRows
import TrackAnywhere.Ports.EventStoreInvariant
import TrackAnywhere.Ports.EventStoreVerified
import TrackAnywhere.Ports.VerifiedBooks
import TrackAnywhere.Ports.LedgerVerification
import TrackAnywhere.Ports.CommandReceipts
import TrackAnywhere.Ports.LedgerCommitter
import TrackAnywhere.Ports.CommandBus
import TrackAnywhere.Ports.CommandSafety
import TrackAnywhere.Ports.EntryIntents
import TrackAnywhere.Ports.EntryCommits
import TrackAnywhere.Ports.PlannedStreams
import TrackAnywhere.Ports.EntryInvariant
import TrackAnywhere.Ports.EntrySafety
import TrackAnywhere.Ports.EntryLifecycle
import TrackAnywhere.Ports.EntryContracts
import TrackAnywhere.Ports.EntryResolution
import TrackAnywhere.Ports.AcceptedLogs
import TrackAnywhere.Ports.ReportingQueries
import TrackAnywhere.Verified.Base64
import TrackAnywhere.Verified.KeysetPages
import TrackAnywhere.Ports.JournalCursor
import TrackAnywhere.Ports.JournalQueries
import TrackAnywhere.Verified.ValiditySpans
import TrackAnywhere.Ports.PaymentInstruments
import TrackAnywhere.Ports.InstrumentSafety
import TrackAnywhere.Ports.OutboxDelivery
import TrackAnywhere.Ports.OutboxSafety
import TrackAnywhere.Ports.OAuthTokens
import TrackAnywhere.Ports.OAuthRequests
import TrackAnywhere.Ports.OAuthScopes
import TrackAnywhere.Ports.OAuthFamilies
import TrackAnywhere.Ports.OAuthFamilySafety
import TrackAnywhere.Ports.EverydayEntries
import TrackAnywhere.Ports.AsOfJournal
import TrackAnywhere.Verified.Paired
import TrackAnywhere.Ports.EntryCatalogs
import TrackAnywhere.Ports.AsOfReads
import TrackAnywhere.Ports.AccountClosing
import TrackAnywhere.Ports.EntryCompiler
import TrackAnywhere.Ports.IdempotencyRequests
import TrackAnywhere.Ports.CommitGuards
import TrackAnywhere.Ports.BalanceSnapshots
import TrackAnywhere.Ports.AccountRequests
import TrackAnywhere.Ports.InstrumentAudit
import TrackAnywhere.Ports.MembershipLocks
import TrackAnywhere.Ports.MembershipSafety
import TrackAnywhere.Verified.LockedRows
import TrackAnywhere.Verified.FixedPoint
import TrackAnywhere.Ports.ScaledUnits
import TrackAnywhere.Ports.AmountValidators
import TrackAnywhere.Ports.JournalValidator
import TrackAnywhere.Ports.CompiledPlans
import TrackAnywhere.Ports.BalanceAdjustments
import TrackAnywhere.Ports.EntryErrors
import TrackAnywhere.Ports.EntryEscapes
import TrackAnywhere.Ports.EntryPreviews
import TrackAnywhere.Ports.ReportingCommands
import TrackAnywhere.Ports.ProfileDiscipline
import TrackAnywhere.Ports.ProfileReads
import TrackAnywhere.Ports.ProfileStoreSafety
import TrackAnywhere.Ports.AuthThrottle
import TrackAnywhere.Ports.DuplicateCandidates
import TrackAnywhere.Ports.EventCompiler
import TrackAnywhere.Ports.FrozenAmounts
import TrackAnywhere.Ports.ReversalLinks
import TrackAnywhere.Ports.ReversalWorklist
import TrackAnywhere.Ports.ThrottleRuns
import TrackAnywhere.Ports.Upcasters
import TrackAnywhere.Ports.BookCatalogs
import TrackAnywhere.Ports.FxCardPayments
import TrackAnywhere.Verified.DecimalContext
import TrackAnywhere.Verified.FunctionalGraph
import TrackAnywhere.Verified.GroupedScan
import TrackAnywhere.Verified.IdealAead
import TrackAnywhere.Verified.LengthFrames
import TrackAnywhere.Verified.LogReplay
import TrackAnywhere.Verified.OrderedDict
import TrackAnywhere.Verified.Programs
import TrackAnywhere.Verified.TokenBucket
import TrackAnywhere.Ports.RecordFx
import TrackAnywhere.Ports.CompiledHistory
import TrackAnywhere.Ports.ImportReplay
import TrackAnywhere.Ports.LedgerDigests
import TrackAnywhere.Ports.PostingScan
import TrackAnywhere.Ports.DuplicateDigests
import TrackAnywhere.Ports.CategoryAssignments
import TrackAnywhere.Ports.ProtectedContent
import TrackAnywhere.Ports.ProfileStore
import TrackAnywhere.Ports.ProfileStoreRuns
import TrackAnywhere.Ports.ProfileTransitions
import TrackAnywhere.Verified.Lines
import TrackAnywhere.Ports.JsonReading
import TrackAnywhere.Ports.ArchiveNdjson
import TrackAnywhere.Ports.ArchiveService
import TrackAnywhere.Ports.EntryDocuments
import TrackAnywhere.Ports.EntryDrafts
import TrackAnywhere.Ports.PreparedPayloads
import TrackAnywhere.Ports.RecompiledPostings
import TrackAnywhere.Ports.AppliedPlans
import TrackAnywhere.Ports.EntryContexts
import TrackAnywhere.Ports.CommittedFacts
import TrackAnywhere.Ports.EntryReadBack

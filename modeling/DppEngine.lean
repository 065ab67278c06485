import DppEngine.TransitionSystems
import DppEngine.HashChains
import DppEngine.AuditTrail
import DppEngine.PassportModel
import DppEngine.StateChangeLog
import DppEngine.PassportRequests
import DppEngine.LifecycleConcurrency
import DppEngine.DraftPublishing
import DppEngine.SnapshotDrain
import DppEngine.SealOutbox
import DppEngine.OrderedMaps
import DppEngine.SignedTokens
import DppEngine.DossierVerification
import DppEngine.BreadthFirst
import DppEngine.ComponentTree
import DppEngine.PrintedLabels
import DppEngine.AmendedLabels
import DppEngine.IdempotencyKeys
import DppEngine.PointInTime
import DppEngine.VersionArchive
import DppEngine.OptimisticCells
import DppEngine.TransferChains
import DppEngine.ComponentGuard
import DppEngine.ComponentGraph
import DppEngine.ComplianceRecords
import DppEngine.PublicDoors
import DppEngine.ChainHeads
import DppEngine.LabelClaims
import DppEngine.LabelRuns
import DppEngine.ScanCounts
import DppEngine.CmsSeals
import DppEngine.DelegationChains
import DppEngine.SealPaths
import DppEngine.SealRevocation
import DppEngine.Reorderings
import DppEngine.TrustedLists
import DppEngine.QualifiedIssuers
import DppEngine.UnrelatedCertificates
import DppEngine.TrustedListDocuments
import DppEngine.TrustedListRefresh
import DppEngine.TrustedListWidth
import DppEngine.ArchiveTimestamps
import DppEngine.CmsEncodings
import DppEngine.OrderedSets
import DppEngine.SealFreshness
import DppEngine.SealRenewal
import DppEngine.NewestEntries
import DppEngine.SealDigests
import DppEngine.SignedPayloads
import DppEngine.DossierAssembly
import DppEngine.DossierBinding
import DppEngine.RegistryRows
import DppEngine.RegistryDrain
import DppEngine.AbandonedRegistrations
import DppEngine.RegistryHandles
import DppEngine.TransferNotices
import DppEngine.StatusIntents
import DppEngine.PagedScans
import DppEngine.SealAudits
import DppEngine.PinnedTrails
import DppEngine.ReplayedTrails
import DppEngine.WrittenChains
import DppEngine.PredecessorClaims
import DppEngine.RulesetChannel
import DppEngine.CreateRequests
import DppEngine.DryRuns
import DppEngine.PatchedDrafts
import DppEngine.ImportAccounts
import DppEngine.SubmissionLookups
import DppEngine.ImportConvergence
import DppEngine.LocalSeals
import DppEngine.OutboundTargets
import DppEngine.AudienceReads
import DppEngine.WebhookDeliveries
import DppEngine.ComponentCrawls
import DppEngine.PathChoices
import DppEngine.StatusPeriods
import DppEngine.RenewalPauses
import DppEngine.FieldReaders
import DppEngine.BatteryRows
import DppEngine.ColumnOrders
import DppEngine.WorkbookGuards
import DppEngine.PagePlans
import DppEngine.ErasedRecords
import DppEngine.ApiKeyAccess
import DppEngine.DefaultIdentities
import DppEngine.MarkupLexing
import DppEngine.RenderedPages
import DppEngine.PageRows
import DppEngine.RotatedKeys
import DppEngine.PluginInstalls
import DppEngine.Footprints

import CathedralCompute.Codec.Base64
import CathedralCompute.Codec.Calendar
import CathedralCompute.Codec.Decimal
import CathedralCompute.Codec.Json
import CathedralCompute.Codec.JsonCanonical
import CathedralCompute.Codec.JsonFaults
import CathedralCompute.Codec.JsonRoundTrip
import CathedralCompute.Codec.JsonSorted
import CathedralCompute.Codec.JsonSource
import CathedralCompute.Codec.JsonStrict
import CathedralCompute.Codec.Layout
import CathedralCompute.Codec.Numeral
import CathedralCompute.Codec.PrefixCode
import CathedralCompute.Codec.SecondTimestamp
import CathedralCompute.Codec.Sha256
import CathedralCompute.Codec.Text
import CathedralCompute.Codec.Timestamp
import CathedralCompute.CustomerReceipt.Documents
import CathedralCompute.CustomerReceipt.Verify
import CathedralCompute.Economics
import CathedralCompute.Enrollment.HotkeyAttempts
import CathedralCompute.Enrollment.IpLimiter
import CathedralCompute.Enrollment.SnapshotMark
import CathedralCompute.Evidence
import CathedralCompute.Gpu.Anchor
import CathedralCompute.Gpu.CrashSafety
import CathedralCompute.Gpu.EvidenceBinding
import CathedralCompute.Gpu.Identities
import CathedralCompute.Gpu.Ownership
import CathedralCompute.Gpu.RegistryProfile
import CathedralCompute.Gpu.Withdrawal
import CathedralCompute.KeyRelease.Grants
import CathedralCompute.KeyRelease.Store
import CathedralCompute.KeyRelease.StoreInvariant
import CathedralCompute.Lanes.Canonical
import CathedralCompute.Lanes.Credits
import CathedralCompute.Lanes.Dpll
import CathedralCompute.Lanes.Sat
import CathedralCompute.Lanes.SatLane
import CathedralCompute.Lanes.SatWitness
import CathedralCompute.Launch
import CathedralCompute.Ledger.Abandonment
import CathedralCompute.Ledger.Challenges
import CathedralCompute.Ledger.Completion
import CathedralCompute.Ledger.CustomerJobs
import CathedralCompute.Ledger.EpochHistory
import CathedralCompute.Ledger.EpochOrder
import CathedralCompute.Ledger.Epochs
import CathedralCompute.Ledger.ExportChain
import CathedralCompute.Ledger.Exports
import CathedralCompute.Ledger.Freeze
import CathedralCompute.Ledger.FrozenScores
import CathedralCompute.Ledger.JobCapacity
import CathedralCompute.Ledger.JobHistory
import CathedralCompute.Ledger.JobResults
import CathedralCompute.Ledger.Leases
import CathedralCompute.Ledger.Operations
import CathedralCompute.Ledger.Payloads
import CathedralCompute.Ledger.Scores
import CathedralCompute.Ledger.State
import CathedralCompute.Ledger.Steps
import CathedralCompute.Ledger.StoredTimes
import CathedralCompute.Lifecycle
import CathedralCompute.Platform
import CathedralCompute.PolicyRegistry.Accepted
import CathedralCompute.PolicyRegistry.History
import CathedralCompute.PolicyRegistry.KeyResolver
import CathedralCompute.PolicyRegistry.Policy
import CathedralCompute.PolicyRegistry.Signing
import CathedralCompute.PolicyRegistry.Snapshot
import CathedralCompute.PolicyRegistry.State
import CathedralCompute.PolicyRegistry.StateTexts
import CathedralCompute.PrivilegedPaths
import CathedralCompute.PrivilegedTree
import CathedralCompute.Prober.Selection
import CathedralCompute.Provenance.EnvelopeRoundTrip
import CathedralCompute.Provenance.EvidenceManifest
import CathedralCompute.Provenance.Fences
import CathedralCompute.Provenance.IndexTransaction
import CathedralCompute.Provenance.Recompute
import CathedralCompute.Provenance.Replay
import CathedralCompute.Provenance.VectorCompare
import CathedralCompute.Provenance.WorkAgreement
import CathedralCompute.Provenance.WorkProof
import CathedralCompute.Provider.Attempts
import CathedralCompute.Provider.Canonical
import CathedralCompute.Provider.Charges
import CathedralCompute.Provider.Dispatch
import CathedralCompute.Provider.Documents
import CathedralCompute.Provider.Finalization
import CathedralCompute.Provider.ManifestDocument
import CathedralCompute.Provider.Records
import CathedralCompute.Provider.RoundTrip
import CathedralCompute.Provider.Settlements
import CathedralCompute.Provider.Transcripts
import CathedralCompute.Receipt
import CathedralCompute.Registry.Assurance
import CathedralCompute.Registry.Capacity
import CathedralCompute.Registry.ChipBindings
import CathedralCompute.Registry.Endpoints
import CathedralCompute.Registry.History
import CathedralCompute.Registry.Operations
import CathedralCompute.Registry.PolicyProvider
import CathedralCompute.Registry.PolicyRollback
import CathedralCompute.Registry.RegistryJson
import CathedralCompute.Registry.Retries
import CathedralCompute.Registry.State
import CathedralCompute.Registry.Steps
import CathedralCompute.Registry.Terminal
import CathedralCompute.Registry.Transitions
import CathedralCompute.Registry.Verdicts
import CathedralCompute.Remote.Evidence
import CathedralCompute.Remote.HonestWork
import CathedralCompute.Remote.SatWork
import CathedralCompute.Remote.Worker
import CathedralCompute.Runtime.Admission
import CathedralCompute.Runtime.AdmissionRace
import CathedralCompute.Runtime.ChipContention
import CathedralCompute.Runtime.EndpointAgreement
import CathedralCompute.Runtime.RefreshOutcomes
import CathedralCompute.Runtime.Retention
import CathedralCompute.Runtime.Rotation
import CathedralCompute.Runtime.SatArtifacts
import CathedralCompute.Runtime.Targets
import CathedralCompute.Sample
import CathedralCompute.ScoreClass.Readback
import CathedralCompute.ScoreClass.Report
import CathedralCompute.ScoreClass.Shares
import CathedralCompute.Semantics.Draws
import CathedralCompute.Semantics.FileTree
import CathedralCompute.Semantics.Normalization
import CathedralCompute.Semantics.Outline
import CathedralCompute.Semantics.Programs
import CathedralCompute.Semantics.Raises
import CathedralCompute.Semantics.Roster
import CathedralCompute.Semantics.Rotation
import CathedralCompute.Semantics.Table
import CathedralCompute.Semantics.Tally
import CathedralCompute.Semantics.Transaction
import CathedralCompute.Semantics.Walk
import CathedralCompute.Verify.TdxQuote
import CathedralCompute.Workload.ClaimRelease
import CathedralCompute.Workload.Execution
import CathedralCompute.Workload.Idempotency
import CathedralCompute.Workload.Manifest

import SafeFsOps.Calendar
import SafeFsOps.Runs
import SafeFsOps.Programs
import SafeFsOps.Connections
import SafeFsOps.SchemaMigrations
import SafeFsOps.StackWalks
import SafeFsOps.Interference
import SafeFsOps.PythonText
import SafeFsOps.Json
import SafeFsOps.PosixPaths
import SafeFsOps.Tables
import SafeFsOps.WorkspaceState.Leases
import SafeFsOps.WorkspaceState.LeaseFencing
import SafeFsOps.WorkspaceState.LeaseKeeping
import SafeFsOps.WorkspaceState.Claims
import SafeFsOps.WorkspaceState.ClaimOwnership
import SafeFsOps.WorkspaceState.StoredTimes
import SafeFsOps.WorkspaceState.Sessions
import SafeFsOps.WorkspaceState.StorageBackends
import SafeFsOps.FilesystemOps.Records
import SafeFsOps.FilesystemOps.Disk
import SafeFsOps.FilesystemOps.FileMutations
import SafeFsOps.FilesystemOps.Backups
import SafeFsOps.FilesystemOps.TreeBackups
import SafeFsOps.FilesystemOps.StableTrees
import SafeFsOps.FilesystemOps.SnapshotBundles
import SafeFsOps.FilesystemOps.Descriptors
import SafeFsOps.FilesystemOps.Descent
import SafeFsOps.FilesystemOps.DescriptorMutations
import SafeFsOps.FilesystemOps.ContentStore
import SafeFsOps.FilesystemOps.Publication
import SafeFsOps.FilesystemOps.InstantImages
import SafeFsOps.FilesystemOps.StorePublication
import SafeFsOps.FilesystemOps.StoreIntegrity
import SafeFsOps.OperationJournal.Schema
import SafeFsOps.OperationJournal.Guards
import SafeFsOps.OperationJournal.Batch
import SafeFsOps.OperationJournal.Recovery
import SafeFsOps.OperationJournal.Actions
import SafeFsOps.OperationJournal.Calls
import SafeFsOps.OperationJournal.Advances
import SafeFsOps.OperationJournal.Writes
import SafeFsOps.OperationJournal.BatchIdempotency
import SafeFsOps.OperationJournal.RecordNumbers
import SafeFsOps.OperationJournal.RecoveryWalk
import SafeFsOps.OperationJournal.BatchLife
import SafeFsOps.OperationJournal.CleanupHistory
import SafeFsOps.OperationJournal.Marking
import SafeFsOps.OperationJournal.LeaseBinding
import SafeFsOps.OperationJournal.LeaseAuthority
import SafeFsOps.OperationJournal.AttemptFencing
import SafeFsOps.OperationJournal.ActionHistory
import SafeFsOps.OperationJournal.ActionRecords
import SafeFsOps.OperationJournal.RecoveryResume
import SafeFsOps.OperationJournal.RecoveryRetries
import SafeFsOps.OperationJournal.OperationRuns
import SafeFsOps.OperationJournal.Payloads
import SafeFsOps.OperationJournal.Coordinator
import SafeFsOps.OperationJournal.OnDisk
import SafeFsOps.OperationJournal.FailureRecords
import SafeFsOps.OperationJournal.MutationSteps
import SafeFsOps.OperationJournal.Mutations
import SafeFsOps.OperationJournal.QuietSteps
import SafeFsOps.OperationJournal.BatchMoves
import SafeFsOps.OperationJournal.Evidence
import SafeFsOps.OperationJournal.ExactlyOnce
import SafeFsOps.OperationJournal.TreeMutations
import SafeFsOps.OperationJournal.TreeMutationSteps
import SafeFsOps.OperationJournal.TreeBackupRecovery
import SafeFsOps.OperationJournal.TreeArtifacts
import SafeFsOps.OperationJournal.FrozenPayloads
import SafeFsOps.OperationJournal.FileBackupRecovery
import SafeFsOps.OperationJournal.RecoveryPlanning
import SafeFsOps.OperationJournal.RecoveryHandlers
import SafeFsOps.OperationJournal.FileRollback
import SafeFsOps.OperationJournal.RecoveryRunner
import SafeFsOps.OperationJournal.StepRules
import SafeFsOps.OperationJournal.RecoverySteps
import SafeFsOps.Workspace.Workspace
import SafeFsOps.Workspace.StepRules
import SafeFsOps.Workspace.ArtifactCleanup
import SafeFsOps.Workspace.CleanupSteps
import SafeFsOps.Workspace.TransactionState
import SafeFsOps.Workspace.TransactionRollback
import SafeFsOps.Workspace.RollbackSteps
import SafeFsOps.Workspace.Transaction
import SafeFsOps.Workspace.TransactionSteps
import SafeFsOps.RecursiveMkdir
import SafeFsOps.Workspace.RecursiveMkdirSteps
import SafeFsOps.Workspace.RecursiveMkdirRollback
import SafeFsOps.Workspace.GeneratedKeys
import SafeFsOps.Workspace.Entering
import SafeFsOps.Workspace.Replay
import SafeFsOps.Workspace.ReplaySteps
import SafeFsOps.Workspace.Replaying
import SafeFsOps.Workspace.Leaving
import SafeFsOps.Workspace.FinalStatements
import SafeFsOps.Workspace.Finalizing
import SafeFsOps.Workspace.RollingBack
import SafeFsOps.Workspace.RecursiveMkdirRuns
import SafeFsOps.OperationJournal.StatusMoves
import SafeFsOps.Workspace.FailureEvidence
import SafeFsOps.Workspace.FileRecovery
import SafeFsOps.OperationJournal.StoredRecovery
import SafeFsOps.OperationJournal.ActionRuns
import SafeFsOps.OperationJournal.CreatedDirectoryRemoval

import CosmicMounter.App.ConnectionDraft
import CosmicMounter.App.DraftEdits
import CosmicMounter.App.DraftRoundTrip
import CosmicMounter.App.Sftp
import CosmicMounter.App.SftpAgreement
import CosmicMounter.App.SftpUpdate
import CosmicMounter.Calendar.Gregorian
import CosmicMounter.Calendar.Text
import CosmicMounter.Config.Directories
import CosmicMounter.Config.Paths
import CosmicMounter.Config.Validation
import CosmicMounter.Data.Decode
import CosmicMounter.Data.Json
import CosmicMounter.Data.Reader
import CosmicMounter.Data.Renaming
import CosmicMounter.Data.Serde
import CosmicMounter.Data.Writer
import CosmicMounter.Guards.Authorization
import CosmicMounter.Guards.Bindings
import CosmicMounter.Guards.Contract
import CosmicMounter.Guards.Verification
import CosmicMounter.Host.Request
import CosmicMounter.Import.CommandWords
import CosmicMounter.Import.Preview
import CosmicMounter.Import.RoundTrip
import CosmicMounter.Import.TargetConflict
import CosmicMounter.Import.Unit
import CosmicMounter.Interaction.Asks
import CosmicMounter.Interaction.Cancellation
import CosmicMounter.Interaction.Contract
import CosmicMounter.Interaction.Exits
import CosmicMounter.Interaction.Handler
import CosmicMounter.Interaction.History
import CosmicMounter.Interaction.Interference
import CosmicMounter.Interaction.Log
import CosmicMounter.Interaction.Obligations
import CosmicMounter.Interaction.Program
import CosmicMounter.Interaction.Remembering
import CosmicMounter.Interaction.Replay
import CosmicMounter.Interaction.Steps
import CosmicMounter.Interaction.Threads
import CosmicMounter.Microsoft.Creation
import CosmicMounter.Microsoft.LibraryIdentity
import CosmicMounter.Microsoft.LibraryUrl
import CosmicMounter.Microsoft.LibraryUrlCanonical
import CosmicMounter.Microsoft.OneDrive
import CosmicMounter.Microsoft.Requests
import CosmicMounter.Microsoft.Setup
import CosmicMounter.Microsoft.SharePoint
import CosmicMounter.Microsoft.Steps
import CosmicMounter.Microsoft.Transaction
import CosmicMounter.Mirror.Repair
import CosmicMounter.Mirror.RepairContract
import CosmicMounter.Model
import CosmicMounter.Mounts.Detach
import CosmicMounter.Mounts.DetachContract
import CosmicMounter.Mounts.DetachOwnership
import CosmicMounter.Mounts.Records
import CosmicMounter.Mounts.Spelling
import CosmicMounter.Mounts.Table
import CosmicMounter.Mounts.TableAgreement
import CosmicMounter.Pending.Estimate
import CosmicMounter.Pending.Preview
import CosmicMounter.Pending.PreviewAgreement
import CosmicMounter.Pending.Progress
import CosmicMounter.Pending.ProgressCuts
import CosmicMounter.Pending.ProgressMessages
import CosmicMounter.Preload.Calls
import CosmicMounter.Preload.Quiet
import CosmicMounter.Preload.Runs
import CosmicMounter.Process.Announcement
import CosmicMounter.Process.Argument
import CosmicMounter.Process.Capture
import CosmicMounter.Process.Completeness
import CosmicMounter.Process.Decisions
import CosmicMounter.Process.Hiding
import CosmicMounter.Process.Passages
import CosmicMounter.Process.RedactedDocuments
import CosmicMounter.Process.Redaction
import CosmicMounter.Process.Secrets
import CosmicMounter.Process.Words
import CosmicMounter.Providers.MountPlan
import CosmicMounter.Providers.UploadAgreement
import CosmicMounter.Providers.VfsHealth
import CosmicMounter.Rclone.Filter
import CosmicMounter.Refresh.Calls
import CosmicMounter.Refresh.Runs
import CosmicMounter.Refresh.Settled
import CosmicMounter.Remotes.Setup
import CosmicMounter.Remotes.SetupContract
import CosmicMounter.Runtime.App
import CosmicMounter.Runtime.Completed
import CosmicMounter.Runtime.Controller
import CosmicMounter.Runtime.Mirrors
import CosmicMounter.Runtime.Outcomes
import CosmicMounter.Runtime.Requests
import CosmicMounter.Runtime.Update
import CosmicMounter.Rust.Path
import CosmicMounter.Rust.Pattern
import CosmicMounter.Rust.Result
import CosmicMounter.Rust.Str
import CosmicMounter.Rust.Trimming
import CosmicMounter.Saves.Paths
import CosmicMounter.Saves.Retargeting
import CosmicMounter.Saves.RetargetingRuns
import CosmicMounter.Saves.Runs
import CosmicMounter.Saves.Storage
import CosmicMounter.Services.Acceptance
import CosmicMounter.Services.CommandLine
import CosmicMounter.Services.Controller
import CosmicMounter.Services.Lifecycle
import CosmicMounter.Services.LifecycleContract
import CosmicMounter.Services.LifecycleRuns
import CosmicMounter.Services.Ownership
import CosmicMounter.Services.Rendering
import CosmicMounter.Services.Retirement
import CosmicMounter.Services.RetirementContract
import CosmicMounter.Services.Rollback
import CosmicMounter.Services.Store
import CosmicMounter.Services.Unit
import CosmicMounter.Services.Validator
import CosmicMounter.Sleep.Cleanup
import CosmicMounter.Sleep.CleanupContract
import CosmicMounter.Sleep.Gate
import CosmicMounter.Sleep.Listener
import CosmicMounter.Sync.Binding
import CosmicMounter.Sync.Coordinator
import CosmicMounter.Sync.CoordinatorContract
import CosmicMounter.Sync.CoordinatorRun
import CosmicMounter.Sync.CoordinatorRuns
import CosmicMounter.Sync.CoordinatorSafety
import CosmicMounter.Sync.CoordinatorTransaction
import CosmicMounter.Sync.CoordinatorWorld
import CosmicMounter.Sync.Diagnostic
import CosmicMounter.Sync.Plan
import CosmicMounter.Sync.Preview
import CosmicMounter.Sync.PreviewNames
import CosmicMounter.Sync.PreviewPhrases
import CosmicMounter.Sync.Recovery
import CosmicMounter.Sync.Retention
import CosmicMounter.Sync.RetentionContract
import CosmicMounter.Sync.Target
import CosmicMounter.Sync.WorkRoot
import CosmicMounter.Systemd.CommandLine
import CosmicMounter.Systemd.UnitFile
import CosmicMounter.Text.Contexts
import CosmicMounter.Text.Infix
import CosmicMounter.Text.Marking
import CosmicMounter.Text.Percent
import CosmicMounter.Text.Utf8
import CosmicMounter.Vpn.Activation
import CosmicMounter.Vpn.Contract
import CosmicMounter.Vpn.Evidence
import CosmicMounter.Vpn.Looking
import CosmicMounter.Vpn.NetworkManager
import CosmicMounter.Vpn.Operations
import CosmicMounter.Vpn.Registry
import CosmicMounter.Vpn.Runs
import CosmicMounter.Vpn.World

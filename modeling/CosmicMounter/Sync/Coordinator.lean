import CosmicMounter.Pending.Preview
import CosmicMounter.Saves.Retargeting
import CosmicMounter.Sync.Diagnostic
import CosmicMounter.Sync.Retention

/-!
# The coordinator of a mirror

`run` of `bisync_coordinator.rs`: one operation of a mirror, from the lock to
the record of its result.  The markers in the work directory say how far the
mirror is initialized; the record says whether an operation is running.
-/

namespace CosmicMounter

/-! ## Modes -/

namespace Retargeting.BisyncMode

def asStr : BisyncMode → String
  | .initialPreview => "initial-preview"
  | .preview => "preview"
  | .initialSync => "initial-sync"
  | .sync => "sync"
  | .scheduled => "scheduled"

def operation : BisyncMode → OfflineOperation
  | .initialPreview => .initialPreview
  | .preview => .preview
  | .initialSync => .initialSync
  | .sync => .sync
  | .scheduled => .scheduled

def isPreview (mode : BisyncMode) : Bool := mode == .initialPreview || mode == .preview

def isInitial (mode : BisyncMode) : Bool := mode == .initialPreview || mode == .initialSync

end Retargeting.BisyncMode

def OneDrive.Error.message : OneDrive.Error → Message
  | .invalidInput => ⟨"onedrive-invalid-setup", []⟩
  | .invalidState => ⟨"onedrive-binding-changed", []⟩
  | .wrongDrive => ⟨"onedrive-wrong-drive", []⟩

namespace Coordinator

open Rust Serde Interaction Host Retention Retargeting Diagnostic

structure BisyncOutcome where
  output : CommandOutput
  previewPending : Option (Except String Nat)
  warnings : List String

/-- The directories a run works on: where the host has them, or where they were granted. -/
structure LocalMirrorPaths where
  mirror : String
  recovery : String
  deriving DecidableEq, Repr

/-- A OneDrive mirror of the current engine. -/
def isRcloneOneDrive (connection : Connection) : Bool :=
  connection.provider = .onedrive && connection.offlineEngine = some .rclone

def quarterHour : Nat := 15 * oneMinute

section Files

variable (fl : Message → String)

/-- A step that fails with a text of the catalogue around the error. -/
def fileStep {α : Type} (key : String) (step : Ask (Except IoError α)) : Call α :=
  Program.reporting (fun error : IoError ↦ fl ⟨key, [("error", error.text)]⟩) (ExceptT.mk step)

def createDirAll (key path : String) : Call Unit := fileStep fl key (ask (.createDirAll path))

/-- The file is staged beside its place and renamed; a failed staging is removed. -/
def writeAtomic (path contents : String) : Call Unit := do
  match Path.parent path with
  | none => throw (fl ⟨"ui-bisync-coordinator-managed-file-has-no-parent", []⟩)
  | some parent => do
      createDirAll fl "ui-bisync-coordinator-could-not-create-managed-directory-error" parent
      let uuid ← ask .newUuid
      let staging := Path.join parent (".managed-" ++ uuid.text ++ ".tmp")
      let result ← Program.attempt (do
        ExceptT.mk (ask (.writePrivate staging contents))
        fileStep fl "ui-bisync-coordinator-could-not-publish-managed-file-error"
          (ask (.rename staging path)))
      match result with
      | .ok () => pure ()
      | .error error => do
          let _ ← ask (.removeFile staging)
          throw error

def removeIfExists (path : String) : Call Unit := do
  match ← ask (.removeFile path) with
  | .ok () => pure ()
  | .error error =>
      if error.kind = .notFound then pure ()
      else throw (fl ⟨"ui-bisync-coordinator-could-not-remove-managed-marker-error", [("error", error.text)]⟩)

def isSymlink (path : String) : Ask Bool := do
  match ← ask (.symlinkMetadata path) with
  | .ok type => return type == .symlink
  | .error _ => return false

/-- An argument the command line does not take is the only failure. -/
def request (arguments : List String) (timeout : Nat) : Call CommandRequest :=
  Program.check ((rcloneRequest arguments timeout).mapError fun _ ↦
    fl ⟨"ui-process-command-argument-contains-unsafe-bytes", []⟩)

def complete (output : CommandOutput) (stage : String) : Call String :=
  Program.check ((completeStdout output (fl ⟨stage, []⟩)).mapError fl)

end Files

/-! ## Where a run may begin -/

section Begin

variable (ext : Externals)

def validateConnection (connection : Connection) : Except Message Unit :=
  match connection.enabled, connection.mode with
  | true, .offlineMirror _ =>
      match connection.provider with
      | .teams | .googleDrive | .box | .smb | .sftp => .ok ()
      | .onedrive =>
          if connection.offlineEngine = some .rclone then .ok ()
          else .error ⟨"ui-bisync-coordinator-the-saved-connection-is-not-an-rclone", []⟩
  | _, _ => .error ⟨"ui-bisync-coordinator-the-saved-connection-is-not-an-enabled", []⟩

def validateModeMarkers (fl : Message → String) (mode : BisyncMode) (plan : RcloneBisyncPlan) : Call Unit := do
  let initialized ← ask (.isFile (initialSyncMarker plan))
  match mode with
  | .initialPreview =>
      Program.ensure (!initialized)
        (fl ⟨"ui-bisync-coordinator-initial-preview-is-unavailable-after-initialization", []⟩)
  | .preview =>
      Program.ensure initialized
        (fl ⟨"ui-bisync-coordinator-normal-preview-requires-completed-initial-synchronization", []⟩)
  | .initialSync => do
      Program.ensure (!initialized)
        (fl ⟨"ui-bisync-coordinator-initial-synchronization-is-already-complete", []⟩)
      let confirmable ← ask (.isFile (initialPreviewMarker plan))
      Program.ensure confirmable
        (fl ⟨"ui-bisync-coordinator-initial-synchronization-requires-a-successful-preview", []⟩)
  | .sync | .scheduled =>
      Program.ensure initialized
        (fl ⟨"ui-bisync-coordinator-synchronization-requires-completed-initial-synchronization", []⟩)

/-- The bound providers are compared with what they were bound to. -/
def verifyBinding (connection : Connection) : Call Unit := do
  if connection.provider = .teams then
    let _ ← Program.check ((SharePoint.MirrorGuardBinding.fromConnection ext connection).mapError ext.fl)
    ExceptT.mk (ask (.verifyMirrorBinding connection))
  else if isRcloneOneDrive connection then
    let _ ← Program.check ((OneDrive.MirrorGuardBinding.fromConnection connection).mapError
      fun error ↦ ext.fl error.message)
    ExceptT.mk (ask (.verifyMirrorBinding connection))
  else pure ()

def LocalMirrorPaths.native (connection : Connection) : Except Message LocalMirrorPaths :=
  match connection.mode with
  | .offlineMirror options => .ok ⟨connection.localPath, options.recoveryDirectory⟩
  | .onlineMount _ => .error ⟨"mirror-access-unavailable", []⟩

def LocalMirrorPaths.resolve (connection : Connection) : Call LocalMirrorPaths := do
  Program.ensure (!(← ask .isCancelled)) (ext.fl ⟨"mirror-access-unavailable", []⟩)
  let paths ← Program.check ((LocalMirrorPaths.native connection).mapError ext.fl)
  match ext.mode with
  | .native _ => pure paths
  | .flatpakSpawnHost => do
      let mirror ← ExceptT.mk (ask (.resolveDirectory paths.mirror))
      let recovery ← ExceptT.mk (ask (.resolveDirectory paths.recovery))
      pure ⟨mirror, recovery⟩

end Begin

/-! ## Inputs -/

section Inputs

variable (fl : Message → String)

def accessMarkerText (connection : Connection) : String := connection.id.text ++ "\n"

def validateLocalAccessMarker (connection : Connection) (plan : RcloneBisyncPlan) : Call Unit := do
  match plan.accessMarkerName with
  | none => pure ()
  | some name => do
      let path := Path.join connection.localPath name
      match ← ask (.symlinkMetadata path) with
      | .error _ => throw (fl ⟨"ui-bisync-coordinator-sharepoint-access-marker-is-missing", []⟩)
      | .ok type => do
          Program.ensure (type == .file) (fl ⟨"ui-bisync-coordinator-sharepoint-access-marker-is-unsafe", []⟩)
          let content ← fileStep fl "ui-bisync-coordinator-could-not-read-sharepoint-access-marker-error"
            (ask (.readToString path))
          Program.ensure (content == accessMarkerText connection)
            (fl ⟨"ui-bisync-coordinator-sharepoint-access-marker-changed", []⟩)

/-- The marker is created only before the first synchronization. -/
def createLocalAccessMarker (connection : Connection) (plan : RcloneBisyncPlan) (path : String) : Call Unit := do
  if ← ask (.pathExists path) then pure ()
  else if ← ask (.pathExists (initialSyncMarker plan)) then pure ()
  else
    fileStep fl "ui-bisync-coordinator-could-not-create-sharepoint-access-marker-error"
      (ask (.createNew path (accessMarkerText connection)))

def ensureLocalAccessMarker (connection : Connection) (plan : RcloneBisyncPlan) : Call Unit := do
  match plan.accessMarkerName with
  | none => pure ()
  | some name => do
      createLocalAccessMarker fl connection plan (Path.join connection.localPath name)
      validateLocalAccessMarker fl connection plan

/-- A OneDrive mirror shows every failure of its anchors as one. -/
def anchorFailure (connection : Connection) (error : String) : String :=
  if connection.provider = .onedrive then fl ⟨"onedrive-anchor-invalid", []⟩ else error

def prepareInputs (connection : Connection) (plan : RcloneBisyncPlan) (mode : BisyncMode) : Call Unit := do
  Program.ensure (!(← isSymlink connection.localPath)) (fl ⟨"mirror-access-unavailable", []⟩)
  Program.ensure (!(← isSymlink plan.recoveryDirectory))
    (fl ⟨"ui-bisync-coordinator-recovery-root-is-a-symlink", []⟩)
  createDirAll fl "ui-bisync-coordinator-could-not-create-mirror-directory-error" connection.localPath
  createDirAll fl "ui-bisync-coordinator-could-not-create-bisync-work-directory-error" plan.workDirectory
  createDirAll fl "ui-bisync-coordinator-could-not-create-recovery-directory-error" plan.recoveryDirectory
  writeAtomic fl plan.filtersFile (rcloneBisyncFilterFileForConnection connection)
  if isRcloneOneDrive connection && mode == .initialPreview then pure ()
  else Program.reporting (anchorFailure fl connection) (ensureLocalAccessMarker fl connection plan)

end Inputs

/-! ## The requests of a run -/

section Requests

variable (fl : Message → String) (plan : RcloneBisyncPlan)

def liveProgressLogPath : String := Path.join plan.workDirectory "live-progress.jsonl"

def liveProgressStatePath : String := Path.join plan.workDirectory "live-progress-state.json"

def previewCountPath : String := Path.join plan.workDirectory "preview-pending.json"

/-- The remote recovery directory of a day. -/
def remoteDay (day : String) : String := remoteTarget plan day

def backupDirectory (day : String) (option : String) : String :=
  if option = "--backup-dir1" then remoteDay plan day else Path.join plan.recoveryDirectory day

def isBackupOption (argument : String) : Bool := argument == "--backup-dir1" || argument == "--backup-dir2"

/-- The planned arguments with the directories of the day. -/
def datedArguments (day : String) : List String → List String
  | [] => []
  | [argument] => if isBackupOption argument then [argument, backupDirectory plan day argument] else [argument]
  | argument :: next :: rest =>
      if isBackupOption argument then argument :: backupDirectory plan day argument :: datedArguments day rest
      else argument :: datedArguments day (next :: rest)

def scheduledArguments : List String :=
  ["--use-json-log", "--log-file", liveProgressLogPath plan, "--log-level", "INFO"]

def requestArguments (mode : BisyncMode) (day stamp : String) : List String :=
  datedArguments plan day plan.service.arguments ++ ["--suffix", "-" ++ stamp] ++
  (if mode.isInitial then ["--resync"] else []) ++ (if mode.isPreview then ["--dry-run"] else []) ++
  (if mode = .scheduled then scheduledArguments plan else [])

def bisyncRequest (mode : BisyncMode) (day stamp : String) : Call CommandRequest :=
  request fl (requestArguments plan mode day stamp) (if mode.isPreview then 2 * oneMinute else quarterHour)

def checkArguments : List String :=
  ["check", plan.path1Remote, plan.path2Local, "--checksum", "--filter-from", plan.filtersFile]

end Requests

/-! ## Time and progress -/

/-- The day of a time, and the time as `YYYYMMDDThhmmss.nnnnnnnnn`. -/
def utcDayAndStamp (now : Int) : Except Message (String × String) :=
  if now < 0 then .error ⟨"ui-bisync-coordinator-system-clock-precedes-unix-epoch", []⟩
  else do
    let day ← utcDay now
    let seconds := (now / nanosPerSecond).toNat
    let date ← utcTm seconds
    let clock := Calendar.padded 2 (seconds % 86400 / 3600) ++ Calendar.padded 2 (seconds % 3600 / 60) ++
      Calendar.padded 2 (seconds % 60)
    return (day, .ofList (Calendar.padded 4 date.year ++ Calendar.padded 2 date.month ++
      Calendar.padded 2 date.day ++ 'T' :: clock ++
        '.' :: Calendar.padded 9 (now % nanosPerSecond).toNat))

def isAsciiHexdigit (c : Char) : Bool := isLowerHex c || ('A' ≤ c && c ≤ 'F')

def progressState (invocation : String) : String :=
  "\x7b\"version\":1,\"invocation_id\":\"" ++ invocation ++ "\"\x7d\n"

/-- The progress of a scheduled run is told by the invocation of its service. -/
def prepareScheduledProgress (fl : Message → String) (plan : RcloneBisyncPlan) : Call Unit := do
  match ← ask .invocationId with
  | none => throw (fl ⟨"ui-bisync-coordinator-systemd-invocation-id-is-unavailable", []⟩)
  | some invocation => do
      Program.ensure (invocation.utf8ByteSize == 32 && invocation.toList.all isAsciiHexdigit)
        (fl ⟨"ui-bisync-coordinator-systemd-invocation-id-is-invalid", []⟩)
      writeAtomic fl (liveProgressLogPath plan) ""
      writeAtomic fl (liveProgressStatePath plan) (progressState invocation)

/-! ## The remote side -/

section Remote

variable (ext : Externals) (json : SerdeJson)

/-- A command whose failure is told as one of this stage. -/
def runCommand (stage : String) (request : CommandRequest) : Call CommandOutput :=
  Program.reporting (commandFailure ext.fl json stage) (ExceptT.mk (ask (.run request)))

def validateRemoteAccessMarker (connection : Connection) (plan : RcloneBisyncPlan) (mode : BisyncMode) :
    Call Unit := do
  match plan.accessMarkerName with
  | none => pure ()
  | some name =>
      if mode.isInitial then pure ()
      else do
        let remote := Str.trimEndMatches '/' plan.path1Remote ++ "/" ++ name
        let request ← request ext.fl ["cat", remote] oneMinute
        let output ← Program.reporting
          (fun _ : CommandError ↦ ext.fl ⟨"ui-bisync-coordinator-sharepoint-remote-access-marker-is-missing", []⟩)
          (ExceptT.mk (ask (.run request)))
        let text ← complete ext.fl output "ui-bisync-coordinator-sharepoint-remote-access-marker"
        Program.ensure (Str.trimEnd text == connection.id.text)
          (ext.fl ⟨"ui-bisync-coordinator-sharepoint-remote-access-marker-changed", []⟩)

/-! ## Recovery -/

def validateLocalOwner (directory : String) (id : ConnectionId) : Call Unit := do
  let marker := Path.join directory ownerMarker
  match ← ask (.symlinkMetadata marker) with
  | .ok _ => do
      Program.ensure (!(← isSymlink marker))
        (ext.fl ⟨"ui-bisync-coordinator-local-recovery-owner-marker-is-a-symlink", []⟩)
      let owner ← fileStep ext.fl "ui-bisync-coordinator-could-not-read-recovery-owner-error"
        (ask (.readToString marker))
      Program.ensure (Str.trimEnd owner == id.text)
        (ext.fl ⟨"ui-bisync-coordinator-local-recovery-directory-belongs-to-another-connection", []⟩)
  | .error _ => do
      let entries ← fileStep ext.fl "ui-bisync-coordinator-could-not-inspect-recovery-directory-error"
        (ask (.readDir directory))
      Program.ensure entries.isEmpty
        (ext.fl ⟨"ui-bisync-coordinator-local-recovery-directory-is-not-applet-owned", []⟩)

def prepareLocalRecovery (connection : Connection) (plan : RcloneBisyncPlan) (day : String) : Call Unit := do
  let directory := Path.join plan.recoveryDirectory day
  Program.ensure (!(← isSymlink directory)) (ext.fl ⟨"ui-bisync-coordinator-recovery-path-is-a-symlink", []⟩)
  createDirAll ext.fl "ui-bisync-coordinator-could-not-create-local-recovery-directory-error" directory
  validateLocalOwner ext directory connection.id
  writeAtomic ext.fl (Path.join directory ownerMarker) (connection.id.text ++ "\n")

/-- The owner named on the remote; none where the marker cannot be read there. -/
def remoteOwner (remote : String) : Call String := do
  let request ← request ext.fl ["cat", remoteMarker remote] oneMinute
  match ← ask (.run request) with
  | .ok output => do
      let text ← complete ext.fl output "ui-bisync-coordinator-remote-recovery-owner"
      pure (Str.trimEnd text)
  | .error (.nonZero ..) => pure ""
  | .error error => throw (commandFailure ext.fl json
      (ext.fl ⟨"ui-bisync-coordinator-remote-recovery-owner-inspection", []⟩) error)

/-- A directory without an owner has to be empty. -/
def checkRemoteOwner (id : ConnectionId) (remote owner : String) : Call Unit := do
  Program.ensure (owner == "" || owner == id.text)
    (ext.fl ⟨"ui-bisync-coordinator-remote-recovery-directory-belongs-to-another-connection", []⟩)
  if owner = "" then do
    let request ← request ext.fl ["lsf", remote] oneMinute
    let listing ← runCommand ext json
      (ext.fl ⟨"ui-bisync-coordinator-remote-recovery-ownership-check", []⟩) request
    let text ← complete ext.fl listing "ui-bisync-coordinator-remote-recovery-listing"
    Program.ensure (Str.trim text == "")
      (ext.fl ⟨"ui-bisync-coordinator-remote-recovery-directory-is-not-applet-owned", []⟩)
  else pure ()

def publishRemoteOwner (id : ConnectionId) (plan : RcloneBisyncPlan) (remote : String) : Call Unit := do
  let uuid ← ask .newUuid
  let marker := Path.join plan.workDirectory (".remote-owner-" ++ uuid.text ++ ".tmp")
  ExceptT.mk (ask (.writePrivate marker (id.text ++ "\n")))
  -- a refused argument leaves the file behind
  let request ← request ext.fl ["copyto", marker, remoteMarker remote] oneMinute
  let result ← Program.attempt (runCommand ext json
    (ext.fl ⟨"ui-bisync-coordinator-remote-recovery-owner-publication", []⟩) request)
  let _ ← ask (.removeFile marker)
  let _ ← Program.check result
  pure ()

def prepareRemoteRecovery (connection : Connection) (plan : RcloneBisyncPlan) (day : String) : Call Unit := do
  let remote := remoteDay plan day
  let request ← request ext.fl ["mkdir", remote] oneMinute
  let _ ← runCommand ext json (ext.fl ⟨"ui-bisync-coordinator-remote-recovery-preparation", []⟩) request
  let owner ← remoteOwner ext json remote
  checkRemoteOwner ext json connection.id remote owner
  publishRemoteOwner ext json connection.id plan remote

def prepareRecovery (connection : Connection) (plan : RcloneBisyncPlan) (day : String) : Call Unit := do
  prepareLocalRecovery ext connection plan day
  prepareRemoteRecovery ext json connection plan day

/-! ## Verification -/

def verifyConvergence (plan : RcloneBisyncPlan) (mode : BisyncMode) (day stamp : String) : Call Unit := do
  if plan.verifyAfterSync then do
    let again ← bisyncRequest ext.fl plan (if mode = .initialSync then .sync else mode) day stamp
    let _ ← runCommand ext json (ext.fl ⟨"ui-bisync-coordinator-sharepoint-convergence", []⟩) again
    let check ← request ext.fl (checkArguments plan) quarterHour
    let _ ← runCommand ext json (ext.fl ⟨"ui-bisync-coordinator-sharepoint-verification", []⟩) check
    pure ()
  else pure ()

def checksAnchors (connection : Connection) (mode : BisyncMode) : Bool :=
  isRcloneOneDrive connection && (mode == .initialSync || mode == .sync)

/-- The anchors may be on a shadowed directory only, or removed during the transfer. -/
def verifyAnchors (connection : Connection) (paths : LocalMirrorPaths) (plan : RcloneBisyncPlan)
    (mode : BisyncMode) : Call Unit := do
  if checksAnchors connection mode then do
    let invalid : String := ext.fl ⟨"onedrive-anchor-invalid", []⟩
    Program.reporting (fun _ : String ↦ invalid) (validateLocalAccessMarker ext.fl
      { connection with localPath := paths.mirror } { plan with recoveryDirectory := paths.recovery })
    Program.reporting (fun _ : String ↦ invalid) (validateRemoteAccessMarker ext connection plan .sync)
    let check ← request ext.fl (checkArguments plan) quarterHour
    let _ ← Program.reporting
      (fun _ : CommandError ↦ ext.fl ⟨"onedrive-checksum-verification-failed", []⟩)
      (ExceptT.mk (ask (.run check)))
    pure ()
  else pure ()

end Remote

/-! ## The transaction -/

section Transaction

variable (ext : Externals) (json : SerdeJson) (timestamp : Preview.ParseTimestamp)

def bisyncStage (mode : BisyncMode) : String :=
  ext.fl ⟨"ui-bisync-coordinator-bisync-value1", [("value1", mode.asStr)]⟩

def previewListing (target filters : String) : ExceptT Message (Program HostRequest.Answer) String := do
  match Preview.lsjsonRequest target filters with
  | none => throw ⟨"pending-count-request-failed", []⟩
  | some request =>
      match ← ask (.run request) with
      | .error _ => throw ⟨"pending-count-rclone-mirror-unavailable", []⟩
      | .ok output =>
          if output.stdout.truncated || output.stdout.invalidUtf8 then throw Preview.responseIncomplete
          else pure output.stdout.text

/-- `rclone_preview_snapshot`, asking for its two listings. -/
def previewSnapshot (remote local' filters : String) : ExceptT Message (Program HostRequest.Answer) Nat := do
  Program.ensure (!(← ask .isCancelled)) ⟨"microsoft-oauth-cancelled", []⟩
  let remote ← previewListing remote filters
  let local' ← previewListing local' filters
  Program.ensure (!(← ask .isCancelled)) ⟨"microsoft-oauth-cancelled", []⟩
  Program.check (Preview.previewInventoryDifference json timestamp remote local')

def previewCount (id : ConnectionId) (observedUnixSeconds : Nat) (files : Option Nat) : Value :=
  .ofFields [("version", .number (.unsigned 1)), ("connection_id", .string id.text),
    ("observed_unix_seconds", .number (.unsigned observedUnixSeconds)),
    ("files", files.elim .null fun n ↦ .number (.unsigned n))]

/-- What the preview found is left for the display, also that it found nothing out. -/
def publishEstimate (connection : Connection) (plan : RcloneBisyncPlan) : Call (Except String Nat) := do
  let estimate ← (previewSnapshot json timestamp plan.path1Remote plan.path2Local plan.filtersFile).run
  Program.ensure (!(← ask .isCancelled)) (ext.fl ⟨"microsoft-oauth-cancelled", []⟩)
  let now ← ask .now
  Program.ensure (decide (0 ≤ now)) (ext.fl Preview.responseIncomplete)
  let report := previewCount connection.id (now / nanosPerSecond).toNat estimate.toOption
  writeAtomic ext.fl (previewCountPath plan) (json.toString report)
  return estimate.mapError ext.fl

def pendingEstimate (connection : Connection) (plan : RcloneBisyncPlan) :
    Call (Option (Except String Nat)) := do
  if isRcloneOneDrive connection then do
    let estimate ← publishEstimate ext json timestamp connection plan
    pure (some estimate)
  else pure none

def confirmPreview (plan : RcloneBisyncPlan) (mode : BisyncMode) : Call Unit :=
  if mode = .initialPreview then
    writeAtomic ext.fl (initialPreviewMarker plan) "Cloud Mounter initial Preview completed.\n"
  else pure ()

def preview (connection : Connection) (plan : RcloneBisyncPlan) (mode : BisyncMode)
    (request : CommandRequest) : Call BisyncOutcome := do
  let output ← runCommand ext json (bisyncStage ext mode) request
  let pending ← pendingEstimate ext json timestamp connection plan
  confirmPreview ext plan mode
  return ⟨output, pending, []⟩

def confirmSync (plan : RcloneBisyncPlan) (mode : BisyncMode) : Call Unit := do
  if mode = .initialSync then do
    writeAtomic ext.fl (initialSyncMarker plan) "Cloud Mounter initial synchronization completed.\n"
    removeIfExists ext.fl (initialPreviewMarker plan)
  else pure ()

def synchronize (connection : Connection) (paths : LocalMirrorPaths) (plan : RcloneBisyncPlan)
    (mode : BisyncMode) (day stamp : String) (request : CommandRequest) : Call BisyncOutcome := do
  let localPlan := { plan with recoveryDirectory := paths.recovery }
  prepareRecovery ext json connection localPlan day
  let output ← runCommand ext json (bisyncStage ext mode) request
  verifyConvergence ext json plan mode day stamp
  verifyAnchors ext connection paths plan mode
  let warnings ← cleanupRetention ext.fl connection localPlan
  confirmSync ext plan mode
  return ⟨output, none, warnings.map ext.fl⟩

def runTransaction (connection : Connection) (paths : LocalMirrorPaths) (plan : RcloneBisyncPlan)
    (mode : BisyncMode) : Call BisyncOutcome := do
  let now ← ask .now
  let (day, stamp) ← Program.check ((utcDayAndStamp now).mapError ext.fl)
  (if mode = .scheduled then prepareScheduledProgress ext.fl plan else pure ())
  Program.reporting (anchorFailure ext.fl connection) (validateRemoteAccessMarker ext connection plan mode)
  let request ← bisyncRequest ext.fl plan mode day stamp
  if mode.isPreview then preview ext json timestamp connection plan mode request
  else synchronize ext json connection paths plan mode day stamp request

/-! ## The record -/

/-- No other operation may be running by the record. -/
def claimRecord (connection : Connection) (mode : BisyncMode) (state : String) : Call Unit := do
  let existing ← readState state
  Program.ensure (existing.all (·.state != .running))
    (ext.fl ⟨"ui-bisync-coordinator-another-offline-mirror-operation-is-already-running", []⟩)
  let running ← newState connection.id mode.operation .running
  writeState state running

def finalState (result : Except String BisyncOutcome) : Ask OfflineOperationState := do
  match result with
  | .ok _ => return .succeeded
  | .error _ => return if ← ask .isCancelled then .cancelled else .failed

def warningsOf : Except String BisyncOutcome → List String
  | .ok outcome => outcome.warnings
  | .error _ => []

/-- Run what the record tells of, and record what came of it. -/
def recorded (connection : Connection) (mode : BisyncMode) (state : String)
    (transaction : Call BisyncOutcome) : Call BisyncOutcome := do
  claimRecord ext connection mode state
  let result ← Program.attempt transaction
  let ended ← finalState result
  let record ← newState connection.id mode.operation ended
  let written ← Program.attempt (writeState state { record with warnings := warningsOf result })
  let outcome ← Program.check result
  Program.check written
  return outcome

/-- What is done before the record is claimed: the lock is held already. -/
def prepare (connection : Connection) (mode : BisyncMode) (plan : RcloneBisyncPlan) :
    Call LocalMirrorPaths := do
  validateModeMarkers ext.fl mode plan
  verifyBinding ext connection
  let paths ← LocalMirrorPaths.resolve ext connection
  prepareInputs ext.fl { connection with localPath := paths.mirror }
    { plan with recoveryDirectory := paths.recovery } mode
  (if isRcloneOneDrive connection then removeIfExists ext.fl (previewCountPath plan) else pure ())
  return paths

def runPlan (connection : Connection) (mode : BisyncMode) (workRoot : String) (plan : RcloneBisyncPlan) :
    Call BisyncOutcome := do
  let directory := coordinatorDirectory workRoot connection.id
  acquireGuard directory
  holding directory do
    let paths ← prepare ext connection mode plan
    recorded ext connection mode (statePath workRoot connection.id)
      (runTransaction ext json timestamp connection paths plan mode)

def run (connection : Connection) (mode : BisyncMode) (workRoot : String) : Call BisyncOutcome := do
  Program.check ((validateConnection connection).mapError ext.fl)
  let plan ← Program.check ((rcloneBisyncPlan ext connection workRoot).mapError fun error ↦ ext.fl error.message)
  runPlan ext json timestamp connection mode workRoot plan

end Transaction

end Coordinator

end CosmicMounter

import CosmicMounter.Rust.Result
import CosmicMounter.Sync.Binding

/-!
# The plan of a mirror

`rclone_bisync_plan` (`sync.rs`): where a mirror keeps its state, which remote
and local directories it synchronizes, and with which arguments.
-/

namespace CosmicMounter

open Rust

structure RcloneBisyncPlan where
  connectionId : ConnectionId
  path1Remote : String
  path2Local : String
  workDirectory : String
  recoveryDirectory : String
  remoteRecoveryPath : String
  filtersFile : String
  preflightCommand : Option ServiceCommand
  verifyAfterSync : Bool
  accessMarkerName : Option String
  service : ServiceSpec
  timer : TimerSpec
  deriving DecidableEq, Repr

def pathsOverlap (first second : String) : Bool :=
  decide (Path.Same first second) || Path.startsWith second first || Path.startsWith first second

def validateDirectoryRoots (mirror workRoot recovery : String) : Except SyncError Unit :=
  if !Path.isAbsolute workRoot || pathsOverlap mirror workRoot then
    .error .invalidWorkDirectory
  else if !Path.isAbsolute recovery || pathsOverlap mirror recovery ||
      pathsOverlap workRoot recovery then
    .error .invalidRecoveryDirectory
  else .ok ()

def offlineOptions (connection : Connection) : Except SyncError OfflineMirrorConfig :=
  match connection.mode with
  | .offlineMirror options => .ok options
  | .onlineMount _ => .error .invalidMode

/-! ## Remote locations -/

def recoveryRoot : String := ".cosmic-mounter-recovery"

def recoveryName (id : ConnectionId) : String := recoveryRoot ++ "/" ++ id.text

/-- The folder that holds the recovery area of a share: the folder above the
mirrored one, but the mirrored one itself when it has a single component. -/
def smbRecoveryComponents (subpath : String) : List String :=
  let components := (Str.split '/' subpath).filter (· != "")
  if components.length > 1 then components.dropLast else components

def smbRecoverySubpath (subpath : String) (id : ConnectionId) : String :=
  let components := smbRecoveryComponents subpath
  if components.isEmpty then recoveryName id
  else Str.join "/" components ++ "/" ++ recoveryName id

def rcloneRemoteRecoveryPath (provider : Provider) (reference : String)
    (subpath : Option String) (id : ConnectionId) : Except SyncError String := do
  validateRemoteName reference
  match provider, subpath with
  | .teams, some folder | .onedrive, some folder => do
      validateRemoteSubpath folder
      rcloneRemotePath reference (some (folder ++ "/" ++ recoveryName id))
  | .smb, some folder => do
      validateRemoteSubpath folder
      rcloneRemotePath reference (some (smbRecoverySubpath folder id))
  | _, _ => rcloneRemotePath reference (some (recoveryName id))

def path1Remote (connection : Connection) : Except SyncError String :=
  if connection.provider = .sftp then
    sftpRemotePath connection.remoteReference connection.remoteSubpath
  else rcloneRemotePath connection.remoteReference connection.remoteSubpath

/-! ## The work directory -/

/-- The text that names the verified target, for the providers that have one. -/
def encodedTarget (ext : Externals) (connection : Connection) :
    Except SyncError (Option String) :=
  match connection.provider with
  | .teams => ((SharePoint.MirrorGuardBinding.fromConnection ext connection).mapError
      fun _ ↦ .invalidSharePointIdentity).map fun binding ↦ some binding.json.text
  | .onedrive =>
      if connection.offlineEngine = some .rclone then
        ((OneDrive.MirrorGuardBinding.fromConnection connection).mapError
          fun _ ↦ .invalidOneDriveIdentity).map fun binding ↦ some binding.json.text
      else .ok none
  | _ => .ok none

def targetName (ext : Externals) (encoded : String) : String :=
  "target-" ++ ext.sha256Hex encoded

/-- The directory of a connection's synchronization state, before a target is bound. -/
def bisyncDirectory (workRoot : String) (id : ConnectionId) : String :=
  Path.join (Path.join workRoot "rclone-bisync") id.text

def workDirectoryFor (ext : Externals) (workRoot : String) (id : ConnectionId) :
    Option String → String
  | none => bisyncDirectory workRoot id
  | some encoded => Path.join (bisyncDirectory workRoot id) (targetName ext encoded)

/-! ## The command -/

def bisyncArguments (connection : Connection) (options : OfflineMirrorConfig)
    (remote workDirectory remoteRecovery filtersFile : String) : List String :=
  ["bisync", remote, connection.localPath, "--workdir", workDirectory,
    "--backup-dir1", remoteRecovery, "--backup-dir2", options.recoveryDirectory,
    "--resilient", "--recover", "--max-lock", "2m", "--conflict-resolve", "none",
    "--conflict-loser", "pathname", "--conflict-suffix", "conflict",
    "--create-empty-src-dirs", "--compare",
    if connection.provider = .teams then "modtime,checksum" else "size,modtime",
    "--max-delete", "50"] ++
  (if connection.provider = .teams then
    ["--modify-window", "1s", "--ignore-size", "--ignore-checksum", "--check-sync", "false"]
  else []) ++
  ["--filters-file", filtersFile, "--log-level", "INFO"]

/-- The guard of the bound providers, run with the binding as its argument. -/
def preflightCommand (ext : Externals) (connection : Connection) :
    Except SyncError (Option ServiceCommand) := do
  match ← encodedTarget ext connection, connection.provider with
  | some encoded, .teams =>
      ((guardServiceCommand ext.mode [SharePoint.mirrorGuardFlag, encoded]).mapError
        fun _ ↦ .invalidSharePointIdentity).map some
  | some encoded, _ =>
      ((guardServiceCommand ext.mode [OneDrive.mirrorGuardFlag, encoded]).mapError
        fun _ ↦ .invalidOneDriveIdentity).map some
  | none, _ => return none

def accessMarkerName (connection : Connection) : Option String :=
  match connection.provider with
  | .teams => some (".cloud-mounter-sharepoint-anchor-" ++ connection.id.text)
  | .onedrive => some (".cloud-mounter-onedrive-anchor-" ++ connection.id.text)
  | _ => none

/-- The library of a SharePoint mirror lies in its site. -/
def validateTeamsIdentity (ext : Externals) (connection : Connection) : Except SyncError Unit :=
  if connection.provider = .teams then
    match connection.teamsIdentity with
    | none => .error .invalidSharePointIdentity
    | some identity =>
        match ext.parseLibraryUrl identity.libraryUrl with
        | .error _ => .error .invalidSharePointIdentity
        | .ok parsed =>
            if Str.trim identity.driveId = "" ∨ parsed.siteUrl ≠ identity.siteUrl then
              .error .invalidSharePointIdentity
            else .ok ()
  else .ok ()

def secondsToNanos (seconds : Nat) : Nat := seconds * 1000000000

def rcloneBisyncPlanInner (ext : Externals) (connection : Connection) (workRoot : String) :
    Except SyncError RcloneBisyncPlan := do
  let options ← offlineOptions connection
  validateTeamsIdentity ext connection
  validateDirectoryRoots connection.localPath workRoot options.recoveryDirectory
  let remote ← path1Remote connection
  let workDirectory := workDirectoryFor ext workRoot connection.id (← encodedTarget ext connection)
  let remoteRecovery ← rcloneRemoteRecoveryPath connection.provider connection.remoteReference
    connection.remoteSubpath connection.id
  let filtersFile := Path.join workDirectory "filters.txt"
  let preflight ← preflightCommand ext connection
  let readiness ← (guardServiceCommand ext.mode
    [offlineReadinessGuardFlag, connection.id.text]).mapError fun _ ↦ .invalidRemoteReference
  return {
    connectionId := connection.id
    path1Remote := remote
    path2Local := connection.localPath
    workDirectory := workDirectory
    recoveryDirectory := options.recoveryDirectory
    remoteRecoveryPath := remoteRecovery
    filtersFile := filtersFile
    preflightCommand := preflight
    verifyAfterSync := connection.provider = .teams
    accessMarkerName := accessMarkerName connection
    service := {
      connectionId := connection.id
      description := ext.fl ⟨"ui-sync-cloud-mounter-sync-value1", [("value1", connection.name)]⟩
      executable := "/usr/bin/rclone"
      arguments := bisyncArguments connection options remote workDirectory remoteRecovery filtersFile
      preStartCondition := some readiness
      restartOnFailure := false
      skipOnMetered := !options.syncOnMetered }
    timer := {
      connectionId := connection.id
      description := ext.fl
        ⟨"ui-sync-cloud-mounter-sync-schedule-value1", [("value1", connection.name)]⟩
      interval := secondsToNanos (options.syncIntervalMinutes * 60)
      persistent := true } }

def validateProvider (connection : Connection) : Except SyncError Unit :=
  match connection.provider with
  | .onedrive =>
      if connection.offlineEngine = some .rclone then
        ((OneDrive.MirrorGuardBinding.fromConnection connection).mapError
          fun _ ↦ .invalidOneDriveIdentity).map fun _ ↦ ()
      else .error (.unsupportedProvider .onedrive)
  | _ => .ok ()

def rcloneBisyncPlan (ext : Externals) (connection : Connection) (workRoot : String) :
    Except SyncError RcloneBisyncPlan := do
  connection.ensureSupportedEngine.mapError .unsupportedEngine
  validateProvider connection
  rcloneBisyncPlanInner ext connection workRoot

/-- What a successful planning has checked, and where the plan's parts come from. -/
structure Planned (ext : Externals) (connection : Connection) (workRoot : String)
    (plan : RcloneBisyncPlan) : Prop where
  engine : connection.ensureSupportedEngine = .ok ()
  provider : validateProvider connection = .ok ()
  connectionId : plan.connectionId = connection.id
  path1Remote : path1Remote connection = .ok plan.path1Remote
  path2Local : plan.path2Local = connection.localPath
  remoteRecovery : rcloneRemoteRecoveryPath connection.provider connection.remoteReference
    connection.remoteSubpath connection.id = .ok plan.remoteRecoveryPath
  workDirectory : ∃ encoded, encodedTarget ext connection = .ok encoded ∧
    plan.workDirectory = workDirectoryFor ext workRoot connection.id encoded
  filtersFile : plan.filtersFile = Path.join plan.workDirectory "filters.txt"
  options : ∃ options, connection.mode = .offlineMirror options ∧
    validateDirectoryRoots connection.localPath workRoot options.recoveryDirectory = .ok () ∧
    plan.recoveryDirectory = options.recoveryDirectory ∧
    plan.service.arguments = bisyncArguments connection options plan.path1Remote
      plan.workDirectory plan.remoteRecoveryPath plan.filtersFile
  verifyAfterSync : plan.verifyAfterSync = decide (connection.provider = .teams)
  accessMarker : plan.accessMarkerName = accessMarkerName connection

theorem offlineOptions_eq_ok {connection : Connection} {options : OfflineMirrorConfig}
    (h : offlineOptions connection = .ok options) : connection.mode = .offlineMirror options := by
  unfold offlineOptions at h
  split at h
  · rename_i hmode
    rw [hmode, Except.ok.inj h]
  · cases h

theorem planned {ext : Externals} {connection : Connection} {workRoot : String}
    {plan : RcloneBisyncPlan} (h : rcloneBisyncPlan ext connection workRoot = .ok plan) :
    Planned ext connection workRoot plan := by
  obtain ⟨⟨⟩, hengine, h⟩ := Result.bind_eq_ok h
  obtain ⟨⟨⟩, hprovider, h⟩ := Result.bind_eq_ok h
  obtain ⟨options, hoptions, h⟩ := Result.bind_eq_ok h
  obtain ⟨⟨⟩, -, h⟩ := Result.bind_eq_ok h
  obtain ⟨⟨⟩, hroots, h⟩ := Result.bind_eq_ok h
  obtain ⟨remote, hremote, h⟩ := Result.bind_eq_ok h
  obtain ⟨encoded, hencoded, h⟩ := Result.bind_eq_ok h
  obtain ⟨recovery, hrecovery, h⟩ := Result.bind_eq_ok h
  obtain ⟨preflight, -, h⟩ := Result.bind_eq_ok h
  obtain ⟨readiness, -, h⟩ := Result.bind_eq_ok h
  obtain rfl := Except.ok.inj h
  have hsupported : connection.ensureSupportedEngine = .ok () := by
    revert hengine
    cases connection.ensureSupportedEngine with
    | error e => intro hengine; cases hengine
    | ok a => exact fun _ ↦ rfl
  exact {
    engine := hsupported
    provider := hprovider
    connectionId := rfl
    path1Remote := hremote
    path2Local := rfl
    remoteRecovery := hrecovery
    workDirectory := ⟨encoded, hencoded, rfl⟩
    filtersFile := rfl
    options := ⟨options, offlineOptions_eq_ok hoptions, hroots, rfl, rfl⟩
    verifyAfterSync := rfl
    accessMarker := rfl }

/-! ## The markers of a baseline (`bisync_coordinator.rs`) -/

def initialPreviewMarker (plan : RcloneBisyncPlan) : String :=
  Path.join plan.workDirectory "initial-preview-confirmable"

def initialSyncMarker (plan : RcloneBisyncPlan) : String :=
  Path.join plan.workDirectory "initial-sync-complete"

/-! ## Filters -/

def googleNativeFilterFile : String :=
  Str.unlines [
    "# Cloud Mounter: Google cloud-native documents stay browser-accessible.",
    "- **.gdoc", "- **.gsheet", "- **.gslides", "- **.gdraw", "- **.gform", "- **.gmap",
    "- **.gsite", "+ **"]

def rcloneBisyncFilterFile : Provider → String
  | .googleDrive => googleNativeFilterFile
  | .onedrive => Str.unlines [
      "# OneDrive recovery stays outside the synchronized set.",
      "- /.cosmic-mounter-recovery/", "- **.one", "- **.onepkg", "- **.lnk", "- **.url", "+ **"]
  | .teams => Str.unlines [
      "# Keep SharePoint recovery outside the synchronized set.",
      "- /.cosmic-mounter-recovery/", "+ **"]
  | _ => Str.unlines ["+ **"]

/-- No folder, or one that is the root in other words. -/
def mirrorsRoot (connection : Connection) : Bool :=
  connection.remoteSubpath.all fun path ↦ (Path.components path).all (· == .curDir)

def rcloneBisyncFilterFileForConnection (connection : Connection) : String :=
  if mirrorsRoot connection ∧ (connection.provider = .box ∨ connection.provider = .googleDrive) then
    Str.unlines ["- /.cosmic-mounter-recovery/"] ++ rcloneBisyncFilterFile connection.provider
  else rcloneBisyncFilterFile connection.provider

/-! ## Samples -/

def sampleExternals : Externals where
  fl message := message.key
  mode := .flatpakSpawnHost
  sha256Hex _ := "00"
  parseLibraryUrl _ := .error ⟨"ui-teams-enter-a-sharepoint-library-url", []⟩

def sampleMirror (provider : Provider) (subpath : Option String) : Connection where
  id := sampleId
  name := "Engineering Mirror"
  provider := provider
  mode := .offlineMirror { recoveryDirectory := "/home/u/recovery" }
  remoteReference := "engr"
  remoteSubpath := subpath
  localPath := "/home/u/Cloud"

end CosmicMounter

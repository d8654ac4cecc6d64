import CosmicMounter.Data.Json
import CosmicMounter.Services.Unit

/-!
# Remote names and bound targets

The checks on remote names and folders (`sync.rs`, `providers.rs`) and the
bindings of a mirror to its verified drive (`sharepoint.rs`, `onedrive.rs`),
whose JSON text names the target.
-/

namespace CosmicMounter

open Rust

/-- What the planner takes from the running program and from other packages. -/
structure Externals where
  fl : Message → String
  mode : CommandExecutionMode
  sha256Hex : String → String
  parseLibraryUrl : String → Except Message SharePointLibraryIdentity

inductive SyncError
  | invalidMode
  | unsupportedEngine (engine : OfflineEngine)
  | unsupportedProvider (provider : Provider)
  | invalidRemoteReference
  | invalidRemoteSubpath
  | invalidSharePointIdentity
  | invalidOneDriveIdentity
  | invalidWorkDirectory
  | invalidRecoveryDirectory
  deriving DecidableEq, Repr

/-- The name under which a provider is reported. -/
def Provider.debugName : Provider → String
  | .onedrive => "OneDrive"
  | .teams => "Teams"
  | .googleDrive => "GoogleDrive"
  | .box => "Box"
  | .smb => "Smb"
  | .sftp => "Sftp"

def SyncError.message : SyncError → Message
  | .invalidMode => ⟨"ui-sync-connection-is-not-an-offline-mirror", []⟩
  | .unsupportedEngine _ => ⟨"onedrive-legacy-engine-retired", []⟩
  | .unsupportedProvider provider =>
      ⟨"ui-sync-unsupported-provider-provider", [("provider", provider.debugName)]⟩
  | .invalidRemoteReference => ⟨"ui-sync-invalid-remote-reference", []⟩
  | .invalidRemoteSubpath => ⟨"ui-sync-invalid-remote-subpath", []⟩
  | .invalidSharePointIdentity => ⟨"ui-sync-invalid-sharepoint-library-identity", []⟩
  | .invalidOneDriveIdentity => ⟨"onedrive-wrong-drive", []⟩
  | .invalidWorkDirectory => ⟨"ui-sync-invalid-work-directory", []⟩
  | .invalidRecoveryDirectory => ⟨"ui-sync-invalid-recovery-directory", []⟩

/-! ## Remote names -/

def isAsciiAlphanumeric (c : Char) : Bool :=
  c.isDigit || ('a' ≤ c && c ≤ 'z') || ('A' ≤ c && c ≤ 'Z')

def remoteNameIsValid (value : String) : Bool :=
  value != "" && value.toList.all fun c ↦ isAsciiAlphanumeric c || c ∈ ['_', '-', '.', ' ']

/-- The check of `sync.rs`, and with absolute paths allowed that of `providers.rs`. -/
def remoteSubpathIsValid (allowAbsolute : Bool) (value : String) : Bool :=
  Str.trim value != "" && (allowAbsolute || !Path.isAbsolute value) &&
    !value.toList.contains '\\' && !value.toList.any Str.isControl &&
    !(Path.components value).contains .parentDir

def validateRemoteName (value : String) : Except SyncError Unit :=
  if remoteNameIsValid value then .ok () else .error .invalidRemoteReference

def validateRemoteSubpath (value : String) : Except SyncError Unit :=
  if remoteSubpathIsValid false value then .ok () else .error .invalidRemoteSubpath

def validateFolder : Option String → Except SyncError Unit
  | none => .ok ()
  | some folder => validateRemoteSubpath folder

def remotePath (reference : String) (subpath : Option String) : String :=
  reference ++ ":" ++ subpath.getD ""

def rcloneRemotePath (reference : String) (subpath : Option String) :
    Except SyncError String := do
  validateRemoteName reference
  validateFolder subpath
  return remotePath reference subpath

/-- The planner turns every failure of this check into the same error. -/
def sftpRemotePath (reference : String) (subpath : Option String) : Except SyncError String :=
  if remoteNameIsValid reference && subpath.all (remoteSubpathIsValid true) then
    .ok (remotePath reference subpath)
  else .error .invalidRemoteSubpath

/-- A folder given with an empty, `.` or `..` part. -/
def hasIrregularPart (subpath : String) : Bool :=
  (Str.split '/' subpath).any (· ∈ ["", ".", ".."])

/-! ## SharePoint -/

namespace SharePoint

structure MirrorGuardBinding where
  connectionId : ConnectionId
  remoteName : String
  remoteSubpath : String
  localPath : String
  recoveryDirectory : String
  driveId : String
  siteUrl : String
  libraryUrl : String
  deriving DecidableEq, Repr

def mirrorGuardFlag : String := "--verify-teams-mirror"

/-- The fields in the order in which they are serialized. -/
def MirrorGuardBinding.json (binding : MirrorGuardBinding) : Json.Value :=
  Json.object [("connection_id", .string binding.connectionId.text),
    ("remote_name", .string binding.remoteName), ("remote_subpath", .string binding.remoteSubpath),
    ("local_path", .string binding.localPath),
    ("recovery_directory", .string binding.recoveryDirectory),
    ("drive_id", .string binding.driveId), ("site_url", .string binding.siteUrl),
    ("library_url", .string binding.libraryUrl)]

def validateFolder : Option String → Except Message Unit
  | none => .ok ()
  | some subpath => do
      (validateRemoteSubpath subpath).mapError SyncError.message
      if hasIrregularPart subpath then
        .error ⟨"ui-teams-select-a-folder-within-the-sharepoint-library", []⟩
      else .ok ()

def identityIsVerified (ext : Externals) (identity : SharePointLibraryIdentity) : Bool :=
  Str.trim identity.driveId != "" &&
    match ext.parseLibraryUrl identity.libraryUrl with
    | .ok parsed =>
        parsed.siteUrl == identity.siteUrl && parsed.libraryUrl == identity.libraryUrl
    | .error _ => false

def MirrorGuardBinding.fromConnection (ext : Externals) (connection : Connection) :
    Except Message MirrorGuardBinding := do
  let .offlineMirror options := connection.mode
    | .error ⟨"ui-teams-the-sharepoint-mirror-guard-requires-an-offline", []⟩
  if connection.provider ≠ .teams then
    .error ⟨"ui-teams-the-sharepoint-mirror-guard-requires-a-sharepoint", []⟩
  (validateRemoteName connection.remoteReference).mapError SyncError.message
  validateFolder connection.remoteSubpath
  let some identity := connection.teamsIdentity
    | .error ⟨"ui-teams-the-sharepoint-connection-has-no-verified-library", []⟩
  if !identityIsVerified ext identity then
    .error ⟨"ui-teams-the-sharepoint-connection-has-an-invalid-verified", []⟩
  return { connectionId := connection.id
           remoteName := connection.remoteReference
           remoteSubpath := connection.remoteSubpath.getD ""
           localPath := connection.localPath
           recoveryDirectory := options.recoveryDirectory
           driveId := identity.driveId
           siteUrl := identity.siteUrl
           libraryUrl := identity.libraryUrl }

end SharePoint

/-! ## OneDrive -/

def OneDriveDriveType.serialized : OneDriveDriveType → String
  | .personal => "personal"
  | .business => "business"

namespace OneDrive

inductive Error
  | invalidInput
  | invalidState
  | wrongDrive
  deriving DecidableEq, Repr

structure MirrorGuardBinding where
  connectionId : ConnectionId
  remoteName : String
  remoteSubpath : Option String
  localPath : String
  recoveryDirectory : String
  identity : OneDriveIdentity
  deriving DecidableEq, Repr

def mirrorGuardFlag : String := "--verify-onedrive-mirror"

def MirrorGuardBinding.json (binding : MirrorGuardBinding) : Json.Value :=
  Json.object [("connection_id", .string binding.connectionId.text),
    ("remote_name", .string binding.remoteName),
    ("remote_subpath", Json.optional binding.remoteSubpath),
    ("local_path", .string binding.localPath),
    ("recovery_directory", .string binding.recoveryDirectory),
    ("identity", Json.object [("drive_id", .string binding.identity.driveId),
      ("drive_type", .string binding.identity.driveType.serialized)])]

def validateRemote (name : String) : Except Error Unit :=
  if name = "" ∨ name.utf8ByteSize > 96 ∨
      !name.toList.all fun c ↦ isAsciiAlphanumeric c || c ∈ ['_', '.', '-'] then
    .error .invalidInput
  else .ok ()

def validateSubpath (path : String) : Except Error Unit :=
  if !remoteSubpathIsValid false path || hasIrregularPart path || path.utf8ByteSize > 2048 then
    .error .invalidInput
  else .ok ()

def validateFolder : Option String → Except Error Unit
  | none => .ok ()
  | some path => validateSubpath path

def MirrorGuardBinding.fromConnection (connection : Connection) :
    Except Error MirrorGuardBinding := do
  let .offlineMirror options := connection.mode | .error .invalidState
  if connection.provider ≠ .onedrive ∨ connection.offlineEngine ≠ some .rclone then
    .error .invalidState
  validateRemote connection.remoteReference
  validateFolder connection.remoteSubpath
  let some identity := connection.onedriveIdentity.filter OneDriveIdentity.isValid
    | .error .wrongDrive
  return { connectionId := connection.id
           remoteName := connection.remoteReference
           remoteSubpath := connection.remoteSubpath
           localPath := connection.localPath
           recoveryDirectory := options.recoveryDirectory
           identity := identity }

end OneDrive

end CosmicMounter

import CosmicMounter.Config.Paths

/-!
# Validation of the configuration

`Config::validate` and `Config::validate_with_work_root` (`config.rs`): every
error of a document is collected, in the order in which it is found.
-/

namespace CosmicMounter

open Rust

structure PreloadPolicy where
  enabled : Bool
  maximumSeconds : Nat
  maximumDepth : Option Nat
  deriving DecidableEq, Repr

def defaultPreloadSeconds : Nat := 60
def defaultBoxPreloadDepth : Nat := 2
def defaultSmbPreloadDepth : Nat := 3

namespace PreloadPolicy

def sftpDefault : PreloadPolicy := ⟨false, 30, some 2⟩

def withoutDepth : PreloadPolicy := ⟨false, defaultPreloadSeconds, none⟩

def withDepth (maximumDepth : Nat) : PreloadPolicy :=
  ⟨false, defaultPreloadSeconds, some maximumDepth⟩

end PreloadPolicy

structure PreloadSettings where
  googleDrive : PreloadPolicy := .withoutDepth
  onedrive : PreloadPolicy := .withoutDepth
  boxProvider : PreloadPolicy := .withDepth defaultBoxPreloadDepth
  sharepoint : PreloadPolicy := .sftpDefault
  smb : PreloadPolicy := .withDepth defaultSmbPreloadDepth
  sftp : PreloadPolicy := .sftpDefault
  deriving DecidableEq, Repr

inductive ReadinessCheck
  | networkManagerState
  | interface (value : String)
  | route (value : String)
  | dnsName (value : String)
  | endpoint (value : String)
  deriving DecidableEq, Repr

inductive VpnKind
  | networkManager
  | legacyCisco
  deriving DecidableEq, Repr

structure VpnProfile where
  id : VpnProfileId
  name : String
  kind : VpnKind := .networkManager
  externalProfileId : Option String
  readinessChecks : List ReadinessCheck
  timeoutSeconds : Nat
  deriving DecidableEq, Repr

def configSchemaVersion : Nat := 2
def minPreloadSeconds : Nat := 5
def maxPreloadSeconds : Nat := 600
def minPreloadDepth : Nat := 1
def maxPreloadDepth : Nat := 10

structure ConfigDocument where
  schemaVersion : Nat := configSchemaVersion
  notificationsEnabled : Bool := true
  unmountBeforeSleep : Bool := false
  restoreAfterWake : Bool := false
  preload : PreloadSettings := {}
  onedriverPreloadSeconds : Option Nat := none
  connections : List Connection := []
  vpnProfiles : List VpnProfile := []
  deriving DecidableEq, Repr

structure Config where
  document : ConfigDocument
  deriving DecidableEq, Repr

inductive ValidationError
  | invalidSchemaVersion (version : Nat)
  | invalidName (field value : String)
  | duplicateConnectionId (id : ConnectionId)
  | duplicateVpnProfileId (id : VpnProfileId)
  | missingVpnProfile (id : VpnProfileId)
  | invalidRemoteReference (id : ConnectionId)
  | invalidRemoteSubpath (id : ConnectionId)
  | invalidLocalPath (connection : ConnectionId) (path : String)
  | unsafeSystemPath (connection : ConnectionId) (path : String)
  | conflictingTargets (first second : ConnectionId) (firstPath secondPath : String)
  | invalidCacheDirectory (connection : ConnectionId) (path : String)
  | invalidRecoveryDirectory (connection : ConnectionId) (path : String)
  | invalidSyncInterval (id : ConnectionId)
  | invalidVpnTimeout (id : VpnProfileId)
  | invalidReadinessValue (id : VpnProfileId)
  | invalidPreloadSeconds (seconds : Nat)
  | invalidPreloadDepth (depth : Nat)
  | invalidPreloadPolicy (name : String)
  | invalidSmbPreloadOverride (id : ConnectionId)
  | invalidSftpPreloadOverride (id : ConnectionId)
  | invalidSharePointIdentity (id : ConnectionId)
  | invalidOfflineEngine (id : ConnectionId)
  | invalidOneDriveIdentity (id : ConnectionId)
  | invalidWorkDirectory (connection : ConnectionId) (path : String)
  deriving DecidableEq, Repr

namespace Config

/-- `errors.push` under a condition. -/
def report (holds : Bool) (error : ValidationError) : List ValidationError :=
  if holds then [error] else []

def hasControlChar (value : String) : Bool := value.toList.any Str.isControl

def isUnsafeRemoteSubpath (value : String) (allowAbsolute : Bool) : Bool :=
  Str.trim value == "" || (!allowAbsolute && Path.isAbsolute value) ||
    (Path.components value).any fun component ↦
      component == .parentDir || (!allowAbsolute && component == .rootDir)

def validatePreloadPolicy (name : String) (policy : PreloadPolicy) (requiresDepth : Bool) :
    List ValidationError :=
  report (!(minPreloadSeconds ≤ policy.maximumSeconds && policy.maximumSeconds ≤ maxPreloadSeconds))
    (.invalidPreloadSeconds policy.maximumSeconds) ++
  match requiresDepth, policy.maximumDepth with
  | true, some depth => report (!(minPreloadDepth ≤ depth && depth ≤ maxPreloadDepth))
      (.invalidPreloadDepth depth)
  | true, none => [.invalidPreloadPolicy name]
  | false, some _ => [.invalidPreloadPolicy name]
  | false, none => []

def validateName (field value : String) : List ValidationError :=
  report (Str.trim value == "" || hasControlChar value) (.invalidName field value)

/-! ## VPN profiles -/

def readinessIsInvalid : ReadinessCheck → Bool
  | .networkManagerState => false
  | .interface value | .route value | .dnsName value | .endpoint value =>
      Str.trim value == "" || hasControlChar value

/-- One turn of the loop over the profiles; `seen` are the identifiers before it. -/
def validateVpn (seen : List VpnProfileId) (vpn : VpnProfile) : List ValidationError :=
  report (vpn.id ∈ seen) (.duplicateVpnProfileId vpn.id) ++
  validateName "vpn.name" vpn.name ++
  report (vpn.timeoutSeconds == 0) (.invalidVpnTimeout vpn.id) ++
  report (vpn.externalProfileId.any hasControlChar || vpn.readinessChecks.any readinessIsInvalid)
    (.invalidReadinessValue vpn.id)

def validateVpns : List VpnProfileId → List VpnProfile → List ValidationError
  | _, [] => []
  | seen, vpn :: rest => validateVpn seen vpn ++ validateVpns (vpn.id :: seen) rest

/-! ## Connections -/

def isRcloneOneDrive (connection : Connection) : Bool :=
  connection.provider == .onedrive && connection.offlineEngine == some .rclone

def oneDriveIdentityIsInvalid (connection : Connection) : Bool :=
  if isRcloneOneDrive connection then !connection.onedriveIdentity.any OneDriveIdentity.isValid
  else connection.onedriveIdentity.isSome

def isOnlineMount (connection : Connection) : Bool :=
  match connection.mode with
  | .onlineMount _ => true
  | .offlineMirror _ => false

/-- The library lies in its site, and a mirror of it can be bound. -/
def teamsIdentityIsValid (ext : Externals) (connection : Connection) : Bool :=
  connection.teamsIdentity.any (fun identity ↦ Str.trim identity.driveId != "" &&
    match ext.parseLibraryUrl identity.libraryUrl with
    | .ok parsed => parsed.siteUrl == identity.siteUrl
    | .error _ => false) &&
  (isOnlineMount connection || (SharePoint.MirrorGuardBinding.fromConnection ext connection).isOk)

def validateTeams (ext : Externals) (connection : Connection) : List ValidationError :=
  if connection.provider = .teams then
    report (!teamsIdentityIsValid ext connection) (.invalidSharePointIdentity connection.id)
  else report connection.teamsIdentity.isSome (.invalidSharePointIdentity connection.id)

/-- The check of a preload override, for the provider it belongs to. -/
def validatePreloadOverride (provider : Provider) (name : String)
    (error : ConnectionId → ValidationError) (connection : Connection) :
    Option ConnectionPreloadOverride → List ValidationError
  | none => []
  | some overrides =>
      report (connection.provider != provider || !isOnlineMount connection) (error connection.id) ++
      validatePreloadPolicy name
        ⟨overrides.enabled, overrides.maximumSeconds, some overrides.maximumDepth⟩ true

def validateSmbPreloadOverride (connection : Connection) : List ValidationError :=
  validatePreloadOverride .smb "smb_connection" .invalidSmbPreloadOverride connection
    connection.smbPreloadOverride

def validateSftpPreloadOverride (connection : Connection) : List ValidationError :=
  validatePreloadOverride .sftp "sftp_connection" .invalidSftpPreloadOverride connection
    connection.sftpPreloadOverride

/-- `vpn_profile_id.is_some_and(|id| !vpn_ids.contains(&id))`. -/
def validateVpnReference (vpnIds : List VpnProfileId) (connection : Connection) :
    List ValidationError :=
  match connection.vpnProfileId with
  | none => []
  | some id => report (id ∉ vpnIds) (.missingVpnProfile id)

/-- The checks of a connection before those of its directories. -/
def validateSettings (ext : Externals) (vpnIds : List VpnProfileId) (seen : List ConnectionId)
    (connection : Connection) : List ValidationError :=
  report (connection.id ∈ seen) (.duplicateConnectionId connection.id) ++
  validateName "connection.name" connection.name ++
  report (connection.offlineEngine == some .legacyOnedrive && connection.provider != .onedrive)
    (.invalidOfflineEngine connection.id) ++
  report (oneDriveIdentityIsInvalid connection) (.invalidOneDriveIdentity connection.id) ++
  report (Str.trim connection.remoteReference == "" || hasControlChar connection.remoteReference)
    (.invalidRemoteReference connection.id) ++
  report (connection.remoteSubpath.any fun path ↦ hasControlChar path ||
    isUnsafeRemoteSubpath path (connection.provider == .sftp))
    (.invalidRemoteSubpath connection.id) ++
  validateTeams ext connection ++
  validateSmbPreloadOverride connection ++
  validateSftpPreloadOverride connection ++
  validateVpnReference vpnIds connection

/-! ## Directories -/

/-- A directory of a connection, and whether it is the local path. -/
structure Target where
  id : ConnectionId
  path : String
  isLocal : Bool
  deriving DecidableEq, Repr

/-- A directory that must be apart from the local path and from the system. -/
def isApart (localPath directory : String) : Bool :=
  (normalizeAbsolute directory).any fun normalized ↦
    !pathsOverlap localPath normalized && !isUnsafeSystemPath normalized

def validateOnlineMount (id : ConnectionId) (localPath : String) (options : OnlineMountConfig) :
    List ValidationError :=
  match options.cacheDirectory with
  | none => []
  | some cache => report (!isApart localPath cache) (.invalidCacheDirectory id cache)

def validateOfflineMirror (id : ConnectionId) (localPath : String)
    (options : OfflineMirrorConfig) : List ValidationError :=
  report (!isApart localPath options.recoveryDirectory)
    (.invalidRecoveryDirectory id options.recoveryDirectory) ++
  report (options.syncIntervalMinutes == 0) (.invalidSyncInterval id)

def recoveryTargets (id : ConnectionId) (options : OfflineMirrorConfig) : List Target :=
  (normalizeAbsolute options.recoveryDirectory).toList.map fun recovery ↦ ⟨id, recovery, false⟩

/-- The errors in the directories of a connection, and the directories to be
compared with those of others: none when the local path is not absolute. -/
def validateDirectories (connection : Connection) : List ValidationError × List Target :=
  match normalizeAbsolute connection.localPath with
  | none => ([.invalidLocalPath connection.id connection.localPath], [])
  | some localPath =>
      let system := report (isUnsafeSystemPath localPath) (.unsafeSystemPath connection.id localPath)
      match connection.mode with
      | .onlineMount options =>
          (system ++ validateOnlineMount connection.id localPath options,
            [⟨connection.id, localPath, true⟩])
      | .offlineMirror options =>
          (system ++ validateOfflineMirror connection.id localPath options,
            recoveryTargets connection.id options ++ [⟨connection.id, localPath, true⟩])

/-- One turn of the loop over the connections. -/
def validateConnection (ext : Externals) (vpnIds : List VpnProfileId) (seen : List ConnectionId)
    (connection : Connection) : List ValidationError × List Target :=
  let (errors, targets) := validateDirectories connection
  (validateSettings ext vpnIds seen connection ++ errors, targets)

def validateConnections (ext : Externals) (vpnIds : List VpnProfileId) :
    List ConnectionId → List Connection → List ValidationError × List Target
  | _, [] => ([], [])
  | seen, connection :: rest =>
      let (errors, targets) := validateConnection ext vpnIds seen connection
      let (errors', targets') := validateConnections ext vpnIds (connection.id :: seen) rest
      (errors ++ errors', targets ++ targets')

/-- Local paths are always compared, the others only for an rclone OneDrive mirror. -/
def conflict (rcloneOneDriveIds : List ConnectionId) (first second : Target) :
    Option ValidationError :=
  let mustCheck := (first.isLocal && second.isLocal) || first.id ∈ rcloneOneDriveIds ||
    second.id ∈ rcloneOneDriveIds
  if first.id ≠ second.id ∧ mustCheck ∧ pathsOverlap first.path second.path then
    some (.conflictingTargets first.id second.id first.path second.path)
  else none

def conflicts (rcloneOneDriveIds : List ConnectionId) : List Target → List ValidationError
  | [] => []
  | first :: rest =>
      rest.filterMap (conflict rcloneOneDriveIds first) ++ conflicts rcloneOneDriveIds rest

def validatePreload (preload : PreloadSettings) : List ValidationError :=
  validatePreloadPolicy "google_drive" preload.googleDrive false ++
  validatePreloadPolicy "onedrive" preload.onedrive false ++
  validatePreloadPolicy "box" preload.boxProvider true ++
  validatePreloadPolicy "sharepoint" preload.sharepoint true ++
  validatePreloadPolicy "smb" preload.smb true ++
  validatePreloadPolicy "sftp" preload.sftp true

def rcloneOneDriveIds (document : ConfigDocument) : List ConnectionId :=
  (document.connections.filter isRcloneOneDrive).map (·.id)

/-- Everything `validate` finds. -/
def errors (ext : Externals) (config : Config) : List ValidationError :=
  let document := config.document
  let vpnIds := document.vpnProfiles.map (·.id)
  let (connectionErrors, targets) := validateConnections ext vpnIds [] document.connections
  report (document.schemaVersion != configSchemaVersion)
    (.invalidSchemaVersion document.schemaVersion) ++
  validatePreload document.preload ++ validateVpns [] document.vpnProfiles ++ connectionErrors ++
  conflicts (rcloneOneDriveIds document) targets

def resultOf (errors : List ValidationError) : Except (List ValidationError) Unit :=
  if errors.isEmpty then .ok () else .error errors

def validate (ext : Externals) (config : Config) : Except (List ValidationError) Unit :=
  resultOf (errors ext config)

/-! ## The work directory -/

/-- The recovery area that profiles of the retired engine have below the work root. -/
def isHistoricLegacyRecovery (workRoot : String) (connection : Connection)
    (options : OfflineMirrorConfig) : Bool :=
  connection.provider == .onedrive && connection.offlineEngine == some .legacyOnedrive &&
    (normalizeAbsolute (Path.join (Path.join workRoot "onedrive-recovery") connection.id.text)).any
      fun expected ↦ (normalizeAbsolute options.recoveryDirectory).any (Path.Same · expected)

/-- The directories that must be apart from the work root. -/
def directoriesBesideWork (workRoot : String) (connection : Connection) : List String :=
  connection.localPath :: match connection.mode with
    | .onlineMount options => options.cacheDirectory.toList
    | .offlineMirror options =>
        if isHistoricLegacyRecovery workRoot connection options then []
        else [options.recoveryDirectory]

def workRootIsInvalid (workRoot : String) (connection : Connection) : Bool :=
  match normalizeAbsolute workRoot with
  | none => true
  | some work => (directoriesBesideWork workRoot connection).any fun path ↦
      (normalizeAbsolute path).any fun path ↦ pathsOverlap work path

def workErrors (workRoot : String) (config : Config) : List ValidationError :=
  config.document.connections.flatMap fun connection ↦
    report (workRootIsInvalid workRoot connection) (.invalidWorkDirectory connection.id workRoot)

def validateWithWorkRoot (ext : Externals) (config : Config) (workRoot : String) :
    Except (List ValidationError) Unit :=
  resultOf (errors ext config ++ workErrors workRoot config)

end Config
end CosmicMounter
